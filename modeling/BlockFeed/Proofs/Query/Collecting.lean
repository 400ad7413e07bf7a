import BlockFeed.Proofs.Json.Delimiting
import BlockFeed.Proofs.Query

/-!
# Members that are collected in any order

The members of a selection are collected before they are understood, and each of them is put
where its key belongs. As no key is written twice, their order makes no difference: whatever
has been collected tells exactly which members have been met. So a selection is found again
among its members, and different queries have different members.
-/

namespace BlockFeed

open Json

attribute [ext] Selection Query

/-- No two datasets have one tag. -/
theorem Dataset.name_injective : Function.Injective Dataset.name := by
  intro dataset other same
  have found := Dataset.ofName?_name dataset
  rw [same, Dataset.ofName?_name] at found
  exact (Option.some.inj found).symm

namespace Selection

variable {selection : Selection} {dataset : Dataset} {known written : Members}
  {draft : Draft} {tagged : Tagged} {name key : String} {value : Value}

/-! ## Members without a tag -/

namespace Draft

/-- A draft tells which members of a selection have been met. -/
structure Tells (dataset : Dataset) (known : Members) (draft : Draft) : Prop where
  fields : known.Finds "fields" id draft.fields
  includeAllBlocks : known.Finds "includeAllBlocks" .bool draft.includeAllBlocks
  filters : ∀ name ∈ dataset.filters, known.Finds name .array (draft.filter? name)

theorem tells_nil (dataset : Dataset) : Tells dataset [] {} :=
  ⟨.nothing _ _, .nothing _ _, fun _ _ => .nothing _ _⟩

theorem Tells.perm (tells : draft.Tells dataset known) (perm : known.Perm written) :
    draft.Tells dataset written :=
  ⟨tells.fields.perm perm, tells.includeAllBlocks.perm perm,
    fun name isFilter => (tells.filters name isFilter).perm perm⟩

theorem filter?_withFilter_self (draft : Draft) (name : String) (list : List Value) :
    (draft.withFilter name list).filter? name = some list :=
  List.lookup_cons_self

theorem filter?_withFilter_of_ne (draft : Draft) (list : List Value) {other : String}
    (different : other ≠ name) :
    (draft.withFilter name list).filter? other = draft.filter? other := by
  have notSame : (other == name) = false := beq_eq_false_iff_ne.mpr different
  rw [filter?, withFilter, List.lookup_cons, notSame]
  rfl

/-- What has not been met is not held. -/
theorem Tells.holds_eq_false
    (tells : draft.Tells dataset known)
    (isKey : key ∈ keys dataset)
    (fresh : key ∉ known.keys) :
    draft.holds key = false := by
  unfold holds
  split
  · next isFields =>
      obtain rfl := beq_iff_eq.mp isFields
      exact tells.fields.isSome_eq_false fresh
  · split
    · next isInclusion =>
        obtain rfl := beq_iff_eq.mp isInclusion
        exact tells.includeAllBlocks.isSome_eq_false fresh
    · next noFields noInclusion =>
        simp only [keys, List.mem_cons] at isKey
        have isFilter := (isKey.resolve_left (by simpa using noFields)).resolve_left
          (by simpa using noInclusion)
        exact (tells.filters key isFilter).isSome_eq_false fresh

end Draft

/-- A member that has not been met yet is understood. -/
theorem understand_member
    {held : String × Value}
    (written : held ∈ selection.members)
    (fresh : held.1 ∉ known.keys)
    (tells : draft.Tells selection.dataset known) :
    ∃ next, understand selection.dataset draft held = .ok next ∧
      next.Tells selection.dataset (held :: known) := by
  have isKey := selection.keys_members_sublist.subset (List.mem_map_of_mem written)
  have notHeld := tells.holds_eq_false isKey fresh
  have noFields := fun name (isFilter : name ∈ selection.dataset.filters) =>
    (ne_of_mem_filters isFilter).1
  have noInclusion := fun name (isFilter : name ∈ selection.dataset.filters) =>
    (ne_of_mem_filters isFilter).2
  rcases mem_members_iff.mp written with ⟨_, rfl⟩ | ⟨_, rfl⟩ | ⟨⟨name, list⟩, mem, _, rfl⟩
  · refine ⟨{ draft with fields := some selection.fields }, ?_, ?_⟩
    · simp [understand, notHeld, pure, Except.pure]
    · exact ⟨.cons_of_fresh fresh Function.injective_id _,
        tells.includeAllBlocks.cons_of_ne (by decide) _,
        fun name isFilter => (tells.filters name isFilter).cons_of_ne (noFields name isFilter) _⟩
  · refine ⟨{ draft with includeAllBlocks := some true }, ?_, ?_⟩
    · simp [understand, notHeld, boolOf]
    · exact ⟨tells.fields.cons_of_ne (by decide) _,
        .cons_of_fresh fresh (fun _ _ => Value.bool.inj) true, fun name isFilter =>
          (tells.filters name isFilter).cons_of_ne (noInclusion name isFilter) _⟩
  · have isFilter := (List.of_mem_zip mem).1
    refine ⟨draft.withFilter name list, ?_, ?_⟩
    · simp [understand, notHeld, listOf, isFilter, noFields name isFilter,
        noInclusion name isFilter]
    · refine ⟨tells.fields.cons_of_ne (noFields name isFilter).symm _,
        tells.includeAllBlocks.cons_of_ne (noInclusion name isFilter).symm _,
        fun other isOther => ?_⟩
      by_cases same : other = name
      · subst same
        rw [Draft.filter?_withFilter_self]
        exact .cons_of_fresh fresh (fun _ _ => Value.array.inj) list
      · rw [Draft.filter?_withFilter_of_ne draft list same]
        exact (tells.filters other isOther).cons_of_ne same _

/-- A draft that tells all members of a selection describes it. -/
theorem finish_of_tells (tells : draft.Tells selection.dataset selection.members) :
    draft.finish selection.dataset = selection := by
  apply Selection.ext
  case dataset => rfl
  case fields => exact tells.fields.getD_eq fun _ => mem_fields_iff
  case includeAllBlocks => exact tells.includeAllBlocks.getD_eq fun _ => mem_includeAllBlocks_iff
  case filters =>
    have width : (draft.finish selection.dataset).filters.length = selection.filters.length :=
      (draft.finish selection.dataset).width.trans selection.width.symm
    apply List.ext_getElem width
    intro index _ isList
    have isFilter : index < selection.dataset.filters.length := selection.width ▸ isList
    have finds := tells.filters _ (List.getElem_mem isFilter)
    simp only [Draft.finish, List.getElem_map]
    exact finds.getD_eq fun _ => mem_filter_iff isFilter isList

/-- A selection is understood from its members in any order. -/
theorem ofMembers_of_perm (perm : written.Perm selection.members) :
    ofMembers selection.dataset written = .ok selection := by
  obtain ⟨final, folded, known, perm, tells⟩ := Members.exists_folded
    (fun held mem known draft fresh tells => understand_member mem fresh tells)
    selection.nodup_keys_members perm (Draft.tells_nil selection.dataset)
  rw [ofMembers, folded]
  exact congrArg Except.ok (finish_of_tells (tells.perm perm))

/-! ## Members with a tag among them -/

/-- The members beside a tag. -/
def besideTag (members : Members) : Members := members.filter fun member => member.1 != "type"

namespace Tagged

/-- What has been collected tells which members have been met. -/
structure Tells (known : Members) (tagged : Tagged) : Prop where
  tag : known.Finds "type" (fun dataset : Dataset => .string dataset.name) tagged.tag
  others : tagged.others = besideTag known

theorem tells_nil : Tells [] {} := ⟨.nothing _ _, rfl⟩

end Tagged

/-- A member that has not been met yet is collected. -/
theorem collect_member
    {held : String × Value}
    (written : held ∈ selection.taggedMembers)
    (fresh : held.1 ∉ known.keys)
    (tells : tagged.Tells known) :
    ∃ next, tagged.collect held = .ok next ∧ next.Tells (held :: known) := by
  rcases List.mem_cons.mp written with rfl | written
  · have notTagged := tells.tag.isSome_eq_false fresh
    refine ⟨{ tagged with tag := some selection.dataset }, ?_, ?_⟩
    · simp [Tagged.collect, notTagged, tagOf, datasetOf]
    · exact ⟨.cons_of_fresh fresh (fun _ _ same => Dataset.name_injective (Value.string.inj same))
        selection.dataset, tells.others⟩
  · have noTag := key_ne_type written
    refine ⟨{ tagged with others := held :: tagged.others }, ?_, ?_⟩
    · simp [Tagged.collect, noTag, pure, Except.pure]
    · refine ⟨tells.tag.cons_of_ne noTag.symm held.2, ?_⟩
      simp [besideTag, noTag, tells.others]

theorem besideTag_taggedMembers (selection : Selection) :
    besideTag selection.taggedMembers = selection.members :=
  List.filter_eq_self.mpr fun _ mem => bne_iff_ne.mpr (key_ne_type mem)

/-- Who tells all members of a selection has found it. -/
theorem finish_of_tagged_tells
    (tells : tagged.Tells known)
    (perm : known.Perm selection.taggedMembers) :
    tagged.finish = .ok selection := by
  have isTag : tagged.tag = some selection.dataset :=
    (tells.tag selection.dataset).mpr (perm.mem_iff.mpr (List.mem_cons_self ..))
  have others : tagged.others.reverse.Perm selection.members := by
    rw [tells.others, ← selection.besideTag_taggedMembers]
    exact (List.reverse_perm _).trans (perm.filter _)
  rw [Tagged.finish, isTag]
  exact ofMembers_of_perm others

/-- A selection is found among its members in any order. -/
theorem ofTaggedMembers_of_perm (perm : written.Perm selection.taggedMembers) :
    ofTaggedMembers written = .ok selection := by
  obtain ⟨final, folded, known, perm, tells⟩ := Members.exists_folded
    (fun held mem known tagged fresh tells => collect_member mem fresh tells)
    selection.nodup_keys_taggedMembers perm Tagged.tells_nil
  rw [ofTaggedMembers, folded]
  exact finish_of_tagged_tells tells perm

/-- Different selections have different members. -/
theorem eq_of_perm {other : Selection} (perm : selection.taggedMembers.Perm other.taggedMembers) :
    selection = other := by
  have found := ofTaggedMembers_of_perm (List.Perm.refl selection.taggedMembers)
  rw [ofTaggedMembers_of_perm perm] at found
  exact (Except.ok.inj found).symm

end Selection

namespace Query

variable {query : Query}

/-- The members beside the ends of a range. -/
def besideBounds (members : Members) : Members :=
  members.filter fun member => member.1 != "fromBlock" && member.1 != "toBlock"

theorem besideBounds_members (query : Query) :
    besideBounds query.members = query.selection.taggedMembers := by
  have noBound : ∀ key bound, key = "fromBlock" ∨ key = "toBlock" ->
      besideBounds (boundMember key bound) = [] := by
    intro key bound isBound
    refine List.filter_eq_nil_iff.mpr fun member mem => ?_
    obtain ⟨number, _, rfl⟩ := mem_boundMember_iff.mp mem
    rcases isBound with rfl | rfl <;> simp
  have others : besideBounds query.selection.taggedMembers = query.selection.taggedMembers := by
    refine List.filter_eq_self.mpr fun member mem => ?_
    obtain ⟨noFrom, noTo⟩ := Selection.key_ne_bounds mem
    simp [noFrom, noTo]
  calc besideBounds query.members
      = besideBounds (boundMember "fromBlock" query.fromBlock) ++
          besideBounds (boundMember "toBlock" query.toBlock) ++
          besideBounds query.selection.taggedMembers := by
        rw [members, besideBounds, List.filter_append, List.filter_append]
        rfl
    _ = query.selection.taggedMembers := by
        rw [noBound _ _ (.inl rfl), noBound _ _ (.inr rfl), others]
        rfl

theorem mem_fromBlock_iff {value : Value} :
    ("fromBlock", value) ∈ query.members ↔
      ∃ number, query.fromBlock = some number ∧ value = .number (.natural number) := by
  have noTag : ("fromBlock", value) ∉ query.selection.taggedMembers := fun mem =>
    (Selection.key_ne_bounds mem).1 rfl
  simp [members, noTag, mem_boundMember_iff]

theorem mem_toBlock_iff {value : Value} :
    ("toBlock", value) ∈ query.members ↔
      ∃ number, query.toBlock = some number ∧ value = .number (.natural number) := by
  have noTag : ("toBlock", value) ∉ query.selection.taggedMembers := fun mem =>
    (Selection.key_ne_bounds mem).2 rfl
  simp [members, noTag, mem_boundMember_iff]

/-- Different queries have different members. -/
theorem eq_of_perm {other : Query} (perm : query.members.Perm other.members) : query = other := by
  have first : query.fromBlock = other.fromBlock := by
    ext number
    have same := perm.mem_iff (a := ("fromBlock", .number (.natural number)))
    rw [mem_fromBlock_iff, mem_fromBlock_iff] at same
    simpa using same
  have last : query.toBlock = other.toBlock := by
    ext number
    have same := perm.mem_iff (a := ("toBlock", .number (.natural number)))
    rw [mem_toBlock_iff, mem_toBlock_iff] at same
    simpa using same
  have tagged := perm.filter fun member => member.1 != "fromBlock" && member.1 != "toBlock"
  have selections : query.selection = other.selection := by
    apply Selection.eq_of_perm
    rw [← besideBounds_members, ← besideBounds_members]
    exact tagged
  exact Query.ext first last selections

end Query
end BlockFeed
