import BlockFeed.Query.Document
import BlockFeed.Proofs.Json.Members

/-!
# The form in which queries are posted

A query is written with a member for each end of its range that is set, the tag of its dataset
and what its selection asks for. No key is repeated, so that the members may be put in any
order. They are posted sorted by key. A query that is made to begin at another block is
therefore posted as before, but for the one member that says where it begins.
-/

namespace BlockFeed

open Json

namespace Selection

variable {selection : Selection} {name : String} {value : Value} {list : List Value}

/-- No two fields of a query go by one name, whatever its dataset is. -/
theorem nodup_keys (dataset : Dataset) :
    ("fromBlock" :: "toBlock" :: "type" :: keys dataset).Nodup := by
  cases dataset <;> decide

theorem nodup_filters (dataset : Dataset) : dataset.filters.Nodup :=
  (nodup_keys dataset).sublist (List.sublist_append_right
    ["fromBlock", "toBlock", "type", "fields", "includeAllBlocks"] _)

theorem ne_of_mem_filters {dataset : Dataset} (isFilter : name ∈ dataset.filters) :
    name ≠ "fields" ∧ name ≠ "includeAllBlocks" := by
  have fresh := nodup_keys dataset
  simp only [keys, List.nodup_cons, List.mem_cons, not_or] at fresh
  exact ⟨fun same => fresh.2.2.2.1.2 (same ▸ isFilter),
    fun same => fresh.2.2.2.2.1 (same ▸ isFilter)⟩

/-- The members of a selection are written in the order of its fields. -/
theorem keys_members_sublist (selection : Selection) :
    (Members.keys selection.members).Sublist (keys selection.dataset) := by
  have parts : keys selection.dataset =
      ["fields"] ++ ["includeAllBlocks"] ++ selection.dataset.filters := rfl
  rw [parts, members, Members.keys, List.map_append, List.map_append]
  refine (List.Sublist.append ?ofFields ?ofInclusion).append ?ofFilters
  case ofFields =>
    split
    · exact List.nil_sublist _
    · exact .refl _
  case ofInclusion =>
    split
    · exact .refl _
    · exact List.nil_sublist _
  case ofFilters =>
    rw [List.map_map]
    refine (List.filter_sublist.map Prod.fst).trans ?_
    rw [List.map_fst_zip selection.width.ge]

/-- What a selection asks for is written, and nothing else. -/
theorem mem_members_iff {member : String × Value} :
    member ∈ selection.members ↔
      selection.fields ≠ .null ∧ member = ("fields", selection.fields) ∨
      selection.includeAllBlocks = true ∧ member = ("includeAllBlocks", .bool true) ∨
      ∃ filter ∈ selection.dataset.filters.zip selection.filters, filter.2 ≠ [] ∧
        member = (filter.1, .array filter.2) := by
  rw [members, List.mem_append, List.mem_append, or_assoc]
  refine or_congr ?ofFields (or_congr ?ofInclusion ?ofFilters)
  case ofFields =>
    split
    · next isNull => simp [isNull]
    · next notNull => exact List.mem_singleton.trans (and_iff_right notNull).symm
  case ofInclusion =>
    split
    · next included => simp [included]
    · next excluded => simp [excluded]
  case ofFilters =>
    simp only [List.mem_map, List.mem_filter, Bool.not_eq_true', List.isEmpty_eq_false_iff,
      and_assoc, eq_comm (b := member)]

theorem mem_fields_iff :
    ("fields", value) ∈ selection.members ↔
      selection.fields ≠ .null ∧ value = selection.fields := by
  rw [mem_members_iff]
  constructor
  · rintro (⟨notNull, same⟩ | ⟨_, same⟩ | ⟨filter, mem, _, same⟩)
    · exact ⟨notNull, congrArg Prod.snd same⟩
    · simp at same
    · exact absurd (congrArg Prod.fst same).symm (ne_of_mem_filters (List.of_mem_zip mem).1).1
  · rintro ⟨notNull, rfl⟩
    exact .inl ⟨notNull, rfl⟩

theorem mem_includeAllBlocks_iff {included : Bool} :
    ("includeAllBlocks", .bool included) ∈ selection.members ↔
      selection.includeAllBlocks ≠ false ∧ included = selection.includeAllBlocks := by
  rw [mem_members_iff, Bool.ne_false_iff]
  constructor
  · rintro (⟨_, same⟩ | ⟨isIncluded, same⟩ | ⟨filter, mem, _, same⟩)
    · simp at same
    · simp only [Prod.mk.injEq, Value.bool.injEq, true_and] at same
      exact ⟨isIncluded, same.trans isIncluded.symm⟩
    · exact absurd (congrArg Prod.fst same).symm (ne_of_mem_filters (List.of_mem_zip mem).1).2
  · rintro ⟨isIncluded, rfl⟩
    exact .inr (.inl ⟨isIncluded, by rw [isIncluded]⟩)

theorem mem_filter_iff {index : Nat} (isFilter : index < selection.dataset.filters.length)
    (isList : index < selection.filters.length) :
    (selection.dataset.filters[index], .array list) ∈ selection.members ↔
      selection.filters[index] ≠ [] ∧ list = selection.filters[index] := by
  have names := ne_of_mem_filters (List.getElem_mem isFilter)
  have isPair : index < (selection.dataset.filters.zip selection.filters).length := by
    rw [List.length_zip]
    exact Nat.lt_min.mpr ⟨isFilter, isList⟩
  rw [mem_members_iff]
  constructor
  · rintro (⟨_, same⟩ | ⟨_, same⟩ | ⟨filter, mem, notEmpty, same⟩)
    · exact absurd (congrArg Prod.fst same) names.1
    · exact absurd (congrArg Prod.fst same) names.2
    · -- No two filters go by one name, so this is the pair with the index.
      obtain ⟨other, isOther, rfl⟩ := List.mem_iff_getElem.mp mem
      simp only [List.getElem_zip, Prod.mk.injEq, Value.array.injEq] at same notEmpty
      obtain rfl := (nodup_filters _).getElem_inj_iff.mp same.1
      exact ⟨notEmpty, same.2⟩
  · rintro ⟨notEmpty, rfl⟩
    refine .inr (.inr ⟨_, List.getElem_mem isPair, ?_⟩)
    rw [List.getElem_zip]
    exact ⟨notEmpty, rfl⟩

theorem key_ne_type {member : String × Value} (mem : member ∈ selection.members) :
    member.1 ≠ "type" := by
  have fresh := (List.nodup_cons.mp (nodup_keys selection.dataset).of_cons.of_cons).1
  intro same
  exact fresh (selection.keys_members_sublist.subset (same ▸ List.mem_map_of_mem mem))

/-- The tag of a selection is written in front of what it asks for. -/
theorem keys_taggedMembers_sublist (selection : Selection) :
    (Members.keys selection.taggedMembers).Sublist ("type" :: keys selection.dataset) :=
  selection.keys_members_sublist.cons_cons _

theorem nodup_keys_taggedMembers (selection : Selection) :
    (Members.keys selection.taggedMembers).Nodup :=
  (nodup_keys selection.dataset).of_cons.of_cons.sublist selection.keys_taggedMembers_sublist

theorem nodup_keys_members (selection : Selection) : (Members.keys selection.members).Nodup :=
  selection.nodup_keys_taggedMembers.of_cons

/-- A selection is not written under the name of an end of a range. -/
theorem key_ne_bounds {member : String × Value} (mem : member ∈ selection.taggedMembers) :
    member.1 ≠ "fromBlock" ∧ member.1 ≠ "toBlock" := by
  have isKey := selection.keys_taggedMembers_sublist.subset (List.mem_map_of_mem mem)
  obtain ⟨noFrom, distinct⟩ := List.nodup_cons.mp (nodup_keys selection.dataset)
  obtain ⟨noTo, _⟩ := List.nodup_cons.mp distinct
  constructor
  · exact fun same => noFrom (List.mem_cons_of_mem _ (same ▸ isKey))
  · exact fun same => noTo (same ▸ isKey)

end Selection

namespace Query

theorem mem_boundMember_iff {key : String} {bound : Option UInt64} {member : String × Value} :
    member ∈ boundMember key bound ↔
      ∃ number, bound = some number ∧ member = (key, .number (.natural number)) := by
  simp [boundMember, eq_comm (b := member)]

theorem keys_boundMember_sublist (key : String) (bound : Option UInt64) :
    (Members.keys (boundMember key bound)).Sublist [key] := by
  cases bound with
  | none => exact List.nil_sublist _
  | some number => exact .refl _

/-- The members of a query are written in the order of its fields. -/
theorem keys_members_sublist (query : Query) :
    (Members.keys query.members).Sublist
      ("fromBlock" :: "toBlock" :: "type" :: Selection.keys query.selection.dataset) := by
  rw [members, Members.keys, List.map_append, List.map_append]
  exact ((keys_boundMember_sublist "fromBlock" _).append
    (keys_boundMember_sublist "toBlock" _)).append query.selection.keys_taggedMembers_sublist

/-- No key is written twice. -/
theorem nodup_keys_members (query : Query) : (Members.keys query.members).Nodup :=
  (Selection.nodup_keys _).sublist query.keys_members_sublist

/-- What is set of a query is written, and nothing else. -/
theorem mem_members_iff {query : Query} {member : String × Value} :
    member ∈ query.members ↔
      (∃ number, query.fromBlock = some number ∧
        member = ("fromBlock", .number (.natural number))) ∨
      (∃ number, query.toBlock = some number ∧
        member = ("toBlock", .number (.natural number))) ∨
      member = ("type", .string query.selection.dataset.name) ∨
      member ∈ query.selection.members := by
  rw [members, List.mem_append, List.mem_append, mem_boundMember_iff, mem_boundMember_iff,
    or_assoc, Selection.taggedMembers, List.mem_cons]

/-- No member but one says where a query begins. -/
theorem key_ne_fromBlock
    (query : Query)
    (member : String × Value)
    (mem : member ∈ boundMember "toBlock" query.toBlock ++ query.selection.taggedMembers) :
    member.1 ≠ "fromBlock" := by
  rcases List.mem_append.mp mem with isEnd | isTagged
  · obtain ⟨number, _, rfl⟩ := mem_boundMember_iff.mp isEnd
    exact (by decide : "toBlock" ≠ "fromBlock")
  · exact (Selection.key_ne_bounds isTagged).1

/-- A query that is made to begin at a block is posted as before, with the member
that says where it begins put in the place of the former one. -/
theorem wire_startingAt
    {query : Query} {members : Members}
    (wire : query.wire = .object members)
    (number : UInt64) :
    (query.startingAt number).wire =
      .object (members.insert "fromBlock" (.number (.natural number))) := by
  have fresh := query.key_ne_fromBlock
  have placed : (query.startingAt number).wire =
      .object (Members.insert "fromBlock" (.number (.natural number))
        (Members.sorted
          (boundMember "toBlock" query.toBlock ++ query.selection.taggedMembers))) :=
    congrArg Value.object (Members.sorted_cons fresh)
  rw [placed]
  cases first : query.fromBlock with
  | none =>
      have same : query.wire = .object (Members.sorted
          (boundMember "toBlock" query.toBlock ++ query.selection.taggedMembers)) := by
        simp [Query.wire, Query.members, first, boundMember]
      rw [same] at wire
      rw [Value.object.inj wire]
  | some before =>
      have same : query.wire = .object (Members.insert "fromBlock" (.number (.natural before))
          (Members.sorted
            (boundMember "toBlock" query.toBlock ++ query.selection.taggedMembers))) := by
        rw [← Members.sorted_cons fresh]
        simp [Query.wire, Query.members, first, boundMember]
      rw [same] at wire
      rw [← Value.object.inj wire, Members.insert_insert]

end Query
end BlockFeed
