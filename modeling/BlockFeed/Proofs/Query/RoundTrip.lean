import BlockFeed.Proofs.Json.RoundTrip
import BlockFeed.Proofs.Query.Collecting

/-!
# Queries that are read back

A query is read back from its text, with its members in the order of its fields or sorted by
key. Its reader takes the ends of the range out and collects the other members, which tell the
selection in any order.
-/

namespace BlockFeed

open Json

namespace Json.Reader

/-- Anything but a null is read as a number. -/
theorem natural?_branches : ∃ next : Option UInt8 -> Reader (Option UInt64),
    natural? = (skipLayout >>= fun _ => peek >>= next) ∧
    (∀ result, next none [] ≠ .ok result) ∧
    (next (some 0x6e)).SelfDelimitingAt 0x6e ∧
    ∀ octet, octet ≠ 0x6e -> next (some octet) = natural >>= fun value => pure (some value) := by
  refine ⟨_, rfl, fun _ => ?_, ?_, fun octet notNull => ?_⟩
  · intro atEnd
    cases atEnd
  · exact .dropBind _ ((selfDelimiting_word _).bind fun _ => selfDelimiting_pure _)
  · split
    · next isNull => exact absurd (Option.some.inj isNull) notNull
    · rfl

/-- A number of 64 bits is read back where one may be missing. -/
theorem natural?_octets (value : UInt64) :
    natural? (Value.number (.natural value)).octets = .ok (some value, []) := by
  have read := natural_octets value
  have isNumber : number (Value.number (.natural value)).octets = .ok (.natural value, []) := by
    rw [Value.octets, Value.render]
    exact number_render (.natural value)
  obtain ⟨octet, rest, same, begins⟩ := beginsNumber_of_number isNumber
  obtain ⟨next, branches, _, _, isNatural⟩ := natural?_branches
  have notNull : octet ≠ 0x6e := by
    rintro rfl
    cases begins
  rw [same] at read ⊢
  rw [branches]
  refine bind_eq_ok.mpr ⟨(), _, skipLayout_number begins rest,
    bind_eq_ok.mpr ⟨some octet, _, rfl, ?_⟩⟩
  rw [isNatural octet notNull]
  exact bind_eq_ok.mpr ⟨value, _, read, rfl⟩

theorem stops_natural? : natural?.Stops := by
  obtain ⟨next, branches, atEnd, atNull, isNatural⟩ := natural?_branches
  rw [branches]
  refine stops_layout atEnd fun octet => ?_
  by_cases isNull : octet = 0x6e
  · subst isNull
    exact .inl atNull
  · rw [isNatural octet isNull]
    exact .inr (stops_natural.bind fun _ => (selfDelimiting_pure _).stops)

end Json.Reader

namespace Selection

variable {selection : Selection} {known : Members} {tagged : Tagged}

/-- Whatever a selection carries along is read back where it stands. -/
structure ReadsBack (selection : Selection) : Prop where
  fields : selection.fields.ReadsBack (nestingLimit - 1)
  filters : ∀ list ∈ selection.filters, ∀ element ∈ list, element.ReadsBack (nestingLimit - 2)

theorem ReadsBack.members (readsBack : selection.ReadsBack) {member : String × Value}
    (mem : member ∈ selection.taggedMembers) :
    member.2.ReadsBack (nestingLimit - 1) := by
  rcases List.mem_cons.mp mem with rfl | mem
  · exact Value.readsBack_string _ _
  · rcases mem_members_iff.mp mem with ⟨_, rfl⟩ | ⟨_, rfl⟩ | ⟨filter, isFilter, _, rfl⟩
    · exact readsBack.fields
    · exact (Value.Fits.bool _ true).readsBack
    · exact Value.readsBack_array (readsBack.filters _ (List.of_mem_zip isFilter).2)

theorem selfDelimiting_readTag : readTag.SelfDelimiting :=
  (Reader.selfDelimiting_string _).bind fun _ => Reader.selfDelimiting_lift _

theorem stops_readTaggedMember (levels : Nat) (tagged : Tagged) (key : String) :
    (readTaggedMember levels tagged key).Stops := by
  unfold readTaggedMember
  split
  · exact Reader.stops_unless _ _ (Reader.stops_behindColon selfDelimiting_readTag.stops _)
  · exact Reader.stops_behindColon (Reader.stops_value levels) _

/-- A member that is collected is read as it is collected. -/
theorem readTaggedMember_of_collect
    {levels : Nat} {held : String × Value} {next : Tagged}
    (readsBack : held.2.ReadsBack levels)
    (isText : held.1 = "type" -> ∃ tag, held.2 = .string tag)
    (collected : tagged.collect held = .ok next) :
    readTaggedMember levels tagged held.1 (0x3a :: held.2.octets) = .ok (next, []) := by
  obtain ⟨key, value⟩ := held
  unfold readTaggedMember
  unfold Tagged.collect at collected
  by_cases isTag : key = "type"
  · obtain ⟨tag, rfl⟩ := isText isTag
    rw [if_pos (by simpa using isTag)] at collected ⊢
    cases taken : tagged.tag.isSome with
    | true =>
        rw [taken] at collected
        cases collected
    | false =>
        rw [taken] at collected
        obtain ⟨dataset, isDataset, collected⟩ := Reader.except_bind_eq_ok.mp collected
        cases collected
        have isRead : readTag (Value.string tag).octets = .ok (dataset, []) :=
          Reader.bind_eq_ok.mpr ⟨tag, _, Reader.string_octets _ tag,
            Reader.lift_eq_ok.mpr ⟨dataset, isDataset, rfl⟩⟩
        exact Reader.read_behindColon isRead _
  · rw [if_neg (by simpa using isTag)] at collected ⊢
    cases collected
    exact Reader.read_behindColon readsBack _

/-- A member that has not been met yet is read. -/
theorem readTaggedMember_octets
    {held : String × Value}
    (readsBack : selection.ReadsBack)
    (written : held ∈ selection.taggedMembers)
    (fresh : held.1 ∉ known.keys)
    (tells : tagged.Tells known) :
    ∃ next, readTaggedMember (nestingLimit - 1) tagged held.1 (0x3a :: held.2.octets) =
      .ok (next, []) ∧ next.Tells (held :: known) := by
  obtain ⟨next, collected, tellsHeld⟩ := collect_member written fresh tells
  have isText : held.1 = "type" -> ∃ tag, held.2 = .string tag := by
    intro isTag
    rcases List.mem_cons.mp written with rfl | isMember
    · exact ⟨_, rfl⟩
    · exact absurd isTag (key_ne_type isMember)
  exact ⟨next, readTaggedMember_of_collect (readsBack.members written) isText collected, tellsHeld⟩

/-- A selection is read back with its members in any order. -/
theorem reader_octets
    {written : Members}
    (perm : written.Perm selection.taggedMembers)
    (readsBack : selection.ReadsBack) :
    reader nestingLimit (Value.object written).octets = .ok (selection, []) := by
  obtain ⟨final, absorbs, known, perm, tells⟩ := Reader.exists_absorbed
    (fun held mem known tagged fresh tells => readTaggedMember_octets readsBack mem fresh tells)
    selection.nodup_keys_taggedMembers perm Tagged.tells_nil
  have isObject := absorbs.object (stops_readTaggedMember _) (nestingLimit - 2) expected
  have isSelection := finish_of_tagged_tells tells perm
  rw [Reader.octets_object] at isObject ⊢
  exact Reader.bind_eq_ok.mpr ⟨(), _, rfl, Reader.bind_eq_ok.mpr ⟨some 0x7b, _, rfl,
    Reader.bind_eq_ok.mpr ⟨final, _, isObject,
      Reader.lift_eq_ok.mpr ⟨selection, isSelection, rfl⟩⟩⟩⟩

theorem read_octets
    {written : Members}
    (perm : written.Perm selection.taggedMembers)
    (readsBack : selection.ReadsBack) :
    read (Value.object written).octets = .ok selection :=
  document_eq_ok.mpr ⟨[], reader_octets perm readsBack, rfl⟩

end Selection

namespace Query

variable {query : Query} {known : Members} {draft : Draft}

/-- How an end of a range is written where it may be missing. -/
def boundValue : Option UInt64 -> Value
  | none => .null
  | some number => .number (.natural number)

theorem boundValue_injective : Function.Injective boundValue := by
  intro bound other same
  cases bound <;> cases other <;> simp_all [boundValue]

theorem boundValue_iff {bound value : Option UInt64} :
    (∃ number, bound = some number ∧ boundValue value = .number (.natural number)) ↔
      bound ≠ none ∧ value = bound := by
  cases bound <;> cases value <;> simp [boundValue, eq_comm]

/-- What has been read of a query tells which members have been met. -/
structure Draft.Tells (known : Members) (draft : Draft) : Prop where
  fromBlock : known.Finds "fromBlock" boundValue draft.fromBlock
  toBlock : known.Finds "toBlock" boundValue draft.toBlock
  others : draft.others = besideBounds known

theorem Draft.tells_nil : Tells [] {} := ⟨.nothing _ _, .nothing _ _, rfl⟩

theorem stops_readMember (levels : Nat) (draft : Draft) (key : String) :
    (readMember levels draft key).Stops := by
  unfold readMember
  split
  · exact Reader.stops_unless _ _ (Reader.stops_behindColon Reader.stops_natural? _)
  · split
    · exact Reader.stops_unless _ _ (Reader.stops_behindColon Reader.stops_natural? _)
    · exact Reader.stops_behindColon (Reader.stops_value levels) _

/-- A member that has not been met yet is read. -/
theorem readMember_octets
    {held : String × Value}
    (readsBack : query.selection.ReadsBack)
    (written : held ∈ query.members)
    (fresh : held.1 ∉ known.keys)
    (tells : draft.Tells known) :
    ∃ next, readMember (nestingLimit - 1) draft held.1 (0x3a :: held.2.octets) = .ok (next, []) ∧
      next.Tells (held :: known) := by
  rw [members, List.mem_append, List.mem_append, mem_boundMember_iff, mem_boundMember_iff,
    or_assoc] at written
  rcases written with ⟨number, _, rfl⟩ | ⟨number, _, rfl⟩ | isTagged
  · have notRead := tells.fromBlock.isSome_eq_false fresh
    refine ⟨{ draft with fromBlock := some (some number) }, ?_, ?_⟩
    · rw [readMember, if_pos (beq_self_eq_true _), notRead]
      exact Reader.read_behindColon (Reader.natural?_octets number) _
    · exact ⟨.cons_of_fresh fresh boundValue_injective (some number),
        tells.toBlock.cons_of_ne (by decide) _, tells.others⟩
  · have notRead := tells.toBlock.isSome_eq_false fresh
    refine ⟨{ draft with toBlock := some (some number) }, ?_, ?_⟩
    · rw [readMember, if_neg (by simp), if_pos (beq_self_eq_true _), notRead]
      exact Reader.read_behindColon (Reader.natural?_octets number) _
    · exact ⟨tells.fromBlock.cons_of_ne (by decide) _,
        .cons_of_fresh fresh boundValue_injective (some number), tells.others⟩
  · obtain ⟨noFrom, noTo⟩ := Selection.key_ne_bounds isTagged
    refine ⟨{ draft with others := held :: draft.others }, ?_, ?_⟩
    · rw [readMember, if_neg (by simpa using noFrom), if_neg (by simpa using noTo)]
      exact Reader.read_behindColon (readsBack.members isTagged) _
    · refine ⟨tells.fromBlock.cons_of_ne noFrom.symm _, tells.toBlock.cons_of_ne noTo.symm _, ?_⟩
      simp [besideBounds, noFrom, noTo, tells.others]

theorem join_eq_getD (bound : Option (Option UInt64)) : bound.join = bound.getD none := by
  cases bound <;> rfl

/-- Who tells all members of a query has found it. -/
theorem ofDraft_of_tells
    (tells : draft.Tells known)
    (perm : known.Perm query.members) :
    ofDraft draft = .ok query := by
  have others : draft.others.reverse.Perm query.selection.taggedMembers := by
    rw [tells.others, ← query.besideBounds_members]
    exact (List.reverse_perm _).trans (perm.filter _)
  have first : draft.fromBlock.join = query.fromBlock := by
    rw [join_eq_getD]
    exact (tells.fromBlock.perm perm).getD_eq fun _ => mem_fromBlock_iff.trans boundValue_iff
  have last : draft.toBlock.join = query.toBlock := by
    rw [join_eq_getD]
    exact (tells.toBlock.perm perm).getD_eq fun _ => mem_toBlock_iff.trans boundValue_iff
  rw [ofDraft, Selection.ofTaggedMembers_of_perm others, first, last]
  rfl

/-- A query is read back with its members in any order. -/
theorem read_octets
    {written : Members}
    (perm : written.Perm query.members)
    (readsBack : query.selection.ReadsBack) :
    read (Value.object written).octets = .ok query := by
  obtain ⟨final, absorbs, known, perm, tells⟩ := Reader.exists_absorbed
    (fun held mem known draft fresh tells => readMember_octets readsBack mem fresh tells)
    query.nodup_keys_members perm Draft.tells_nil
  have isObject := absorbs.object (stops_readMember _) (nestingLimit - 2) "struct PortalQuery"
  have isQuery := ofDraft_of_tells tells perm
  exact document_eq_ok.mpr ⟨[], Reader.bind_eq_ok.mpr ⟨final, _, isObject,
    Reader.lift_eq_ok.mpr ⟨query, isQuery, rfl⟩⟩, rfl⟩

/-- Every query whose opaque parts are read back where they stand is read back from its text,
with its members in the order of its fields or in the order in which they are posted, and so
is every selection with its tag.

The keys of a query are written in the order of its fields, no two of which go by one name,
and the posted members are the same ones sorted. They are the ends of the range that are set,
the tag of the dataset, the fields unless they are null, the inclusion of all blocks if it is
asked for, and the lists of filters that are not empty. Different queries are not written as
the same value, and neither are different selections. -/
theorem written_queries_read_back :
    (∀ query : Query, query.selection.ReadsBack ->
      read query.toValue.octets = .ok query ∧ read query.wire.octets = .ok query) ∧
    (∀ selection : Selection, selection.ReadsBack ->
      Selection.read (Value.object selection.taggedMembers).octets = .ok selection ∧
      Selection.read (Value.object selection.taggedMembers.sorted).octets = .ok selection) ∧
    (∀ query : Query, ∃ written posted : Members,
      query.toValue = .object written ∧ query.wire = .object posted ∧
      written.keys.Sublist
        ("fromBlock" :: "toBlock" :: "type" :: Selection.keys query.selection.dataset) ∧
      ("fromBlock" :: "toBlock" :: "type" :: Selection.keys query.selection.dataset).Nodup ∧
      posted.IsSorted ∧ posted.Perm written ∧
      ∀ member, member ∈ written ↔
        (∃ number, query.fromBlock = some number ∧
          member = ("fromBlock", .number (.natural number))) ∨
        (∃ number, query.toBlock = some number ∧
          member = ("toBlock", .number (.natural number))) ∨
        member = ("type", .string query.selection.dataset.name) ∨
        query.selection.fields ≠ .null ∧ member = ("fields", query.selection.fields) ∨
        query.selection.includeAllBlocks = true ∧
          member = ("includeAllBlocks", .bool true) ∨
        ∃ filter ∈ query.selection.dataset.filters.zip query.selection.filters,
          filter.2 ≠ [] ∧ member = (filter.1, .array filter.2)) ∧
    (∀ query other : Query, query.toValue = other.toValue ∨ query.wire = other.wire ->
      query = other) ∧
    ∀ selection other : Selection,
      selection.taggedMembers = other.taggedMembers ∨
        selection.taggedMembers.sorted = other.taggedMembers.sorted ->
      selection = other := by
  have posted := fun query : Query => Members.sorted_perm query.nodup_keys_members
  have postedSelection := fun selection : Selection =>
    Members.sorted_perm selection.nodup_keys_taggedMembers
  refine ⟨?_, ?_, ?_, ?_, ?_⟩
  · intro query readsBack
    exact ⟨read_octets (.refl _) readsBack, read_octets (posted query) readsBack⟩
  · intro selection readsBack
    exact ⟨Selection.read_octets (.refl _) readsBack,
      Selection.read_octets (postedSelection selection) readsBack⟩
  · intro query
    refine ⟨query.members, query.members.sorted, rfl, rfl, query.keys_members_sublist,
      Selection.nodup_keys _, Members.isSorted_sorted _, posted query, fun member => ?_⟩
    rw [mem_members_iff, Selection.mem_members_iff]
  · rintro query other (same | same)
    · exact eq_of_perm (.of_eq (Value.object.inj same))
    · apply eq_of_perm
      exact (posted query).symm.trans (Value.object.inj same ▸ posted other)
  · rintro selection other (same | same)
    · exact Selection.eq_of_perm (.of_eq same)
    · apply Selection.eq_of_perm
      exact (postedSelection selection).symm.trans (same ▸ postedSelection other)

/-- A query for the blocks from the fifth one on, all of which are sent, and for some logs. -/
theorem written_queries_read_back_of_logs :
    let fields := Value.object [("block", .object [("number", .bool true)])]
    let log := Value.object [("address", .array [.string "0xa"])]
    let selection : Selection := ⟨.evm, fields, true, [[log], [], [], []], rfl⟩
    let query : Query := ⟨some 5, none, selection⟩
    let tagged := "\"type\":\"evm\",\"fields\":\x7b\"block\":\x7b\"number\":true\x7d\x7d," ++
      "\"includeAllBlocks\":true,\"logs\":[\x7b\"address\":[\"0xa\"]\x7d]\x7d"
    let posted := "\x7b\"fields\":\x7b\"block\":\x7b\"number\":true\x7d\x7d,\"fromBlock\":5," ++
      "\"includeAllBlocks\":true,\"logs\":[\x7b\"address\":[\"0xa\"]\x7d],\"type\":\"evm\"\x7d"
    selection.ReadsBack ∧
      read (Bytes.ofString ("\x7b\"fromBlock\":5," ++ tagged)) = .ok query ∧
      read (Bytes.ofString posted) = .ok query ∧
      Selection.read (Bytes.ofString ("\x7b" ++ tagged)) = .ok selection ∧
      (ofSelection selection).startingAt 5 = query := by
  intro fields log selection query tagged posted
  have readsBack : selection.ReadsBack := by
    constructor
    · refine Value.Fits.readsBack (.object (by decide) fun member mem => ?_)
      rw [List.mem_singleton.mp mem]
      refine .object (by decide) fun member mem => ?_
      rw [List.mem_singleton.mp mem]
      exact .bool _ true
    · intro list isFilter element mem
      simp only [selection, List.mem_cons, List.not_mem_nil, or_false] at isFilter
      rcases isFilter with rfl | rfl | rfl | rfl
      · rw [List.mem_singleton.mp mem]
        refine Value.Fits.readsBack (.object (by decide) fun member mem => ?_)
        rw [List.mem_singleton.mp mem]
        refine .array fun element mem => ?_
        rw [List.mem_singleton.mp mem]
        exact .string _ "0xa"
      all_goals cases mem
  obtain ⟨queries, selections, -, injective, -⟩ := written_queries_read_back
  have texts : query.toValue.render = "\x7b\"fromBlock\":5," ++ tagged ∧
      query.wire.render = posted ∧
      (Value.object selection.taggedMembers).render = "\x7b" ++ tagged := by
    decide +kernel
  rw [← texts.1, ← texts.2.1, ← texts.2.2]
  exact ⟨readsBack, (queries query readsBack).1, (queries query readsBack).2,
    (selections selection readsBack).1, injective _ query (.inr rfl)⟩

end Query
end BlockFeed
