import BlockFeed.Proofs.Block
import BlockFeed.Proofs.Json.RoundTrip

/-!
# Blocks that are read back

A header lists its number and its hash in front of whatever else it holds, and a block its
header in front of its data. As long as nothing else goes by the name of one of these fields,
which is so in every block that has been read, a block is read back from its text.
-/

namespace BlockFeed

open Json

namespace BlockHeader

/-- A header whose rest is sorted and holds no field of its own. -/
structure IsProper (header : BlockHeader) : Prop where
  sorted : header.extra.IsSorted
  names : ∀ member ∈ header.extra, member.1 ≠ "number" ∧ member.1 ≠ "hash"

/-- What a draft becomes where a member with a key is read: each field is taken only once, and
any other member is put before those that have been read. -/
inductive Draft.Takes (levels : Nat) (draft : Draft) (input rest : Bytes) : String -> Draft -> Prop
  | number {middle : Bytes} {number : UInt64}
      (fresh : draft.number = none)
      (behindColon : Reader.colon input = .ok ((), middle))
      (isRead : Reader.natural middle = .ok (number, rest)) :
      Takes levels draft input rest "number" { draft with number := some number }
  | hash {middle : Bytes} {hash : String}
      (fresh : draft.hash = none)
      (behindColon : Reader.colon input = .ok ((), middle))
      (isRead : Reader.string "a string" middle = .ok (hash, rest)) :
      Takes levels draft input rest "hash" { draft with hash := some hash }
  | other {middle : Bytes} {key : String} {value : Value}
      (names : key ≠ "number" ∧ key ≠ "hash")
      (behindColon : Reader.colon input = .ok ((), middle))
      (isRead : Reader.value levels middle = .ok (value, rest)) :
      Takes levels draft input rest key { draft with others := (key, value) :: draft.others }

theorem Draft.takes_of_readMember
    {levels : Nat} {draft next : Draft} {key : String} {input rest : Bytes}
    (read : readMember levels draft key input = .ok (next, rest)) :
    draft.Takes levels input rest key next := by
  unfold readMember at read
  split at read
  · next isNumber =>
      obtain ⟨fresh, read⟩ := Reader.read_of_unless read
      obtain ⟨_, _, behindColon, read⟩ := Reader.bind_eq_ok.mp read
      obtain ⟨number, _, isRead, read⟩ := Reader.bind_eq_ok.mp read
      cases read
      obtain rfl := beq_iff_eq.mp isNumber
      exact .number (Option.not_isSome_iff_eq_none.mp fresh) behindColon isRead
  · split at read
    · next isHash =>
        obtain ⟨fresh, read⟩ := Reader.read_of_unless read
        obtain ⟨_, _, behindColon, read⟩ := Reader.bind_eq_ok.mp read
        obtain ⟨hash, _, isRead, read⟩ := Reader.bind_eq_ok.mp read
        cases read
        obtain rfl := beq_iff_eq.mp isHash
        exact .hash (Option.not_isSome_iff_eq_none.mp fresh) behindColon isRead
    · next noNumber noHash =>
        obtain ⟨_, _, behindColon, read⟩ := Reader.bind_eq_ok.mp read
        obtain ⟨value, _, isRead, read⟩ := Reader.bind_eq_ok.mp read
        cases read
        exact .other ⟨by simpa using noNumber, by simpa using noHash⟩ behindColon isRead

/-- A field of a header is not among its other members. -/
theorem names_of_readMember
    {levels : Nat} {draft next : Draft} {key : String} {input rest : Bytes}
    (read : readMember levels draft key input = .ok (next, rest))
    (names : ∀ member ∈ draft.others, member.1 ≠ "number" ∧ member.1 ≠ "hash") :
    ∀ member ∈ next.others, member.1 ≠ "number" ∧ member.1 ≠ "hash" := by
  cases Draft.takes_of_readMember read with
  | number => exact names
  | hash => exact names
  | other isOther =>
      intro member mem
      rcases List.mem_cons.mp mem with rfl | mem
      · exact isOther
      · exact names member mem

theorem stops_readMember (levels : Nat) (draft : Draft) (key : String) :
    (readMember levels draft key).Stops := by
  unfold readMember
  split
  · exact Reader.stops_unless _ _ (Reader.stops_behindColon Reader.stops_natural _)
  · split
    · exact Reader.stops_unless _ _ (Reader.stops_behindColon
        (Reader.selfDelimiting_string _).stops _)
    · exact Reader.stops_behindColon (Reader.stops_value levels) _

/-- A member that is no field of a header is put before the other ones. -/
theorem readMember_other
    {levels : Nat} {key : String} {value : Value}
    (names : key ≠ "number" ∧ key ≠ "hash")
    (readsBack : value.ReadsBack levels)
    (draft : Draft) :
    readMember levels draft key (0x3a :: value.octets) =
      .ok ({ draft with others := (key, value) :: draft.others }, []) := by
  unfold readMember
  rw [if_neg (by simpa using names.1), if_neg (by simpa using names.2)]
  exact Reader.read_behindColon readsBack _

/-- The members of a header are read one after another. -/
theorem absorbs_readMember
    {header : BlockHeader} {levels : Nat}
    (names : ∀ member ∈ header.extra, member.1 ≠ "number" ∧ member.1 ≠ "hash")
    (readBack : ∀ member ∈ header.extra, member.2.ReadsBack levels) :
    Reader.Absorbs (readMember levels) {}
      (("number", .ofUInt64 header.number) :: ("hash", .string header.hash) :: header.extra)
      ⟨some header.number, some header.hash, header.extra.reverse⟩ := by
  have others := Reader.absorbs_foldl
    (Draft.mk (some header.number) (some header.hash))
    (fun held mem known => readMember_other (names held mem) (readBack held mem) ⟨_, _, known⟩) []
  rw [List.foldl_flip_cons_eq_append', List.append_nil] at others
  have number : readMember levels {} "number" (0x3a :: (Value.ofUInt64 header.number).octets) =
      .ok ({ number := some header.number }, []) :=
    Reader.read_behindColon (Reader.natural_octets header.number) _
  have hash : readMember levels { number := some header.number } "hash"
      (0x3a :: (Value.string header.hash).octets) =
      .ok ({ number := some header.number, hash := some header.hash }, []) :=
    Reader.read_behindColon (Reader.string_octets "a string" header.hash) _
  exact .next number (.next hash others)

/-- A header is read back if whatever else it holds is. -/
theorem reader_octets
    {header : BlockHeader} {levels : Nat}
    (proper : header.IsProper)
    (readBack : ∀ member ∈ header.extra, member.2.ReadsBack (levels + 1)) :
    reader (levels + 2) header.toValue.octets = .ok (header, []) := by
  have read := (absorbs_readMember proper.names readBack).object (stops_readMember _) levels
    "struct BlockHeader"
  refine Reader.bind_eq_ok.mpr ⟨_, _, read, Reader.lift_eq_ok.mpr ⟨header, ?_, rfl⟩⟩
  simp [ofDraft, Members.sorted_of_isSorted proper.sorted]

/-- Every header that is read is proper. -/
theorem isProper_of_reader
    {levels : Nat} {input rest : Bytes} {header : BlockHeader}
    (read : reader levels input = .ok (header, rest)) :
    header.IsProper := by
  obtain ⟨draft, _, isDraft, read⟩ := Reader.bind_eq_ok.mp read
  obtain ⟨_, isHeader, same⟩ := Reader.lift_eq_ok.mp read
  cases same
  have names := Reader.object_keep names_of_readMember isDraft (fun _ => nofun)
  unfold ofDraft at isHeader
  split at isHeader
  · cases isHeader
    refine ⟨Members.isSorted_sorted _, fun member mem => names member ?_⟩
    exact List.mem_reverse.mp (Members.mem_of_mem_sorted mem)
  · cases isHeader

end BlockHeader

namespace Block

/-- A block whose header is proper and whose data is sorted and holds no header. -/
structure IsProper (block : Block) : Prop where
  header : block.header.IsProper
  sorted : block.data.IsSorted
  names : ∀ member ∈ block.data, member.1 ≠ "header"

/-- Whatever a block carries along is read back where it stands. -/
structure ReadsBack (block : Block) : Prop where
  extra : ∀ member ∈ block.header.extra, member.2.ReadsBack (nestingLimit - 2)
  data : ∀ member ∈ block.data, member.2.ReadsBack (nestingLimit - 1)

theorem stops_readMember (levels : Nat) (draft : Draft) (key : String) :
    (readMember levels draft key).Stops := by
  unfold readMember
  split
  · exact Reader.stops_unless _ _ (Reader.stops_behindColon
      (BlockHeader.selfDelimiting_reader levels).stops _)
  · exact Reader.stops_behindColon (Reader.stops_value levels) _

/-- A member that is no field of a block is put before the other ones. -/
theorem readMember_other
    {levels : Nat} {key : String} {value : Value}
    (name : key ≠ "header")
    (readsBack : value.ReadsBack levels)
    (draft : Draft) :
    readMember levels draft key (0x3a :: value.octets) =
      .ok ({ draft with others := (key, value) :: draft.others }, []) := by
  unfold readMember
  rw [if_neg (by simpa using name)]
  exact Reader.read_behindColon readsBack _

/-- The members of a block are read one after another. -/
theorem absorbs_readMember
    {block : Block}
    (proper : block.IsProper)
    (readsBack : block.ReadsBack) :
    Reader.Absorbs (readMember (nestingLimit - 1)) {}
      (("header", block.header.toValue) :: block.data)
      ⟨some block.header, block.data.reverse⟩ := by
  have others := Reader.absorbs_foldl (Draft.mk (some block.header))
    (fun held mem known =>
      readMember_other (proper.names held mem) (readsBack.data held mem) ⟨_, known⟩) []
  rw [List.foldl_flip_cons_eq_append', List.append_nil] at others
  refine .next ?_ others
  exact Reader.read_behindColon (BlockHeader.reader_octets proper.header readsBack.extra) _

/-- A proper block is read back if whatever it carries along is. -/
theorem read_octets
    {block : Block}
    (proper : block.IsProper)
    (readsBack : block.ReadsBack) :
    read block.toValue.octets = .ok block := by
  have members := (absorbs_readMember proper readsBack).object (stops_readMember _)
    (nestingLimit - 2) "struct Block"
  refine document_eq_ok.mpr ⟨[], Reader.bind_eq_ok.mpr ⟨_, _, members, ?_⟩, rfl⟩
  refine Reader.lift_eq_ok.mpr ⟨block, ?_, rfl⟩
  simp [ofDraft, Members.sorted_of_isSorted proper.sorted]

/-- What has been read of a block is proper. -/
structure Draft.IsProper (draft : Draft) : Prop where
  header : ∀ header, draft.header = some header -> header.IsProper
  names : ∀ member ∈ draft.others, member.1 ≠ "header"

/-- What a draft becomes where a member with a key is read: the header is taken only once, and
any other member is put before those that have been read. -/
inductive Draft.Takes (levels : Nat) (draft : Draft) (input rest : Bytes) : String -> Draft -> Prop
  | header {middle : Bytes} {header : BlockHeader}
      (fresh : draft.header = none)
      (behindColon : Reader.colon input = .ok ((), middle))
      (isRead : BlockHeader.reader levels middle = .ok (header, rest)) :
      Takes levels draft input rest "header" { draft with header := some header }
  | other {middle : Bytes} {key : String} {value : Value}
      (name : key ≠ "header")
      (behindColon : Reader.colon input = .ok ((), middle))
      (isRead : Reader.value levels middle = .ok (value, rest)) :
      Takes levels draft input rest key { draft with others := (key, value) :: draft.others }

theorem Draft.takes_of_readMember
    {levels : Nat} {draft next : Draft} {key : String} {input rest : Bytes}
    (read : readMember levels draft key input = .ok (next, rest)) :
    draft.Takes levels input rest key next := by
  unfold readMember at read
  split at read
  · next isHeader =>
      obtain ⟨fresh, read⟩ := Reader.read_of_unless read
      obtain ⟨_, _, behindColon, read⟩ := Reader.bind_eq_ok.mp read
      obtain ⟨header, _, isRead, read⟩ := Reader.bind_eq_ok.mp read
      cases read
      obtain rfl := beq_iff_eq.mp isHeader
      exact .header (Option.not_isSome_iff_eq_none.mp fresh) behindColon isRead
  · next noHeader =>
      obtain ⟨_, _, behindColon, read⟩ := Reader.bind_eq_ok.mp read
      obtain ⟨value, _, isRead, read⟩ := Reader.bind_eq_ok.mp read
      cases read
      exact .other (by simpa using noHeader) behindColon isRead

theorem isProper_of_readMember
    {levels : Nat} {draft next : Draft} {key : String} {input rest : Bytes}
    (read : readMember levels draft key input = .ok (next, rest))
    (proper : draft.IsProper) :
    next.IsProper := by
  cases Draft.takes_of_readMember read with
  | header _ _ isHeader =>
      refine ⟨fun other same => ?_, proper.names⟩
      cases same
      exact BlockHeader.isProper_of_reader isHeader
  | other name =>
      refine ⟨proper.header, fun member mem => ?_⟩
      rcases List.mem_cons.mp mem with rfl | mem
      · exact name
      · exact proper.names member mem

/-- Every block that is read is proper. -/
theorem isProper_of_read {text : Bytes} {block : Block} (isRead : read text = .ok block) :
    block.IsProper := by
  obtain ⟨_, isRead, _⟩ := document_eq_ok.mp isRead
  obtain ⟨draft, _, isDraft, isRead⟩ := Reader.bind_eq_ok.mp isRead
  obtain ⟨_, isBlock, same⟩ := Reader.lift_eq_ok.mp isRead
  cases same
  have proper := Reader.object_keep isProper_of_readMember isDraft ⟨nofun, fun _ => nofun⟩
  unfold ofDraft at isBlock
  split at isBlock
  · next header isHeader =>
      cases isBlock
      refine ⟨proper.header header isHeader, Members.isSorted_sorted _,
        fun member mem => proper.names member ?_⟩
      exact List.mem_reverse.mp (Members.mem_of_mem_sorted mem)
  · cases isBlock

end Block
end BlockFeed
