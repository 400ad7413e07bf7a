import BlockFeed.Proofs.Block.RoundTrip
import BlockFeed.Proofs.Json.Agreement
import BlockFeed.Proofs.Json.Rereading

/-!
# Blocks are carried verbatim

A block divides two objects, its own and that of its header, into the members that it knows and
those that it only carries along. It puts them together again when it is written: the same
values stand under the same keys of the same object as in the text it was read from. Only a
header that had no hash has an empty one.
-/

namespace BlockFeed

open Json

/-- The same value, though its objects may list their members in another order. -/
inductive Json.Value.Same : Value -> Value -> Prop
  | refl (value : Value) : Same value value
  | trans {value other third : Value} (same : Same value other) (next : Same other third) :
      Same value third
  | element {value other : Value} (same : Same value other) (before after : List Value) :
      Same (.array (before ++ value :: after)) (.array (before ++ other :: after))
  | member {value other : Value} (same : Same value other) (key : String)
      (before after : Members) :
      Same (.object (before ++ (key, value) :: after)) (.object (before ++ (key, other) :: after))
  | order {members others : List (String × Value)} (distinct : (Members.keys members).Nodup)
      (perm : members.Perm others) :
      Same (.object members) (.object others)

namespace BlockHeader

/-- The members of a header as they are written. -/
def members (header : BlockHeader) : Members :=
  ("number", .ofUInt64 header.number) :: ("hash", .string header.hash) :: header.extra

/-- The members of a header with an empty hash if they hold none. -/
def completed (members : Members) : Members :=
  if (members.get? "hash").isSome then members else members.insert "hash" (.string "")

/-- What has been read of a header tells which members have been met. -/
def Draft.Tells (draft : Draft) (known : Members) : Prop :=
  known = Members.insert? "number" (draft.number.map .ofUInt64)
    (Members.insert? "hash" (draft.hash.map .string) (Members.sorted draft.others.reverse))

theorem Draft.Tells.readMember
    {levels : Nat} {draft next : Draft} {known : Members} {key : String} {input rest : Bytes}
    (read : readMember (levels + 1) draft key input = .ok (next, rest))
    (tells : draft.Tells known) :
    ∃ met, Reader.insertMember (levels + 1) known key input = .ok (met, rest) ∧ next.Tells met := by
  cases Draft.takes_of_readMember read with
  | number fresh behindColon isRead =>
      refine ⟨_, Reader.insertMember_eq_ok behindColon (Reader.value_of_natural isRead levels) _ _,
        ?_⟩
      rw [tells, fresh]
      rfl
  | hash fresh behindColon isRead =>
      refine ⟨_, Reader.insertMember_eq_ok behindColon (Reader.value_of_string isRead levels) _ _,
        ?_⟩
      rw [tells, fresh]
      exact Members.insert_insert? (by decide) _ _ _
  | other names behindColon isRead =>
      refine ⟨_, Reader.insertMember_eq_ok behindColon isRead _ _, ?_⟩
      rw [tells, Members.insert_insert? names.1, Members.insert_insert? names.2,
        ← Members.sorted_concat, ← List.reverse_cons]
      rfl

/-- A header lists no key twice. -/
theorem IsProper.nodup_keys {header : BlockHeader} (proper : header.IsProper) :
    header.members.keys.Nodup := by
  have noNumber : "number" ∉ header.extra.keys :=
    Members.notMem_keys fun member mem => (proper.names member mem).1
  have noHash : "hash" ∉ header.extra.keys :=
    Members.notMem_keys fun member mem => (proper.names member mem).2
  refine List.nodup_cons.mpr ⟨?_, List.nodup_cons.mpr ⟨noHash, proper.sorted.nodup_keys⟩⟩
  exact List.mem_cons.not.mpr (not_or.mpr ⟨(by decide : "number" ≠ "hash"), noNumber⟩)

theorem IsProper.sorted_members {header : BlockHeader} (proper : header.IsProper) :
    Members.sorted header.members = Members.insert "number" (.ofUInt64 header.number)
      (Members.insert "hash" (.string header.hash) header.extra) := by
  have noNumber : ∀ member ∈ ("hash", Value.string header.hash) :: header.extra,
      member.1 ≠ "number" := by
    intro member mem
    rcases List.mem_cons.mp mem with rfl | mem
    · exact (by decide : "hash" ≠ "number")
    · exact (proper.names member mem).1
  rw [members, Members.sorted_cons noNumber,
    Members.sorted_cons fun member mem => (proper.names member mem).2,
    Members.sorted_of_isSorted proper.sorted]

/-- A header was read from an object whose members it lists, with an empty hash if there was
none. -/
theorem value_of_reader
    {levels : Nat} {input rest : Bytes} {header : BlockHeader}
    (read : reader (levels + 2) input = .ok (header, rest)) :
    ∃ members, Reader.value (levels + 2) input = .ok (.object members, rest) ∧
      Members.sorted header.members = completed members := by
  have proper := isProper_of_reader read
  obtain ⟨⟨number, hash, others⟩, _, isDraft, read⟩ := Reader.bind_eq_ok.mp read
  obtain ⟨_, isHeader, same⟩ := Reader.lift_eq_ok.mp read
  cases same
  obtain ⟨known, isKnown, tells⟩ :=
    Reader.value_of_object Draft.Tells.readMember isDraft rfl
  refine ⟨known, isKnown, ?_⟩
  rw [proper.sorted_members, tells]
  cases number with
  | none => cases isHeader
  | some number =>
      cases isHeader
      have noHash : Members.get? "hash" (Members.sorted others.reverse) = none :=
        Members.get?_eq_none fun member mem => (proper.names member mem).2
      cases hash with
      | none =>
          have missing : ¬((Members.insert "number" (.ofUInt64 number)
              (Members.sorted others.reverse)).get? "hash").isSome = true := by
            rw [Members.get?_insert_of_ne (by decide), noHash]
            exact Bool.false_ne_true
          exact (Members.insert_comm _ _ (by decide) _).trans (if_neg missing).symm
      | some hash =>
          have present : ((Members.insert "number" (.ofUInt64 number) (Members.insert "hash"
              (.string hash) (Members.sorted others.reverse))).get? "hash").isSome = true := by
            rw [Members.get?_insert_of_ne (by decide), Members.get?_insert_self]
            rfl
          exact (if_pos present).symm

/-- A header is read back as a value if whatever else it holds is. -/
theorem value_octets
    {header : BlockHeader} {levels : Nat}
    (readBack : ∀ member ∈ header.extra, member.2.ReadsBack (levels + 1)) :
    Reader.value (levels + 2) header.toValue.octets =
      .ok (.object (Members.sorted header.members), []) := by
  have all : ∀ member ∈ header.members, member.2.ReadsBack (levels + 1) := by
    intro member mem
    rcases List.mem_cons.mp mem with rfl | mem
    · exact Value.readsBack_number (Reader.number_render (.natural header.number)) levels
    · rcases List.mem_cons.mp mem with rfl | mem
      · exact Value.readsBack_string levels header.hash
      · exact readBack member mem
  exact (Reader.absorbs_insertMember all []).value

/-- The other members that have been read of a header were read with `levels` levels left. -/
def Draft.AreRead (levels : Nat) (draft : Draft) : Prop :=
  ∀ member ∈ draft.others, member.2.IsRead levels

theorem Draft.AreRead.readMember
    {levels : Nat} {draft next : Draft} {key : String} {input rest : Bytes}
    (read : readMember levels draft key input = .ok (next, rest))
    (areRead : draft.AreRead levels) :
    next.AreRead levels := by
  cases Draft.takes_of_readMember read with
  | number => exact areRead
  | hash => exact areRead
  | other _ _ isRead =>
      intro member mem
      rcases List.mem_cons.mp mem with rfl | mem
      · exact ⟨_, _, isRead⟩
      · exact areRead member mem

/-- Whatever else a header holds has been read where it stands. -/
theorem isRead_of_reader
    {levels : Nat} {input rest : Bytes} {header : BlockHeader}
    (read : reader (levels + 1) input = .ok (header, rest)) :
    ∀ member ∈ header.extra, member.2.IsRead levels := by
  obtain ⟨⟨number, hash, others⟩, _, isDraft, read⟩ := Reader.bind_eq_ok.mp read
  obtain ⟨_, isHeader, same⟩ := Reader.lift_eq_ok.mp read
  cases same
  have nothing : Draft.AreRead levels {} := fun _ => nofun
  have areRead := Reader.object_keep Draft.AreRead.readMember isDraft nothing
  cases number with
  | none => cases isHeader
  | some number =>
      cases isHeader
      exact fun member mem =>
        areRead member (List.mem_reverse.mp (Members.mem_of_mem_sorted mem))

end BlockHeader

namespace Block

/-- What has been read of a block tells which members have been met. -/
def Draft.Tells (draft : Draft) (known : Members) : Prop :=
  ∃ header : Option Members,
    draft.header.map (fun header => Members.sorted header.members) =
      header.map BlockHeader.completed ∧
    known = Members.insert? "header" (header.map .object) (Members.sorted draft.others.reverse)

theorem Draft.Tells.readMember
    {levels : Nat} {draft next : Draft} {known : Members} {key : String} {input rest : Bytes}
    (read : readMember (levels + 2) draft key input = .ok (next, rest))
    (tells : draft.Tells known) :
    ∃ met, Reader.insertMember (levels + 2) known key input = .ok (met, rest) ∧ next.Tells met := by
  obtain ⟨held, same, isKnown⟩ := tells
  cases Draft.takes_of_readMember read with
  | header fresh behindColon isRead =>
      obtain ⟨members, isValue, sorted⟩ := BlockHeader.value_of_reader isRead
      refine ⟨_, Reader.insertMember_eq_ok behindColon isValue _ _, some members,
        congrArg some sorted, ?_⟩
      rw [fresh, Option.map_none, eq_comm, Option.map_eq_none_iff] at same
      rw [isKnown, same]
      rfl
  | other name behindColon isRead =>
      refine ⟨_, Reader.insertMember_eq_ok behindColon isRead _ _, held, same, ?_⟩
      rw [isKnown, Members.insert_insert? name, ← Members.sorted_concat, ← List.reverse_cons]

/-- A block was read from an object that holds its data and, as its header, the members of its
header. -/
theorem value_of_read
    {text : Bytes} {block : Block}
    (isRead : read text = .ok block) :
    ∃ header, Value.read text = .ok (.object (block.data.insert "header" (.object header))) ∧
      Members.sorted block.header.members = BlockHeader.completed header := by
  obtain ⟨rest, isRead, onlyLayout⟩ := document_eq_ok.mp isRead
  obtain ⟨⟨header, others⟩, _, isDraft, isRead⟩ := Reader.bind_eq_ok.mp isRead
  obtain ⟨_, isBlock, same⟩ := Reader.lift_eq_ok.mp isRead
  cases same
  have tellsNothing : ({} : Draft).Tells [] := ⟨none, rfl, rfl⟩
  obtain ⟨known, isKnown, held, sorted, rfl⟩ :=
    Reader.value_of_object Draft.Tells.readMember isDraft tellsNothing
  cases header with
  | none => cases isBlock
  | some header =>
      cases isBlock
      cases held with
      | none => cases sorted
      | some members => exact ⟨members, document_eq_ok.mpr ⟨rest, isKnown, onlyLayout⟩,
          Option.some.inj sorted⟩

/-- What has been read of a block was read with `levels` levels left in its header and one more
outside of it. -/
structure Draft.AreRead (levels : Nat) (draft : Draft) : Prop where
  extra : ∀ header, draft.header = some header ->
    ∀ member ∈ header.extra, member.2.IsRead levels
  others : ∀ member ∈ draft.others, member.2.IsRead (levels + 1)

theorem Draft.AreRead.readMember
    {levels : Nat} {draft next : Draft} {key : String} {input rest : Bytes}
    (read : readMember (levels + 1) draft key input = .ok (next, rest))
    (areRead : draft.AreRead levels) :
    next.AreRead levels := by
  cases Draft.takes_of_readMember read with
  | header _ _ isHeader =>
      refine ⟨fun header same => ?_, areRead.others⟩
      cases same
      exact BlockHeader.isRead_of_reader isHeader
  | other _ _ isValue =>
      refine ⟨areRead.extra, fun member mem => ?_⟩
      rcases List.mem_cons.mp mem with rfl | mem
      · exact ⟨_, _, isValue⟩
      · exact areRead.others member mem

/-- Whatever a block carries along has been read where it stands. -/
theorem isRead_of_reader
    {levels : Nat} {input rest : Bytes} {block : Block}
    (read : reader (levels + 2) input = .ok (block, rest)) :
    (∀ member ∈ block.header.extra, member.2.IsRead levels) ∧
      ∀ member ∈ block.data, member.2.IsRead (levels + 1) := by
  obtain ⟨⟨header, others⟩, _, isDraft, read⟩ := Reader.bind_eq_ok.mp read
  obtain ⟨_, isBlock, same⟩ := Reader.lift_eq_ok.mp read
  cases same
  have nothing : Draft.AreRead levels {} := ⟨nofun, fun _ => nofun⟩
  have areRead := Reader.object_keep Draft.AreRead.readMember isDraft nothing
  cases header with
  | none => cases isBlock
  | some header =>
      cases isBlock
      exact ⟨areRead.extra header rfl, fun member mem =>
        areRead.others member (List.mem_reverse.mp (Members.mem_of_mem_sorted mem))⟩

/-- A proper block is the value that is sorted, written in another order. -/
theorem IsProper.same_toValue {block : Block} (proper : block.IsProper) :
    block.toValue.Same
      (.object (block.data.insert "header" (.object (Members.sorted block.header.members)))) := by
  have noHeader : "header" ∉ block.data.keys := Members.notMem_keys proper.names
  have distinct := List.nodup_cons.mpr ⟨noHeader, proper.sorted.nodup_keys⟩
  have header : block.header.toValue.Same (.object (Members.sorted block.header.members)) :=
    .order proper.header.nodup_keys (Members.sorted_perm proper.header.nodup_keys).symm
  exact (header.member "header" [] block.data).trans
    (.order distinct (Members.insert_perm noHeader _).symm)

/-- The text of a proper block is read as the sorted value if whatever it carries along is read
back. -/
theorem IsProper.value_octets
    {block : Block} {levels : Nat}
    (proper : block.IsProper)
    (extra : ∀ member ∈ block.header.extra, member.2.ReadsBack (levels + 1))
    (data : ∀ member ∈ block.data, member.2.ReadsBack (levels + 2)) :
    Reader.value (levels + 3) block.toValue.octets =
      .ok (.object (block.data.insert "header"
        (.object (Members.sorted block.header.members))), []) := by
  have header : Reader.insertMember (levels + 2) [] "header"
      (0x3a :: block.header.toValue.octets) =
      .ok ([("header", .object (Members.sorted block.header.members))], []) :=
    Reader.read_behindColon (BlockHeader.value_octets extra) _
  have isRead := (Reader.Absorbs.next header (Reader.absorbs_insertMember data _)).value
  have sorted : Members.sorted
        (("header", .object (Members.sorted block.header.members)) :: block.data) =
      block.data.insert "header" (.object (Members.sorted block.header.members)) := by
    rw [Members.sorted_cons proper.names, Members.sorted_of_isSorted proper.sorted]
  rw [← sorted]
  exact isRead

/-- Whatever a block that was read carries along is read back if its floating-point numbers
are. -/
theorem readsBack_of_read
    {text : Bytes} {block : Block}
    (isRead : read text = .ok block)
    (floats : ∀ float ∈ block.toValue.floats, (Number.float float).ReadsBack) :
    block.ReadsBack := by
  obtain ⟨_, isRead, _⟩ := document_eq_ok.mp isRead
  obtain ⟨inHeader, inData⟩ := isRead_of_reader isRead
  have fromHeader := floats_subset_of_member
    (List.mem_cons_self : ("header", block.header.toValue) ∈ _ :: block.data)
  refine ⟨fun member mem => ?_, fun member mem => ?_⟩
  · have fromExtra := floats_subset_of_member
      (List.mem_cons_of_mem _ (List.mem_cons_of_mem _ mem) : member ∈ block.header.members)
    exact ((inHeader member mem).fits fun float isThere =>
      floats float (fromHeader (fromExtra isThere))).readsBack
  · have fromData := floats_subset_of_member
      (List.mem_cons_of_mem ("header", block.header.toValue) mem)
    exact ((inData member mem).fits fun float isThere =>
      floats float (fromData isThere)).readsBack

/-- The value of a block whose header has an empty hash if it had none. -/
def completed (members header : Members) : Value :=
  if (header.get? "hash").isSome then .object members
  else .object (members.insert "header" (.object (header.insert "hash" (.string ""))))

theorem completed_insert (data header : Members) :
    completed (data.insert "header" (.object header)) header =
      .object (data.insert "header" (.object (BlockHeader.completed header))) := by
  rw [completed, BlockHeader.completed]
  split
  · rfl
  · rw [Members.insert_insert]

/-- A text that is read as a block holds an object with a header, and the block is written as
the same value: every member of the header and of the block has kept its key, its place and its
value, and only a header without a hash has got an empty one. If whatever the block carries
along is read back, which it is as long as its floating-point numbers are, that value is read
back from what is written. -/
theorem blocks_are_carried_verbatim {text : Bytes} {block : Block}
    (isRead : read text = .ok block) :
    ∃ members header : Members,
      Value.read text = .ok (.object members) ∧
      members.get? "header" = some (.object header) ∧
      block.toValue.Same (completed members header) ∧
      (block.ReadsBack -> Value.read block.toValue.octets = .ok (completed members header)) ∧
      ((∀ float ∈ block.toValue.floats, (Number.float float).ReadsBack) -> block.ReadsBack) := by
  have proper := isProper_of_read isRead
  obtain ⟨header, isValue, sorted⟩ := value_of_read isRead
  refine ⟨_, header, isValue, Members.get?_insert_self _ _ _, ?_, fun readsBack => ?_,
    readsBack_of_read isRead⟩
  · rw [completed_insert, ← sorted]
    exact proper.same_toValue
  · have isReadBack := proper.value_octets readsBack.extra readsBack.data
    rw [completed_insert, ← sorted]
    exact document_eq_ok.mpr ⟨[], isReadBack, rfl⟩

/-- A header without a hash and with a field named as that of a block, data with a field named
as that of a header, a key that is repeated, and the least and the greatest integer. -/
theorem blocks_are_carried_verbatim_without_hash :
    let text := Bytes.ofString
      ("\x7b\"logs\":null,\"number\":1,\"header\":\x7b\"header\":\"a\\n\",\"number\":7,\"gas\":" ++
        "-9223372036854775808\x7d, \"logs\":[\x7b\"index\":18446744073709551615\x7d]\x7d")
    let written := "\x7b\"header\":\x7b\"number\":7,\"hash\":\"\",\"gas\":-9223372036854775808," ++
      "\"header\":\"a\\n\"\x7d,\"logs\":[\x7b\"index\":18446744073709551615\x7d],\"number\":1\x7d"
    ∃ (block : Block) (members header : Members),
      read text = .ok block ∧ block.toValue.render = written ∧
      Value.read text = .ok (.object members) ∧
      members.get? "header" = some (.object header) ∧
      block.toValue.Same (completed members header) ∧
      Value.read (Bytes.ofString written) = .ok (completed members header) := by
  intro text written
  have shape : (read text).map (fun block => (block.toValue.render, block.toValue.floats.length)) =
      .ok (written, 0) := by
    decide +kernel
  cases isRead : read text with
  | error problem => simp [isRead, Except.map] at shape
  | ok block =>
      obtain ⟨isWritten, noFloats⟩ : block.toValue.render = written ∧
          block.toValue.floats.length = 0 := by
        simpa [isRead, Except.map] using shape
      obtain ⟨members, header, isValue, isHeader, same, readsBack, exact⟩ :=
        blocks_are_carried_verbatim isRead
      have floats : ∀ float ∈ block.toValue.floats, (Number.float float).ReadsBack := by
        rw [List.length_eq_zero_iff.mp noFloats]
        exact fun _ => nofun
      rw [← isWritten]
      exact ⟨block, members, header, rfl, rfl, isValue, isHeader, same, readsBack (exact floats)⟩

end Block
end BlockFeed
