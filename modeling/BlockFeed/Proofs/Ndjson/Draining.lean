import BlockFeed.Body
import BlockFeed.Proofs.Chain
import BlockFeed.Proofs.Ndjson.Soundness

/-!
# Bodies that are drained

A body is drained group by group: the blocks of each group are put aside with the size of
their lines, up to the first line that cannot be read or the first fault of the body. What
is put and what it ends in are those of the lines of the body that become complete, however
the body is cut into chunks. So draining a body agrees with reading the whole of it.
-/

namespace BlockFeed
namespace Ndjson

/-- The first number behind some blocks, where `cursor` is the first one behind those
before them. -/
def behind (cursor : UInt64) (blocks : List Block) : UInt64 :=
  (blocks.getLast?.map Block.successor).getD cursor

/-- What comes of draining: the portions that are put, and the first number behind them
unless something fails. -/
abbrev Drainage := List Portion × Except Fault UInt64

/-- Put a group of lines, if it can be read, and go on behind it. -/
def putGroup (lines : List Bytes) (goOn : UInt64 -> Drainage) (cursor : UInt64) : Drainage :=
  match portion lines with
  | .error fault => ([], .error fault)
  | .ok part =>
      let (puts, outcome) := goOn (part.cursorBehind cursor)
      ((offer? lines).toList ++ puts, outcome)

/-- Drain groups of lines, where `cursor` is the first number behind those before them. -/
def drain (cursor : UInt64) : List (Except Fault (List Bytes)) -> Drainage
  | [] => ([], .ok cursor)
  | .error fault :: _ => ([], .error fault)
  | .ok lines :: rest => putGroup lines (fun behind => drain behind rest) cursor

/-- The blocks that are put. -/
def blocksOf (puts : List Portion) : List Block := puts.flatMap Portion.blocks

/-- The bytes that are said to be put. -/
def bytesOf : List Portion -> Nat
  | [] => 0
  | part :: rest => part.bytes + bytesOf rest

/-- The size of the lines that carry something. -/
def sizeOf (lines : List Bytes) : Nat := (carrying lines).flatten.length

@[simp] theorem blocksOf_append (left right : List Portion) :
    blocksOf (left ++ right) = blocksOf left ++ blocksOf right :=
  List.flatMap_append

@[simp] theorem bytesOf_append (left right : List Portion) :
    bytesOf (left ++ right) = bytesOf left + bytesOf right := by
  induction left with
  | nil => exact (Nat.zero_add _).symm
  | cons part rest inductionHypothesis =>
      rw [List.cons_append, bytesOf, inductionHypothesis, bytesOf, Nat.add_assoc]

@[simp] theorem sizeOf_append (left right : List Bytes) :
    sizeOf (left ++ right) = sizeOf left + sizeOf right := by
  simp [sizeOf]

theorem behind_append (cursor : UInt64) (left right : List Block) :
    behind cursor (left ++ right) = behind (behind cursor left) right := by
  cases last : right.getLast? <;> simp [behind, List.getLast?_append, last]

/-- Lines are read in turn. -/
theorem blocks_append (left right : List Bytes) :
    blocks (left ++ right) =
      (blocks left).bind fun first => (blocks right).map (first ++ ·) := by
  rw [blocks, carrying_append, List.mapM_append]
  rfl

/-- A group that can be read offers its blocks and the size of its lines. -/
theorem offer?_of_portion
    {lines : List Bytes} {part : Portion}
    (read : portion lines = .ok part) :
    blocks lines = .ok part.blocks ∧ blocksOf (offer? lines).toList = part.blocks ∧
      bytesOf (offer? lines).toList = sizeOf lines := by
  obtain ⟨values, isRead, rfl⟩ : ∃ values, blocks lines = .ok values ∧
      part = ⟨values, sizeOf lines⟩ := by
    cases isRead : blocks lines with
    | error fault => simp [portion, isRead, Except.map] at read
    | ok values =>
        rw [portion, isRead] at read
        exact ⟨values, rfl, (Except.ok.inj read).symm⟩
  refine ⟨isRead, ?_⟩
  by_cases empty : values = []
  · have nothing : carrying lines = [] := by
      cases carried : carrying lines with
      | nil => rfl
      | cons line rest =>
          rw [blocks, carried, mapM_block_cons] at isRead
          split at isRead <;> simp_all
    rw [offer?_of_blank read empty, empty]
    exact ⟨rfl, by rw [sizeOf, nothing]; rfl⟩
  · rw [offer?_of_blocks read empty]
    exact ⟨List.append_nil _, Nat.add_zero _⟩

/-! ## What came of draining -/

/-- How a body comes to its end if its lines can be read: it breaks off, or `cursor` is the
first number behind it. -/
def ending (broken : Option Fault) (cursor : UInt64) : Except Fault UInt64 :=
  match broken with
  | some fault => .error fault
  | none => .ok cursor

/-- What came of draining lines, behind which the body broke off or ended. -/
structure Drained (lines : List Bytes) (broken : Option Fault) (cursor : UInt64)
    (result : Drainage) : Prop where
  /-- The first line that cannot be read is reported, and otherwise the fault of the body. -/
  outcome : result.2 = (blocks lines).bind fun read => ending broken (behind cursor read)
  /-- The first of the lines have been put, and all of them if they can be read. -/
  puts : ∃ done, done <+: lines ∧ (∀ read, blocks lines = .ok read -> done = lines) ∧
    blocks done = .ok (blocksOf result.1) ∧ bytesOf result.1 = sizeOf done

namespace Drained

variable {lines rest : List Bytes} {broken : Option Fault} {cursor : UInt64}

/-- Either all lines can be read, or the first one that cannot is reported. -/
theorem read_or_spoiled {result : Drainage} (drained : Drained lines broken cursor result) :
    (∃ values, blocks lines = .ok values ∧ result.2 = ending broken (behind cursor values)) ∨
    ∃ line problem, SpoiledBy lines line problem ∧
      result.2 = .error (.malformed line problem) := by
  have outcome := drained.outcome
  cases read : blocks lines with
  | ok values =>
      rw [read] at outcome
      exact .inl ⟨values, rfl, outcome⟩
  | error fault =>
      obtain ⟨line, problem, spoiled, rfl⟩ := spoiledBy_of_blocks read
      rw [read] at outcome
      exact .inr ⟨line, problem, spoiled, outcome⟩

theorem ended (cursor : UInt64) : Drained [] none cursor ([], .ok cursor) :=
  ⟨rfl, [], List.prefix_rfl, fun _ _ => rfl, rfl, rfl⟩

theorem broke (fault : Fault) (cursor : UInt64) :
    Drained [] (some fault) cursor ([], .error fault) :=
  ⟨rfl, [], List.prefix_rfl, fun _ _ => rfl, rfl, rfl⟩

/-- Nothing is put behind a line that cannot be read, and nothing of its group. -/
theorem spoiled
    {fault : Fault}
    (failed : portion lines = .error fault)
    (rest : List Bytes) (broken : Option Fault) (cursor : UInt64) :
    Drained (lines ++ rest) broken cursor ([], .error fault) := by
  have whole : blocks (lines ++ rest) = .error fault := by
    cases read : blocks lines with
    | ok values => simp [portion, read, Except.map] at failed
    | error reported =>
        rw [portion, read] at failed
        rw [blocks_append, read, ← Except.error.inj failed]
        rfl
  refine ⟨by rw [whole]; rfl, [], List.nil_prefix, fun read isRead => ?_, rfl, rfl⟩
  rw [whole] at isRead
  cases isRead

/-- A group that can be read is put in front of what follows. -/
theorem group
    {part : Portion} {result : Drainage}
    (read : portion lines = .ok part)
    (drained : Drained rest broken (part.cursorBehind cursor) result) :
    Drained (lines ++ rest) broken cursor ((offer? lines).toList ++ result.1, result.2) := by
  obtain ⟨isRead, offered, size⟩ := offer?_of_portion read
  have whole := blocks_append lines rest
  rw [isRead] at whole
  refine ⟨?_, ?_⟩
  · rw [drained.outcome, whole]
    cases blocks rest with
    | error fault => rfl
    | ok others =>
        cases broken with
        | some fault => rfl
        | none => exact congrArg Except.ok (behind_append cursor part.blocks others).symm
  · obtain ⟨done, isFirst, all, put, bytes⟩ := drained.puts
    refine ⟨lines ++ done, (List.prefix_append_right_inj lines).mpr isFirst, ?_, ?_, ?_⟩
    · intro read isWhole
      cases others : blocks rest with
      | error fault =>
          rw [whole, others] at isWhole
          cases isWhole
      | ok values => rw [all values others]
    · rw [blocks_append, isRead, put, blocksOf_append, offered]
      rfl
    · rw [bytesOf_append, size, bytes, sizeOf_append]

/-- A group is drained in front of what follows. -/
theorem cons
    {goOn : UInt64 -> Drainage}
    (lines : List Bytes)
    (drained : ∀ cursor, Drained rest broken cursor (goOn cursor))
    (cursor : UInt64) :
    Drained (lines ++ rest) broken cursor (putGroup lines goOn cursor) := by
  cases read : portion lines with
  | error fault =>
      rw [putGroup, read]
      exact spoiled read rest broken cursor
  | ok part =>
      rw [putGroup, read]
      exact group read (drained _)

end Drained

/-- Lines that can be read stop short of the first one that is no block. -/
theorem prefix_of_spoiled
    {done before rest : List Bytes} {line : Bytes} {problem : Json.Problem} {read : List Block}
    (isRead : blocks done = .ok read)
    (isFirst : done <+: before ++ line :: rest)
    (carries : Line.isBlank line = false)
    (noBlock : Block.read line = .error problem) :
    done <+: before := by
  rcases List.prefix_or_prefix_of_prefix isFirst (List.prefix_append before _) with
    short | ⟨extra, rfl⟩
  · exact short
  · cases extra with
    | nil => simp
    | cons next others =>
        obtain ⟨rfl, _⟩ :=
          List.cons_prefix_cons.mp ((List.prefix_append_right_inj before).mp isFirst)
        obtain ⟨value, isBlock⟩ := block_of_blocks isRead (by simp) carries
        rw [block_eq_error noBlock] at isBlock
        cases isBlock

/-- The first of the lines hold the first of the blocks. -/
theorem readable_prefix {done lines : List Bytes} (isFirst : done <+: lines) :
    readable done <+: readable lines := by
  obtain ⟨rest, rfl⟩ := isFirst
  rw [readable_append]
  exact List.prefix_append _ _

/-- A whole body is drained to what reading it comes to: to all its blocks, or to the fault of
the first line that is no block, behind blocks that stand before that line. -/
theorem Drained.agrees_with_whole
    {body : Bytes} {cursor : UInt64} {result : Drainage} {done : List Bytes}
    (drained : Drained (Line.pieces body) none cursor result)
    (isFirst : done <+: Line.pieces body)
    (all : ∀ read, blocks (Line.pieces body) = .ok read -> done = Line.pieces body)
    (read : blocks done = .ok (blocksOf result.1)) :
    (∃ values next, ofBody body = .ok values ∧ result.2 = .ok next ∧
        blocksOf result.1 = values ∧ done = Line.pieces body ∧
        (values = [] -> next = cursor) ∧
        ∀ last, values.getLast? = some last ->
          next.toNat = min (last.number.toNat + 1) (UInt64.size - 1)) ∨
      ∃ before line rest problem, Line.pieces body = before ++ line :: rest ∧
        Sound before ∧ Line.isBlank line = false ∧ Block.read line = .error problem ∧
        ofBody body = .error (.malformed line problem) ∧
        result.2 = .error (.malformed line problem) ∧ blocksOf result.1 <+: readable before := by
  refine drained.read_or_spoiled.imp ?_ ?_
  · rintro ⟨values, isRead, outcome⟩
    have isDone : done = Line.pieces body := all values isRead
    have put : blocksOf result.1 = values := Except.ok.inj (read.symm.trans (isDone ▸ isRead))
    refine ⟨values, behind cursor values, isRead, outcome, put, isDone, ?_, ?_⟩
    · rintro rfl
      rfl
    · intro last isLast
      rw [behind, isLast]
      exact last.toNat_successor
  · rintro ⟨line, problem, spoiled, outcome⟩
    have reported : ofBody body = .error (.malformed line problem) := spoiled.blocks_eq
    obtain ⟨before, rest, split, sound, carries, noBlock⟩ := spoiled
    have stops : done <+: before := prefix_of_spoiled read (split ▸ isFirst) carries noBlock
    refine ⟨before, line, rest, problem, split, sound, carries, noBlock, reported, outcome, ?_⟩
    rw [← readable_of_blocks read]
    exact readable_prefix stops

/-- A body that breaks off is drained to its fault, unless a line that was completed before is no
block. -/
theorem Drained.broke_or_spoiled
    {lines : List Bytes} {fault : Fault} {cursor : UInt64} {result : Drainage}
    (drained : Drained lines (some fault) cursor result) :
    (Sound lines ∧ result.2 = .error fault) ∨
      ∃ line problem, SpoiledBy lines line problem ∧
        result.2 = .error (.malformed line problem) := by
  refine drained.read_or_spoiled.imp_left ?_
  rintro ⟨values, isRead, outcome⟩
  exact ⟨.of_blocks isRead, outcome⟩

/-! ## Bodies in chunks -/

/-- The parts of a body that arrives in chunks and may break off behind them. -/
def bodyOf (chunks : List Bytes) (broken : Option Fault) : Body :=
  chunks.map .ok ++ (broken.map .error).toList

/-- Collecting a body comes to all of its octets, or to the fault that broke it off. -/
theorem collect_bodyOf (chunks : List Bytes) (broken : Option Fault) :
    (bodyOf chunks broken).collect =
      match broken with
      | some fault => .error fault
      | none => .ok chunks.flatten := by
  induction chunks with
  | nil => cases broken <;> rfl
  | cons chunk rest inductionHypothesis =>
      have cons : (bodyOf (chunk :: rest) broken).collect =
          (bodyOf rest broken).collect.map (chunk ++ ·) := rfl
      rw [cons, inductionHypothesis]
      cases broken <;> rfl

/-- At the end of a body, the line that it left unfinished is put as its last one. -/
theorem drain_end (splitter : Line.Splitter) (cursor : UInt64) :
    drain cursor (Line.groups splitter []) =
      putGroup splitter.finish.1.toList (fun behind => ([], .ok behind)) cursor := by
  rw [Line.groups]
  cases splitter.finish.1 <;> rfl

theorem drained_end
    {splitter : Line.Splitter}
    (clean : splitter.IsClean)
    (cursor : UInt64) :
    Drained (Line.completed splitter.fragment true) none cursor
      (drain cursor (Line.groups splitter [])) := by
  rw [Line.completed_fragment clean, drain_end, Line.Splitter.finish]
  split
  · next empty =>
      have nothing : splitter.fragment = [] := by simpa [Line.Splitter.fragment] using empty
      have read : portion [[]] = .ok ⟨[], 0⟩ := rfl
      rw [nothing]
      exact .group read (.ended cursor)
  · exact .cons [splitter.fragment] .ended cursor

/-- However a body is cut into chunks, what comes of draining it is told by the lines that
become complete. -/
theorem drained_groups
    {splitter : Line.Splitter}
    (clean : splitter.IsClean)
    (chunks : List Bytes) (broken : Option Fault) (cursor : UInt64) :
    Drained (Line.completed (splitter.fragment ++ chunks.flatten) broken.isNone) broken cursor
      (drain cursor (Line.groups splitter (bodyOf chunks broken))) := by
  induction chunks generalizing splitter cursor with
  | nil =>
      rw [List.flatten_nil, List.append_nil]
      cases broken with
      | none => exact drained_end clean cursor
      | some fault =>
          have nothing : Line.completed splitter.fragment false = [] := by
            rw [Line.completed, if_neg Bool.false_ne_true, Line.pieces_of_clean clean]
            rfl
          rw [Option.isNone_some, nothing]
          exact .broke fault cursor
  | cons chunk rest inductionHypothesis =>
      rw [List.flatten_cons, Line.completed_push clean]
      exact .cons _ (inductionHypothesis (clean.push chunk)) cursor

end Ndjson
end BlockFeed
