import BlockFeed.Proofs.Ndjson.Truncation

/-!
# Lines that can be read and lines that cannot

Lines are sound if each one that carries something holds a block; then they can be read as
a whole. Otherwise the first one that holds no block is reported. A group of lines is
offered to a buffer if it can be read and holds any blocks.
-/

namespace BlockFeed
namespace Ndjson

/-! ## Sound lines -/

/-- Every line that carries something holds a block. -/
def Sound (lines : List Bytes) : Prop :=
  ∀ line ∈ lines, Line.isBlank line = false -> ∃ value, block line = .ok value

theorem Sound.append {left right : List Bytes} (leftSound : Sound left)
    (rightSound : Sound right) : Sound (left ++ right) := by
  intro line mem
  rcases List.mem_append.mp mem with inLeft | inRight
  · exact leftSound line inLeft
  · exact rightSound line inRight

/-- Lines that can be read as a whole are sound. -/
theorem Sound.of_blocks {lines : List Bytes} {read : List Block}
    (isRead : blocks lines = .ok read) :
    Sound lines :=
  fun _ mem carries => block_of_blocks isRead mem carries

/-- Lines that contribute a portion are sound. -/
theorem Sound.of_portion
    {lines : List Bytes} {part : Portion}
    (isRead : portion lines = .ok part) :
    Sound lines := by
  cases read : blocks lines with
  | error fault => simp [portion, read, Except.map] at isRead
  | ok values => exact .of_blocks read

/-- Sound lines can be read as a whole. -/
theorem Sound.blocks_eq_ok {lines : List Bytes} (sound : Sound lines) :
    blocks lines = .ok (readable lines) := by
  have inTurn : ∀ carried : List Bytes,
      (∀ line ∈ carried, ∃ value, block line = .ok value) ->
      carried.mapM block = .ok (carried.filterMap fun line => (block line).toOption) := by
    intro carried
    induction carried with
    | nil => exact fun _ => rfl
    | cons line rest inductionHypothesis =>
        intro held
        obtain ⟨value, isBlock⟩ := held line (List.mem_cons_self ..)
        have restRead := inductionHypothesis fun later mem =>
          held later (List.mem_cons_of_mem _ mem)
        have isSome : (block line).toOption = some value := by rw [isBlock]; rfl
        rw [mapM_block_cons, isBlock, restRead, List.filterMap_cons, isSome]
  refine inTurn (carrying lines) ?_
  intro line mem
  obtain ⟨isLine, carries⟩ := List.mem_filter.mp mem
  exact sound line isLine (by simpa using carries)

/-! ## Lines that are no blocks -/

/-- The first line of a group that carries something but holds no block. -/
def SpoiledBy (lines : List Bytes) (line : Bytes) (problem : Json.Problem) : Prop :=
  ∃ before behind, lines = before ++ line :: behind ∧ Sound before ∧
    Line.isBlank line = false ∧ Block.read line = .error problem

theorem block_eq_error {line : Bytes} {problem : Json.Problem}
    (noBlock : Block.read line = .error problem) :
    block line = .error (.malformed line problem) := by
  simp [block, noBlock]

theorem blocks_cons_of_blank {line : Bytes} (blank : Line.isBlank line = true)
    (rest : List Bytes) :
    blocks (line :: rest) = blocks rest := by
  simp [blocks, carrying, blank]

theorem blocks_cons_of_carrying {line : Bytes} (carries : Line.isBlank line = false)
    (rest : List Bytes) :
    blocks (line :: rest) =
      match block line, blocks rest with
      | .error fault, _ => .error fault
      | .ok _, .error fault => .error fault
      | .ok first, .ok others => .ok (first :: others) := by
  have kept : carrying (line :: rest) = line :: carrying rest := by simp [carrying, carries]
  rw [blocks, kept]
  exact mapM_block_cons line (carrying rest)

namespace SpoiledBy

variable {lines : List Bytes} {line first : Bytes} {problem : Json.Problem}

/-- The fault of a group of lines reports the first line that is no block. -/
theorem blocks_eq (spoiled : SpoiledBy lines line problem) :
    blocks lines = .error (.malformed line problem) := by
  obtain ⟨before, behind, rfl, sound, carries, noBlock⟩ := spoiled
  have readable : (carrying before).mapM block = .ok (readable before) := sound.blocks_eq_ok
  have split : carrying (before ++ line :: behind) =
      carrying before ++ line :: carrying behind := by
    simp [carrying, carries]
  rw [blocks, split, List.mapM_append, readable, mapM_block_cons, block_eq_error noBlock]
  rfl

theorem portion_eq (spoiled : SpoiledBy lines line problem) :
    portion lines = .error (.malformed line problem) := by
  rw [portion, spoiled.blocks_eq]
  rfl

/-- A sound line in front of a group changes nothing. -/
theorem cons
    (spoiled : SpoiledBy lines line problem)
    (sound : Line.isBlank first = false -> ∃ value, block first = .ok value) :
    SpoiledBy (first :: lines) line problem := by
  obtain ⟨before, behind, rfl, soundBefore, carries, noBlock⟩ := spoiled
  refine ⟨first :: before, behind, rfl, ?_, carries, noBlock⟩
  intro other mem
  rcases List.mem_cons.mp mem with rfl | isBefore
  · exact sound
  · exact soundBefore other isBefore

end SpoiledBy

/-- Only a line that is no block makes a group of lines fail. -/
theorem spoiledBy_of_blocks
    {lines : List Bytes} {fault : Fault}
    (spoiled : blocks lines = .error fault) :
    ∃ line problem, SpoiledBy lines line problem ∧ fault = .malformed line problem := by
  induction lines with
  | nil => cases spoiled
  | cons first rest inductionHypothesis =>
      cases blank : Line.isBlank first with
      | true =>
          rw [blocks_cons_of_blank blank] at spoiled
          obtain ⟨line, problem, spoiledRest, isFault⟩ := inductionHypothesis spoiled
          refine ⟨line, problem, spoiledRest.cons ?_, isFault⟩
          exact fun carries => absurd (blank.symm.trans carries) nofun
      | false =>
          rw [blocks_cons_of_carrying blank] at spoiled
          cases read : Block.read first with
          | error problem =>
              simp only [block_eq_error read, Except.error.injEq] at spoiled
              exact ⟨first, problem, ⟨[], rest, rfl, nofun, blank, read⟩, spoiled.symm⟩
          | ok value =>
              have isBlock : block first = .ok value := by simp [block, read]
              cases others : blocks rest with
              | ok values => simp [isBlock, others] at spoiled
              | error reported =>
                  simp only [isBlock, others, Except.error.injEq] at spoiled
                  obtain ⟨line, problem, spoiledRest, isFault⟩ :=
                    inductionHypothesis (spoiled ▸ others)
                  exact ⟨line, problem, spoiledRest.cons fun _ => ⟨value, isBlock⟩, isFault⟩

theorem spoiledBy_of_portion
    {lines : List Bytes} {fault : Fault}
    (failed : portion lines = .error fault) :
    ∃ line problem, SpoiledBy lines line problem ∧ fault = .malformed line problem := by
  cases read : blocks lines with
  | ok values => simp [portion, read, Except.map] at failed
  | error reported =>
      simp only [portion, read, Except.map, Except.error.injEq] at failed
      exact spoiledBy_of_blocks (failed ▸ read)

/-! ## Groups that are offered -/

/-- What a group of lines adds to a buffer, if it is put into one: lines without blocks
and lines that cannot be read are not. -/
def offer? (lines : List Bytes) : Option Portion :=
  (portion lines).toOption.filter fun part => !part.blocks.isEmpty

section offer

variable {lines : List Bytes} {part : Portion}

theorem offer?_of_error {fault : Fault} (spoiled : portion lines = .error fault) :
    offer? lines = none := by
  rw [offer?, spoiled]
  rfl

theorem offer?_of_blank (read : portion lines = .ok part) (empty : part.blocks = []) :
    offer? lines = none := by
  simp [offer?, read, Except.toOption, empty]

theorem offer?_of_blocks (read : portion lines = .ok part) (someBlocks : part.blocks ≠ []) :
    offer? lines = some part := by
  simp [offer?, read, Except.toOption, someBlocks]

end offer

end Ndjson
end BlockFeed
