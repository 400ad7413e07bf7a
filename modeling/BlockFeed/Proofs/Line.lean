import BlockFeed.Line

/-!
# The lines of a growing stream

The pieces of a stream are known before its end, but for the last: whatever
follows can only lengthen that one. A splitter that is fed a chunk hands out
exactly the pieces that have become complete, and its fragment takes the place
of what it has not handed out.
-/

namespace BlockFeed
namespace Line

theorem pieces_ne_nil (octets : Bytes) : pieces octets ≠ [] := by
  cases octets with
  | nil => simp [pieces]
  | cons octet rest =>
      unfold pieces
      split
      · simp
      · split <;> simp

@[simp] theorem pieces_newline (rest : Bytes) :
    pieces (newline :: rest) = [] :: pieces rest := by
  simp [pieces]

/-- An octet that ends no line lengthens the first piece. -/
theorem pieces_other
    {octet : UInt8}
    (other : octet ≠ newline)
    (rest : Bytes) :
    ∃ piece others, pieces rest = piece :: others ∧
      pieces (octet :: rest) = (octet :: piece) :: others := by
  cases split : pieces rest with
  | nil => exact absurd split (pieces_ne_nil rest)
  | cons piece others => exact ⟨piece, others, rfl, by simp [pieces, other, split]⟩

/-- A line without a newline lengthens the first piece of what follows. -/
theorem pieces_append_of_clean
    {line : Bytes}
    (clean : newline ∉ line)
    (rest : Bytes) :
    ∃ piece others, pieces rest = piece :: others ∧
      pieces (line ++ rest) = (line ++ piece) :: others := by
  induction line with
  | nil =>
      cases split : pieces rest with
      | nil => exact absurd split (pieces_ne_nil rest)
      | cons piece others => exact ⟨piece, others, rfl, by simpa using split⟩
  | cons octet line inductionHypothesis =>
      rw [List.mem_cons, not_or] at clean
      obtain ⟨piece, others, split, lengthened⟩ := inductionHypothesis clean.2
      obtain ⟨inner, others', split', whole⟩ :=
        pieces_other (Ne.symm clean.1) (line ++ rest)
      rw [lengthened, List.cons.injEq] at split'
      obtain ⟨rfl, rfl⟩ := split'
      exact ⟨piece, others, split, whole⟩

/-- A line that a newline ends is a piece. -/
theorem pieces_append_newline
    {line : Bytes}
    (clean : newline ∉ line)
    (rest : Bytes) :
    pieces (line ++ newline :: rest) = line :: pieces rest := by
  obtain ⟨piece, others, split, lengthened⟩ :=
    pieces_append_of_clean clean (newline :: rest)
  rw [pieces_newline, List.cons.injEq] at split
  obtain ⟨rfl, rfl⟩ := split
  simpa using lengthened

/-- A line without a newline is its only piece. -/
theorem pieces_of_clean {line : Bytes} (clean : newline ∉ line) :
    pieces line = [line] := by
  obtain ⟨piece, others, split, lengthened⟩ := pieces_append_of_clean clean []
  rw [pieces, List.cons.injEq] at split
  obtain ⟨rfl, rfl⟩ := split
  simpa using lengthened

namespace Splitter

/-- The incomplete line holds no newline. -/
def IsClean (splitter : Splitter) : Prop :=
  newline ∉ splitter.fragment

theorem isClean_empty : empty.IsClean := by
  simp [IsClean]

@[simp] theorem fragment_cons (octet : UInt8) (reversed : Bytes) :
    fragment ⟨octet :: reversed⟩ = fragment ⟨reversed⟩ ++ [octet] := by
  simp [fragment]

theorem IsClean.cons
    {splitter : Splitter}
    (clean : splitter.IsClean)
    {octet : UInt8}
    (other : octet ≠ newline) :
    IsClean ⟨octet :: splitter.reversed⟩ := by
  intro mem
  rw [fragment_cons, List.mem_append, List.mem_singleton] at mem
  rcases mem with isOlder | isThis
  · exact clean isOlder
  · exact other isThis.symm

/-- No chunk puts a newline into the incomplete line. -/
theorem IsClean.push
    {splitter : Splitter}
    (clean : splitter.IsClean)
    (chunk : Bytes) :
    (splitter.push chunk).2.IsClean := by
  induction chunk generalizing splitter with
  | nil => exact clean
  | cons octet chunk inductionHypothesis =>
      by_cases ends : octet = newline
      · subst ends
        rw [push_newline]
        exact inductionHypothesis isClean_empty
      · rw [push_other _ _ _ ends]
        exact inductionHypothesis (clean.cons ends)

/-- The end of the stream leaves no newline behind. -/
theorem IsClean.finish {splitter : Splitter} (clean : splitter.IsClean) :
    splitter.finish.2.IsClean := by
  unfold Splitter.finish
  split
  · exact clean
  · exact isClean_empty

/-- The lines that a chunk completes are the pieces that have become known. -/
theorem pieces_push
    {splitter : Splitter}
    (clean : splitter.IsClean)
    (chunk rest : Bytes) :
    pieces (splitter.fragment ++ (chunk ++ rest)) =
      (splitter.push chunk).1 ++ pieces ((splitter.push chunk).2.fragment ++ rest) := by
  induction chunk generalizing splitter with
  | nil => rfl
  | cons octet chunk inductionHypothesis =>
      by_cases ends : octet = newline
      · subst ends
        rw [push_newline, List.cons_append, pieces_append_newline clean]
        simpa using inductionHypothesis isClean_empty
      · rw [push_other _ _ _ ends, ← inductionHypothesis (clean.cons ends), fragment_cons]
        simp

end Splitter

/-- The lines of a stream that are complete: all its pieces if nothing follows,
and otherwise all but the last. -/
def completed (octets : Bytes) (isWhole : Bool) : List Bytes :=
  if isWhole then pieces octets else (pieces octets).dropLast

/-- The lines that a chunk completes come first among those of the stream. -/
theorem completed_push
    {splitter : Splitter}
    (clean : splitter.IsClean)
    (chunk rest : Bytes)
    (isWhole : Bool) :
    completed (splitter.fragment ++ (chunk ++ rest)) isWhole =
      (splitter.push chunk).1 ++
        completed ((splitter.push chunk).2.fragment ++ rest) isWhole := by
  unfold completed
  rw [Splitter.pieces_push clean]
  split
  · rfl
  · exact List.dropLast_append_of_ne_nil (pieces_ne_nil _)

/-- At the end of a stream, the incomplete line is the only one left. -/
theorem completed_fragment {splitter : Splitter} (clean : splitter.IsClean) :
    completed splitter.fragment true = [splitter.fragment] := by
  simpa [completed] using pieces_of_clean clean

end Line
end BlockFeed
