import BlockFeed.Proofs.Line
import Mathlib.Data.List.DropRight

/-!
# Lines do not depend on chunks

The newlines of a stream cut it into pieces, and these are its lines, but for a last piece that
is empty. They are what a splitter hands out, wherever the stream is cut into chunks: each chunk
brings the lines that it completes, the incomplete line is what stands behind the last newline,
and the end of the stream brings that line if it holds anything.
-/

namespace BlockFeed
namespace Line

/-- The pieces of a stream are what its newlines cut it into. -/
theorem pieces_eq_splitOn (octets : Bytes) : pieces octets = octets.splitOn newline := by
  induction octets with
  | nil => rfl
  | cons octet rest inductionHypothesis =>
      rw [List.splitOn_cons_eq_if_modifyHead, ← inductionHypothesis]
      by_cases ends : octet = newline
      · subst ends
        rw [pieces_newline, if_pos (beq_self_eq_true newline)]
      · obtain ⟨piece, others, split, lengthened⟩ := pieces_other ends rest
        rw [lengthened, if_neg (by simpa using ends), split, List.modifyHead_cons]

/-- What stands behind the last newline of a stream. -/
def unended (octets : Bytes) : Bytes :=
  octets.rtakeWhile (· != newline)

/-- A line without a newline is all that stands behind the last one. -/
theorem unended_of_clean {line : Bytes} (clean : newline ∉ line) : unended line = line := by
  refine List.rtakeWhile_eq_self_iff.mpr fun octet mem => ?_
  rw [bne_iff_ne]
  rintro rfl
  exact clean mem

/-- What stands in front of a newline does not stand behind the last one. -/
theorem unended_append_newline (line rest : Bytes) :
    unended (line ++ newline :: rest) = unended rest := by
  induction rest using List.reverseRecOn with
  | nil =>
      rw [unended, List.rtakeWhile_concat_neg _ _ _ (by simp)]
      rfl
  | append_singleton rest octet inductionHypothesis =>
      rw [unended] at inductionHypothesis
      rw [unended, unended, ← List.cons_append, ← List.append_assoc, List.rtakeWhile_concat,
        List.rtakeWhile_concat, inductionHypothesis]
      rfl

namespace Splitter

variable {splitter : Splitter}

/-! ## Chunk after chunk -/

/-- The lines of a stream: each chunk is pushed, and behind the last one the stream ends. -/
def lines (splitter : Splitter) : List Bytes -> List Bytes
  | [] => splitter.finish.1.toList
  | chunk :: rest => (splitter.push chunk).1 ++ lines (splitter.push chunk).2 rest

/-- The lines that each of some chunks completes. -/
def completions (splitter : Splitter) : List Bytes -> List (List Bytes)
  | [] => []
  | chunk :: rest => (splitter.push chunk).1 :: completions (splitter.push chunk).2 rest

/-- The splitter behind some chunks. -/
def behind (splitter : Splitter) (chunks : List Bytes) : Splitter :=
  chunks.foldl (fun current chunk => (current.push chunk).2) splitter

theorem length_completions (splitter : Splitter) (chunks : List Bytes) :
    (splitter.completions chunks).length = chunks.length := by
  induction chunks generalizing splitter with
  | nil => rfl
  | cons chunk rest inductionHypothesis =>
      rw [completions, List.length_cons, inductionHypothesis, List.length_cons]

/-- The lines of a stream are those that its chunks complete and the one that its end brings. -/
theorem lines_eq (splitter : Splitter) (chunks : List Bytes) :
    splitter.lines chunks =
      (splitter.completions chunks).flatten ++ (splitter.behind chunks).finish.1.toList := by
  induction chunks generalizing splitter with
  | nil => rfl
  | cons chunk rest inductionHypothesis =>
      rw [lines, inductionHypothesis, completions, List.flatten_cons, List.append_assoc]
      rfl

/-- Chunks complete together what their whole completes as one chunk, and leave the same behind. -/
theorem push_flatten (splitter : Splitter) (chunks : List Bytes) :
    splitter.push chunks.flatten =
      ((splitter.completions chunks).flatten, splitter.behind chunks) := by
  induction chunks generalizing splitter with
  | nil => exact push_nil splitter
  | cons chunk rest inductionHypothesis =>
      rw [List.flatten_cons, push_append, inductionHypothesis, completions, List.flatten_cons]
      rfl

/-! ## The incomplete line -/

/-- A chunk leaves incomplete what stands behind the last newline. -/
theorem fragment_push (clean : splitter.IsClean) (chunk : Bytes) :
    (splitter.push chunk).2.fragment = unended (splitter.fragment ++ chunk) := by
  induction chunk generalizing splitter with
  | nil => rw [push_nil, List.append_nil, unended_of_clean clean]
  | cons octet chunk inductionHypothesis =>
      by_cases ends : octet = newline
      · subst ends
        rw [push_newline, inductionHypothesis isClean_empty, unended_append_newline]
        rfl
      · rw [push_other _ _ _ ends, inductionHypothesis (clean.cons ends), fragment_cons,
          List.append_assoc]
        rfl

/-- The pieces of a stream are the lines that its chunks complete and the incomplete line. -/
theorem pieces_flatten (chunks : List Bytes) :
    pieces chunks.flatten =
      (empty.completions chunks).flatten ++ [(empty.behind chunks).fragment] := by
  have pushed := pieces_push isClean_empty chunks.flatten []
  have clean := isClean_empty.push chunks.flatten
  rwa [List.append_nil, List.append_nil, fragment_empty, List.nil_append,
    pieces_of_clean clean, push_flatten] at pushed

/-- The end of a stream brings the incomplete line, if it holds anything. -/
theorem toList_finish (splitter : Splitter) :
    splitter.finish.1.toList = if splitter.fragment = [] then [] else [splitter.fragment] := by
  by_cases nothing : splitter.reversed = []
  · simp [finish, fragment, nothing]
  · simp [finish, fragment, nothing]

/-- Behind its end, a splitter is at the beginning of a stream. -/
theorem finish_eq_empty (splitter : Splitter) : splitter.finish.2 = empty := by
  obtain ⟨reversed⟩ := splitter
  cases reversed <;> rfl

theorem pending_eq_length (splitter : Splitter) :
    splitter.pending = splitter.fragment.length :=
  List.length_reverse.symm

end Splitter

/-! ## Groups of lines -/

variable {ε : Type}

/-- A body that arrives as a whole yields a group for each chunk, and the line that its end
brings as a group of its own. -/
theorem groups_chunks (splitter : Splitter) (chunks : List Bytes) :
    groups splitter (chunks.map .ok : List (Except ε Bytes)) =
      (splitter.completions chunks).map .ok ++
        (splitter.behind chunks).finish.1.toList.map fun tail => .ok [tail] := by
  induction chunks generalizing splitter with
  | nil =>
      rw [List.map_nil, groups, Splitter.completions, Splitter.behind, List.foldl_nil]
      cases splitter.finish.1 <;> rfl
  | cons chunk rest inductionHypothesis =>
      exact congrArg (.ok (splitter.push chunk).1 :: ·) (inductionHypothesis _)

/-- A body that breaks off yields a group for each chunk before, then the failure. -/
theorem groups_failed
    (splitter : Splitter) (chunks : List Bytes) (failure : ε) (rest : List (Except ε Bytes)) :
    groups splitter (chunks.map .ok ++ .error failure :: rest) =
      (splitter.completions chunks).map .ok ++ [.error failure] := by
  induction chunks generalizing splitter with
  | nil => rfl
  | cons chunk others inductionHypothesis =>
      exact congrArg (.ok (splitter.push chunk).1 :: ·) (inductionHypothesis _)

/-- Wherever a stream is cut into chunks, its lines are the pieces between its newlines, without
a last piece that is empty. After every chunk the octets behind the last newline are pending, and
behind the end of the stream none. A body yields one group of lines for each chunk and the last
line, if the end brings one, as a group of its own; if it breaks off, it yields the lines that
were complete, the failure, and nothing more. -/
theorem framing_ignores_chunks (chunks : List Bytes) :
    let parts := chunks.flatten.splitOn newline
    let completions := Splitter.empty.completions chunks
    let last := (Splitter.empty.behind chunks).finish
    Splitter.empty.lines chunks =
        (if parts.getLast? = some [] then parts.dropLast else parts) ∧
      (∀ count, (Splitter.empty.behind (chunks.take count)).pending =
        ((chunks.take count).flatten.rtakeWhile (· != newline)).length) ∧
      last.2 = Splitter.empty ∧
      completions.length = chunks.length ∧
      completions.flatten ++ last.1.toList = Splitter.empty.lines chunks ∧
      groups Splitter.empty (chunks.map .ok : List (Except ε Bytes)) =
        completions.map .ok ++ last.1.toList.map (fun tail => .ok [tail]) ∧
      ∀ (failure : ε) (rest : List (Except ε Bytes)),
        groups Splitter.empty (chunks.map .ok ++ .error failure :: rest) =
            completions.map .ok ++ [.error failure] ∧
          completions.flatten = parts.dropLast := by
  intro parts completions last
  have cut : parts = completions.flatten ++ [(Splitter.empty.behind chunks).fragment] :=
    (pieces_eq_splitOn chunks.flatten).symm.trans (Splitter.pieces_flatten chunks)
  have completed : completions.flatten = parts.dropLast := by
    rw [cut, List.dropLast_concat]
  refine ⟨?_, ?_, Splitter.finish_eq_empty _, Splitter.length_completions _ _,
    (Splitter.lines_eq _ _).symm, groups_chunks _ _,
    fun failure rest => ⟨groups_failed _ _ failure rest, completed⟩⟩
  · rw [Splitter.lines_eq, Splitter.toList_finish]
    simp only [cut, List.getLast?_concat, List.dropLast_concat, Option.some_inj]
    split
    · exact List.append_nil _
    · rfl
  · intro count
    have incomplete := Splitter.fragment_push Splitter.isClean_empty (chunks.take count).flatten
    rw [Splitter.push_flatten, Splitter.fragment_empty, List.nil_append] at incomplete
    rw [Splitter.pending_eq_length, incomplete]
    rfl

end Line
end BlockFeed
