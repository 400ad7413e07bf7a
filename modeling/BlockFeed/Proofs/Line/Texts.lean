import BlockFeed.Proofs.Bytes
import BlockFeed.Proofs.Line.Framing

/-!
# Lines of texts

The octet that ends a line is the form of one character and part of no other one. So the
pieces of a text's octets are the forms of the text's own lines, and each of them is a text
again, even where chunks were cut inside of a character.
-/

namespace BlockFeed
namespace Line

/-- The pieces of a text's octets are the forms of what its newline characters cut it into. -/
theorem pieces_ofChars (characters : List Char) :
    pieces (Bytes.ofChars characters) = (characters.splitOn '\n').map Bytes.ofChars := by
  induction characters with
  | nil => rfl
  | cons character rest inductionHypothesis =>
      rw [List.splitOn_cons_eq_if_modifyHead]
      by_cases ends : character = '\n'
      · subst ends
        rw [Bytes.ofChars_newline, pieces_newline, inductionHypothesis,
          if_pos (beq_self_eq_true '\n')]
        rfl
      · -- Any other character lengthens the first line, in the text and in its octets.
        have clean : newline ∉ String.utf8EncodeChar character :=
          fun mem => ends (Bytes.newline_mem_utf8EncodeChar.mp mem)
        obtain ⟨piece, others, split, lengthened⟩ :=
          pieces_append_of_clean clean (Bytes.ofChars rest)
        rw [inductionHypothesis, List.map_eq_cons_iff] at split
        obtain ⟨line, lines, split, rfl, rfl⟩ := split
        rw [Bytes.ofChars_cons, lengthened, if_neg (by simpa using ends), split]
        rfl

/-- What the newline characters of a text cut it into. -/
def textPieces (text : String) : List String :=
  (text.toList.splitOn '\n').map String.ofList

theorem pieces_ofString (text : String) :
    pieces (Bytes.ofString text) = (textPieces text).map Bytes.ofString := by
  rw [Bytes.ofString, pieces_ofChars, textPieces, List.map_map]
  refine List.map_congr_left fun line _ => ?_
  rw [Function.comp_apply, Bytes.ofString, String.toList_ofList]

/-- However the octets of a text are cut into chunks, also inside of characters, its lines are
the forms of what its newline characters cut it into, without a last part that is empty. So
every line is a text. All lines but the last part are there before the stream ends. -/
theorem texts_keep_their_lines
    (text : String)
    (chunks : List Bytes)
    (cut : chunks.flatten = Bytes.ofString text) :
    let parts := textPieces text
    let lines := Splitter.empty.lines chunks
    lines = (if parts.getLast? = some "" then parts.dropLast else parts).map Bytes.ofString ∧
      (∀ line ∈ lines, line.toByteArray.IsValidUTF8) ∧
      (Splitter.empty.completions chunks).flatten = parts.dropLast.map Bytes.ofString := by
  intro parts lines
  have pieces : parts.map Bytes.ofString =
      (Splitter.empty.completions chunks).flatten ++
        [(Splitter.empty.behind chunks).fragment] := by
    rw [← pieces_ofString, ← cut, Splitter.pieces_flatten]
  -- The last part of the text is the line that is incomplete behind the chunks.
  obtain ⟨earlier, rest, split, completed, remains⟩ := List.map_eq_append_iff.mp pieces
  obtain ⟨latest, rfl, incomplete⟩ := List.map_eq_singleton_iff.mp remains
  have isEmpty : Bytes.ofString latest = [] ↔ latest = "" := @Bytes.ofString_inj latest ""
  have whole : lines =
      (if parts.getLast? = some "" then parts.dropLast else parts).map Bytes.ofString := by
    change Splitter.lines _ _ = _
    rw [Splitter.lines_eq, Splitter.toList_finish, ← incomplete, ← completed, split,
      List.getLast?_concat, List.dropLast_concat]
    simp only [isEmpty, Option.some_inj]
    split
    · exact List.append_nil _
    · rw [List.map_append]
      rfl
  refine ⟨whole, ?_, ?_⟩
  · intro line mem
    rw [whole] at mem
    obtain ⟨part, _, rfl⟩ := List.mem_map.mp mem
    rw [Bytes.toByteArray_ofString]
    exact part.isValidUTF8
  · rw [← completed, split, List.dropLast_concat]

/-- Chunks that end inside of a character keep the lines on both sides of a newline. -/
theorem texts_keep_their_lines_of_torn_characters :
    let chunks : List Bytes := [[0xc3], [0xbc, 0x0a, 0xe2], [0x82, 0xac]]
    chunks.flatten = Bytes.ofString "ü\n€" ∧
      Splitter.empty.lines chunks = [Bytes.ofString "ü", Bytes.ofString "€"] := by
  intro chunks
  have cut : chunks.flatten = Bytes.ofString "ü\n€" := by decide +kernel
  exact ⟨cut, (texts_keep_their_lines "ü\n€" chunks cut).1.trans (by decide +kernel)⟩

end Line
end BlockFeed
