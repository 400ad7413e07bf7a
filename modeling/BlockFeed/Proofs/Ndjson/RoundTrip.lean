import BlockFeed.Command
import BlockFeed.Proofs.Block.RoundTrip
import BlockFeed.Proofs.Json.Writing
import BlockFeed.Proofs.Line.Framing
import BlockFeed.Proofs.Ndjson

/-!
# Blocks that are written line by line

A block is written into one line, as its text holds no newline, and its line is not blank.
So the lines of some blocks are cut apart again, wherever their stream is cut into chunks,
and each of them holds its block.
-/

namespace BlockFeed
namespace Line

/-- A newline at the end of a stream opens one more line, which is empty. -/
theorem pieces_concat_newline (octets : Bytes) :
    pieces (octets ++ [newline]) = pieces octets ++ [[]] := by
  induction octets with
  | nil => rfl
  | cons octet rest inductionHypothesis =>
      by_cases ends : octet = newline
      · subst ends
        rw [List.cons_append, pieces_newline, pieces_newline, inductionHypothesis]
        rfl
      · obtain ⟨piece, others, split, lengthened⟩ := pieces_other ends rest
        obtain ⟨first, behind, split', whole⟩ := pieces_other ends (rest ++ [newline])
        rw [inductionHypothesis, split, List.cons_append, List.cons.injEq] at split'
        obtain ⟨rfl, rfl⟩ := split'
        rw [List.cons_append, whole, lengthened, List.cons_append]

end Line

namespace Ndjson

/-- The lines of some blocks, each with the newline that ends it. -/
def written (blocks : List Block) : Bytes :=
  blocks.flatMap fun block => Bytes.ofString (Command.blockLine block) ++ [Line.newline]

theorem carrying_concat_nil (lines : List Bytes) : carrying (lines ++ [[]]) = carrying lines := by
  rw [carrying_append]
  exact List.append_nil _

/-- However a stream is cut into chunks, the same lines carry something. -/
theorem carrying_lines
    {splitter : Line.Splitter}
    (clean : splitter.IsClean)
    (chunks : List Bytes) :
    carrying (splitter.lines chunks) =
      carrying (Line.pieces (splitter.fragment ++ chunks.flatten)) := by
  have cut := Line.Splitter.pieces_push clean chunks.flatten []
  have unfinished := Line.pieces_of_clean (clean.push chunks.flatten)
  rw [List.append_nil, List.append_nil, unfinished, Line.Splitter.push_flatten] at cut
  rw [cut, Line.Splitter.lines_eq, carrying_append, carrying_append, carrying_finish]

/-- A block is written into one line. -/
theorem newline_notMem_blockLine (block : Block) :
    Line.newline ∉ Bytes.ofString (Command.blockLine block) :=
  (Json.isClear_render block.toValue).newline_notMem

/-- The line of a block is not blank. -/
theorem isBlank_blockLine (block : Block) :
    Line.isBlank (Bytes.ofString (Command.blockLine block)) = false := by
  have octets := Json.Reader.octets_object (("header", block.header.toValue) :: block.data)
  have line : Bytes.ofString (Command.blockLine block) =
      (Json.Value.object (("header", block.header.toValue) :: block.data)).octets := rfl
  rw [line, octets, Line.isBlank, List.all_cons]
  rfl

/-- The pieces of what is written are the lines of the blocks and an empty one. -/
theorem pieces_written (blocks : List Block) :
    Line.pieces (written blocks) =
      blocks.map (fun block => Bytes.ofString (Command.blockLine block)) ++ [[]] := by
  induction blocks with
  | nil => rfl
  | cons block rest inductionHypothesis =>
      rw [written, List.flatMap_cons, List.append_assoc, List.singleton_append,
        Line.pieces_append_newline (newline_notMem_blockLine block)]
      exact congrArg _ inductionHypothesis

/-- The line of a block that can be read back holds it. -/
theorem block_blockLine
    {block : Block}
    (proper : block.IsProper)
    (readsBack : block.ReadsBack) :
    Ndjson.block (Bytes.ofString (Command.blockLine block)) = .ok block := by
  have read : Block.read (Bytes.ofString (Command.blockLine block)) = .ok block :=
    Block.read_octets proper readsBack
  rw [Ndjson.block, read]

/-- Every line of a block carries something. -/
theorem carrying_map_blockLine (values : List Block) :
    carrying (values.map fun block => Bytes.ofString (Command.blockLine block)) =
      values.map fun block => Bytes.ofString (Command.blockLine block) := by
  refine List.filter_eq_self.mpr fun line mem => ?_
  obtain ⟨block, _, rfl⟩ := List.mem_map.mp mem
  rw [isBlank_blockLine]
  rfl

/-- The lines of blocks that can be read back hold them. -/
theorem mapM_block_blockLine
    {values : List Block}
    (readBack : ∀ block ∈ values, block.IsProper ∧ block.ReadsBack) :
    (values.map fun block => Bytes.ofString (Command.blockLine block)).mapM block = .ok values := by
  induction values with
  | nil => rfl
  | cons value rest inductionHypothesis =>
      obtain ⟨proper, readsBack⟩ := readBack value (List.mem_cons_self ..)
      have others := inductionHypothesis fun other mem =>
        readBack other (List.mem_cons_of_mem _ mem)
      rw [List.map_cons, mapM_block_cons, block_blockLine proper readsBack, others]

/-- Every block that is read is proper. Blocks that are written line by line are read back, if
they are proper and whatever they carry along is read back where it stands, however the lines
are cut into chunks; the last newline may be missing. -/
theorem written_blocks_read_back :
    (∀ line block, Ndjson.block line = .ok block -> block.IsProper) ∧
    ∀ values : List Block, (∀ block ∈ values, block.IsProper ∧ block.ReadsBack) ->
      ∀ chunks : List Bytes,
        chunks.flatten = written values ∨ chunks.flatten ++ [Line.newline] = written values ->
        blocks (Line.Splitter.empty.lines chunks) = .ok values := by
  refine ⟨fun line block isBlock => ?_, fun values readBack chunks cut => ?_⟩
  · unfold Ndjson.block at isBlock
    split at isBlock
    · next isRead =>
        cases isBlock
        exact Block.isProper_of_read isRead
    · cases isBlock
  · have lines : carrying (Line.Splitter.empty.lines chunks) =
        carrying (Line.pieces chunks.flatten) := carrying_lines Line.Splitter.isClean_empty chunks
    have whole : carrying (Line.pieces chunks.flatten) =
        carrying (Line.pieces (written values)) := by
      rcases cut with all | missing
      · rw [all]
      · rw [← missing, Line.pieces_concat_newline, carrying_concat_nil]
    rw [blocks, lines, whole, pieces_written, carrying_concat_nil, carrying_map_blockLine]
    exact mapM_block_blockLine readBack

/-- Two blocks with nested values, an escaped newline and a field beside those of a header, cut
amid a key and amid a line, and without a newline at their end. -/
theorem written_blocks_read_back_of_two :
    let nested : Block := ⟨⟨7, "0xa", []⟩, [("logs", .array [.object
      [("data", .string "a\n"), ("index", .number (.natural 0))]])]⟩
    let dated : Block := ⟨⟨8, "", [("timestamp", .number (.natural 1700000000))]⟩,
      [("ok", .bool true)]⟩
    let chunks := ["\x7b\"header\":\x7b\"number\":7,\"ha", "sh\":\"0xa\"\x7d,\"logs\":[",
      "\x7b\"data\":\"a\\n\",\"index\":0\x7d]\x7d\n\x7b", "",
      "\"header\":\x7b\"number\":8,\"hash\":\"\",\"timestamp\":1700000000\x7d,",
      "\"ok\":true\x7d"].map Bytes.ofString
    nested.IsProper ∧ chunks.flatten ++ [Line.newline] = written [nested, dated] ∧
      blocks (Line.Splitter.empty.lines chunks) = .ok [nested, dated] := by
  intro nested dated chunks
  have cut : chunks.flatten ++ [Line.newline] = written [nested, dated] := by decide +kernel
  have nestedProper : nested.IsProper := ⟨⟨by decide, by decide⟩, by decide, by decide⟩
  have datedProper : dated.IsProper := ⟨⟨by decide, by decide⟩, by decide, by decide⟩
  have nestedReadsBack : nested.ReadsBack := by
    refine ⟨nofun, fun member mem => ?_⟩
    rw [List.mem_singleton.mp mem]
    refine Json.Value.Fits.readsBack (.array fun element mem => ?_)
    rw [List.mem_singleton.mp mem]
    refine .object (by decide) fun member mem => ?_
    rcases List.mem_pair.mp mem with rfl | rfl
    · exact .string _ "a\n"
    · exact .exact _ (.natural 0)
  have datedReadsBack : dated.ReadsBack := by
    refine ⟨fun member mem => ?_, fun member mem => ?_⟩
    · rw [List.mem_singleton.mp mem]
      exact (Json.Value.Fits.exact _ (.natural 1700000000)).readsBack
    · rw [List.mem_singleton.mp mem]
      exact (Json.Value.Fits.bool _ true).readsBack
  refine ⟨written_blocks_read_back.1 _ nested (block_blockLine nestedProper nestedReadsBack), cut,
    written_blocks_read_back.2 [nested, dated] (fun block mem => ?_) chunks (.inr cut)⟩
  rcases List.mem_cons.mp mem with rfl | mem
  · exact ⟨nestedProper, nestedReadsBack⟩
  · rw [List.mem_singleton.mp mem]
    exact ⟨datedProper, datedReadsBack⟩

end Ndjson
end BlockFeed
