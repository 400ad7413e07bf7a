import BlockFeed.Proofs.Block
import BlockFeed.Proofs.Ndjson

/-!
# Bodies that are cut off

Wherever a body is cut off, the lines that are complete then hold the first
blocks of the whole body. This is so even if the cut looks like the end of the
body: the last line is then taken for complete, but unless only layout is
missing there it holds no block.
-/

namespace BlockFeed
namespace Ndjson

/-- A line that carries something stays so when it grows. -/
theorem isBlank_append {line : Bytes} (carries : Line.isBlank line = false) (more : Bytes) :
    Line.isBlank (line ++ more) = false := by
  unfold Line.isBlank at carries ⊢
  rw [List.all_append, carries, Bool.false_and]

/-- The block of a line that is cut off is that of the whole line. -/
theorem block_of_cut
    {line more : Bytes} {value whole : Block}
    (isBlock : block line = .ok value)
    (isWhole : block (line ++ more) = .ok whole) :
    whole = value := by
  unfold block at isBlock isWhole
  split at isBlock
  · next first read =>
      split at isWhole
      · next second readWhole =>
          cases isBlock
          cases isWhole
          exact Block.read_of_cut read readWhole
      · cases isWhole
  · cases isBlock

/-- Where all lines can be read, each one that carries something holds a
block. -/
theorem block_of_blocks
    {lines : List Bytes} {read : List Block}
    (isRead : blocks lines = .ok read)
    {line : Bytes}
    (mem : line ∈ lines)
    (carries : Line.isBlank line = false) :
    ∃ value, block line = .ok value := by
  have inTurn : ∀ {carried : List Bytes} {values : List Block},
      carried.mapM block = .ok values -> line ∈ carried -> ∃ value, block line = .ok value := by
    intro carried
    induction carried with
    | nil => nofun
    | cons first rest inductionHypothesis =>
        intro values isRead mem
        rw [mapM_block_cons] at isRead
        cases readFirst : block first with
        | error fault => simp [readFirst] at isRead
        | ok value =>
            cases readRest : rest.mapM block with
            | error fault => simp [readFirst, readRest] at isRead
            | ok others =>
                rcases List.mem_cons.mp mem with isFirst | isOther
                · exact ⟨value, isFirst ▸ readFirst⟩
                · exact inductionHypothesis readRest isOther
  refine inTurn isRead ?_
  exact List.mem_filter.mpr ⟨mem, by simp [carries]⟩

/-- What a line that is cut off holds is the beginning of what it would hold. -/
theorem readable_isPrefix
    {line more : Bytes}
    (isRead : Line.isBlank (line ++ more) = false ->
      ∃ value, block (line ++ more) = .ok value) :
    readable [line] <+: readable [line ++ more] := by
  cases blank : Line.isBlank line with
  | true =>
      rw [readable_singleton_of_blank blank]
      exact List.nil_prefix
  | false =>
      have carries := isBlank_append blank more
      obtain ⟨whole, isWhole⟩ := isRead carries
      rw [readable_singleton_of_carrying blank, readable_singleton_of_carrying carries,
        isWhole]
      cases isBlock : block line with
      | error fault => exact List.nil_prefix
      | ok value =>
          obtain rfl := block_of_cut isBlock isWhole
          exact List.prefix_refl _

/-- The lines of the beginning of a body hold the first of its blocks, whether or
not the beginning is taken for the whole. -/
theorem readable_completed_isPrefix
    {octets more : Bytes} {read : List Block}
    (isRead : ofBody (octets ++ more) = .ok read)
    (isWhole : Bool) :
    readable (Line.completed octets isWhole) <+: read := by
  have clean := Line.Splitter.isClean_empty.push octets
  generalize pushed : Line.Splitter.empty.push octets = pair at clean
  obtain ⟨lines, splitter⟩ := pair
  have cut : Line.pieces octets = lines ++ [splitter.fragment] := by
    have pieces := Line.Splitter.pieces_push Line.Splitter.isClean_empty octets []
    rw [pushed, Line.Splitter.fragment_empty, List.append_nil, List.append_nil,
      List.nil_append, Line.pieces_of_clean clean] at pieces
    exact pieces
  obtain ⟨piece, others, _, lengthened⟩ := Line.pieces_append_of_clean clean more
  have whole : Line.pieces (octets ++ more) =
      lines ++ (splitter.fragment ++ piece) :: others := by
    have pieces := Line.Splitter.pieces_push Line.Splitter.isClean_empty octets more
    rw [pushed, Line.Splitter.fragment_empty, List.nil_append, lengthened] at pieces
    exact pieces
  have readWhole : readable lines ++
      (readable [splitter.fragment ++ piece] ++ readable others) = read := by
    rw [← readable_of_blocks isRead, whole, ← readable_append, ← readable_append]
    rfl
  have lastLine : readable [splitter.fragment] <+: readable [splitter.fragment ++ piece] := by
    refine readable_isPrefix fun carries => block_of_blocks isRead ?_ carries
    rw [whole]
    simp
  rw [← readWhole]
  unfold Line.completed
  rw [cut]
  split
  · rw [readable_append]
    exact (List.prefix_append_right_inj _).mpr (lastLine.trans (List.prefix_append _ _))
  · rw [List.dropLast_concat]
    exact List.prefix_append _ _

end Ndjson
end BlockFeed
