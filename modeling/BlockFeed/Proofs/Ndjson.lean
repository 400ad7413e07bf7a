import BlockFeed.Ndjson
import BlockFeed.Proofs.Line

/-!
# The blocks that lines hold

Lines that hold no block are passed over here, so that every list of lines has
its blocks. Where a group of lines can be read as a whole, these are the blocks
of its portion.
-/

namespace BlockFeed
namespace Ndjson

/-- The blocks that can be read from lines. -/
def readable (lines : List Bytes) : List Block :=
  (carrying lines).filterMap fun line => (block line).toOption

@[simp] theorem carrying_append (left right : List Bytes) :
    carrying (left ++ right) = carrying left ++ carrying right :=
  List.filter_append ..

@[simp] theorem readable_append (left right : List Bytes) :
    readable (left ++ right) = readable left ++ readable right := by
  simp [readable]

theorem readable_singleton_of_blank {line : Bytes} (blank : Line.isBlank line = true) :
    readable [line] = [] := by
  simp [readable, carrying, blank]

theorem readable_singleton_of_carrying {line : Bytes} (carries : Line.isBlank line = false) :
    readable [line] = (block line).toOption.toList := by
  cases read : (block line).toOption <;> simp [readable, carrying, carries, read]

/-- What reading lines in turn comes to: the first fault, or all blocks. -/
theorem mapM_block_cons (line : Bytes) (rest : List Bytes) :
    (line :: rest).mapM block =
      match block line, rest.mapM block with
      | .error fault, _ => .error fault
      | .ok _, .error fault => .error fault
      | .ok first, .ok others => .ok (first :: others) := by
  rw [List.mapM_cons]
  cases block line with
  | error fault => rfl
  | ok first => cases rest.mapM block <;> rfl

/-- If every line can be read, the blocks are those that are read. -/
theorem filterMap_block_of_mapM
    {lines : List Bytes} {blocks : List Block}
    (read : lines.mapM block = .ok blocks) :
    lines.filterMap (fun line => (block line).toOption) = blocks := by
  induction lines generalizing blocks with
  | nil =>
      cases read
      rfl
  | cons line rest inductionHypothesis =>
      rw [mapM_block_cons] at read
      cases first : block line with
      | error fault => simp [first] at read
      | ok value =>
          cases others : rest.mapM block with
          | error fault => simp [first, others] at read
          | ok values =>
              simp only [first, others, Except.ok.injEq] at read
              have isSome : (block line).toOption = some value := by rw [first]; rfl
              rw [← read, List.filterMap_cons, isSome, inductionHypothesis others]

/-- Reading lines fails only because one of them is no block. -/
theorem isCancelled_of_mapM
    {lines : List Bytes} {fault : Fault}
    (spoiled : lines.mapM block = .error fault) :
    fault.isCancelled = false := by
  induction lines with
  | nil => cases spoiled
  | cons line rest inductionHypothesis =>
      rw [mapM_block_cons] at spoiled
      cases first : block line with
      | error problem =>
          simp only [first, Except.error.injEq] at spoiled
          unfold block at first
          split at first
          · cases first
          · rw [← spoiled, ← Except.error.inj first]
            rfl
      | ok value =>
          cases others : rest.mapM block with
          | error problem =>
              simp only [first, others, Except.error.injEq] at spoiled
              exact inductionHypothesis (spoiled ▸ others)
          | ok values => simp [first, others] at spoiled

/-- Lines that can be read as a whole hold the blocks that are read. -/
theorem readable_of_blocks
    {lines : List Bytes} {read : List Block}
    (isRead : blocks lines = .ok read) :
    readable lines = read :=
  filterMap_block_of_mapM isRead

/-- The blocks of a portion are those of its lines. -/
theorem blocks_of_portion
    {lines : List Bytes} {part : Portion}
    (isRead : portion lines = .ok part) :
    readable lines = part.blocks := by
  cases read : blocks lines with
  | error fault => simp [portion, read, Except.map] at isRead
  | ok values =>
      simp only [portion, read, Except.map, Except.ok.injEq] at isRead
      rw [← isRead]
      exact readable_of_blocks read

/-- At the end of a stream, the same lines carry something whether or not the incomplete one
is handed out when it is empty. -/
theorem carrying_finish (splitter : Line.Splitter) :
    carrying splitter.finish.1.toList = carrying [splitter.fragment] := by
  unfold Line.Splitter.finish
  split
  · next empty =>
      have nothing : splitter.fragment = [] := by
        simpa [Line.Splitter.fragment] using empty
      rw [nothing]
      rfl
  · rfl

/-- The incomplete line at the end of a stream holds the same blocks whether or
not it is handed out when it is empty. -/
theorem readable_finish (splitter : Line.Splitter) :
    readable splitter.finish.1.toList = readable [splitter.fragment] := by
  rw [readable, carrying_finish, readable]

/-- Every fault of a line reports that it is no block. -/
theorem isCancelled_of_portion
    {lines : List Bytes} {fault : Fault}
    (spoiled : portion lines = .error fault) :
    fault.isCancelled = false := by
  cases read : blocks lines with
  | ok values => simp [portion, read, Except.map] at spoiled
  | error problem =>
      simp only [portion, read, Except.map, Except.error.injEq] at spoiled
      exact isCancelled_of_mapM (spoiled ▸ read)

end Ndjson
end BlockFeed
