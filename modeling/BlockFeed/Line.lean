import BlockFeed.Bytes
import BlockFeed.Text.Blank

/-!
# Cutting a byte stream into lines

A splitter is fed a stream chunk by chunk. It returns each line as soon as the
newline that ends it has arrived and holds the octets of the line that is still
incomplete. Beside it stands the plain meaning of lines: the pieces of a whole
sequence of octets between its newlines.
-/

namespace BlockFeed
namespace Line

/-- The octet that ends a line. -/
def newline : UInt8 := 0x0a

/-- The pieces of a sequence of octets between its newlines. There is always a
last piece, which may be empty. -/
def pieces : Bytes -> List Bytes
  | [] => [[]]
  | octet :: rest =>
      if octet == newline then [] :: pieces rest
      else
        match pieces rest with
        | [] => [[octet]]
        | piece :: others => (octet :: piece) :: others

/-- Whether a line holds nothing but ASCII blanks. -/
def isBlank (line : Bytes) : Bool :=
  line.all Text.isBlankOctet

/-- A stream that is being cut into lines: the octets of its incomplete line,
the latest first. -/
structure Splitter where
  reversed : Bytes
  deriving DecidableEq, Repr

namespace Splitter

/-- A splitter at the beginning of a stream. -/
def empty : Splitter := ⟨[]⟩

/-- The octets of the incomplete line. -/
def fragment (splitter : Splitter) : Bytes :=
  splitter.reversed.reverse

/-- How many octets of an incomplete line are held. -/
def pending (splitter : Splitter) : Nat :=
  splitter.reversed.length

/-- Feed a chunk: the lines that it completes, without their newlines, and the
splitter behind it. -/
def push (splitter : Splitter) : Bytes -> List Bytes × Splitter
  | [] => ([], splitter)
  | octet :: rest =>
      if octet == newline then
        let (lines, last) := push empty rest
        (splitter.fragment :: lines, last)
      else push ⟨octet :: splitter.reversed⟩ rest

/-- End the stream: the incomplete line, if it holds anything, is the last
one. -/
def finish (splitter : Splitter) : Option Bytes × Splitter :=
  if splitter.reversed.isEmpty then (none, splitter)
  else (some splitter.fragment, empty)

@[simp] theorem fragment_empty : empty.fragment = [] := rfl

@[simp] theorem pending_empty : empty.pending = 0 := rfl

@[simp] theorem push_nil (splitter : Splitter) :
    splitter.push [] = ([], splitter) := by
  rw [push]

theorem push_newline (splitter : Splitter) (rest : Bytes) :
    splitter.push (newline :: rest) =
      (splitter.fragment :: (empty.push rest).1, (empty.push rest).2) := by
  rw [push]
  rfl

theorem push_other
    (splitter : Splitter)
    (octet : UInt8)
    (rest : Bytes)
    (other : octet ≠ newline) :
    splitter.push (octet :: rest) =
      Splitter.push ⟨octet :: splitter.reversed⟩ rest := by
  rw [push]
  simp [other]

/-- Cutting a stream in two makes no difference to its lines. -/
theorem push_append (splitter : Splitter) (left right : Bytes) :
    splitter.push (left ++ right) =
      ((splitter.push left).1 ++ ((splitter.push left).2.push right).1,
        ((splitter.push left).2.push right).2) := by
  induction left generalizing splitter with
  | nil => simp
  | cons octet left inductionHypothesis =>
      by_cases equal : octet = newline
      · subst equal
        simp only [List.cons_append, push_newline, inductionHypothesis]
      · rw [List.cons_append, push_other _ _ _ equal, push_other _ _ _ equal,
          inductionHypothesis]

end Splitter

/-- What a stream of chunks yields: one group of lines for each chunk, and the
unfinished last line as a group of its own. A failure ends the stream, and
whatever was unfinished is dropped. -/
def groups (splitter : Splitter) : List (Except ε Bytes) -> List (Except ε (List Bytes))
  | [] =>
      match splitter.finish.1 with
      | some tail => [.ok [tail]]
      | none => []
  | .error failure :: _ => [.error failure]
  | .ok chunk :: rest =>
      let (lines, next) := splitter.push chunk
      .ok lines :: groups next rest

end Line
end BlockFeed
