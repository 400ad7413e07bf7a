import BlockFeed.Fault
import BlockFeed.Line

/-!
# Bodies of answers

A body arrives in chunks. It may break off with a fault, and then what came
before is of no use to those who want the whole of it.
-/

namespace BlockFeed

/-- The parts of a body in the order in which they arrive. -/
abbrev Body := List (Except Fault Bytes)

namespace Body

/-- The whole body, or the first fault. -/
def collect : Body -> Except Fault Bytes
  | [] => .ok []
  | .error fault :: _ => .error fault
  | .ok chunk :: rest => (collect rest).map (chunk ++ ·)

@[simp] theorem collect_nil : collect [] = .ok [] := rfl

@[simp] theorem collect_chunks (chunks : List Bytes) :
    collect (chunks.map .ok) = .ok chunks.flatten := by
  induction chunks with
  | nil => rfl
  | cons chunk rest inductionHypothesis =>
      simp [collect, inductionHypothesis, Except.map]

end Body

/-- An answer: its status and its body. -/
structure Response where
  status : UInt16
  body : Body

namespace Response

/-- How an answer is named to a reader. -/
def describe (response : Response) : String :=
  "PortalResponse \x7b status: " ++ toString response.status.toNat ++ ", .. \x7d"

/-- The whole body of an answer. -/
def bytes (response : Response) : Except Fault Bytes :=
  response.body.collect

end Response
end BlockFeed
