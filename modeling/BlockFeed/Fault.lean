import BlockFeed.Json.Problem
import BlockFeed.Text.Utf8
import BlockFeed.Time

/-!
# What can go wrong

A fault says why a request or a stream of blocks did not succeed. Only faults
that a later attempt may not meet again are worth a retry: the request got no
answer, or the answer says that the portal is busy.
-/

namespace BlockFeed

/-- Why a request or a stream did not succeed. -/
inductive Fault
  /-- The request failed below the level of answers. -/
  | http (reason : String)
  /-- No answer, or no further part of it, came in time. -/
  | timeout (limit : Nat)
  /-- The portal answered with a status that has no meaning here. -/
  | unexpectedStatus (status : Nat) (url : String)
  /-- The height is not a decimal number of 64 bits. -/
  | invalidHeight (body : String)
  /-- A line is not a block; only its beginning is kept. -/
  | malformedBlock (line : String) (problem : Json.Problem)
  /-- The caller called the operation off. -/
  | cancelled
  /-- The address of the portal cannot be used. -/
  | invalidUrl (reason : String)
  | other (reason : String)
  deriving DecidableEq

namespace Fault

/-- How many octets of a malformed line are kept. -/
def previewLength : Nat := 256

/-- The fault of a line that is not a block. -/
def malformed (line : Bytes) (problem : Json.Problem) : Fault :=
  .malformedBlock (Utf8.lossy (line.take previewLength)) problem

/-- The sentence that reports a fault. -/
def message : Fault -> String
  | .http reason => "HTTP error: " ++ reason
  | .timeout limit => "Request timed out after " ++ toString limit ++ "ms"
  | .unexpectedStatus status url =>
      "Unexpected HTTP status " ++ toString status ++ " from " ++ url
  | .invalidHeight body => "Invalid finalized height: " ++ Text.quoted body
  | .malformedBlock line problem =>
      "Malformed block line " ++ Text.quoted line ++ ": " ++ problem.message
  | .cancelled => "Cancelled"
  | .invalidUrl reason => "Invalid portal URL: " ++ reason
  | .other reason => reason

/-- The broad classes of faults. -/
inductive Kind
  | transport
  | protocol
  | parse
  | cancelled
  | other
  deriving DecidableEq, Repr

/-- The name of a class of faults. -/
def Kind.name : Kind -> String
  | .transport => "transport"
  | .protocol => "protocol"
  | .parse => "parse"
  | .cancelled => "cancelled"
  | .other => "other"

/-- The class of a fault. -/
def kind : Fault -> Kind
  | .http _ => .transport
  | .timeout _ => .transport
  | .unexpectedStatus _ _ => .protocol
  | .invalidHeight _ => .parse
  | .malformedBlock _ _ => .parse
  | .cancelled => .cancelled
  | .invalidUrl _ => .other
  | .other _ => .other

/-- Whether a status says that the portal is busy and may answer later: too many
requests, or trouble at a gateway. -/
def isBusyStatus (status : Nat) : Bool :=
  status == 429 || status == 502 || status == 503 || status == 504

/-- Whether another attempt may succeed. -/
def isRetryable : Fault -> Bool
  | .http _ => true
  | .timeout _ => true
  | .unexpectedStatus status _ => isBusyStatus status
  | _ => false

/-- Whether a fault only reports that the caller called the operation off. -/
def isCancelled : Fault -> Bool
  | .cancelled => true
  | _ => false

@[simp] theorem isCancelled_iff (fault : Fault) :
    fault.isCancelled = true ↔ fault = .cancelled := by
  cases fault <;> simp [isCancelled]

end Fault
end BlockFeed
