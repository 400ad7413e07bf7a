import BlockFeed.Cancellation
import BlockFeed.Time

/-!
# Options of a request

Every request may carry headers, override how it is retried and how long it may
take, and be bound to a token that calls it off. An option that is not given
leaves the decision to the transport.
-/

namespace BlockFeed

/-- Options of one request. -/
structure RequestOptions where
  /-- Headers that are sent in this order, names and values. -/
  headers : List (String × String) := []
  /-- Number of retries after the first attempt. -/
  retryAttempts : Option UInt32 := none
  /-- Delays before the retries; the last one repeats. -/
  retrySchedule : Option (List Duration) := none
  /-- Longest wait for the head of an answer. -/
  httpTimeout : Option Duration := none
  /-- Longest wait for each part of a body. -/
  bodyTimeout : Option Duration := none
  /-- Token that calls the request off. -/
  abort : Option Token := none
  deriving DecidableEq, Repr

namespace RequestOptions

/-- Add a header behind the others. -/
def withHeader (options : RequestOptions) (name value : String) : RequestOptions :=
  { options with headers := options.headers ++ [(name, value)] }

/-- The same options bound to a token. -/
def withAbort (options : RequestOptions) (token : Token) : RequestOptions :=
  { options with abort := some token }

/-- Whether the token of the options has been cancelled. -/
def isAborted (options : RequestOptions) (tokens : Tokens) : Bool :=
  options.abort.any tokens.isCancelled

end RequestOptions
end BlockFeed
