import BlockFeed.Body
import BlockFeed.Options
import BlockFeed.Portal

/-!
# Requests that are retried

A request is sent over a wire that may answer, fail, or stay silent. An attempt
that failed for a passing reason is made again after a pause, as often as the
policy allows. Waiting for the head of an answer and for each part of its body
is limited, and a token that fires calls off whatever is being waited for.
-/

namespace BlockFeed
namespace Http

/-- How a request is made. -/
inductive Method
  | get
  | post
  deriving DecidableEq, Repr

/-- A request as it is sent. -/
structure Message where
  method : Method
  address : String
  headers : List (String × String)
  /-- The JSON document that is sent along. -/
  body : Option Json.Value

/-- A body as it arrives: its parts, and the wait for its end after them, which
may be forever. -/
structure Source where
  parts : List (Timed (Except Fault Bytes))
  ending : Option Duration

/-- The head of an answer, and its body. -/
structure Arrival where
  status : UInt16
  source : Source

/-- How a wire reacts to a request. -/
inductive Reaction
  /-- There is no way to send it. -/
  | unsendable (reason : String)
  /-- It fails after some time. -/
  | broken (delay : Duration) (reason : String)
  /-- Nothing is ever heard. -/
  | silent
  | answered (delay : Duration) (arrival : Arrival)

/-- A wire, known by its reactions to the attempts made on it. -/
abbrev Wire := Nat -> Message -> Reaction

/-! ## Waiting -/

/-- How a wait ended, and when. -/
inductive Awaited
  | arrived (instant : Instant)
  | timedOut (instant : Instant)
  | aborted (instant : Instant)
  /-- The wait has no end. -/
  | forever
  deriving DecidableEq, Repr

/-- Wait from `now` on for something that arrives after a delay, for at most a
limit, and not beyond the instant of an abort. An abort comes before what
happens at the same instant, and an arrival before a limit. -/
def await (now : Instant) (delay limit : Option Duration) (abort : Option Instant) :
    Awaited :=
  let arrival := delay.map (now + ·)
  let timeout := limit.map (now + ·)
  match abort.map (max now), Instant.earliest arrival timeout with
  | some fired, some ending =>
      if fired ≤ ending then .aborted fired
      else if arrival == some ending then .arrived ending
      else .timedOut ending
  | some fired, none => .aborted fired
  | none, some ending => if arrival == some ending then .arrived ending else .timedOut ending
  | none, none => .forever

/-- The fault of a wait that was too long. -/
def tooLong (limit : Option Duration) : Fault :=
  .timeout ((limit.map Duration.millis).getD 0 % UInt64.size)

/-! ## Attempts -/

/-- An attempt that was made. -/
structure Attempt where
  instant : Instant
  message : Message

/-- The attempts that have been made, and the time it is. -/
structure Journal where
  now : Instant
  attempts : List Attempt

/-- What came of something, or nothing if it never ends. -/
abbrev Outcome (α : Type) := Option (Except Fault α)

/-- What does not change during a call. -/
structure Call where
  wire : Wire
  message : Message
  policy : Retry.Policy
  /-- Longest wait for the head of an answer. -/
  httpTimeout : Option Duration
  /-- Longest wait for each part of a body. -/
  bodyTimeout : Option Duration
  /-- When the call's token fires, if it does. -/
  abort : Option Instant

/-- Whether a status reports success. -/
def isSuccess (status : UInt16) : Bool := 200 ≤ status && status ≤ 299

/-- What an answer means for the attempt that it answers. -/
def judge (message : Message) (arrival : Arrival) : Except Fault Arrival :=
  if isSuccess arrival.status then .ok arrival
  else .error (.unexpectedStatus arrival.status.toNat message.address)

/-- What is heard and after how long, if anything ever is. -/
def Reaction.heard? (message : Message) :
    Reaction -> Option (Duration × Except Fault Arrival)
  | .unsendable reason => some (0, .error (.http reason))
  | .broken delay reason => some (delay, .error (.http reason))
  | .silent => none
  | .answered delay arrival => some (delay, judge message arrival)

/-- Whether the token of a call has fired by an instant. -/
def isFired (abort : Option Instant) (now : Instant) : Bool :=
  Instant.reached now abort

/-- Make one attempt. -/
def attempt (call : Call) (journal : Journal) : Outcome Arrival × Journal :=
  if isFired call.abort journal.now then (some (.error .cancelled), journal)
  else
    let heard := (call.wire journal.attempts.length call.message).heard? call.message
    let sent := { journal with attempts := journal.attempts ++ [⟨journal.now, call.message⟩] }
    match await journal.now (heard.map Prod.fst) call.httpTimeout call.abort with
    | .arrived instant => (heard.map Prod.snd, { sent with now := instant })
    | .timedOut instant =>
        (some (.error (tooLong call.httpTimeout)), { sent with now := instant })
    | .aborted instant => (some (.error .cancelled), { sent with now := instant })
    | .forever => (none, sent)

/-- Make attempts, the first of which is number `number`, until one succeeds or
fails for good. At most `retries` more are made after the first. -/
def attempts (call : Call) : (retries : Nat) -> (number : UInt32) -> Journal ->
    Outcome Arrival × Journal
  | retries, number, journal =>
      match attempt call journal with
      | (some (.error fault), after) =>
          if fault.isRetryable then
            match retries, call.policy.delay? number with
            | left + 1, some pause =>
                match await after.now (some pause) none call.abort with
                | .arrived instant =>
                    attempts call left (number + 1) { after with now := instant }
                | .aborted instant =>
                    (some (.error .cancelled), { after with now := instant })
                | _ => (none, after)
            | _, _ => (some (.error fault), after)
          else (some (.error fault), after)
      | result => result

/-- Send a request, and again as often as its policy allows. -/
def exchange (call : Call) (journal : Journal) : Outcome Arrival × Journal :=
  attempts call call.policy.backoff.maxRetries.toNat 1 journal

/-! ## Bodies -/

/-- A body that breaks off with a fault where a wait is longer than a limit. -/
def Source.limited (limit : Duration) (source : Source) : Source :=
  go source.ending source.parts
where
  /-- Limit the waits for the parts of a body and for its end. -/
  go (ending : Option Duration) : List (Timed (Except Fault Bytes)) -> Source
    | [] =>
        if ending.any (· ≤ limit) then ⟨[], ending⟩
        else ⟨[⟨limit, .error (tooLong (some limit))⟩], some 0⟩
    | part :: rest =>
        if part.delay ≤ limit then
          let limited := go ending rest
          ⟨part :: limited.parts, limited.ending⟩
        else ⟨[⟨limit, .error (tooLong (some limit))⟩], some 0⟩

/-- The body of an answer as a call hands it on. -/
def bodyOf (call : Call) (arrival : Arrival) : Source :=
  match call.bodyTimeout with
  | some limit => arrival.source.limited limit
  | none => arrival.source

/-- Read a body to its end or to the first fault. -/
def readAll (ending : Option Duration) (abort : Option Instant) :
    Instant -> List (Timed (Except Fault Bytes)) -> Outcome Bytes × Instant
  | now, [] =>
      match await now ending none abort with
      | .arrived instant => (some (.ok []), instant)
      | .aborted instant => (some (.error .cancelled), instant)
      | _ => (none, now)
  | now, part :: rest =>
      match await now (some part.delay) none abort with
      | .arrived instant =>
          match part.content with
          | .error fault => (some (.error fault), instant)
          | .ok chunk =>
              let (outcome, last) := readAll ending abort instant rest
              (outcome.map (·.map (chunk ++ ·)), last)
      | .aborted instant => (some (.error .cancelled), instant)
      | _ => (none, now)

/-- Read the body of an answer. -/
def readBody (call : Call) (abort : Option Instant) (arrival : Arrival) (journal : Journal) :
    Outcome Bytes × Journal :=
  let source := bodyOf call arrival
  let (outcome, instant) := readAll source.ending abort journal.now source.parts
  (outcome, { journal with now := instant })

/-! ## Calls -/

/-- The text that octets stand for. -/
def textOf (bytes : Bytes) : Except Fault String :=
  match bytes.toString? with
  | some text => .ok text
  | none =>
      .error (.http ("non UTF-8 body: " ++
        ((Utf8.damage? bytes).map Utf8.Damage.message).getD ""))

/-- Ask for a text. The token of the call calls off the reading of the body as
well. -/
def getText (call : Call) (journal : Journal) : Outcome String × Journal :=
  match exchange call journal with
  | (some (.ok arrival), after) =>
      let (outcome, last) := readBody call call.abort arrival after
      (outcome.map (·.bind textOf), last)
  | (some (.error fault), after) => (some (.error fault), after)
  | (none, after) => (none, after)

/-- Post a document. The body of the answer is handed on as it arrives. -/
def post (call : Call) (journal : Journal) : Outcome Arrival × Journal :=
  match exchange call journal with
  | (some (.ok arrival), after) =>
      (some (.ok { arrival with source := bodyOf call arrival }), after)
  | result => result

/-- Post a document and read the whole answer. The token of the call is not
looked at while the body is read. -/
def postBuffered (call : Call) (journal : Journal) : Outcome (UInt16 × Bytes) × Journal :=
  match exchange call journal with
  | (some (.ok arrival), after) =>
      let (outcome, last) := readBody call none arrival after
      (outcome.map (·.map fun bytes => (arrival.status, bytes)), last)
  | (some (.error fault), after) => (some (.error fault), after)
  | (none, after) => (none, after)

end Http
end BlockFeed
