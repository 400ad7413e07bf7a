import BlockFeed.Buffer

/-!
# Many callers of one buffer

Producers and consumers call the same buffer at the same time. A call proceeds
by small steps, and the steps of several calls may be interleaved in any order.
Before a caller looks at the buffer it begins to listen; from then on a signal
reaches it even if it has not fallen asleep yet. Whoever changes the buffer
signals the callers whom the change may concern.

Time and the small steps are chosen from outside. One such choice is made by
`settle` and `sleep`: the oldest caller that can proceed does so, and the clock
moves only when nobody can.
-/

namespace BlockFeed
namespace Buffer

/-- What a caller asks for. -/
inductive Call (α : Type)
  | put (blocks : List α) (bytes : Nat)
  | take
  deriving DecidableEq

/-- How far a call has come. -/
inductive Stage
  /-- Nothing has been done. -/
  | arriving
  /-- About to listen. -/
  | turning
  /-- Listening and about to look at the buffer. -/
  | looking
  /-- Listening and asleep, at most until an instant. -/
  | asleep (wake : Option Instant)
  deriving DecidableEq, Repr

/-- A call in progress. -/
structure Caller (α : Type) where
  id : Nat
  call : Call α
  stage : Stage
  /-- Whether a signal came since the caller began to listen. -/
  signalled : Bool
  /-- For a put, the releases that had been made when its blocks were added. -/
  ticket : Nat
  /-- For a take, the instant until which it waits. -/
  deadline : Option Instant
  deriving DecidableEq

/-- What came of a call that is over. -/
inductive Outcome (α : Type)
  | put
  | took (result : Take α)
  deriving DecidableEq

/-- A call that is over. -/
structure Completion (α : Type) where
  id : Nat
  instant : Instant
  outcome : Outcome α
  deriving DecidableEq

/-- A buffer with its callers. -/
structure Crowd (α : Type) where
  buffer : Buffer α
  now : Instant
  /-- The calls in progress, the oldest first. -/
  callers : List (Caller α)
  /-- The calls that are over, in the order in which they ended. -/
  completions : List (Completion α)

namespace Caller

/-- A call that is about to begin. -/
def create (id : Nat) (call : Call α) : Caller α where
  id := id
  call := call
  stage := .arriving
  signalled := false
  ticket := 0
  deadline := none

/-- Whether the caller is a consumer. -/
def isTake (caller : Caller α) : Bool :=
  match caller.call with
  | .take => true
  | .put _ _ => false

/-- Whether signals reach the caller. -/
def isListening (caller : Caller α) : Bool :=
  match caller.stage with
  | .looking => true
  | .asleep _ => true
  | _ => false

/-- The caller after a signal. -/
def signal (caller : Caller α) : Caller α :=
  { caller with signalled := caller.signalled || caller.isListening }

/-- Whether the caller can proceed at an instant. -/
def canProceed (caller : Caller α) (now : Instant) : Bool :=
  match caller.stage with
  | .asleep wake => caller.signalled || Instant.reached now wake
  | _ => true

/-- The instant at which a sleeping caller wakes by itself. -/
def wake? (caller : Caller α) : Option Instant :=
  match caller.stage with
  | .asleep wake => wake
  | _ => none

end Caller

/-- Whom a change of the buffer concerns. -/
inductive Signal
  | none
  | takes
  | puts
  | all
  deriving DecidableEq, Repr

/-- Whether a signal is meant for a caller. -/
def Signal.concerns (signal : Signal) (caller : Caller α) : Bool :=
  match signal with
  | .none => false
  | .takes => caller.isTake
  | .puts => !caller.isTake
  | .all => true

/-- What one small step of a caller does: it changes the buffer, signals others,
and either goes on or is over. -/
structure Advance (α : Type) where
  buffer : Buffer α
  signal : Signal
  next : Caller α ⊕ Outcome α

namespace Caller

/-- The caller at another stage. -/
def goTo (caller : Caller α) (stage : Stage) : Caller α :=
  { caller with stage := stage }

/-- A put adds its blocks. -/
def beginPut
    (caller : Caller α)
    (buffer : Buffer α)
    (now : Instant)
    (blocks : List α)
    (bytes : Nat) : Advance α :=
  let (put, filled) := buffer.put now blocks bytes
  { buffer := filled
    signal := if buffer.isRunning then .takes else .none
    next :=
      match put with
      | .settled => .inr .put
      | .held ticket => .inl { caller with stage := .turning, ticket := ticket } }

/-- A take sets its deadline. -/
def beginTake (caller : Caller α) (buffer : Buffer α) (now : Instant) : Advance α :=
  { buffer := buffer
    signal := .none
    next :=
      match buffer.patienceDeadline now with
      | .ok deadline => .inl { caller with stage := .turning, deadline := deadline }
      | .error _ => .inr (.took .overflow) }

/-- A put looks whether it is still held back. -/
def lookPut (caller : Caller α) (buffer : Buffer α) : Advance α :=
  { buffer := buffer
    signal := .none
    next :=
      if buffer.admits caller.ticket then .inr .put
      else .inl (caller.goTo (.asleep none)) }

/-- A take tries to take the unit out. -/
def lookTake (caller : Caller α) (buffer : Buffer α) (now : Instant) : Advance α :=
  let (result, rest) := buffer.take now caller.deadline
  match result with
  | .waiting wake =>
      ⟨rest, .none, .inl (caller.goTo (.asleep wake))⟩
  | .released blocks =>
      ⟨rest, if buffer.isRunning then .puts else .none, .inr (.took (.released blocks))⟩
  | .ended => ⟨rest, .none, .inr (.took .ended)⟩
  | .failed fault => ⟨rest, .none, .inr (.took (.failed fault))⟩
  | .overflow => ⟨rest, .none, .inr (.took .overflow)⟩

/-- One small step of a caller who can proceed. -/
def advance (caller : Caller α) (buffer : Buffer α) (now : Instant) : Advance α :=
  match caller.stage with
  | .arriving =>
      match caller.call with
      | .put blocks bytes => caller.beginPut buffer now blocks bytes
      | .take => caller.beginTake buffer now
  | .turning =>
      ⟨buffer, .none, .inl { caller with stage := .looking, signalled := false }⟩
  | .looking =>
      match caller.call with
      | .put _ _ => caller.lookPut buffer
      | .take => caller.lookTake buffer now
  | .asleep _ => ⟨buffer, .none, .inl (caller.goTo .turning)⟩

end Caller

namespace Crowd

/-- A new buffer without callers. -/
def create (config : Config) : Crowd α where
  buffer := .create config
  now := 0
  callers := []
  completions := []

/-- Signal those callers whom a change concerns. -/
def notify (crowd : Crowd α) (signal : Signal) : Crowd α :=
  { crowd with
    callers := crowd.callers.map fun caller =>
      if signal.concerns caller then caller.signal else caller }

/-- The crowd without one caller. -/
def without (crowd : Crowd α) (id : Nat) : Crowd α :=
  { crowd with callers := crowd.callers.filter (·.id != id) }

/-- The crowd with one caller replaced by its next state. -/
def replace (crowd : Crowd α) (next : Caller α) : Crowd α :=
  { crowd with
    callers := crowd.callers.map fun caller =>
      if caller.id == next.id then next else caller }

/-- Record the end of a call. -/
def complete (crowd : Crowd α) (id : Nat) (outcome : Outcome α) : Crowd α :=
  { crowd.without id with
    completions := crowd.completions ++ [⟨id, crowd.now, outcome⟩] }

/-- The crowd after one small step of a caller. -/
def apply (crowd : Crowd α) (caller : Caller α) (advance : Advance α) : Crowd α :=
  let changed := { crowd with buffer := advance.buffer }
  (match advance.next with
    | .inl next => changed.replace next
    | .inr outcome => changed.complete caller.id outcome).notify advance.signal

/-- One small step of the caller with a number, if it is there and can
proceed. -/
def step? (crowd : Crowd α) (id : Nat) : Option (Crowd α) :=
  match crowd.callers.find? (·.id == id) with
  | some caller =>
      if caller.canProceed crowd.now then
        some (crowd.apply caller (caller.advance crowd.buffer crowd.now))
      else none
  | none => none

/-! ## What happens from outside -/

/-- What happens to a crowd from outside. -/
inductive Event (α : Type)
  /-- A new call begins. -/
  | call (id : Nat) (call : Call α)
  /-- A caller gives up. -/
  | abandon (id : Nat)
  | hint
  | close
  | fail (fault : Fault)
  /-- Time passes. -/
  | pass (duration : Duration)

/-- The crowd after an event. -/
def react (crowd : Crowd α) : Event α -> Crowd α
  | .call id call => { crowd with callers := crowd.callers ++ [.create id call] }
  | .abandon id => crowd.without id
  | .hint =>
      { crowd with buffer := crowd.buffer.hint }.notify
        (if crowd.buffer.pending.isSome then .takes else .none)
  | .close =>
      { crowd with buffer := crowd.buffer.close }.notify
        (if crowd.buffer.isRunning then .all else .none)
  | .fail fault =>
      { crowd with buffer := crowd.buffer.fail fault }.notify
        (if crowd.buffer.isRunning then .all else .none)
  | .pass duration => { crowd with now := crowd.now + duration }

/-! ## One choice of steps and times -/

/-- The oldest caller that can proceed. -/
def eldest? (crowd : Crowd α) : Option (Caller α) :=
  crowd.callers.find? (·.canProceed crowd.now)

/-- Let the oldest caller that can proceed do so, again and again, but at most
`steps` times. -/
def settleWithin : Nat -> Crowd α -> Crowd α
  | 0, crowd => crowd
  | steps + 1, crowd =>
      match crowd.eldest? with
      | some caller =>
          settleWithin steps
            (crowd.apply caller (caller.advance crowd.buffer crowd.now))
      | none => crowd

/-- How many small steps a crowd may take before nobody can proceed. A caller
takes at most four between two signals, and only new calls and releases signal,
each at most once for every caller. -/
def patience (crowd : Crowd α) : Nat :=
  4 * (crowd.callers.length + 1) * (2 * crowd.callers.length + 2)

/-- Let the callers proceed, the oldest first, until nobody can. -/
def settle (crowd : Crowd α) : Crowd α :=
  settleWithin crowd.patience crowd

/-- The next instant at which a sleeping caller wakes, at a whole
millisecond. -/
def nextWake? (crowd : Crowd α) : Option Instant :=
  (crowd.callers.foldl (fun wake caller => Instant.earliest wake caller.wake?) none).map
    Instant.wholeMilli

/-- Let time pass until an instant, with at most `wakes` interruptions by callers
who wake up. -/
def sleepWithin : Nat -> Instant -> Crowd α -> Crowd α
  | 0, target, crowd => { crowd with now := target }
  | wakes + 1, target, crowd =>
      match crowd.nextWake? with
      | some wake =>
          if wake ≤ target then
            sleepWithin wakes target { crowd with now := max crowd.now wake }.settle
          else { crowd with now := target }
      | none => { crowd with now := target }

/-- Let a duration pass. A caller wakes at most at its deadline and when the
buffer has been idle for long enough. -/
def sleep (crowd : Crowd α) (duration : Duration) : Crowd α :=
  sleepWithin (2 * crowd.callers.length) (crowd.now + duration) crowd

/-- The numbers of the calls that are still in progress. -/
def unfinished (crowd : Crowd α) : List Nat :=
  crowd.callers.map (·.id)

end Crowd
end Buffer
end BlockFeed
