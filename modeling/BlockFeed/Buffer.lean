import BlockFeed.Fault

/-!
# The buffer between a producer and its consumers

Blocks that are put into the buffer pile up in one pending unit, which is
released to a consumer as a whole. A release is due when the unit has grown to
the least size, when the producer hints that no more is to come for now, when
nothing was put for a while, or when a consumer has waited long enough. A
producer is held back from the moment the unit has reached the greatest size
until it is released.

Nothing here waits: a put or a take that cannot be completed says so, and may be
tried again.
-/

namespace BlockFeed

/-- When a buffer releases its unit and holds back its producer. -/
structure Buffer.Config where
  /-- Size from which on a release is due. -/
  least : Nat
  /-- Size from which on a producer is held back. -/
  greatest : Nat
  /-- Time without a put after which a release is due. -/
  idle : Option Duration
  /-- Time that a consumer waits until a release is due. -/
  patience : Option Duration
  deriving DecidableEq, Repr

/-- The blocks that wait for a release. -/
structure Buffer.Pending (α : Type) where
  blocks : List α
  /-- Size of the blocks in octets; below `2 ^ 64` it is the one that a machine adds up. -/
  bytes : Nat
  deriving DecidableEq, Repr

/-- The life of a buffer, which ends in one of two ways. -/
inductive Buffer.Phase
  | running
  | closed
  /-- Ended by a fault; it is there until it has been reported. -/
  | failed (report : Option Fault)
  deriving DecidableEq

/-- A buffer of blocks of any kind. -/
structure Buffer (α : Type) where
  config : Buffer.Config
  pending : Option (Buffer.Pending α)
  phase : Buffer.Phase
  /-- Whether a release is due as soon as there is a unit. -/
  due : Bool
  /-- Whether blocks were put since the last release. -/
  filled : Bool
  /-- When blocks were put last, if they were since the last release. -/
  lastPut : Option Instant
  /-- How many units have been released. -/
  releases : Nat

namespace Buffer

namespace Config

/-- A configuration in which producers are never held back before a release is
due. -/
def make (least : Nat) (greatest : Option Nat) (idle patience : Option Duration) :
    Config where
  least := least
  greatest := max (greatest.getD least) least
  idle := idle
  patience := patience

@[simp] theorem make_least
    (least : Nat) (greatest : Option Nat) (idle patience : Option Duration) :
    (make least greatest idle patience).least = least := rfl

/-- The size at which producers are held back is never below the size at which a
release is due. -/
theorem least_le_make_greatest
    (least : Nat) (greatest : Option Nat) (idle patience : Option Duration) :
    least ≤ (make least greatest idle patience).greatest :=
  Nat.le_max_right _ _

end Config

/-- A new buffer. -/
def create (config : Config) : Buffer α where
  config := config
  pending := none
  phase := .running
  due := false
  filled := false
  lastPut := none
  releases := 0

/-- Whether the buffer has not ended. -/
def isRunning (buffer : Buffer α) : Bool :=
  match buffer.phase with
  | .running => true
  | _ => false

/-- The blocks of the pending unit. -/
def pendingBlocks (buffer : Buffer α) : List α :=
  (buffer.pending.map Pending.blocks).getD []

/-- The size of the pending unit. -/
def pendingBytes (buffer : Buffer α) : Nat :=
  (buffer.pending.map Pending.bytes).getD 0

/-- Whether the buffer has ended or a release is due. -/
def isReady (buffer : Buffer α) : Bool :=
  !buffer.isRunning || (buffer.due && buffer.filled)

/-! ## Putting blocks in -/

/-- What became of a put. -/
inductive Put
  /-- The put is complete. -/
  | settled
  /-- The producer is held back until another release after the first
  `releases`. -/
  | held (releases : Nat)
  deriving DecidableEq, Repr

/-- The pending unit with more blocks in it. -/
def extended (buffer : Buffer α) (blocks : List α) (bytes : Nat) : Pending α where
  blocks := buffer.pendingBlocks ++ blocks
  bytes := buffer.pendingBytes + bytes

/-- The buffer with more blocks in its unit. -/
def grown (buffer : Buffer α) (now : Instant) (blocks : List α) (bytes : Nat) :
    Buffer α :=
  { buffer with
    pending := some (buffer.extended blocks bytes)
    due := buffer.due || buffer.config.least ≤ buffer.pendingBytes + bytes
    filled := true
    lastPut := some now }

/-- Put blocks in. A buffer that has ended discards them. -/
def put (buffer : Buffer α) (now : Instant) (blocks : List α) (bytes : Nat) :
    Put × Buffer α :=
  if buffer.isRunning then
    (if buffer.pendingBytes + bytes < buffer.config.greatest then .settled
      else .held buffer.releases,
      buffer.grown now blocks bytes)
  else (.settled, buffer)

/-- Whether a producer that was held back after a number of releases may go
on. -/
def admits (buffer : Buffer α) (releases : Nat) : Bool :=
  buffer.releases != releases || !buffer.isRunning

/-! ## Taking the unit out -/

/-- What became of a take. -/
inductive Take (α : Type)
  | released (blocks : List α)
  /-- The buffer has ended and nothing is left. -/
  | ended
  | failed (fault : Fault)
  /-- Nothing is due yet; without a put, something may be at the instant
  `wake`. -/
  | waiting (wake : Option Instant)
  /-- The buffer's timer lies beyond the end of the clock. -/
  | overflow
  deriving DecidableEq

/-- When the buffer has been idle for long enough. -/
def idleDeadline (buffer : Buffer α) : Except Instant.Unrepresentable (Option Instant) :=
  match buffer.pending, buffer.lastPut with
  | some _, some last => Instant.expiry last buffer.config.idle
  | _, _ => .ok none

/-- When a consumer that begins to wait now has waited long enough. -/
def patienceDeadline (buffer : Buffer α) (now : Instant) :
    Except Instant.Unrepresentable (Option Instant) :=
  Instant.expiry now buffer.config.patience

/-- The buffer after a look at its timers: once a release is due, it stays so
until there is one. -/
def noticed (buffer : Buffer α) (now : Instant) (deadline idle : Option Instant) :
    Buffer α :=
  { buffer with
    due := buffer.due || Instant.reached now deadline || Instant.reached now idle }

/-- The buffer without its unit. -/
def drained (buffer : Buffer α) : Buffer α :=
  { buffer with
    pending := none
    due := false
    filled := false
    lastPut := none
    releases := buffer.releases + 1 }

/-- Release the unit of a running buffer if that is due. -/
def release (buffer : Buffer α) (deadline idle : Option Instant) :
    Take α × Buffer α :=
  match buffer.due && buffer.filled, buffer.pending with
  | true, some unit => (.released unit.blocks, buffer.drained)
  | _, _ =>
      (.waiting (Instant.earliest (if buffer.due then none else deadline) idle), buffer)

/-- Try to take the unit out, for a consumer who waits at most until
`deadline`. -/
def take (buffer : Buffer α) (now : Instant) (deadline : Option Instant) :
    Take α × Buffer α :=
  match buffer.phase with
  | .failed report =>
      ((report.map Take.failed).getD .ended,
        { buffer with pending := none, phase := .failed none })
  | .closed =>
      ((buffer.pending.map fun unit => Take.released unit.blocks).getD .ended,
        { buffer with pending := none })
  | .running =>
      match buffer.idleDeadline with
      | .error _ => (.overflow, buffer)
      | .ok idle => (buffer.noticed now deadline idle).release deadline idle

/-! ## Hints and ends -/

/-- The producer has nothing more for now: if there is a unit, its release is
due. -/
def hint (buffer : Buffer α) : Buffer α :=
  { buffer with due := buffer.due || buffer.pending.isSome }

/-- End the buffer. What is pending can still be taken out. -/
def close (buffer : Buffer α) : Buffer α :=
  match buffer.phase with
  | .running => { buffer with phase := .closed }
  | _ => buffer

/-- End the buffer by a fault, which the next take reports. Being called off is
no fault. -/
def fail (buffer : Buffer α) (fault : Fault) : Buffer α :=
  match buffer.phase with
  | .running =>
      if fault.isCancelled then buffer.close
      else { buffer with phase := .failed (some fault) }
  | _ => buffer

@[simp] theorem close_close (buffer : Buffer α) : buffer.close.close = buffer.close := by
  cases phase : buffer.phase <;> simp [close, phase]

end Buffer
end BlockFeed
