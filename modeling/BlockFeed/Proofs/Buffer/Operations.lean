import BlockFeed.Buffer

/-!
# What the operations of a buffer do

Each operation is described once: putting grows the unit of a running buffer and
leaves one that has ended alone, and a take has one of seven results, each with
what it presupposes and what it leaves behind. The flags of a running buffer
agree with its unit: it is filled, and has a last put, exactly when there is a
unit, and a unit that has reached the least size is due.
-/

namespace BlockFeed
namespace Buffer

variable {buffer : Buffer α}

@[simp] theorem isRunning_iff :
    buffer.isRunning = true ↔ buffer.phase = .running := by
  cases phase : buffer.phase <;> simp [isRunning, phase]

@[simp] theorem isRunning_eq_false_iff :
    buffer.isRunning = false ↔ buffer.phase ≠ .running := by
  rw [ne_eq, ← isRunning_iff, Bool.not_eq_true]

theorem pendingBlocks_of_pending {unit : Pending α} (pending : buffer.pending = some unit) :
    buffer.pendingBlocks = unit.blocks := by
  simp [pendingBlocks, pending]

theorem pendingBlocks_of_none (pending : buffer.pending = none) :
    buffer.pendingBlocks = [] := by
  simp [pendingBlocks, pending]

/-! ## Putting blocks in -/

section grown

variable (buffer) (now : Instant) (blocks : List α) (bytes : Nat)

@[simp] theorem phase_grown : (buffer.grown now blocks bytes).phase = buffer.phase := rfl

@[simp] theorem pendingBlocks_grown :
    (buffer.grown now blocks bytes).pendingBlocks = buffer.pendingBlocks ++ blocks := rfl

@[simp] theorem pendingBytes_grown :
    (buffer.grown now blocks bytes).pendingBytes = buffer.pendingBytes + bytes := rfl

end grown

/-- A put into a running buffer grows its unit and says whether that has reached
the greatest size. -/
theorem put_of_running
    (running : buffer.phase = .running)
    (now : Instant)
    (blocks : List α)
    (bytes : Nat) :
    buffer.put now blocks bytes =
      (if buffer.pendingBytes + bytes < buffer.config.greatest then .settled
        else .held buffer.releases,
        buffer.grown now blocks bytes) := by
  rw [put, if_pos (isRunning_iff.mpr running)]

/-- A put into a buffer that has ended does nothing. -/
theorem put_of_ended
    (ended : buffer.phase ≠ .running)
    (now : Instant)
    (blocks : List α)
    (bytes : Nat) :
    buffer.put now blocks bytes = (.settled, buffer) := by
  rw [put, if_neg (by simpa using ended)]

/-! ## Taking the unit out -/

/-- A unit that is due is released. -/
theorem release_of_due
    {unit : Pending α}
    (pending : buffer.pending = some unit)
    (due : buffer.due = true ∧ buffer.filled = true)
    (deadline idle : Option Instant) :
    buffer.release deadline idle = (.released unit.blocks, buffer.drained) := by
  simp [release, pending, due]

/-- Without a unit that is due, nothing is released. -/
theorem release_of_not_due
    (notDue : buffer.pending.isSome = true -> ¬(buffer.due = true ∧ buffer.filled = true))
    (deadline idle : Option Instant) :
    buffer.release deadline idle =
      (.waiting (Instant.earliest (if buffer.due then none else deadline) idle),
        buffer) := by
  cases pending : buffer.pending with
  | none => cases both : buffer.due && buffer.filled <;> simp [release, pending, both]
  | some unit =>
      have notBoth : (buffer.due && buffer.filled) = false := by
        simpa [pending] using notDue
      simp only [release, pending, notBoth]

/-- The unit of a running buffer is due at an instant, for a consumer who waits
until `deadline` and a unit that is idle from `idle` on. -/
def DueAt (buffer : Buffer α) (now : Instant) (deadline idle : Option Instant) : Prop :=
  (buffer.noticed now deadline idle).due = true ∧ buffer.filled = true

/-- What a take may give and leave behind. -/
inductive Taking (buffer : Buffer α) (now : Instant) (deadline : Option Instant) :
    Take α -> Buffer α -> Prop
  | reported (fault : Fault) :
      buffer.phase = .failed (some fault) ->
      Taking buffer now deadline (.failed fault)
        { buffer with pending := none, phase := .failed none }
  | silent :
      buffer.phase = .failed none ->
      Taking buffer now deadline .ended
        { buffer with pending := none, phase := .failed none }
  | remainder (unit : Pending α) :
      buffer.phase = .closed ->
      buffer.pending = some unit ->
      Taking buffer now deadline (.released unit.blocks) { buffer with pending := none }
  | ended :
      buffer.phase = .closed ->
      buffer.pending = none ->
      Taking buffer now deadline .ended { buffer with pending := none }
  | overflow (problem : Instant.Unrepresentable) :
      buffer.phase = .running ->
      buffer.idleDeadline = .error problem ->
      Taking buffer now deadline .overflow buffer
  | release (unit : Pending α) (idle : Option Instant) :
      buffer.phase = .running ->
      buffer.pending = some unit ->
      buffer.idleDeadline = .ok idle ->
      buffer.DueAt now deadline idle ->
      Taking buffer now deadline (.released unit.blocks) buffer.drained
  | waiting (idle : Option Instant) :
      buffer.phase = .running ->
      buffer.idleDeadline = .ok idle ->
      (buffer.pending.isSome = true -> ¬buffer.DueAt now deadline idle) ->
      Taking buffer now deadline
        (.waiting
          (Instant.earliest
            (if (buffer.noticed now deadline idle).due then none else deadline) idle))
        (buffer.noticed now deadline idle)

/-- Every take is of one of these kinds. -/
theorem taking_take (buffer : Buffer α) (now : Instant) (deadline : Option Instant) :
    Taking buffer now deadline
      (buffer.take now deadline).1 (buffer.take now deadline).2 := by
  cases phase : buffer.phase with
  | failed report =>
      cases report with
      | none => simpa [take, phase] using Taking.silent phase
      | some fault => simpa [take, phase] using Taking.reported fault phase
  | closed =>
      cases pending : buffer.pending with
      | none => simpa [take, phase, pending] using Taking.ended phase pending
      | some unit => simpa [take, phase, pending] using Taking.remainder unit phase pending
  | running =>
      cases idleDeadline : buffer.idleDeadline with
      | error problem =>
          simpa [take, phase, idleDeadline] using
            Taking.overflow problem phase idleDeadline
      | ok idle =>
          simp only [take, phase, idleDeadline]
          by_cases due : buffer.pending.isSome = true ∧ buffer.DueAt now deadline idle
          · obtain ⟨present, dueNow⟩ := due
            obtain ⟨unit, pending⟩ := Option.isSome_iff_exists.mp present
            have pendingThen : (buffer.noticed now deadline idle).pending = some unit :=
              pending
            rw [release_of_due pendingThen dueNow]
            exact Taking.release unit idle phase pending idleDeadline dueNow
          · have notDue : buffer.pending.isSome = true ->
                ¬buffer.DueAt now deadline idle := not_and.mp due
            rw [release_of_not_due notDue]
            exact Taking.waiting idle phase idleDeadline notDue

section taking

variable {rest : Buffer α} {now : Instant} {deadline : Option Instant} {result : Take α}

theorem Taking.config (taking : Taking buffer now deadline result rest) :
    rest.config = buffer.config := by
  cases taking <;> rfl

/-- A take leaves the unit where it is, or leaves none. -/
theorem Taking.pending (taking : Taking buffer now deadline result rest) :
    rest.pending = none ∨ (rest.pending = buffer.pending ∧ rest.releases = buffer.releases) := by
  cases taking with
  | overflow => exact .inr ⟨rfl, rfl⟩
  | waiting => exact .inr ⟨rfl, rfl⟩
  | _ => exact .inl rfl

theorem Taking.releases_le (taking : Taking buffer now deadline result rest) :
    buffer.releases ≤ rest.releases := by
  cases taking with
  | release => exact Nat.le_succ _
  | _ => exact Nat.le_refl _

theorem Taking.lastPut (taking : Taking buffer now deadline result rest) :
    rest.lastPut = none ∨ rest.lastPut = buffer.lastPut := by
  cases taking with
  | release => exact .inl rfl
  | _ => exact .inr rfl

end taking

/-! ## Ends -/

/-- The phase into which a fault ends a running buffer. -/
def endedBy (fault : Fault) : Phase :=
  if fault.isCancelled then .closed else .failed (some fault)

theorem endedBy_ne_running (fault : Fault) : endedBy fault ≠ .running := by
  unfold endedBy
  split <;> simp

theorem endedBy_ne_reported (fault : Fault) : endedBy fault ≠ .failed none := by
  unfold endedBy
  split <;> simp

theorem close_of_running (running : buffer.phase = .running) :
    buffer.close = { buffer with phase := .closed } := by
  simp [close, running]

theorem close_of_ended (ended : buffer.phase ≠ .running) : buffer.close = buffer := by
  cases phase : buffer.phase <;> simp_all [close]

theorem fail_of_running (running : buffer.phase = .running) (fault : Fault) :
    buffer.fail fault = { buffer with phase := endedBy fault } := by
  unfold endedBy
  split <;> simp_all [fail, close]

theorem fail_of_ended (ended : buffer.phase ≠ .running) (fault : Fault) :
    buffer.fail fault = buffer := by
  cases phase : buffer.phase <;> simp_all [fail]

/-- An end changes nothing but the phase. -/
theorem close_eq (buffer : Buffer α) :
    buffer.close = { buffer with phase := buffer.close.phase } := by
  by_cases running : buffer.phase = .running
  · rw [close_of_running running]
  · rw [close_of_ended running]

theorem fail_eq (buffer : Buffer α) (fault : Fault) :
    buffer.fail fault = { buffer with phase := (buffer.fail fault).phase } := by
  by_cases running : buffer.phase = .running
  · rw [fail_of_running running]
  · rw [fail_of_ended running]

section ends

variable (buffer) (fault : Fault)

@[simp] theorem pending_close : buffer.close.pending = buffer.pending := by
  rw [close_eq]

@[simp] theorem pending_fail : (buffer.fail fault).pending = buffer.pending := by
  rw [fail_eq]

@[simp] theorem config_close : buffer.close.config = buffer.config := by
  rw [close_eq]

@[simp] theorem config_fail : (buffer.fail fault).config = buffer.config := by
  rw [fail_eq]

@[simp] theorem filled_close : buffer.close.filled = buffer.filled := by
  rw [close_eq]

@[simp] theorem filled_fail : (buffer.fail fault).filled = buffer.filled := by
  rw [fail_eq]

@[simp] theorem lastPut_close : buffer.close.lastPut = buffer.lastPut := by
  rw [close_eq]

@[simp] theorem lastPut_fail : (buffer.fail fault).lastPut = buffer.lastPut := by
  rw [fail_eq]

@[simp] theorem releases_close : buffer.close.releases = buffer.releases := by
  rw [close_eq]

@[simp] theorem releases_fail : (buffer.fail fault).releases = buffer.releases := by
  rw [fail_eq]

end ends

@[simp] theorem pendingBlocks_hint : buffer.hint.pendingBlocks = buffer.pendingBlocks := rfl

@[simp] theorem pendingBlocks_close : buffer.close.pendingBlocks = buffer.pendingBlocks := by
  rw [pendingBlocks, pending_close, pendingBlocks]

@[simp] theorem pendingBlocks_fail (fault : Fault) :
    (buffer.fail fault).pendingBlocks = buffer.pendingBlocks := by
  rw [pendingBlocks, pending_fail, pendingBlocks]

end Buffer
end BlockFeed
