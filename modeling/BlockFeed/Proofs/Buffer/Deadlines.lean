import BlockFeed.Proofs.Buffer.Operations

/-!
# Deadlines and the end of the clock

A timer overshoots if it would fire only after the clock has ended, and exactly such a timer
cannot be set. The later a timer is started, the sooner it overshoots: if no timer of a buffer
overshoots at an instant, none did before.
-/

namespace BlockFeed
namespace Instant

/-- A timer that is started at an instant would fire only after the clock has ended. -/
def Overshoots (start : Instant) (duration : Option Duration) : Prop :=
  ∃ length, duration = some length ∧ horizon ≤ start + length

variable {start : Instant} {duration : Option Duration}

/-- What the timer of a duration says, once it could be set. -/
theorem expiry_eq_ok
    {deadline : Option Instant}
    (isExpiry : expiry start duration = .ok deadline) :
    deadline = duration.map (start + ·) := by
  cases duration with
  | none => exact (Except.ok.inj isExpiry).symm
  | some duration =>
      rw [expiry] at isExpiry
      split at isExpiry
      · exact (Except.ok.inj isExpiry).symm
      · cases isExpiry

/-- Exactly a timer that overshoots cannot be set. -/
theorem overshoots_iff :
    Overshoots start duration ↔ ∃ problem, expiry start duration = .error problem := by
  constructor
  · rintro ⟨length, rfl, beyond⟩
    exact ⟨.beyondHorizon, if_neg (Nat.not_lt.mpr beyond)⟩
  · rintro ⟨problem, isExpiry⟩
    cases duration with
    | none => cases isExpiry
    | some length =>
        rw [expiry] at isExpiry
        split at isExpiry
        · cases isExpiry
        · next beyond => exact ⟨length, rfl, Nat.not_lt.mp beyond⟩

theorem expiry_of_not_overshoots (fits : ¬Overshoots start duration) :
    expiry start duration = .ok (duration.map (start + ·)) := by
  cases isExpiry : expiry start duration with
  | ok deadline => rw [expiry_eq_ok isExpiry]
  | error problem => exact absurd (overshoots_iff.mpr ⟨problem, isExpiry⟩) fits

theorem Overshoots.later
    {later : Instant}
    (late : Overshoots start duration)
    (passed : start ≤ later) :
    Overshoots later duration := by
  obtain ⟨length, isLength, beyond⟩ := late
  exact ⟨length, isLength, Nat.le_trans beyond (Nat.add_le_add_right passed length)⟩

end Instant

namespace Buffer

/-- No timer overshoots that is set up to the last instant. -/
structure Config.Fits (config : Config) (last : Instant) : Prop where
  patience : ¬Instant.Overshoots last config.patience
  idle : ¬Instant.Overshoots last config.idle

theorem Config.Fits.earlier
    {config : Config} {last now : Instant}
    (fits : config.Fits last)
    (early : now ≤ last) :
    config.Fits now :=
  ⟨fun late => fits.patience (late.later early), fun late => fits.idle (late.later early)⟩

/-- The timer of the unit would fire only after the clock has ended. -/
def IdleOvershoots (buffer : Buffer α) : Prop :=
  ∃ latest, buffer.lastPut = some latest ∧ Instant.Overshoots latest buffer.config.idle

theorem idleOvershoots_of_error
    {buffer : Buffer α} {problem : Instant.Unrepresentable}
    (beyond : buffer.idleDeadline = .error problem) :
    buffer.IdleOvershoots := by
  unfold idleDeadline at beyond
  split at beyond
  · next latest _ isLatest =>
      exact ⟨_, isLatest, Instant.overshoots_iff.mpr ⟨problem, beyond⟩⟩
  · cases beyond

end Buffer
end BlockFeed
