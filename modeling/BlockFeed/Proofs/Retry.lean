import BlockFeed.Retry
import Mathlib.Algebra.Group.Defs

/-!
# Waits before retries

A policy has a wait for each retry of its budget and for no other one: the entry of its
schedule, the last of which stands for all that follow, or a growing wait if the schedule is
empty. A growing wait is the first one times a power of the multiplier, cut off at the
ceiling, and a share of that on top. A request replaces the budget and the schedule for itself,
and nothing else.
-/

namespace BlockFeed
namespace Retry

/-! ## Entries of a schedule -/

/-- A schedule that lists any wait has an entry for each retry. -/
theorem entryOf_lt {schedule : List Duration} (nonempty : schedule ≠ []) (attempt : UInt32) :
    entryOf schedule attempt < schedule.length := by
  have listed := List.length_pos_iff.mpr nonempty
  rw [entryOf]
  omega

/-- The entry of a retry has its number, or it is the last one. -/
theorem getElem?_entryOf (schedule : List Duration) (attempt : UInt32) :
    schedule[entryOf schedule attempt]? =
      if attempt.toNat ≤ schedule.length then schedule[attempt.toNat - 1]?
      else schedule.getLast? := by
  rw [entryOf]
  split
  · rw [Nat.min_eq_left (by omega)]
  · rw [Nat.min_eq_right (by omega), List.getLast?_eq_getElem?]

/-! ## Growing waits -/

section growing

variable {attempt : UInt32}

/-- Repeated squaring goes through the binary digits of the exponent, the least one first. -/
theorem powerFrom_eq_npowBinRec
    {exponent steps : Nat}
    (bounded : exponent < Nat.pow 2 steps)
    (result base : Float) :
    powerFrom result base exponent steps = npowBinRec.go exponent result base := by
  induction steps generalizing exponent result base with
  | zero =>
      obtain rfl : exponent = 0 := by simpa using bounded
      rfl
  | succ steps inductionHypothesis =>
      obtain ⟨digit, rest, rfl⟩ : ∃ digit rest, exponent = Nat.bit digit rest :=
        ⟨_, _, exponent.bit_testBit_zero_shiftRight_one.symm⟩
      have squared : npowBinRec.go (Nat.bit digit rest) result base =
          npowBinRec.go rest (cond digit (result * base) result) (base * base) := by
        rw [npowBinRec.go, Nat.binaryRec_eq _ _ (.inl rfl), npowBinRec.go]
      have multiplied : (if digit.toNat == 1 then result * base else result) =
          cond digit (result * base) result := by
        cases digit <;> rfl
      rw [squared, powerFrom, Nat.bit_mod_two, Nat.bit_div_two, multiplied]
      split
      · next done =>
          obtain rfl : rest = 0 := beq_iff_eq.mp done
          rfl
      · exact inductionHypothesis (Nat.bit_lt_two_pow_succ_iff.mp bounded) _ _

/-- The steps suffice for an exponent of thirty-two binary digits. -/
theorem power_eq {exponent : Int} (bounded : exponent.natAbs < UInt32.size) (base : Float) :
    power base exponent =
      if exponent < 0 then 1.0 / npowBinRec exponent.natAbs base
      else npowBinRec exponent.natAbs base := by
  rw [power, powerFrom_eq_npowBinRec bounded]
  rfl

/-- The exponent of an attempt is its number less one, which wraps around from the middle of
the range on. -/
theorem exponentOf_eq (isRetry : 1 ≤ attempt) :
    exponentOf attempt =
      if attempt.toNat ≤ UInt32.size / 2 then (attempt.toNat : Int) - 1
      else (attempt.toNat : Int) - 1 - UInt32.size := by
  have positive : 1 ≤ attempt.toNat := UInt32.le_iff_toNat_le.mp isRetry
  have value : (attempt - 1).toBitVec.toNat = attempt.toNat - 1 :=
    UInt32.toNat_sub_of_le _ _ isRetry
  have signed : exponentOf attempt = (attempt - 1).toBitVec.toInt := rfl
  rw [signed, BitVec.toInt_eq_toNat_cond, value, UInt32.size]
  split <;> split <;> omega

theorem natAbs_exponentOf_lt (isRetry : 1 ≤ attempt) :
    (exponentOf attempt).natAbs < UInt32.size := by
  have bound := attempt.toNat_lt
  rw [exponentOf_eq isRetry, UInt32.size]
  split <;> omega

/-- The growing wait before a retry, written out. -/
theorem Backoff.delay_eq (backoff : Backoff) (isRetry : 1 ≤ attempt) :
    let exponent : Int :=
      if attempt.toNat ≤ UInt32.size / 2 then attempt.toNat - 1
      else attempt.toNat - 1 - UInt32.size
    let raised := npowBinRec exponent.natAbs backoff.multiplier
    let grown :=
      Float.ofNat backoff.initial.millis * if exponent < 0 then 1.0 / raised else raised
    let ceiling := Float.ofNat backoff.greatest.millis
    let capped :=
      if grown.isNaN then ceiling else if ceiling.isNaN then grown
      else if grown < ceiling then grown else ceiling
    backoff.delay attempt =
      Duration.ofMillis (capped + capped * backoff.jitter * 0.5).toUInt64.toNat := by
  intro exponent raised grown ceiling capped
  have number : exponentOf attempt = exponent := exponentOf_eq isRetry
  have bounded : exponent.natAbs < UInt32.size := number ▸ natAbs_exponentOf_lt isRetry
  have base : Float.ofNat backoff.initial.millis *
      power backoff.multiplier (exponentOf attempt) = grown := by
    rw [number, power_eq bounded]
  rw [delay, base]
  rfl

example : Backoff.delay {} 3 = Duration.ofMillis 420 := by decide +kernel

end growing

namespace Policy

variable {policy : Policy} {attempt : UInt32}

/-! ## The budget of a policy -/

/-- Beyond its budget a policy has no wait. -/
theorem delay?_of_spent (spent : policy.backoff.maxRetries < attempt) :
    policy.delay? attempt = none := by
  rw [delay?, if_pos]
  rw [Bool.or_eq_true, decide_eq_true spent]
  exact .inr rfl

/-- Within its budget a policy answers from its schedule or its backoff. -/
theorem delay?_of_left
    (isRetry : 1 ≤ attempt)
    (left : attempt ≤ policy.backoff.maxRetries) :
    policy.delay? attempt =
      if policy.schedule = [] then some (policy.backoff.delay attempt)
      else policy.schedule[entryOf policy.schedule attempt]? := by
  have allowed : ¬(attempt == 0 || decide (policy.backoff.maxRetries < attempt)) = true := by
    rw [Bool.or_eq_true, beq_iff_eq, decide_eq_true_eq, not_or]
    exact ⟨UInt32.pos_iff_ne_zero.mp isRetry, UInt32.not_lt.mpr left⟩
  rw [delay?, if_neg allowed]
  split
  · next last isLast =>
      -- The last entry is only the default of a look-up that never misses.
      have nonempty : policy.schedule ≠ [] := by
        intro isEmpty
        rw [isEmpty] at isLast
        cases isLast
      rw [if_neg nonempty, List.getD_eq_getElem?_getD,
        List.getElem?_eq_getElem (entryOf_lt nonempty attempt), Option.getD_some]
  · next none => rw [if_pos (List.getLast?_eq_none_iff.mp none)]

/-- There is a wait before each retry of the budget, and before no other one. -/
theorem isSome_delay?_iff (isRetry : 1 ≤ attempt) :
    (policy.delay? attempt).isSome = true ↔ attempt ≤ policy.backoff.maxRetries := by
  constructor
  · intro waits
    refine UInt32.not_lt.mp fun spent => ?_
    rw [delay?_of_spent spent] at waits
    cases waits
  · intro left
    rw [delay?_of_left isRetry left]
    split
    · rfl
    · next nonempty => rw [List.getElem?_eq_getElem (entryOf_lt nonempty attempt)]; rfl

/-- Behind some retries of the budget, there is a wait before the next one exactly if not all
of them have been made. -/
theorem isSome_delay?_behind
    {count : Nat}
    (made : count ≤ policy.backoff.maxRetries.toNat) :
    (policy.delay? (count + 1).toUInt32).isSome = true ↔
      count < policy.backoff.maxRetries.toNat := by
  rcases Nat.lt_or_ge (count + 1) UInt32.size with fits | wraps
  · have value : (count + 1).toUInt32.toNat = count + 1 := UInt32.toNat_ofNat_of_lt' fits
    rw [isSome_delay?_iff, UInt32.le_iff_toNat_le, value]
    · rfl
    · rw [UInt32.le_iff_toNat_le, value]
      exact Nat.succ_pos count
  · -- The greatest budget of all is spent, and the number of the next retry is zero again.
    have bound : policy.backoff.maxRetries.toNat < UInt32.size := UInt32.toNat_lt _
    have large : UInt32.size ≤ count + 1 := wraps
    obtain rfl : count = UInt32.size - 1 := by omega
    have noWait : policy.delay? (UInt32.size - 1 + 1).toUInt32 = none := rfl
    rw [noWait]
    exact ⟨nofun, fun left => absurd left (by omega)⟩

/-- Behind all retries of the budget, there is no wait. -/
theorem delay?_behind_all (policy : Policy) :
    policy.delay? (policy.backoff.maxRetries.toNat + 1).toUInt32 = none := by
  rw [← Option.not_isSome_iff_eq_none, isSome_delay?_behind (Nat.le_refl _)]
  exact Nat.lt_irrefl _

/-! ## Overrides -/

/-- Overrides of overrides take their place. -/
theorem forRequest_forRequest (policy : Policy) (first second : RequestOptions) :
    (policy.forRequest first).forRequest second =
      policy.forRequest
        { retryAttempts := second.retryAttempts.or first.retryAttempts
          retrySchedule := second.retrySchedule.or first.retrySchedule } := by
  simp only [forRequest, Option.getD_or]

/-- The overrides that ask for a policy's own budget and schedule. -/
def terms (policy : Policy) : RequestOptions where
  retryAttempts := some policy.backoff.maxRetries
  retrySchedule := some policy.schedule

/-- With the overrides of a request a policy keeps to the budget and the schedule that the
request gives, or else to its own: there is a wait before a retry exactly if the budget holds
the retry, which is when it may be made; the wait is the entry of the schedule, the last one
for every retry beyond its end and never one outside of it, or the growing wait if nothing is
listed. That is the first wait times the multiplier to the power of the number of the retry
less one, a signed number of 32 bits, cut off at the ceiling, and half the jitter's share of
that on top, all as floats and in whole milliseconds. The same overrides again change nothing,
and nothing of the policy itself is lost: its own terms in place of the overrides give it back
with all its answers. -/
theorem overrides_set_budget_and_waits
    (policy : Policy) (options : RequestOptions) (attempt : UInt32) (isRetry : 1 ≤ attempt) :
    let budget := options.retryAttempts.getD policy.backoff.maxRetries
    let schedule := options.retrySchedule.getD policy.schedule
    let overridden := policy.forRequest options
    ((overridden.delay? attempt).isSome = true ↔ attempt ≤ budget) ∧
      overridden.mayRetry attempt = (overridden.delay? attempt).isSome ∧
      (schedule ≠ [] -> entryOf schedule attempt < schedule.length) ∧
      (schedule ≠ [] -> attempt ≤ budget ->
        overridden.delay? attempt =
          if attempt.toNat ≤ schedule.length then schedule[attempt.toNat - 1]?
          else schedule.getLast?) ∧
      (schedule = [] -> attempt ≤ budget ->
        let backoff := policy.backoff
        let exponent : Int :=
          if attempt.toNat ≤ UInt32.size / 2 then attempt.toNat - 1
          else attempt.toNat - 1 - UInt32.size
        let raised := npowBinRec exponent.natAbs backoff.multiplier
        let grown :=
          Float.ofNat backoff.initial.millis * if exponent < 0 then 1.0 / raised else raised
        let ceiling := Float.ofNat backoff.greatest.millis
        let capped :=
          if grown.isNaN then ceiling else if ceiling.isNaN then grown
          else if grown < ceiling then grown else ceiling
        overridden.delay? attempt =
          some (.ofMillis (capped + capped * backoff.jitter * 0.5).toUInt64.toNat)) ∧
      overridden.forRequest options = overridden ∧
      overridden.forRequest policy.terms = policy := by
  intro budget schedule overridden
  have waits : (overridden.delay? attempt).isSome = true ↔ attempt ≤ budget :=
    isSome_delay?_iff isRetry
  refine ⟨waits, ?_, fun nonempty => entryOf_lt nonempty attempt, ?_, ?_, ?_, rfl⟩
  · rw [Bool.eq_iff_iff, waits, mayRetry]
    exact decide_eq_true_iff
  · intro nonempty left
    rw [← getElem?_entryOf]
    exact (delay?_of_left isRetry left).trans (if_neg nonempty)
  · intro empty left
    exact ((delay?_of_left isRetry left).trans (if_pos empty)).trans
      (congrArg some (policy.backoff.delay_eq isRetry))
  · rw [forRequest_forRequest, Option.or_self, Option.or_self]
    rfl

/-- Six retries are allowed in place of one. The fifth waits for the last of three entries, and
the seventh is not made. -/
theorem overrides_set_budget_and_waits_of_six_retries :
    let policy : Policy := { backoff := { maxRetries := 1 }, schedule := [10, 50] }
    let options : RequestOptions :=
      { retryAttempts := some 6, retrySchedule := some [1, 2, 3] }
    let overridden := policy.forRequest options
    overridden.delay? 5 = some 3 ∧ (overridden.delay? 7).isSome = false ∧
      (overridden.forRequest policy.terms).delay? 1 = some 10 := by
  intro policy options overridden
  obtain ⟨_, _, _, listed, _, _, own⟩ :=
    overrides_set_budget_and_waits policy options 5 (by decide)
  obtain ⟨waits, _⟩ := overrides_set_budget_and_waits policy options 7 (by decide)
  refine ⟨(listed (by decide) (by decide)).trans (by decide), ?_, ?_⟩
  · exact Bool.eq_false_iff.mpr fun waiting => absurd (waits.mp waiting) (by decide)
  · rw [own]
    decide

end Policy
end Retry
end BlockFeed
