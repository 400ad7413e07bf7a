import BlockFeed.Proofs.Http.Abort
import BlockFeed.Proofs.Retry

/-!
# Calls that are made again

What comes of an attempt is told by how the wire reacts to it and by the longest wait for
the head of an answer. A call whose token does not fire is made again as long as the last
attempt failed for a reason that may pass and retries are left, behind the pauses of its
policy, and it ends as its last attempt does.
-/

namespace BlockFeed
namespace Http

/-! ## One attempt -/

/-- What comes of an attempt. -/
inductive Trial
  /-- The head of an answer came in time, with a status that reports success. -/
  | succeeded (delay : Duration) (arrival : Arrival)
  /-- The head of an answer came in time, with another status. -/
  | refused (delay : Duration) (status : UInt16)
  /-- The request failed below the level of answers. -/
  | broken (delay : Duration) (reason : String)
  /-- Nothing came within the limit. -/
  | late (limit : Duration)
  /-- Nothing ever comes, and there is no limit. -/
  | endless

namespace Trial

/-- How long an attempt takes. One that has no end takes no time that matters. -/
def duration : Trial -> Duration
  | .succeeded delay _ => delay
  | .refused delay _ => delay
  | .broken delay _ => delay
  | .late limit => limit
  | .endless => 0

/-- What a request to an address gets from an attempt. -/
def outcome (address : String) : Trial -> Outcome Arrival
  | .succeeded _ arrival => some (.ok arrival)
  | .refused _ status => some (.error (.unexpectedStatus status.toNat address))
  | .broken _ reason => some (.error (.http reason))
  | .late limit => some (.error (tooLong (some limit)))
  | .endless => none

/-- Whether an attempt failed for a reason that may pass: the transport failed, nothing
came in time, or the portal was busy. -/
def mayPass : Trial -> Bool
  | .refused _ status => [429, 502, 503, 504].contains status
  | .broken _ _ => true
  | .late _ => true
  | _ => false

/-- What comes of an attempt of which something would be heard after a delay. -/
def within (limit : Option Duration) (delay : Duration) (trial : Trial) : Trial :=
  match limit with
  | some longest => if longest < delay then .late longest else trial
  | none => trial

end Trial

/-- What comes of an attempt to which the wire reacts so. -/
def Reaction.trial (limit : Option Duration) : Reaction -> Trial
  | .unsendable reason => .broken 0 reason
  | .broken delay reason => Trial.within limit delay (.broken delay reason)
  | .silent => (limit.map Trial.late).getD .endless
  | .answered delay arrival =>
      Trial.within limit delay
        (if isSuccess arrival.status then .succeeded delay arrival
          else .refused delay arrival.status)

/-- What comes of the attempt of a call on a wire on which `count` attempts were made. -/
def Call.trial (call : Call) (count : Nat) : Trial :=
  (call.wire count call.message).trial call.httpTimeout

/-- A fault of an attempt is worth a retry if its reason may pass. -/
theorem Trial.isRetryable_of_outcome
    {trial : Trial} {address : String} {fault : Fault}
    (failed : trial.outcome address = some (.error fault)) :
    fault.isRetryable = trial.mayPass := by
  cases trial with
  | succeeded => cases failed
  | refused delay status =>
      rw [← Except.error.inj (Option.some.inj failed)]
      apply Bool.eq_iff_iff.mpr
      simp [Fault.isRetryable, Fault.isBusyStatus, mayPass, ← UInt16.toNat_inj, or_assoc]
  | broken => rw [← Except.error.inj (Option.some.inj failed)]; rfl
  | late => rw [← Except.error.inj (Option.some.inj failed)]; rfl
  | endless => cases failed

/-- An attempt that failed for a reason that may pass failed with a fault. -/
theorem Trial.exists_fault {trial : Trial} (passes : trial.mayPass = true) (address : String) :
    ∃ fault, trial.outcome address = some (.error fault) := by
  cases trial with
  | succeeded => cases passes
  | refused => exact ⟨_, rfl⟩
  | broken => exact ⟨_, rfl⟩
  | late => exact ⟨_, rfl⟩
  | endless => cases passes

section await

variable (now : Instant) (wait longest : Duration)

/-- What is on its way arrives within the limit, or the limit ends the wait. -/
theorem await_limited :
    await now (some wait) (some longest) none =
      if longest < wait then .timedOut (now + longest) else .arrived (now + wait) := by
  have ending : Instant.earliest (some (now + wait)) (some (now + longest)) =
      some (now + min wait longest) := by
    rw [Instant.earliest]
    exact congrArg some (Nat.add_min_add_left now wait longest)
  simp only [await, Option.map_some, Option.map_none, ending]
  by_cases late : longest < wait
  · have notArrived : ¬(some (now + wait) == some (now + longest)) = true := by
      simpa using Nat.ne_of_gt late
    rw [Nat.min_eq_right (Nat.le_of_lt late), if_neg notArrived, if_pos late]
  · rw [Nat.min_eq_left (Nat.not_lt.mp late), if_pos (beq_self_eq_true _), if_neg late]

/-- The limit ends a wait for nothing. -/
theorem await_nothing :
    await now none (some longest) none = .timedOut (now + longest) := by
  simp [await, Instant.earliest]

end await

variable {call : Call} {journal : Journal}

/-- An attempt that was made takes its time, and ends as the wire and the limit say. -/
def tried (call : Call) (journal : Journal) (trial : Trial) : Outcome Arrival × Journal :=
  (trial.outcome call.message.address,
    { journal.sending call.message with now := journal.now + trial.duration })

theorem concluded_heard
    (limit : Option Duration) (delay : Duration) {trial : Trial}
    {heard : Except Fault Arrival}
    (outcome : trial.outcome call.message.address = some heard)
    (duration : trial.duration = delay) :
    concluded limit (some (delay, heard)) (journal.sending call.message)
        (await journal.now (some delay) limit none) =
      tried call journal (trial.within limit delay) := by
  cases limit with
  | none =>
      rw [await_some, Trial.within, tried, outcome, duration]
      rfl
  | some longest =>
      rw [await_limited, Trial.within]
      split
      · rfl
      · rw [tried, outcome, duration]
        rfl

/-- An attempt of a call without a token is tried. -/
theorem attempt_of_free (free : call.abort = none) (journal : Journal) :
    attempt call journal = tried call journal (call.trial journal.attempts.length) := by
  have live : isFired call.abort journal.now = false := by rw [free]; rfl
  rw [attempt_of_live live, free, Call.hears, Call.trial]
  cases call.wire journal.attempts.length call.message with
  | unsendable reason =>
      have inTime : Trial.within call.httpTimeout 0 (.broken 0 reason) = .broken 0 reason := by
        cases call.httpTimeout <;> rfl
      rw [Reaction.trial, ← inTime]
      exact concluded_heard _ 0 rfl rfl
  | broken delay reason => exact concluded_heard _ delay rfl rfl
  | silent =>
      cases limit : call.httpTimeout with
      | none => rfl
      | some longest =>
          change concluded _ none _ (await journal.now none _ none) = _
          rw [await_nothing]
          rfl
  | answered delay arrival =>
      have outcome : (if isSuccess arrival.status then Trial.succeeded delay arrival
          else .refused delay arrival.status).outcome call.message.address =
            some (judge call.message arrival) := by
        rw [judge]
        split <;> rfl
      exact concluded_heard _ delay outcome (by split <;> rfl)

/-! ## Attempts in turn -/

/-- What comes of the attempt of a call behind `index` others. -/
def Call.trialFrom (call : Call) (journal : Journal) (index : Nat) : Trial :=
  call.trial (journal.attempts.length + index)

/-- The pause of a call behind its attempt at `index`. -/
def Call.pause (call : Call) (index : Nat) : Duration :=
  (call.policy.delay? (index + 1).toUInt32).getD 0

/-- When the attempt of a call behind `index` others is made. -/
def Call.departure (call : Call) (journal : Journal) : Nat -> Instant
  | 0 => journal.now
  | index + 1 =>
      call.departure journal index + (call.trialFrom journal index).duration + call.pause index

/-- The attempts of a call, as many as `count`. -/
def Call.departures (call : Call) (journal : Journal) (count : Nat) : List Attempt :=
  (List.range count).map fun index => ⟨call.departure journal index, call.message⟩

/-- The journal before the attempt at `index`. -/
def Call.before (call : Call) (journal : Journal) (index : Nat) : Journal :=
  ⟨call.departure journal index, journal.attempts ++ call.departures journal index⟩

/-- What a call ends in if its attempt at `index` is its last one. -/
def Call.last (call : Call) (journal : Journal) (index : Nat) : Outcome Arrival × Journal :=
  ((call.trialFrom journal index).outcome call.message.address,
    { now := call.departure journal index + (call.trialFrom journal index).duration
      attempts := journal.attempts ++ call.departures journal (index + 1) })

/-- Each attempt ends as its trial does. -/
theorem attempt_before (free : call.abort = none) (journal : Journal) (index : Nat) :
    attempt call (call.before journal index) = call.last journal index := by
  have count : (call.before journal index).attempts.length = journal.attempts.length + index := by
    simp [Call.before, Call.departures]
  rw [attempt_of_free free, count, tried, Call.last, Call.departures, List.range_succ,
    List.map_append, ← List.append_assoc]
  rfl

/-- The attempt at `index` is the last one of a call if it did not fail for a reason that
may pass, or if no retries are left. -/
def Call.EndsAt (call : Call) (journal : Journal) (index : Nat) : Prop :=
  (call.trialFrom journal index).mayPass = false ∨
    call.policy.backoff.maxRetries.toNat ≤ index

/-- The policy alone decides how many retries a call makes: behind `made` retries, with those
that its budget leaves, any more of them would change nothing. -/
theorem attempts_of_budget
    {made left : Nat}
    (budget : made + left = call.policy.backoff.maxRetries.toNat)
    (more : Nat) (journal : Journal) :
    attempts call (left + more) (made + 1).toUInt32 journal =
      attempts call left (made + 1).toUInt32 journal := by
  induction left generalizing made journal with
  | zero =>
      have spent : call.policy.delay? (made + 1).toUInt32 = none := by
        rw [← Nat.add_zero made, budget, Retry.Policy.delay?_behind_all]
      rw [attempts_of_spent (.inr spent), attempts_of_spent (.inr spent)]
  | succ left inductionHypothesis =>
      by_cases final : ∀ fault, (attempt call journal).1 = some (.error fault) ->
          fault.isRetryable = false
      · rw [attempts_of_final final, attempts_of_final final]
      · obtain ⟨fault, failed, retryable⟩ : ∃ fault,
            (attempt call journal).1 = some (.error fault) ∧ fault.isRetryable = true := by
          simpa using final
        have within : made < call.policy.backoff.maxRetries.toNat := by omega
        obtain ⟨pause, waits⟩ := Option.isSome_iff_exists.mp
          ((Retry.Policy.isSome_delay?_behind (Nat.le_of_lt within)).mpr within)
        have isNext : (made + 1).toUInt32 + 1 = (made + 1 + 1).toUInt32 :=
          (UInt32.ofNat_add (made + 1) 1).symm
        have budgetThen : made + 1 + left = call.policy.backoff.maxRetries.toNat := by omega
        rw [Nat.succ_add, attempts_of_retry (left + more) (Prod.ext failed rfl) retryable waits,
          attempts_of_retry left (Prod.ext failed rfl) retryable waits]
        cases await _ (some pause) none call.abort with
        | arrived instant =>
            rw [resumed, resumed, isNext]
            exact inductionHypothesis budgetThen _
        | _ => rfl

/-- Behind an attempt that failed for a reason that may pass, the next one is made after a
pause. -/
theorem attempts_before_of_retry
    {left index : Nat} {pause : Duration}
    (free : call.abort = none)
    (passes : (call.trialFrom journal index).mayPass = true)
    (waits : call.policy.delay? (index + 1).toUInt32 = some pause) :
    attempts call (left + 1) (index + 1).toUInt32 (call.before journal index) =
      attempts call left (index + 1 + 1).toUInt32 (call.before journal (index + 1)) := by
  obtain ⟨fault, failed⟩ := Trial.exists_fault passes call.message.address
  have retryable : fault.isRetryable = true := by
    rw [Trial.isRetryable_of_outcome failed, passes]
  have made := attempt_before free journal index
  rw [Call.last, failed] at made
  have isPause : call.pause index = pause := by rw [Call.pause, waits, Option.getD_some]
  have isNext : (index + 1).toUInt32 + 1 = (index + 1 + 1).toUInt32 :=
    (UInt32.ofNat_add (index + 1) 1).symm
  rw [attempts_of_retry left made retryable waits, free, await_some, resumed, isNext,
    Call.before, Call.departure, isPause]

/-- Behind some attempts, a call goes on to its last one. -/
theorem attempts_before
    (free : call.abort = none)
    (journal : Journal)
    {left index : Nat}
    (budget : index + left = call.policy.backoff.maxRetries.toNat) :
    ∃ retries, index ≤ retries ∧ retries ≤ index + left ∧
      (∀ earlier, index ≤ earlier -> earlier < retries ->
        (call.trialFrom journal earlier).mayPass = true) ∧
      call.EndsAt journal retries ∧
      attempts call left (index + 1).toUInt32 (call.before journal index) =
        call.last journal retries := by
  induction left generalizing index with
  | zero =>
      refine ⟨index, Nat.le_refl _, Nat.le_refl _, ?_, .inr (Nat.le_of_eq budget.symm), ?_⟩
      · intro earlier notBefore before
        omega
      · have spent : call.policy.delay? (index + 1).toUInt32 = none := by
          rw [← Nat.add_zero index, budget, Retry.Policy.delay?_behind_all]
        rw [attempts_of_spent (.inr spent), attempt_before free]
  | succ left inductionHypothesis =>
      cases mayPass : (call.trialFrom journal index).mayPass with
      | false =>
          refine ⟨index, Nat.le_refl _, Nat.le_add_right _ _, ?_, .inl mayPass, ?_⟩
          · intro earlier notBefore before
            omega
          · have final : ∀ fault,
                (attempt call (call.before journal index)).1 = some (.error fault) ->
                  fault.isRetryable = false := by
              intro fault failed
              rw [attempt_before free] at failed
              rw [Trial.isRetryable_of_outcome failed, mayPass]
            rw [attempts_of_final final, attempt_before free]
      | true =>
          have budgetThen : index + 1 + left = call.policy.backoff.maxRetries.toNat := by omega
          have within : index < call.policy.backoff.maxRetries.toNat := by omega
          obtain ⟨retries, notBefore, bound, passes, ends, goesOn⟩ :=
            inductionHypothesis budgetThen
          obtain ⟨pause, waits⟩ := Option.isSome_iff_exists.mp
            ((Retry.Policy.isSome_delay?_behind (Nat.le_of_lt within)).mpr within)
          refine ⟨retries, by omega, by omega, ?_, ends, ?_⟩
          · intro earlier isLater before
            rcases Nat.eq_or_lt_of_le isLater with rfl | behind
            · exact mayPass
            · exact passes earlier behind before
          · exact (attempts_before_of_retry free mayPass waits).trans goesOn

/-- A request without a token is sent until its last attempt. -/
theorem exchange_of_free (free : call.abort = none) (journal : Journal) :
    ∃ retries ≤ call.policy.backoff.maxRetries.toNat,
      (∀ index < retries, (call.trialFrom journal index).mayPass = true) ∧
      call.EndsAt journal retries ∧ exchange call journal = call.last journal retries := by
  obtain ⟨retries, _, bound, passes, ends, last⟩ :=
    attempts_before free journal (Nat.zero_add call.policy.backoff.maxRetries.toNat)
  have start : call.before journal 0 = journal :=
    congrArg (Journal.mk journal.now) (List.append_nil _)
  rw [start] at last
  exact ⟨retries, by omega, fun index before => passes index (Nat.zero_le _) before, ends, last⟩

/-- A token that fires only after the call is over makes no difference to it. -/
theorem exchange_of_unfired
    (unfired : ∀ fired, call.abort = some fired ->
      IsOver fired (exchange call.undisturbed journal)) :
    exchange call journal = exchange call.undisturbed journal := by
  cases abort : call.abort with
  | none => rw [Call.undisturbed, ← abort]
  | some fired =>
      have isOver := unfired fired abort
      have began : journal.now ≤ (exchange call.undisturbed journal).2.now :=
        Nat.le_trans (now_le_attempt _ journal) (attempt_le_attempts _ _ 1 journal)
      have pending := Nat.le_of_lt (Nat.lt_of_le_of_lt began isOver.2)
      exact (heeds_exchange pending abort).same isOver

/-- A request whose token does not fire before it is over is sent once, and again exactly as
long as the last attempt failed for a reason that may pass and retries are left. Every
attempt sends the same message, behind the pauses of the policy that the options of the
request change, and the last one tells what the request ends in, and when. -/
theorem exchanges_retry_within_budget
    (settings : TransportSettings) (wire : Wire) (options : RequestOptions)
    (abort : Option Instant) (method : Method) (address : String) (body : Option Json.Value)
    (journal : Journal)
    (unfired : ∀ fired, abort = some fired ->
      IsOver fired
        (exchange (callOf settings wire options none method address body) journal)) :
    let policy := Retry.Policy.forRequest ⟨settings.retry, []⟩ options
    let budget := (options.retryAttempts.getD settings.retry.maxRetries).toNat
    let limit := options.httpTimeout.or settings.httpTimeout
    let message : Message := ⟨method, address, options.headers, body⟩
    let trial := fun index =>
      (guarded wire (journal.attempts.length + index) message).trial limit
    let result := exchange (callOf settings wire options abort method address body) journal
    ∃ (retries : Nat) (departure : Nat -> Instant),
      retries ≤ budget ∧
      result.2.attempts =
        journal.attempts ++
          (List.range (retries + 1)).map (fun index => ⟨departure index, message⟩) ∧
      (∀ index ≤ retries,
        index < retries ↔ (trial index).mayPass = true ∧ index < budget) ∧
      departure 0 = journal.now ∧
      (∀ index < retries, ∃ pause, policy.delay? (index + 1).toUInt32 = some pause ∧
        departure (index + 1) = departure index + (trial index).duration + pause) ∧
      result.1 = (trial retries).outcome address ∧
      result.2.now = departure retries + (trial retries).duration := by
  intro policy budget limit message trial result
  have same : result =
      exchange (callOf settings wire options none method address body) journal :=
    exchange_of_unfired unfired
  let call := callOf settings wire options none method address body
  have free : call.abort = none := rfl
  obtain ⟨retries, bound, passes, ends, last⟩ := exchange_of_free free journal
  refine ⟨retries, call.departure journal, bound, ?_, ?_, rfl, ?_, ?_, ?_⟩
  · rw [same, last]
    rfl
  · intro index notBehind
    constructor
    · intro before
      exact ⟨passes index before, Nat.lt_of_lt_of_le before bound⟩
    · rintro ⟨mayPass, left⟩
      refine Nat.lt_of_le_of_ne notBehind ?_
      rintro rfl
      rcases ends with final | spent
      · exact absurd (final.symm.trans mayPass) Bool.false_ne_true
      · exact absurd left (Nat.not_lt.mpr spent)
  · intro index before
    have within : index < policy.backoff.maxRetries.toNat := Nat.lt_of_lt_of_le before bound
    obtain ⟨pause, waits⟩ := Option.isSome_iff_exists.mp
      ((Retry.Policy.isSome_delay?_behind (Nat.le_of_lt within)).mpr within)
    refine ⟨pause, waits, ?_⟩
    have isPause : call.pause index = pause := by
      rw [Call.pause, show call.policy.delay? (index + 1).toUInt32 = some pause from waits,
        Option.getD_some]
    rw [Call.departure, isPause]
    rfl
  · rw [same, last]
    rfl
  · rw [same, last]
    rfl

/-- The server is busy twice, and each time the next pause of the schedule is taken; the
token fires only when the answer has been there. -/
theorem exchanges_retry_within_budget_of_busy_server :
    let wire : Wire := fun count _ =>
      .answered 5 ⟨if count < 2 then 503 else 200, ⟨[], some 0⟩⟩
    let options : RequestOptions := { retryAttempts := some 4, retrySchedule := some [10, 20] }
    let call := callOf {} wire options (some 1000) .get "http://portal.test/height" none
    (exchange call ⟨0, []⟩).2.attempts.map Attempt.instant = [0, 15, 40] := by
  intro wire options call
  have unfired : ∀ fired, some 1000 = some fired -> IsOver fired
      (exchange (callOf {} wire options none .get "http://portal.test/height" none) ⟨0, []⟩) := by
    intro fired isFired
    rw [← Option.some.inj isFired]
    decide +kernel
  obtain ⟨retries, departure, _, attempts, goesOn, start, pauses, _⟩ :=
    exchanges_retry_within_budget {} wire options (some 1000) .get "http://portal.test/height"
      none ⟨0, []⟩ unfired
  have first : 0 < retries := (goesOn 0 (Nat.zero_le _)).mpr (by decide +kernel)
  have second : 1 < retries := (goesOn 1 first).mpr (by decide +kernel)
  have third : ¬2 < retries := fun before =>
    absurd ((goesOn 2 second).mp before).1 (by decide +kernel)
  obtain rfl : retries = 2 := by omega
  obtain ⟨pause, waits, next⟩ := pauses 0 first
  obtain ⟨longer, waitsLonger, last⟩ := pauses 1 second
  have isPause : pause = 10 := Option.some.inj (waits.symm.trans (by decide +kernel))
  have isLonger : longer = 20 := Option.some.inj (waitsLonger.symm.trans (by decide +kernel))
  have duration : ∀ index < 2, Trial.duration ((guarded wire (0 + index)
      ⟨.get, "http://portal.test/height", [], none⟩).trial (some (Duration.ofSeconds 60))) = 5 := by
    decide +kernel
  have isNext : departure 1 = departure 0 + 5 + pause :=
    next.trans (congrArg (departure 0 + · + pause) (duration 0 (by decide)))
  have isLast : departure 2 = departure 1 + 5 + longer :=
    last.trans (congrArg (departure 1 + · + longer) (duration 1 (by decide)))
  have instants : (exchange call ⟨0, []⟩).2.attempts.map Attempt.instant =
      [departure 0, departure 1, departure 2] :=
    congrArg (List.map Attempt.instant) attempts
  rw [instants, isLast, isNext, start, isPause, isLonger]

end Http
end BlockFeed
