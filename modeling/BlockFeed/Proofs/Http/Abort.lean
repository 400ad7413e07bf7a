import BlockFeed.Http.Calls

/-!
# Calls whose token fires

A call whose token fires is compared with the same call without a token. A call that heeds
its token ends at the instant at which the token fires, and sends nothing from then on,
unless it was over before. All attempts and all pauses between them do so, and so does a
call that asks for a text. A call that posts a document and reads the whole answer does so
only until the head of the answer is there: from then on it goes on as if it had no token.
-/

namespace BlockFeed
namespace Http

/-! ## Waiting -/

/-- When a wait ended, if it did. -/
def Awaited.instant? : Awaited -> Option Instant
  | .arrived instant => some instant
  | .timedOut instant => some instant
  | .aborted instant => some instant
  | .forever => none

section await

variable {now fired instant : Instant} {delay limit : Option Duration}

/-- Neither an arrival nor a limit is before the beginning of a wait. -/
theorem le_of_earliest
    (ending : Instant.earliest (delay.map (now + ·)) (limit.map (now + ·)) = some instant) :
    now ≤ instant := by
  cases delay with
  | none =>
      obtain ⟨wait, _, rfl⟩ := Option.map_eq_some_iff.mp ending
      exact Nat.le_add_right now wait
  | some wait =>
      cases limit with
      | none =>
          rw [← Option.some.inj ending]
          exact Nat.le_add_right now wait
      | some longest =>
          rw [← Option.some.inj ending]
          exact Nat.le_min.mpr ⟨Nat.le_add_right now wait, Nat.le_add_right now longest⟩

/-- No wait ends before it began. -/
theorem le_of_await
    {abort : Option Instant}
    (ends : (await now delay limit abort).instant? = some instant) :
    now ≤ instant := by
  unfold await at ends
  simp only at ends
  split at ends
  · next firing ending isFiring isEnding =>
      obtain ⟨fired, _, rfl⟩ := Option.map_eq_some_iff.mp isFiring
      have isLater := le_of_earliest isEnding
      split at ends
      · rw [← Option.some.inj ends]
        exact Nat.le_max_left now fired
      · split at ends <;> rwa [← Option.some.inj ends]
  · next firing isFiring _ =>
      obtain ⟨fired, _, rfl⟩ := Option.map_eq_some_iff.mp isFiring
      rw [← Option.some.inj ends]
      exact Nat.le_max_left now fired
  · next ending _ isEnding =>
      have isLater := le_of_earliest isEnding
      split at ends <;> rwa [← Option.some.inj ends]
  · cases ends

/-- What has arrived was on its way. -/
theorem delay_of_arrived
    {abort : Option Instant}
    (arrived : await now delay limit abort = .arrived instant) :
    delay.isSome = true := by
  cases delay with
  | some wait => rfl
  | none =>
      unfold await at arrived
      simp only [Option.map_none, Instant.earliest_none] at arrived
      split at arrived <;> (try split at arrived) <;> simp_all

/-- A wait that would be over before the token fires is not changed by it. -/
theorem await_of_over
    (pending : now ≤ fired)
    (ends : (await now delay limit none).instant? = some instant)
    (isOver : instant < fired) :
    await now delay limit (some fired) = await now delay limit none := by
  have later : max now fired = fired := Nat.max_eq_right pending
  unfold await at ends ⊢
  simp only [Option.map_some, Option.map_none, later] at ends ⊢
  cases ending : Instant.earliest (delay.map (now + ·)) (limit.map (now + ·)) with
  | none => simp [ending, Awaited.instant?] at ends
  | some last =>
      simp only [ending] at ends ⊢
      have isLast : last = instant := by
        split at ends <;> exact Option.some.inj ends
      rw [if_neg (Nat.not_le.mpr (isLast ▸ isOver))]

/-- Any other wait ends when the token fires. -/
theorem await_of_pending
    (pending : now ≤ fired)
    (late : ∀ instant, (await now delay limit none).instant? = some instant ->
      fired ≤ instant) :
    await now delay limit (some fired) = .aborted fired := by
  have later : max now fired = fired := Nat.max_eq_right pending
  unfold await at late ⊢
  simp only [Option.map_some, Option.map_none, later] at late ⊢
  cases ending : Instant.earliest (delay.map (now + ·)) (limit.map (now + ·)) with
  | none => rfl
  | some last =>
      simp only [ending] at late ⊢
      refine if_pos (late last ?_)
      split <;> rfl

/-- What is on its way arrives. -/
theorem await_some (now : Instant) (wait : Duration) :
    await now (some wait) none none = .arrived (now + wait) := by
  simp [await, Instant.earliest]

/-- What is on its way arrives before the token fires, or not at all. -/
theorem await_some_of_abort (pending : now ≤ fired) (wait : Duration) :
    await now (some wait) none (some fired) =
      if now + wait < fired then .arrived (now + wait) else .aborted fired := by
  have ends : (await now (some wait) none none).instant? = some (now + wait) := by
    rw [await_some]
    rfl
  split
  · next isOver => rw [await_of_over pending ends isOver, await_some]
  · next late =>
      refine await_of_pending pending fun instant isEnd => ?_
      rw [← Option.some.inj (ends.symm.trans isEnd)]
      exact Nat.not_lt.mp late

end await

/-! ## What a call makes of its token -/

/-- The same call without a token. -/
def Call.undisturbed (call : Call) : Call := { call with abort := none }

/-- The fault in which a call has ended, if it has. -/
def faultOf? : Outcome α -> Option Fault
  | some (.error fault) => some fault
  | _ => none

/-- A call has ended before an instant. -/
def IsOver (fired : Instant) (result : Outcome α × Journal) : Prop :=
  result.1.isSome = true ∧ result.2.now < fired

instance (fired : Instant) (result : Outcome α × Journal) : Decidable (IsOver fired result) :=
  inferInstanceAs (Decidable (_ ∧ _))

/-- What was sent between two journals was sent before an instant. -/
def SentBefore (fired : Instant) (journal after : Journal) : Prop :=
  ∃ sent, after.attempts = journal.attempts ++ sent ∧
    ∀ attempt ∈ sent, attempt.instant < fired

/-- A call was called off at the instant at which its token fired, and sent nothing from
then on. -/
structure CalledOff (fired : Instant) (journal : Journal) (result : Outcome α × Journal) :
    Prop where
  outcome : result.1 = some (.error .cancelled)
  instant : result.2.now = fired
  attempts : SentBefore fired journal result.2

/-- A call heeds its token: it ends as the undisturbed one does if that is over before the
token fires, and is called off otherwise. -/
structure Heeds (fired : Instant) (journal : Journal)
    (undisturbed result : Outcome α × Journal) : Prop where
  same : IsOver fired undisturbed -> result = undisturbed
  pending : ¬IsOver fired undisturbed -> CalledOff fired journal result

variable {call : Call} {fired : Instant} {journal middle after : Journal}

namespace SentBefore

theorem refl (fired : Instant) (journal : Journal) : SentBefore fired journal journal :=
  ⟨[], (List.append_nil _).symm, nofun⟩

theorem trans (first : SentBefore fired journal middle) (second : SentBefore fired middle after) :
    SentBefore fired journal after := by
  obtain ⟨sent, attempts, early⟩ := first
  obtain ⟨more, attemptsThen, earlyThen⟩ := second
  refine ⟨sent ++ more, by rw [attemptsThen, attempts, List.append_assoc], ?_⟩
  intro attempt mem
  rcases List.mem_append.mp mem with isSent | isMore
  · exact early attempt isSent
  · exact earlyThen attempt isMore

end SentBefore

/-- A call that follows on one that sent something before the token fired. -/
theorem CalledOff.behind
    {result : Outcome α × Journal}
    (calledOff : CalledOff fired middle result)
    (sent : SentBefore fired journal middle) :
    CalledOff fired journal result where
  outcome := calledOff.outcome
  instant := calledOff.instant
  attempts := sent.trans calledOff.attempts

/-- What cannot be over before the token fires has not ended or ends too late. -/
theorem not_isOver_of_le
    {result : Outcome α × Journal}
    (late : result.1 = none ∨ fired ≤ result.2.now) :
    ¬IsOver fired result := by
  rintro ⟨ended, early⟩
  rcases late with none | isLate
  · simp [none] at ended
  · exact Nat.not_lt.mpr isLate early

/-- What is not over before the token fires has not ended or ends too late. -/
theorem late_of_not_isOver
    {result : Outcome α × Journal}
    (notOver : ¬IsOver fired result) :
    result.1 = none ∨ fired ≤ result.2.now := by
  cases outcome : result.1 with
  | none => exact .inl rfl
  | some value =>
      exact .inr (Nat.not_lt.mp fun early => notOver ⟨by rw [outcome]; rfl, early⟩)

/-! ## Attempts -/

/-- What an attempt makes of the end of its wait. -/
def concluded (limit : Option Duration) (heard : Option (Duration × Except Fault Arrival))
    (sent : Journal) : Awaited -> Outcome Arrival × Journal
  | .arrived instant => (heard.map Prod.snd, { sent with now := instant })
  | .timedOut instant => (some (.error (tooLong limit)), { sent with now := instant })
  | .aborted instant => (some (.error .cancelled), { sent with now := instant })
  | .forever => (none, sent)

/-- The journal of an attempt that is sent. -/
def Journal.sending (journal : Journal) (message : Message) : Journal :=
  { journal with attempts := journal.attempts ++ [⟨journal.now, message⟩] }

/-- What is heard of the next attempt of a call. -/
def Call.hears (call : Call) (journal : Journal) : Option (Duration × Except Fault Arrival) :=
  (call.wire journal.attempts.length call.message).heard? call.message

/-- An attempt whose token has not fired is sent, and waits. -/
theorem attempt_of_live (live : isFired call.abort journal.now = false) :
    attempt call journal =
      concluded call.httpTimeout (call.hears journal) (journal.sending call.message)
        (await journal.now ((call.hears journal).map Prod.fst) call.httpTimeout call.abort) := by
  rw [attempt, live, if_neg Bool.false_ne_true, concluded.eq_def]
  rfl

theorem attempt_of_fired (hasFired : isFired call.abort journal.now = true) :
    attempt call journal = (some (.error .cancelled), journal) := by
  rw [attempt, if_pos hasFired]

/-- However the wait of an attempt ends, its attempts are those that were sent. -/
theorem attempts_concluded
    (limit : Option Duration) (heard : Option (Duration × Except Fault Arrival))
    (sent : Journal) (awaited : Awaited) :
    (concluded limit heard sent awaited).2.attempts = sent.attempts := by
  cases awaited <;> rfl

/-- An attempt is over when its wait is. -/
theorem now_concluded
    {limit : Option Duration} {heard : Option (Duration × Except Fault Arrival)}
    {sent : Journal} {awaited : Awaited} {instant : Instant}
    (ends : awaited.instant? = some instant) :
    (concluded limit heard sent awaited).2.now = instant := by
  cases awaited <;> simp_all [Awaited.instant?, concluded]

/-- What one attempt sends is sent when it is made. -/
theorem sentBefore_attempt (early : journal.now < fired) :
    SentBefore fired journal (attempt call journal).2 := by
  cases live : isFired call.abort journal.now with
  | true =>
      rw [attempt_of_fired live]
      exact .refl fired journal
  | false =>
      rw [attempt_of_live live, SentBefore, attempts_concluded]
      exact ⟨[⟨journal.now, call.message⟩], rfl, by simpa using early⟩

/-- An attempt takes its time. -/
theorem now_le_attempt (call : Call) (journal : Journal) :
    journal.now ≤ (attempt call journal).2.now := by
  cases live : isFired call.abort journal.now with
  | true => exact Nat.le_of_eq (by rw [attempt_of_fired live])
  | false =>
      rw [attempt_of_live live]
      generalize awaits : await journal.now _ _ _ = awaited
      cases ends : awaited.instant? with
      | none => cases awaited <;> simp_all [Awaited.instant?, concluded, Journal.sending]
      | some instant =>
          rw [now_concluded ends]
          exact le_of_await (awaits ▸ ends)

/-- An attempt heeds the token of its call. -/
theorem heeds_attempt (pending : journal.now ≤ fired) (isAbort : call.abort = some fired) :
    Heeds fired journal (attempt call.undisturbed journal) (attempt call journal) := by
  -- The token may fire at the very instant of the attempt: then nothing is sent.
  by_cases hasFired : fired ≤ journal.now
  · have late := now_le_attempt call.undisturbed journal
    refine ⟨fun isOver => absurd (Nat.lt_of_le_of_lt late isOver.2) (Nat.not_lt.mpr hasFired), ?_⟩
    intro _
    rw [attempt_of_fired (by simp [isFired, isAbort, hasFired])]
    exact ⟨rfl, Nat.le_antisymm pending hasFired, .refl fired journal⟩
  · have early : journal.now < fired := Nat.not_le.mp hasFired
    have sent : SentBefore fired journal (attempt call journal).2 := sentBefore_attempt early
    have live : isFired call.abort journal.now = false := by
      simp [isFired, isAbort, hasFired]
    have free : isFired call.undisturbed.abort journal.now = false := rfl
    rw [attempt_of_live live, isAbort] at sent ⊢
    rw [attempt_of_live free]
    change Heeds fired journal
      (concluded call.httpTimeout (call.hears journal) (journal.sending call.message)
        (await journal.now ((call.hears journal).map Prod.fst) call.httpTimeout none)) _
    by_cases inTime : ∃ instant,
        (await journal.now ((call.hears journal).map Prod.fst) call.httpTimeout none).instant? =
          some instant ∧ instant < fired
    · obtain ⟨instant, ends, isOver⟩ := inTime
      rw [await_of_over pending ends isOver]
      refine ⟨fun _ => rfl, fun notOver => absurd ⟨?_, ?_⟩ notOver⟩
      · generalize awaits : await journal.now _ _ _ = awaited at ends
        cases awaited with
        | arrived _ => simpa [concluded] using delay_of_arrived awaits
        | timedOut _ => rfl
        | aborted _ => rfl
        | forever => cases ends
      · rwa [now_concluded ends]
    · have late : ∀ instant,
          (await journal.now ((call.hears journal).map Prod.fst) call.httpTimeout none).instant? =
            some instant -> fired ≤ instant :=
        fun instant ends => Nat.not_lt.mp fun isOver => inTime ⟨instant, ends, isOver⟩
      rw [await_of_pending pending late] at sent ⊢
      refine ⟨fun isOver => absurd isOver (not_isOver_of_le ?_), fun _ => ⟨rfl, rfl, sent⟩⟩
      cases ends :
          (await journal.now ((call.hears journal).map Prod.fst) call.httpTimeout none).instant?
        with
      | some instant =>
          refine .inr ?_
          rw [now_concluded ends]
          exact late instant ends
      | none =>
          refine .inl ?_
          generalize await journal.now _ _ _ = awaited at ends ⊢
          cases awaited <;> first | rfl | cases ends

/-! ## Attempts and pauses -/

section attempts

variable {retries left : Nat} {number : UInt32} {fault : Fault} {pause : Duration}

/-- Only a fault that may pass is followed by another attempt. -/
theorem attempts_of_final
    (final : ∀ fault, (attempt call journal).1 = some (.error fault) ->
      fault.isRetryable = false) :
    attempts call retries number journal = attempt call journal := by
  rw [attempts]
  split
  · next fault after made =>
      rw [final fault (congrArg Prod.fst made), if_neg Bool.false_ne_true, made]
  · rfl

/-- Without retries or a pause before the next one, the first attempt is the last one. -/
theorem attempts_of_spent
    (spent : retries = 0 ∨ call.policy.delay? number = none) :
    attempts call retries number journal = attempt call journal := by
  rw [attempts]
  split
  · next fault after made =>
      split
      · split
        · simp_all
        · exact made.symm
      · exact made.symm
  · rfl

/-- What a call makes of the end of a pause before its next attempt. -/
def resumed (call : Call) (left : Nat) (number : UInt32) (paused : Journal) :
    Awaited -> Outcome Arrival × Journal
  | .arrived instant => attempts call left (number + 1) { paused with now := instant }
  | .aborted instant => (some (.error .cancelled), { paused with now := instant })
  | _ => (none, paused)

/-- Another attempt follows after a pause. -/
theorem attempts_of_retry
    (left : Nat)
    (failed : attempt call journal = (some (.error fault), after))
    (retryable : fault.isRetryable = true)
    (waits : call.policy.delay? number = some pause) :
    attempts call (left + 1) number journal =
      resumed call left number after (await after.now (some pause) none call.abort) := by
  rw [attempts, failed]
  change (if fault.isRetryable = true then _ else _) = _
  rw [if_pos retryable, waits]
  rfl

/-- Retries take their time. -/
theorem attempt_le_attempts
    (call : Call) (retries : Nat) (number : UInt32) (journal : Journal) :
    (attempt call journal).2.now ≤ (attempts call retries number journal).2.now := by
  induction retries generalizing number journal with
  | zero => exact Nat.le_of_eq (by rw [attempts_of_spent (.inl rfl)])
  | succ left inductionHypothesis =>
      by_cases final : ∀ fault, (attempt call journal).1 = some (.error fault) ->
          fault.isRetryable = false
      · exact Nat.le_of_eq (by rw [attempts_of_final final])
      · cases waits : call.policy.delay? number with
        | none => exact Nat.le_of_eq (by rw [attempts_of_spent (.inr waits)])
        | some pause =>
            obtain ⟨fault, failed, retryable⟩ : ∃ fault,
                (attempt call journal).1 = some (.error fault) ∧ fault.isRetryable = true := by
              simpa using final
            rw [attempts_of_retry left (Prod.ext failed rfl) retryable waits]
            generalize awaits : await _ (some pause) none call.abort = awaited
            cases awaited with
            | arrived instant =>
                have paused := le_of_await (congrArg Awaited.instant? awaits)
                have made := now_le_attempt call
                  { (attempt call journal).2 with now := instant }
                exact Nat.le_trans paused (Nat.le_trans made (inductionHypothesis _ _))
            | aborted instant => exact le_of_await (congrArg Awaited.instant? awaits)
            | timedOut _ => exact Nat.le_refl _
            | forever => exact Nat.le_refl _

/-- What a call sends until it is over, it sends before then. -/
theorem sentBefore_attempts
    (retries : Nat) (number : UInt32) (journal : Journal)
    (early : (attempts call retries number journal).2.now < fired) :
    SentBefore fired journal (attempts call retries number journal).2 := by
  have began := Nat.le_trans (now_le_attempt call journal)
    (attempt_le_attempts call retries number journal)
  have first : SentBefore fired journal (attempt call journal).2 :=
    sentBefore_attempt (Nat.lt_of_le_of_lt began early)
  induction retries generalizing number journal with
  | zero => rwa [attempts_of_spent (.inl rfl)]
  | succ left inductionHypothesis =>
      by_cases final : ∀ fault, (attempt call journal).1 = some (.error fault) ->
          fault.isRetryable = false
      · rwa [attempts_of_final final]
      · cases waits : call.policy.delay? number with
        | none => rwa [attempts_of_spent (.inr waits)]
        | some pause =>
            obtain ⟨fault, failed, retryable⟩ : ∃ fault,
                (attempt call journal).1 = some (.error fault) ∧ fault.isRetryable = true := by
              simpa using final
            rw [attempts_of_retry left (Prod.ext failed rfl) retryable waits] at early ⊢
            generalize await _ (some pause) none call.abort = awaited at early ⊢
            cases awaited with
            | arrived instant =>
                refine first.trans (inductionHypothesis (number + 1) _ early ?_ ?_)
                · exact Nat.le_trans (now_le_attempt call _) (attempt_le_attempts call left _ _)
                · exact sentBefore_attempt (Nat.lt_of_le_of_lt (Nat.le_trans
                    (now_le_attempt call _) (attempt_le_attempts call left _ _)) early)
            | aborted instant => exact first
            | timedOut _ => exact first
            | forever => exact first

/-- When the first attempt is called off, so is the whole call. -/
theorem heeds_attempts_of_calledOff
    (retries : Nat) (number : UInt32)
    (notOver : ¬IsOver fired (attempt call.undisturbed journal))
    (calledOff : CalledOff fired journal (attempt call journal)) :
    Heeds fired journal (attempts call.undisturbed retries number journal)
      (attempts call retries number journal) := by
  have same : attempts call retries number journal = attempt call journal := by
    refine attempts_of_final fun fault failed => ?_
    obtain rfl : Fault.cancelled = fault := by
      simpa using calledOff.outcome.symm.trans failed
    rfl
  refine ⟨fun isOver => absurd isOver (not_isOver_of_le ?_), fun _ => same ▸ calledOff⟩
  rcases late_of_not_isOver notOver with none | late
  · rw [attempts_of_final (by simp [none])]
    exact .inl none
  · exact .inr (Nat.le_trans late (attempt_le_attempts _ retries number journal))

/-- A pause after a failed attempt heeds the token of the call if what follows does. -/
theorem heeds_retry
    (failed : attempt call journal = (some (.error fault), after))
    (same : attempt call.undisturbed journal = attempt call journal)
    (retryable : fault.isRetryable = true)
    (waits : call.policy.delay? number = some pause)
    (isAbort : call.abort = some fired)
    (isOver : after.now < fired)
    (sent : SentBefore fired journal after)
    (goesOn : ∀ paused : Journal, paused.now ≤ fired ->
      Heeds fired paused (attempts call.undisturbed left (number + 1) paused)
        (attempts call left (number + 1) paused)) :
    Heeds fired journal (attempts call.undisturbed (left + 1) number journal)
      (attempts call (left + 1) number journal) := by
  have free := attempts_of_retry left (same.trans failed) retryable waits
  have made := attempts_of_retry left failed retryable waits
  have isFree : call.undisturbed.abort = none := rfl
  rw [isFree, await_some] at free
  rw [isAbort, await_some_of_abort (Nat.le_of_lt isOver)] at made
  by_cases inTime : after.now + pause < fired
  · rw [if_pos inTime] at made
    rw [free, made]
    have heeds := goesOn { after with now := after.now + pause } (Nat.le_of_lt inTime)
    exact ⟨heeds.same, fun notOver => (heeds.pending notOver).behind sent⟩
  · rw [if_neg inTime] at made
    rw [free, made]
    have begins := now_le_attempt call.undisturbed { after with now := after.now + pause }
    have ends := attempt_le_attempts call.undisturbed left (number + 1)
      { after with now := after.now + pause }
    refine ⟨fun isOver => absurd isOver (not_isOver_of_le (.inr ?_)),
      fun _ => ⟨rfl, rfl, sent⟩⟩
    exact Nat.le_trans (Nat.not_lt.mp inTime) (Nat.le_trans begins ends)

/-- All attempts and all pauses between them heed the token of their call. -/
theorem heeds_attempts
    (retries : Nat) (number : UInt32)
    (pending : journal.now ≤ fired)
    (isAbort : call.abort = some fired) :
    Heeds fired journal (attempts call.undisturbed retries number journal)
      (attempts call retries number journal) := by
  -- By induction on the attempts that are left: as long as the first one is over in time, the
  -- call goes on as the undisturbed one does, into the pause and into the attempts behind it.
  induction retries generalizing number journal with
  | zero =>
      rw [attempts_of_spent (.inl rfl), attempts_of_spent (.inl rfl)]
      exact heeds_attempt pending isAbort
  | succ left inductionHypothesis =>
      have heeds := heeds_attempt pending isAbort
      by_cases isOver : IsOver fired (attempt call.undisturbed journal)
      · have same := heeds.same isOver
        by_cases final : ∀ fault, (attempt call journal).1 = some (.error fault) ->
            fault.isRetryable = false
        · rw [attempts_of_final final, attempts_of_final (same ▸ final)]
          exact heeds
        · cases waits : call.policy.delay? number with
          | none =>
              have free : call.undisturbed.policy.delay? number = none := waits
              rw [attempts_of_spent (.inr waits), attempts_of_spent (.inr free)]
              exact heeds
          | some pause =>
              obtain ⟨fault, failed, retryable⟩ : ∃ fault,
                  (attempt call journal).1 = some (.error fault) ∧ fault.isRetryable = true := by
                simpa using final
              have began := now_le_attempt call.undisturbed journal
              exact heeds_retry (Prod.ext failed rfl) same.symm retryable waits isAbort
                (same ▸ isOver.2) (sentBefore_attempt (Nat.lt_of_le_of_lt began isOver.2))
                fun paused early => inductionHypothesis (number + 1) early
      · exact heeds_attempts_of_calledOff (left + 1) number isOver (heeds.pending isOver)

end attempts

/-! ## Bodies -/

/-- Reading takes its time. -/
theorem le_readAll
    (ending : Option Duration) (abort : Option Instant) (now : Instant)
    (parts : List (Timed (Except Fault Bytes))) :
    now ≤ (readAll ending abort now parts).2 := by
  induction parts generalizing now with
  | nil =>
      rw [readAll]
      split
      · next instant awaits => exact le_of_await (congrArg Awaited.instant? awaits)
      · next instant awaits => exact le_of_await (congrArg Awaited.instant? awaits)
      · exact Nat.le_refl _
  | cons part rest inductionHypothesis =>
      rw [readAll]
      split
      · next instant awaits =>
          have arrived := le_of_await (congrArg Awaited.instant? awaits)
          split
          · exact arrived
          · exact Nat.le_trans arrived (inductionHypothesis instant)
      · next instant awaits => exact le_of_await (congrArg Awaited.instant? awaits)
      · exact Nat.le_refl _

/-- A body that is read with a token is read as without one if that is over before the token
fires, and otherwise reading it ends when the token fires. -/
theorem readAll_of_abort
    (ending : Option Duration) {now : Instant}
    (parts : List (Timed (Except Fault Bytes)))
    (pending : now ≤ fired) :
    readAll ending (some fired) now parts =
      if (readAll ending none now parts).1.isSome = true ∧
          (readAll ending none now parts).2 < fired
      then readAll ending none now parts
      else (some (.error .cancelled), fired) := by
  induction parts generalizing now with
  | nil =>
      cases ending with
      | none =>
          have called : await now none none (some fired) = .aborted fired :=
            await_of_pending pending nofun
          have never : await now none none none = .forever := rfl
          simp only [readAll, called, never, Option.isSome_none, Bool.false_eq_true, false_and,
            if_false]
      | some wait =>
          simp only [readAll, await_some, await_some_of_abort pending]
          by_cases inTime : now + wait < fired <;> simp [inTime]
  | cons part rest inductionHypothesis =>
      simp only [readAll, await_some, await_some_of_abort pending]
      by_cases inTime : now + part.delay < fired
      · rw [if_pos inTime]
        cases part.content with
        | error fault => simp [inTime]
        | ok chunk =>
            simp only [inductionHypothesis (Nat.le_of_lt inTime), Option.isSome_map]
            split <;> rfl
      · rw [if_neg inTime]
        have isLate : fired ≤ now + part.delay := Nat.not_lt.mp inTime
        cases part.content with
        | error fault => simp [inTime]
        | ok chunk =>
            have ends := le_readAll ending none (now + part.delay) rest
            rw [if_neg fun isOver => Nat.not_lt.mpr (Nat.le_trans isLate ends) isOver.2]

/-! ## Whole calls -/

section map

variable {undisturbed result : Outcome α × Journal} (change : Except Fault α -> Except Fault β)

/-- What is made of the outcome of a call does not matter if it was called off. -/
theorem CalledOff.map
    (calledOff : CalledOff fired journal result)
    (keeps : change (.error .cancelled) = .error .cancelled) :
    CalledOff fired journal (result.1.map change, result.2) where
  outcome := by rw [calledOff.outcome, Option.map_some, keeps]
  instant := calledOff.instant
  attempts := calledOff.attempts

theorem Heeds.map
    (heeds : Heeds fired journal undisturbed result)
    (keeps : change (.error .cancelled) = .error .cancelled) :
    Heeds fired journal (undisturbed.1.map change, undisturbed.2)
      (result.1.map change, result.2) where
  same isOver := by rw [heeds.same ⟨by simpa using isOver.1, isOver.2⟩]
  pending notOver := by
    refine (heeds.pending fun isOver => notOver ⟨?_, isOver.2⟩).map change keeps
    simpa using isOver.1

end map

/-- A body that is read with the token of its call heeds it. -/
theorem heeds_readBody (call : Call) (arrival : Arrival) (pending : journal.now ≤ fired) :
    Heeds fired journal (readBody call none arrival journal)
      (readBody call (some fired) arrival journal) := by
  have reads := readAll_of_abort (bodyOf call arrival).ending (bodyOf call arrival).parts pending
  simp only [readBody, reads]
  split
  · next isOver => exact ⟨fun _ => rfl, fun notOver => absurd isOver notOver⟩
  · next notOver =>
      exact ⟨fun isOver => absurd isOver notOver, fun _ => ⟨rfl, rfl, .refl fired journal⟩⟩

/-- Reading the body of an answer takes its time. -/
theorem now_le_readBody (abort : Option Instant) (arrival : Arrival) :
    journal.now ≤ (readBody call abort arrival journal).2.now :=
  le_readAll _ abort journal.now _

/-- A request heeds the token of its call until the head of its answer is there. -/
theorem heeds_exchange (pending : journal.now ≤ fired) (isAbort : call.abort = some fired) :
    Heeds fired journal (exchange call.undisturbed journal) (exchange call journal) :=
  heeds_attempts _ 1 pending isAbort

/-- Asking for a text heeds the token of the call. -/
theorem heeds_getText
    (call : Call) (pending : journal.now ≤ fired) (isAbort : call.abort = some fired) :
    Heeds fired journal (getText call.undisturbed journal) (getText call journal) := by
  have heeds := heeds_exchange pending isAbort
  unfold getText
  rw [isAbort]
  generalize exchanged : exchange call.undisturbed journal = head at heeds ⊢
  by_cases headIsOver : IsOver fired head
  · rw [heeds.same headIsOver]
    obtain ⟨outcome, after⟩ := head
    have sent : SentBefore fired journal after := by
      have early : (exchange call.undisturbed journal).2.now < fired := exchanged ▸ headIsOver.2
      have sentByHead := sentBefore_attempts _ 1 journal early
      rwa [← exchange, exchanged] at sentByHead
    match outcome with
    | none => exact absurd headIsOver.1 nofun
    | some (.error fault) => exact ⟨fun _ => rfl, fun notOver => absurd headIsOver notOver⟩
    | some (.ok arrival) =>
        have heedsBody :=
          (heeds_readBody call arrival (Nat.le_of_lt headIsOver.2)).map (·.bind textOf) rfl
        exact ⟨heedsBody.same, fun notOver => (heedsBody.pending notOver).behind sent⟩
  · have calledOff := heeds.pending headIsOver
    generalize exchange call journal = result at calledOff ⊢
    obtain ⟨outcome, last⟩ := result
    obtain rfl : outcome = some (.error .cancelled) := calledOff.outcome
    refine ⟨fun isOver => absurd isOver (not_isOver_of_le ?_),
      fun _ => ⟨rfl, calledOff.instant, calledOff.attempts⟩⟩
    obtain ⟨undisturbed, after⟩ := head
    match undisturbed with
    | none => exact .inl rfl
    | some (.error fault) => exact late_of_not_isOver headIsOver
    | some (.ok arrival) =>
        have late := (late_of_not_isOver headIsOver).resolve_left nofun
        exact .inr (Nat.le_trans late (now_le_readBody none arrival))

/-- Posting a document and reading the whole answer heeds the token until the head of the
answer is there, and goes on as without a token from then on. -/
theorem postBuffered_of_abort
    (call : Call) (pending : journal.now ≤ fired) (isAbort : call.abort = some fired) :
    (¬IsOver fired (exchange call.undisturbed journal) ->
      CalledOff fired journal (postBuffered call journal)) ∧
    (IsOver fired (exchange call.undisturbed journal) ->
      postBuffered call journal = postBuffered call.undisturbed journal) := by
  have heeds := heeds_exchange pending isAbort
  constructor
  · intro notOver
    have calledOff := heeds.pending notOver
    unfold postBuffered
    generalize exchange call journal = result at calledOff ⊢
    obtain ⟨outcome, last⟩ := result
    obtain rfl : outcome = some (.error .cancelled) := calledOff.outcome
    exact ⟨rfl, calledOff.instant, calledOff.attempts⟩
  · intro isOver
    unfold postBuffered
    rw [heeds.same isOver]
    rfl

end Http

namespace Client

section calls

variable (client : Client) (wire : Http.Wire) (options : RequestOptions) (query : Query)
  (abort : Option Instant) (journal : Http.Journal)

theorem undisturbed_heightCall :
    (client.heightCall wire options abort).undisturbed = client.heightCall wire options none :=
  rfl

theorem undisturbed_queryCall :
    (client.queryCall wire abort query).undisturbed = client.queryCall wire none query :=
  rfl

/-- The height is what the text says. -/
theorem heightOver_eq :
    client.heightOver wire options abort journal =
      ((Http.getText (client.heightCall wire options abort) journal).1.map
        (·.bind Height.parse),
        (Http.getText (client.heightCall wire options abort) journal).2) :=
  rfl

/-- The blocks are those of the whole answer. -/
theorem queryOver_eq :
    client.queryOver wire abort query journal =
      ((Http.postBuffered (client.queryCall wire abort query) journal).1.map
        (·.bind fun (status, body) => client.blocksOf status body),
        (Http.postBuffered (client.queryCall wire abort query) journal).2) :=
  rfl

end calls

/-- A token that fires while a client waits for the finalized height ends the call at that
instant, in every phase. A query that is run as a whole ends so until the head of its answer
is there; while its body is read, it goes on as if the token had not fired. -/
theorem calls_heed_tokens_until_heads
    (client : Client) (wire : Http.Wire) (options : RequestOptions) (query : Query)
    (fired : Instant) (journal : Http.Journal)
    (pending : journal.now ≤ fired) :
    Http.Heeds fired journal
      (client.heightOver wire options none journal)
      (client.heightOver wire options (some fired) journal) ∧
    (¬Http.IsOver fired (Http.exchange (client.queryCall wire none query) journal) ->
      Http.CalledOff fired journal (client.queryOver wire (some fired) query journal)) ∧
    (Http.IsOver fired (Http.exchange (client.queryCall wire none query) journal) ->
      client.queryOver wire (some fired) query journal =
        client.queryOver wire none query journal) := by
  have heeds := Http.heeds_getText (client.heightCall wire options (some fired)) pending rfl
  have posts := Http.postBuffered_of_abort (client.queryCall wire (some fired) query) pending rfl
  rw [undisturbed_heightCall] at heeds
  rw [undisturbed_queryCall] at posts
  refine ⟨?_, ?_, ?_⟩
  · rw [heightOver_eq, heightOver_eq]
    exact heeds.map _ rfl
  · intro notOver
    rw [queryOver_eq]
    exact (posts.1 notOver).map _ rfl
  · intro isOver
    rw [queryOver_eq, queryOver_eq, posts.2 isOver]

/-- No answer comes, and both calls end when the token fires. -/
theorem calls_heed_tokens_until_heads_in_silence :
    let wire : Http.Wire := fun _ _ => .silent
    let client : Client :=
      ⟨"http://portal.test/height", "http://portal.test/stream", {}⟩
    let query := Query.ofSelection (.empty .evm)
    let fired := Duration.ofMillis 1
    Http.CalledOff fired ⟨0, []⟩ (client.heightOver wire {} (some fired) ⟨0, []⟩) ∧
      Http.CalledOff fired ⟨0, []⟩ (client.queryOver wire (some fired) query ⟨0, []⟩) := by
  intro wire client query fired
  have heightIsPending : ¬Http.IsOver fired (client.heightOver wire {} none ⟨0, []⟩) := by
    decide +kernel
  have headIsPending :
      ¬Http.IsOver fired (Http.exchange (client.queryCall wire none query) ⟨0, []⟩) := by
    decide +kernel
  obtain ⟨height, head, _⟩ :=
    calls_heed_tokens_until_heads client wire {} query fired ⟨0, []⟩ (Nat.zero_le _)
  exact ⟨height.pending heightIsPending, head headIsPending⟩

/-- A part of the answer arrives at once and nothing after it, and the token fires one
millisecond later: the query goes on until the wait for the next part is over. -/
theorem queries_ignore_tokens_in_bodies :
    let wire : Http.Wire := fun _ _ =>
      .answered 0 ⟨200, ⟨[⟨0, .ok (Bytes.ofString "x")⟩], none⟩⟩
    let request : RequestOptions := { bodyTimeout := some (Duration.ofMillis 200) }
    let client : Client :=
      ⟨"http://portal.test/height", "http://portal.test/stream", { request := request }⟩
    let query := Query.ofSelection (.empty .evm)
    let fired := Duration.ofMillis 1
    let undisturbed := client.queryOver wire none query ⟨0, []⟩
    let result := client.queryOver wire (some fired) query ⟨0, []⟩
    ¬Http.IsOver fired undisturbed ∧
      Http.faultOf? result.1 = some (.timeout 200) ∧
      result.2.now = Duration.ofMillis 200 ∧
      ¬Http.CalledOff fired ⟨0, []⟩ result := by
  intro wire request client query fired undisturbed result
  have late : result.2.now = Duration.ofMillis 200 := by decide +kernel
  refine ⟨by decide +kernel, by decide +kernel, late, ?_⟩
  intro calledOff
  exact absurd (late.symm.trans calledOff.instant) (by decide)

end Client
end BlockFeed
