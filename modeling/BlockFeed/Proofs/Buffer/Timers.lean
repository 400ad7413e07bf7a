import BlockFeed.Proofs.Buffer.Finality

/-!
# Timers and the end of the clock

A take sets up to two timers: its own when it begins, and that of the unit whenever it looks at
a running buffer with blocks in it. A timer that would fire only after the clock has ended
cannot be set, and it ends the take at once; nothing else makes a take overflow.

As long as every timer can be set, one that is too long to fire is as good as none: a run with
it and a run without it are the same in everything that anybody can see. Both are cut off at
the last instant that they reach, and what remains of their callers' alarms is equal.
-/

namespace BlockFeed

namespace Buffer

/-! ## Takes that overflow -/

namespace Observed

/-- At its next small step, a take has to set a timer beyond the end of the clock: its own, as
it begins, or that of the unit, as it looks at a running buffer. -/
def Overreaches (observed : Observed α) (caller : Caller α) : Prop :=
  caller.call = .take ∧
    (caller.stage = .arriving ∧
        Instant.Overshoots observed.now observed.buffer.config.patience ∨
      caller.stage = .looking ∧ observed.buffer.phase = .running ∧
        ∃ told, observed.tally = some told ∧
          Instant.Overshoots told.latest observed.buffer.config.idle)

namespace IsTold

variable {observed : Observed α} {caller : Caller α}

/-- The timer of the unit cannot be set if it would overshoot from the last put. -/
theorem idleDeadline_eq_error
    (told : observed.IsTold)
    (running : observed.buffer.phase = .running) :
    (∃ problem, observed.buffer.idleDeadline = .error problem) ↔
      ∃ unit, observed.tally = some unit ∧
        Instant.Overshoots unit.latest observed.buffer.config.idle := by
  have toldBy := told running
  cases isTold : observed.tally with
  | none => simp [Buffer.idleDeadline, toldBy.pending, isTold]
  | some unit =>
      rw [isTold] at toldBy
      simp [toldBy.idleDeadline, Instant.overshoots_iff]

/-- Only a take that overreaches overflows, and it leaves the buffer as it was. -/
theorem overreaches_of_overflow
    (told : observed.IsTold)
    {advance : Advance α} {deed : Option (Deed α)}
    (advancing : caller.Advancing observed.buffer observed.now advance deed)
    (next : advance.next = .inr (.took .overflow)) :
    observed.Overreaches caller ∧ advance.buffer = observed.buffer := by
  cases advancing with
  | overflowed problem arriving call patience =>
      exact ⟨⟨call, .inl ⟨arriving, Instant.overshoots_iff.mpr ⟨problem, patience⟩⟩⟩, rfl⟩
  | tookNothing result rest looking call taking =>
      obtain rfl : result = .overflow := by simpa using next
      cases taking with
      | overflow problem running beyond =>
          have late := (told.idleDeadline_eq_error running).mp ⟨problem, beyond⟩
          exact ⟨⟨call, .inr ⟨looking, running, late⟩⟩, rfl⟩
  | _ => simp at next

/-- A take that overreaches overflows. -/
theorem overflow_of_overreaches
    (told : observed.IsTold)
    (overreaches : observed.Overreaches caller) :
    (caller.advance observed.buffer observed.now).next = .inr (.took .overflow) := by
  obtain ⟨call, ⟨arriving, late⟩ | ⟨looking, running, late⟩⟩ := overreaches
  · obtain ⟨problem, isExpiry⟩ := Instant.overshoots_iff.mp late
    simp [Caller.advance, arriving, call, Caller.beginTake, patienceDeadline, isExpiry]
  · obtain ⟨problem, beyond⟩ := (told.idleDeadline_eq_error running).mpr late
    simp [Caller.advance, looking, call, Caller.lookTake, take, running, beyond]

/-- The step of a caller that can proceed ends with an overflow exactly if the caller
overreaches, and then it leaves the buffer as it was. -/
theorem step_overflows_iff
    (told : observed.IsTold)
    (numbered : observed.session.Numbered)
    (mem : caller ∈ observed.session.crowd.callers)
    (able : caller.canProceed observed.now = true) :
    ((observed.act (.step caller.id)).completions =
        observed.completions ++ [⟨caller.id, observed.now, .took .overflow⟩] ↔
      observed.Overreaches caller) ∧
    (observed.Overreaches caller ->
      (observed.act (.step caller.id)).buffer = observed.buffer) := by
  have stepped := numbered.act_step mem able
  have advancing := caller.advancing_advance observed.buffer observed.now
  have completions : (observed.act (.step caller.id)).completions = observed.completions ++
      ((caller.advance observed.buffer observed.now).completion? caller.id observed.now).toList :=
    (congrArg Crowd.completions stepped).trans (Crowd.completions_apply _ _ _)
  have buffer : (observed.act (.step caller.id)).buffer =
      (caller.advance observed.buffer observed.now).buffer :=
    (congrArg Crowd.buffer stepped).trans (Crowd.buffer_apply _ _ _)
  refine ⟨⟨fun overflowed => ?_, fun overreaches => ?_⟩, fun overreaches => ?_⟩
  · rw [completions, List.append_cancel_left_eq] at overflowed
    refine (told.overreaches_of_overflow advancing ?_).1
    cases next : (caller.advance observed.buffer observed.now).next with
    | inl following => simp [Advance.completion?, next] at overflowed
    | inr outcome => simpa [Advance.completion?, next] using overflowed
  · simp [completions, Advance.completion?, told.overflow_of_overreaches overreaches]
  · rw [buffer]
    exact (told.overreaches_of_overflow advancing (told.overflow_of_overreaches overreaches)).2

end IsTold
end Observed
end Buffer

/-! ## Timers that are too long to fire -/

namespace Instant

/-- A deadline, or the length of a timer, unless it lies beyond the last instant. -/
def within (last : Instant) : Option Instant -> Option Instant
  | some instant => if instant ≤ last then some instant else none
  | none => none

variable {last now instant : Instant}

@[simp] theorem within_none : within last none = none := rfl

theorem within_of_le (early : instant ≤ last) : within last (some instant) = some instant :=
  if_pos early

theorem within_of_lt (late : last < instant) : within last (some instant) = none :=
  if_neg (Nat.not_le.mpr late)

@[simp] theorem within_within (deadline : Option Instant) :
    within last (within last deadline) = within last deadline := by
  cases deadline with
  | none => rfl
  | some instant =>
      rcases Nat.lt_or_ge last instant with late | early
      · rw [within_of_lt late, within_none]
      · rw [within_of_le early, within_of_le early]

/-- Up to the last instant, a deadline beyond it is as good as none. -/
theorem reached_within (inTime : now ≤ last) (deadline : Option Instant) :
    reached now (within last deadline) = reached now deadline := by
  cases deadline with
  | none => rfl
  | some instant =>
      rcases Nat.lt_or_ge last instant with late | early
      · have notYet : now < instant := Nat.lt_of_le_of_lt inTime late
        simp [within_of_lt late, notYet]
      · rw [within_of_le early]

theorem within_earliest (left right : Option Instant) :
    within last (earliest left right) = earliest (within last left) (within last right) := by
  cases left with
  | none => rfl
  | some left =>
      cases right with
      | none => simp only [earliest, within]; split <;> rfl
      | some right =>
          simp only [earliest, within]
          grind

/-- A timer that is longer than the last instant never fires up to there. -/
theorem within_map_within (start : Instant) (duration : Option Duration) :
    within last ((within last duration).map (start + ·)) =
      within last (duration.map (start + ·)) := by
  cases duration with
  | none => rfl
  | some length =>
      rcases Nat.lt_or_ge last length with long | short
      · have late : last < start + length := Nat.lt_of_lt_of_le long (Nat.le_add_left _ _)
        rw [within_of_lt long, Option.map_some, within_of_lt late, Option.map_none, within_none]
      · rw [within_of_le short]

theorem Overshoots.of_within
    {start : Instant} {duration : Option Duration}
    (late : Overshoots start (within last duration)) :
    Overshoots start duration := by
  obtain ⟨length, isLength, beyond⟩ := late
  cases duration with
  | none => cases isLength
  | some full =>
      rcases Nat.lt_or_ge last full with long | short
      · simp [within_of_lt long] at isLength
      · exact ⟨length, (within_of_le short).symm.trans isLength, beyond⟩

end Instant

namespace Buffer

/-- The configuration without the timers that are longer than the last instant. -/
def Config.within (last : Instant) (config : Config) : Config :=
  { config with
    idle := Instant.within last config.idle
    patience := Instant.within last config.patience }

/-- The buffer, of whose timers only those count that can fire up to the last instant. -/
def within (last : Instant) (buffer : Buffer α) : Buffer α :=
  { buffer with config := buffer.config.within last }

/-- The stage, where nobody wakes after the last instant. -/
def Stage.within (last : Instant) : Stage -> Stage
  | .asleep wake => .asleep (Instant.within last wake)
  | stage => stage

/-- The caller, of whose deadlines only those count that come up to the last instant. -/
def Caller.within (last : Instant) (caller : Caller α) : Caller α :=
  { caller with
    stage := caller.stage.within last
    deadline := Instant.within last caller.deadline }

/-- What a take gives, where nobody wakes after the last instant. -/
def Take.within (last : Instant) : Take α -> Take α
  | .waiting wake => .waiting (Instant.within last wake)
  | result => result

/-- What a small step does as far as it can be told up to the last instant. -/
def Advance.within (last : Instant) (advance : Advance α) : Advance α where
  buffer := advance.buffer.within last
  signal := advance.signal
  next := advance.next.map (Caller.within last) id

/-- The crowd as far as it can be told up to the last instant. -/
def Crowd.within (last : Instant) (crowd : Crowd α) : Crowd α :=
  { crowd with
    buffer := crowd.buffer.within last
    callers := crowd.callers.map (Caller.within last) }

/-- No timer overshoots that a take sets up to the last instant. -/
structure Settable (buffer : Buffer α) (last : Instant) : Prop where
  fits : buffer.config.Fits last
  past : buffer.phase = .running -> ∀ latest, buffer.lastPut = some latest -> latest ≤ last

section within

variable {last now : Instant} {buffer : Buffer α} {caller : Caller α}

theorem Config.Fits.within {config : Config} (fits : config.Fits last) :
    (config.within last).Fits last :=
  ⟨fun late => fits.patience late.of_within, fun late => fits.idle late.of_within⟩

@[simp] theorem Stage.within_within (stage : Stage) :
    (stage.within last).within last = stage.within last := by
  cases stage <;> simp [Stage.within]

@[simp] theorem Caller.within_within (caller : Caller α) :
    (caller.within last).within last = caller.within last := by
  simp [Caller.within]

@[simp] theorem within_within (buffer : Buffer α) :
    (buffer.within last).within last = buffer.within last := by
  simp [within, Config.within]

section fields

variable (last) (buffer : Buffer α)

@[simp] theorem pending_within : (buffer.within last).pending = buffer.pending := rfl

@[simp] theorem phase_within : (buffer.within last).phase = buffer.phase := rfl

@[simp] theorem due_within : (buffer.within last).due = buffer.due := rfl

@[simp] theorem filled_within : (buffer.within last).filled = buffer.filled := rfl

@[simp] theorem isRunning_within : (buffer.within last).isRunning = buffer.isRunning := rfl

end fields

/-- The timer of the unit can be set in both buffers, and it is the same up to the last
instant. -/
theorem idleDeadline_within
    (settable : buffer.Settable last)
    (running : buffer.phase = .running) :
    ∃ idle kept, buffer.idleDeadline = .ok idle ∧ (buffer.within last).idleDeadline = .ok kept ∧
      Instant.within last kept = Instant.within last idle := by
  cases isPending : buffer.pending with
  | none => exact ⟨none, none, by simp [idleDeadline, isPending],
      by simp [idleDeadline, within, isPending], rfl⟩
  | some unit =>
      cases isLast : buffer.lastPut with
      | none => exact ⟨none, none, by simp [idleDeadline, isPending, isLast],
          by simp [idleDeadline, within, isPending, isLast], rfl⟩
      | some latest =>
          have fits := fun late =>
            settable.fits.idle (Instant.Overshoots.later late (settable.past running latest isLast))
          refine ⟨_, _, ?_, ?_, Instant.within_map_within latest buffer.config.idle⟩
          · simpa [idleDeadline, isPending, isLast] using
              Instant.expiry_of_not_overshoots fits
          · simpa [idleDeadline, within, Config.within, isPending, isLast] using
              Instant.expiry_of_not_overshoots (fun late => fits late.of_within)

/-- A look at the timers finds the same ones expired up to the last instant. -/
theorem noticed_within
    (inTime : now ≤ last)
    {idle kept : Option Instant}
    (same : Instant.within last kept = Instant.within last idle)
    (deadline : Option Instant) :
    (buffer.within last).noticed now (Instant.within last deadline) kept =
      (buffer.noticed now deadline idle).within last := by
  have reached : Instant.reached now kept = Instant.reached now idle := by
    rw [← Instant.reached_within inTime kept, same, Instant.reached_within inTime]
  simp [noticed, within, Instant.reached_within inTime, reached]

theorem release_within
    {idle kept : Option Instant}
    (same : Instant.within last kept = Instant.within last idle)
    (deadline : Option Instant) :
    ((buffer.within last).release (Instant.within last deadline) kept).map
        (Take.within last) (within last) =
      (buffer.release deadline idle).map (Take.within last) (within last) := by
  have wake : Instant.within last
        (Instant.earliest (if buffer.due then none else Instant.within last deadline) kept) =
      Instant.within last (Instant.earliest (if buffer.due then none else deadline) idle) := by
    rw [Instant.within_earliest, Instant.within_earliest, same]
    split <;> simp
  cases both : buffer.due && buffer.filled with
  | false =>
      simp only [release, due_within, filled_within, both]
      exact Prod.ext (congrArg Take.waiting wake) (within_within buffer)
  | true =>
      cases pending : buffer.pending with
      | none =>
          simp only [release, due_within, filled_within, pending_within, both, pending]
          exact Prod.ext (congrArg Take.waiting wake) (within_within buffer)
      | some unit =>
          simp only [release, due_within, filled_within, pending_within, both, pending]
          exact Prod.ext rfl (within_within buffer.drained)

/-- A take sees no difference up to the last instant. -/
theorem take_within
    (settable : buffer.Settable last)
    (inTime : now ≤ last)
    (deadline : Option Instant) :
    ((buffer.within last).take now (Instant.within last deadline)).map
        (Take.within last) (within last) =
      (buffer.take now deadline).map (Take.within last) (within last) := by
  cases isPhase : buffer.phase with
  | failed report => cases report <;> simp [take, within, isPhase, Config.within]
  | closed => cases isPending : buffer.pending <;>
      simp [take, within, isPhase, isPending, Config.within]
  | running =>
      have running : (buffer.within last).phase = .running := isPhase
      obtain ⟨idle, kept, isIdle, isKept, same⟩ := idleDeadline_within settable isPhase
      simp only [take, isPhase, running, isIdle, isKept, noticed_within inTime same]
      exact release_within same deadline

namespace Caller

theorem beginPut_within (caller : Caller α) (blocks : List α) (bytes : Nat) :
    ((caller.within last).beginPut (buffer.within last) now blocks bytes).within last =
      (caller.beginPut buffer now blocks bytes).within last := by
  have put : (buffer.within last).put now blocks bytes =
      ((buffer.put now blocks bytes).1, (buffer.put now blocks bytes).2.within last) := by
    by_cases running : buffer.phase = .running
    · have stillRunning : (buffer.within last).phase = .running := running
      rw [put_of_running running, put_of_running stillRunning]
      rfl
    · have stillEnded : (buffer.within last).phase ≠ .running := running
      rw [put_of_ended running, put_of_ended stillEnded]
  simp only [beginPut, put, isRunning_within]
  generalize buffer.put now blocks bytes = pair
  obtain ⟨result, filled⟩ := pair
  cases result <;> simp [Advance.within, Caller.within, Stage.within]

theorem beginTake_within
    (fits : buffer.config.Fits last)
    (inTime : now ≤ last)
    (caller : Caller α) :
    ((caller.within last).beginTake (buffer.within last) now).within last =
      (caller.beginTake buffer now).within last := by
  have early := fun late => fits.patience (Instant.Overshoots.later late inTime)
  have deadline := Instant.expiry_of_not_overshoots early
  have kept : Instant.expiry now (buffer.within last).config.patience = _ :=
    Instant.expiry_of_not_overshoots (fun late => early late.of_within)
  have same : Instant.within last ((buffer.within last).config.patience.map (now + ·)) = _ :=
    Instant.within_map_within now buffer.config.patience
  simp only [beginTake, patienceDeadline, deadline, kept]
  simp [Advance.within, Caller.within, Stage.within, same]

theorem lookPut_within (caller : Caller α) :
    ((caller.within last).lookPut (buffer.within last)).within last =
      (caller.lookPut buffer).within last := by
  have admits : (buffer.within last).admits (caller.within last).ticket =
      buffer.admits caller.ticket := rfl
  simp only [lookPut, admits]
  split <;> simp [Advance.within, goTo, Caller.within, Stage.within]

theorem lookTake_within
    (settable : buffer.Settable last)
    (inTime : now ≤ last)
    (caller : Caller α) :
    ((caller.within last).lookTake (buffer.within last) now).within last =
      (caller.lookTake buffer now).within last := by
  have same : Prod.map _ _ ((buffer.within last).take now (caller.within last).deadline) = _ :=
    take_within settable inTime caller.deadline
  simp only [lookTake, isRunning_within]
  generalize (buffer.within last).take now (caller.within last).deadline = kept at same ⊢
  generalize buffer.take now caller.deadline = full at same ⊢
  obtain ⟨keptResult, keptRest⟩ := kept
  obtain ⟨result, rest⟩ := full
  obtain ⟨sameResult, sameRest⟩ := Prod.mk.inj same
  cases result <;> cases keptResult <;>
    simp_all [Take.within, Advance.within, goTo, Caller.within, Stage.within]

/-- A caller that proceeds does the same up to the last instant. -/
theorem advance_within
    (settable : buffer.Settable last)
    (inTime : now ≤ last)
    (caller : Caller α) :
    ((caller.within last).advance (buffer.within last) now).within last =
      (caller.advance buffer now).within last := by
  have sameCall : (caller.within last).call = caller.call := rfl
  have sameStage : (caller.within last).stage = caller.stage.within last := rfl
  cases stage : caller.stage with
  | arriving =>
      simp only [advance, sameCall, sameStage, stage, Stage.within]
      cases caller.call with
      | put blocks bytes => exact caller.beginPut_within blocks bytes
      | take => exact beginTake_within settable.fits inTime caller
  | turning => simp [advance, stage, Caller.within, Stage.within, Advance.within]
  | looking =>
      simp only [advance, sameCall, sameStage, stage, Stage.within]
      cases caller.call with
      | put blocks bytes => exact caller.lookPut_within
      | take => exact lookTake_within settable inTime caller
  | asleep wake => simp [advance, stage, Caller.within, Stage.within, Advance.within, goTo]

/-- What goes into the buffer or comes out of it is the same up to the last instant. -/
theorem deed?_within
    (settable : buffer.Settable last)
    (inTime : now ≤ last)
    (caller : Caller α) :
    (caller.within last).deed? (buffer.within last) now = caller.deed? buffer now := by
  have sameCall : (caller.within last).call = caller.call := rfl
  have sameStage : (caller.within last).stage = caller.stage.within last := rfl
  cases stage : caller.stage with
  | looking =>
      cases call : caller.call with
      | put blocks bytes => simp [deed?, sameCall, sameStage, stage, call, Stage.within]
      | take =>
          have same : Take.within last
                ((buffer.within last).take now (caller.within last).deadline).1 =
              Take.within last (buffer.take now caller.deadline).1 :=
            congrArg Prod.fst (take_within settable inTime caller.deadline)
          simp only [deed?, sameCall, sameStage, stage, call, Stage.within]
          generalize ((buffer.within last).take now (caller.within last).deadline).1 = kept
            at same ⊢
          generalize (buffer.take now caller.deadline).1 = full at same ⊢
          cases full <;> cases kept <;> simp_all [Take.within, Caller.within]
  | arriving =>
      cases call : caller.call <;>
        simp [deed?, stage, call, Stage.within, Caller.within]
  | turning => simp [deed?, sameStage, stage, Stage.within]
  | asleep wake => simp [deed?, sameStage, stage, Stage.within]

theorem canProceed_within (inTime : now ≤ last) (caller : Caller α) :
    (caller.within last).canProceed now = caller.canProceed now := by
  cases stage : caller.stage <;>
    simp [canProceed, Caller.within, Stage.within, stage, Instant.reached_within inTime]

end Caller

theorem close_within (buffer : Buffer α) :
    (buffer.within last).close = buffer.close.within last := by
  cases phase : buffer.phase <;> simp [close, within, phase]

theorem fail_within (buffer : Buffer α) (fault : Fault) :
    (buffer.within last).fail fault = (buffer.fail fault).within last := by
  cases phase : buffer.phase with
  | running =>
      simp only [fail, phase_within, phase, close_within]
      split <;> rfl
  | closed => simp [fail, phase]
  | failed report => simp [fail, phase]

namespace Crowd

@[simp] theorem within_within (crowd : Crowd α) :
    (crowd.within last).within last = crowd.within last := by
  simp [within]

theorem notify_within (crowd : Crowd α) (signal : Signal) :
    (crowd.within last).notify signal = (crowd.notify signal).within last := by
  simp only [within, notify, List.map_map]
  refine congrArg (Crowd.mk _ _ · _) (List.map_congr_left fun caller _ => ?_)
  have listens : (caller.within last).isListening = caller.isListening := by
    cases stage : caller.stage <;>
      simp [Caller.isListening, Caller.within, Stage.within, stage]
  have concerned : signal.concerns (caller.within last) = signal.concerns caller := by
    cases signal <;> rfl
  simp only [Function.comp_apply, concerned]
  split
  · simp only [Caller.signal, listens]
    rfl
  · rfl

/-- What a small step does can be told up to the last instant. -/
theorem apply_within (crowd : Crowd α) (caller : Caller α) (advance : Advance α) :
    (crowd.within last).apply (caller.within last) (advance.within last) =
      (crowd.apply caller advance).within last := by
  simp only [apply]
  rw [← notify_within]
  refine congrArg (Crowd.notify · advance.signal) ?_
  cases next : advance.next with
  | inl following =>
      simp only [Advance.within, next, Sum.map_inl, replace, within, List.map_map]
      refine congrArg (Crowd.mk _ _ · _) (List.map_congr_left fun member _ => ?_)
      by_cases isThis : member.id = following.id <;> simp [Caller.within, isThis]
  | inr outcome =>
      simp only [Advance.within, next, Sum.map_inr, complete, without, within, List.filter_map]
      rfl

theorem react_within (crowd : Crowd α) (event : Event α) :
    (crowd.within last).react event = (crowd.react event).within last := by
  cases event with
  | call id call => simp [react, within, Caller.within, Caller.create, Stage.within]
  | abandon id =>
      simp only [react, without, within, List.filter_map]
      rfl
  | hint => exact notify_within { crowd with buffer := crowd.buffer.hint } _
  | close =>
      have ended : ({ crowd.within last with buffer := (crowd.buffer.within last).close } :
          Crowd α) = Crowd.within last { crowd with buffer := crowd.buffer.close } := by
        rw [close_within]
        rfl
      exact (congrArg (Crowd.notify · (if crowd.buffer.isRunning then .all else .none))
        ended).trans (notify_within _ _)
  | fail fault =>
      have ended : ({ crowd.within last with buffer := (crowd.buffer.within last).fail fault } :
          Crowd α) = Crowd.within last { crowd with buffer := crowd.buffer.fail fault } := by
        rw [fail_within]
        rfl
      exact (congrArg (Crowd.notify · (if crowd.buffer.isRunning then .all else .none))
        ended).trans (notify_within _ _)
  | pass duration => rfl

/-- A small step does the same up to the last instant. -/
theorem step?_within
    (crowd : Crowd α)
    (settable : crowd.buffer.Settable last)
    (inTime : crowd.now ≤ last)
    (id : Nat) :
    ((crowd.within last).step? id).map (within last) = (crowd.step? id).map (within last) ∧
      (crowd.within last).deed? id = crowd.deed? id := by
  have found : (crowd.within last).callers.find? (·.id == id) =
      (crowd.callers.find? (·.id == id)).map (Caller.within last) := List.find?_map
  cases isFound : crowd.callers.find? (·.id == id) with
  | none => simp [step?, deed?, found, isFound]
  | some caller =>
      have able : (caller.within last).canProceed (crowd.within last).now =
          caller.canProceed crowd.now := caller.canProceed_within inTime
      simp only [step?, deed?, found, isFound, Option.map_some, able]
      split
      · refine ⟨congrArg some ?_, caller.deed?_within settable inTime⟩
        rw [← apply_within, ← apply_within, within_within, Caller.within_within]
        exact congrArg _ (caller.advance_within settable inTime)
      · exact ⟨rfl, rfl⟩

end Crowd

namespace Observed

/-- The session as far as it can be told up to the last instant. -/
def within (last : Instant) (observed : Observed α) : Observed α :=
  { observed with
    session := { observed.session with crowd := observed.session.crowd.within last } }

variable {observed kept : Observed α}

@[simp] theorem within_within (observed : Observed α) :
    (observed.within last).within last = observed.within last := by
  simp [within]

theorem create_within (config : Config) :
    (create (config.within last) : Observed α) = (create config).within last := rfl

theorem now_eq_of_within (same : kept.within last = observed.within last) :
    kept.now = observed.now := by
  have now : (kept.within last).now = (observed.within last).now := by rw [same]
  exact now

theorem IsTold.settable
    (told : observed.IsTold)
    (fits : observed.buffer.config.Fits last)
    (inTime : observed.now ≤ last) :
    observed.buffer.Settable last := by
  refine ⟨fits, fun running latest isLast => ?_⟩
  have toldBy := told running
  obtain ⟨unit, isTold, rfl⟩ := Option.map_eq_some_iff.mp (toldBy.lastPut.symm.trans isLast)
  exact Nat.le_trans (toldBy.past unit isTold) inTime

theorem unfinished_within (observed : Observed α) :
    (observed.within last).unfinished = observed.unfinished := by
  simp only [unfinished, Crowd.unfinished, within, Crowd.within, List.map_map]
  rfl

/-- Up to the last instant, nobody sets a timer beyond the end of the clock. -/
theorem IsTold.not_overreaches
    (told : observed.IsTold)
    (fits : observed.buffer.config.Fits last)
    (inTime : observed.now ≤ last) :
    ¬observed.Overreaches caller := by
  rintro ⟨_, ⟨_, late⟩ | ⟨_, running, unit, isTold, late⟩⟩
  · exact fits.patience (late.later inTime)
  · exact fits.idle (late.later (Nat.le_trans ((told running).past unit isTold) inTime))

/-- A move does the same up to the last instant. -/
theorem act_within
    (settable : observed.buffer.Settable last)
    (inTime : observed.now ≤ last)
    (move : Move α) :
    ((observed.within last).act move).within last = (observed.act move).within last := by
  have outside : ∀ event, ((observed.session.crowd.within last).react event).within last =
      (observed.session.crowd.react event).within last := fun event => by
    rw [Crowd.react_within, Crowd.within_within]
  cases move with
  | step id =>
      obtain ⟨stepped, deed⟩ :=
        observed.session.crowd.step?_within settable inTime id
      have crowd : Crowd.within last
            (((observed.session.crowd.within last).step? id).getD
              (observed.session.crowd.within last)) =
          Crowd.within last
            ((observed.session.crowd.step? id).getD observed.session.crowd) := by
        rw [← Option.getD_map (Crowd.within last), ← Option.getD_map (Crowd.within last), stepped,
          Crowd.within_within]
      simp only [act, Session.act, tallyAfter, within, deed, crowd]
      rfl
  | call call => simp only [act, Session.act, Session.react, tallyAfter, within, outside]
  | abandon id => simp only [act, Session.act, Session.react, tallyAfter, within, outside]
  | hint => simp only [act, Session.act, Session.react, tallyAfter, within, outside]
  | close => simp only [act, Session.act, Session.react, tallyAfter, within, outside]
  | fail fault => simp only [act, Session.act, Session.react, tallyAfter, within, outside]
  | pass duration => simp only [act, Session.act, Session.react, tallyAfter, within, outside]

theorem now_le_run (observed : Observed α) (moves : List (Move α)) :
    observed.now ≤ (observed.run moves).now := by
  induction moves generalizing observed with
  | nil => exact Nat.le_refl _
  | cons move rest inductionHypothesis =>
      exact Nat.le_trans (observed.now_le_act move) (inductionHypothesis (observed.act move))

/-- Two sessions that are the same up to the last instant are so after a run that does not
go beyond it. -/
theorem run_within
    (same : kept.within last = observed.within last)
    (settable : kept.IsTold ∧ kept.buffer.config.Fits last)
    (told : observed.IsTold)
    (fits : observed.buffer.config.Fits last)
    (moves : List (Move α))
    (inTime : (observed.run moves).now ≤ last) :
    (kept.run moves).within last = (observed.run moves).within last := by
  induction moves generalizing kept observed with
  | nil => exact same
  | cons move rest inductionHypothesis =>
      have early : observed.now ≤ last :=
        Nat.le_trans (observed.now_le_run (move :: rest)) inTime
      have keptEarly : kept.now ≤ last := now_eq_of_within same ▸ early
      refine inductionHypothesis ?_ ⟨settable.1.act move, ?_⟩ (told.act move) ?_ inTime
      · rw [← act_within (told.settable fits early),
          ← act_within (settable.1.settable settable.2 keptEarly), same]
        · exact keptEarly
        · exact early
      · rw [config_act]
        exact settable.2
      · rw [config_act]
        exact fits

end Observed
end within

/-! ## Deadlines in every run -/

namespace Observed

/-- A take that sets a timer beyond the end of the clock overflows at the step at which it does
so, which leaves the buffer as it was, and no take overflows otherwise. In a run at whose end
every timer could still be set, no take has overflowed, and the timers that are too long to have
fired made no difference: without them, the run is the same. -/
theorem deadlines_overflow_beyond_clock (config : Config) (moves : List (Move α)) :
    let observed := (create config).run moves
    (∀ caller ∈ observed.session.crowd.callers, caller.canProceed observed.now = true ->
      let after := observed.act (.step caller.id)
      (after.completions = observed.completions ++ [⟨caller.id, observed.now, .took .overflow⟩] ↔
          observed.Overreaches caller) ∧
        (observed.Overreaches caller -> after.buffer = observed.buffer)) ∧
    (∀ completion ∈ observed.completions, completion.outcome = .took .overflow ->
      ∃ earlier later, moves = earlier ++ .step completion.id :: later ∧
        ∃ caller ∈ ((create config).run earlier).session.crowd.callers,
          caller.id = completion.id ∧ ((create config).run earlier).Overreaches caller) ∧
    (config.Fits observed.now ->
      let timeless := (create (config.within observed.now)).run moves
      (∀ completion ∈ observed.completions, completion.outcome ≠ .took .overflow) ∧
        timeless.completions = observed.completions ∧
        timeless.unfinished = observed.unfinished ∧
        timeless.session.history = observed.session.history ∧
        timeless.tally = observed.tally ∧
        { timeless.buffer with config := config } = observed.buffer) := by
  intro observed
  have isTold : ∀ moves, ((create config).run moves : Observed α).IsTold :=
    fun moves => (IsTold.create config).run moves
  have isConfig : ∀ moves, ((create config).run moves : Observed α).buffer.config = config := by
    intro moves
    rw [config_run]
    rfl
  have overflows : ∀ completion ∈ observed.completions, completion.outcome = .took .overflow ->
      ∃ earlier later, moves = earlier ++ .step completion.id :: later ∧
        ∃ caller ∈ ((create config).run earlier).session.crowd.callers,
          caller.id = completion.id ∧ ((create config).run earlier).Overreaches caller := by
    intro completion isOver overflowed
    rcases (create config).completions_run isOver with
      wasOver | ⟨earlier, later, split, _, caller, mem, isId, advance, deed, advancing, _, next⟩
    · cases wasOver
    · rw [overflowed] at next
      exact ⟨earlier, later, split, caller, mem, isId,
        ((isTold earlier).overreaches_of_overflow advancing next).1⟩
  refine ⟨?steps, overflows, ?fits⟩
  case steps =>
    intro caller mem able
    have numbered : observed.session.Numbered := by
      rw [session_run]
      exact (Session.Numbered.create config).run moves
    exact (isTold moves).step_overflows_iff numbered mem able
  case fits =>
    intro fits timeless
    have start : (create (config.within observed.now) : Observed α).within observed.now =
        (create config).within observed.now := by
      rw [create_within, within_within]
    have same : timeless.within observed.now = observed.within observed.now :=
      run_within start ⟨IsTold.create _, fits.within⟩
        (IsTold.create config) fits moves (Nat.le_refl _)
    have completions : (timeless.within observed.now).completions =
        (observed.within observed.now).completions := by rw [same]
    have history : (timeless.within observed.now).session.history =
        (observed.within observed.now).session.history := by rw [same]
    have tally : (timeless.within observed.now).tally = (observed.within observed.now).tally := by
      rw [same]
    have buffer : (timeless.within observed.now).buffer =
        (observed.within observed.now).buffer := by rw [same]
    refine ⟨?_, completions, ?_, history, tally, ?_⟩
    · intro completion isOver overflowed
      obtain ⟨earlier, later, split, caller, _, _, overreaches⟩ :=
        overflows completion isOver overflowed
      refine (isTold earlier).not_overreaches ((isConfig earlier).symm ▸ fits) ?_ overreaches
      change _ ≤ ((create config).run moves).now
      rw [split, run_append]
      exact now_le_run _ _
    · rw [← timeless.unfinished_within, same, unfinished_within]
    · have sameBuffer : { timeless.buffer with config := config } =
          { observed.buffer with config := config } :=
        congrArg (fun kept : Buffer α => { kept with config := config }) buffer
      rw [sameBuffer, ← isConfig moves]

/-- A unit whose own timer is set to half the time of the clock is released when the take has
waited long enough, just as if the unit had no timer. -/
theorem deadlines_overflow_beyond_clock_at_half_time :
    let config : Config := ⟨1000, 1000, some (Duration.ofSeconds (Nat.pow 2 62)), some 100⟩
    let moves : List (Move Nat) :=
      [.call (.put [7] 10), .step 0, .call .take, .step 1, .step 1, .step 1, .pass 100,
        .step 1, .step 1, .step 1]
    config.Fits 100 ∧
      ((create config).run moves).completions =
        ((create { config with idle := none }).run moves).completions ∧
      ((create config).run moves).completions =
        [⟨0, 0, .put⟩, ⟨1, 100, .took (.released [7])⟩] := by
  intro config moves
  have fits : config.Fits 100 := by
    have early : ∀ length, 100 + length < Instant.horizon ->
        ¬Instant.Overshoots 100 (some length) := by
      rintro length early ⟨_, isLength, beyond⟩
      rw [← Option.some.inj isLength] at beyond
      exact absurd early (Nat.not_lt.mpr beyond)
    exact ⟨early _ (by decide +kernel), early _ (by decide +kernel)⟩
  have now : ((create config).run moves).now = 100 := by decide +kernel
  have untimed : config.within 100 = { config with idle := none } := by decide +kernel
  obtain ⟨_, _, timeless⟩ := deadlines_overflow_beyond_clock config moves
  rw [now, untimed] at timeless
  exact ⟨fits, (timeless fits).2.1.symm, by decide +kernel⟩

/-- The longest timers that there are do not turn a timer off: a take that waits for as long as
that ends before anything is put, and one that finds a unit with such a timer ends without it
when its own time would have come. -/
theorem longest_deadlines_end_takes :
    let longest : Duration := Duration.ofSeconds (Nat.pow 2 64 - 1) + 999999999
    let take : List (Move Nat) := [.step 0, .step 0, .step 0]
    let moves : List (Move Nat) :=
      .call .take :: (take ++ [.call (.put [7] 10), .step 1, .pass 100] ++ take)
    ((create (.make 10 (some 20) none (some longest))).run moves).completions =
        [⟨0, 0, .took .overflow⟩, ⟨1, 0, .put⟩] ∧
      ((create (.make 10 (some 20) none none)).run moves).completions =
        [⟨1, 0, .put⟩, ⟨0, 100, .took (.released [7])⟩] ∧
      ((create (.make 1000 none (some longest) (some 100))).run moves).completions =
        [⟨1, 0, .put⟩, ⟨0, 100, .took .overflow⟩] ∧
      ((create (.make 1000 none none (some 100))).run moves).completions =
        [⟨1, 0, .put⟩, ⟨0, 100, .took (.released [7])⟩] := by
  decide +kernel

end Observed
end Buffer
end BlockFeed
