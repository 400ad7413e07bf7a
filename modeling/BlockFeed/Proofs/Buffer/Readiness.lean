import BlockFeed.Proofs.Buffer.Timers

/-!
# What readiness foretells

Before a consumer takes, it may ask whether a release is due. The answer is read off the flags
of the buffer, whereas a take looks at the timers besides. So whoever is told that a release is
due gets the whole unit at once. Whoever is told that none is may still get it at once, namely
if a timer has lapsed that no take has looked at since; for nothing else does the answer miss.
-/

namespace BlockFeed
namespace Buffer

namespace Observed

/-- The session after a new take has looked at the buffer once. -/
def asked (observed : Observed α) : Observed α :=
  observed.run (.call .take :: List.replicate 3 (.step observed.session.calls))

/-- A take that begins now is over at its first look, with a result. -/
def Yields (observed : Observed α) (result : Take α) : Prop :=
  observed.asked.completions =
    observed.completions ++ [⟨observed.session.calls, observed.now, .took result⟩]

/-- There is a unit in a running buffer that has been idle long enough, or for which a take need
not wait. -/
def HasLapsed (observed : Observed α) : Prop :=
  observed.buffer.phase = .running ∧
    ∃ told, observed.tally = some told ∧
      (observed.buffer.config.patience = some 0 ∨
        ∃ idle, observed.buffer.config.idle = some idle ∧ told.latest + idle ≤ observed.now)

/-- A take that begins now has to set a timer beyond the end of the clock. -/
def Overruns (observed : Observed α) : Prop :=
  Instant.Overshoots observed.now observed.buffer.config.patience ∨
    observed.buffer.phase = .running ∧
      ∃ told, observed.tally = some told ∧
        Instant.Overshoots told.latest observed.buffer.config.idle

end Observed

/-! ## What a take finds -/

theorem legacy_ne_waiting (buffer : Buffer α) (wake : Option Instant) :
    buffer.legacy ≠ .waiting wake := by
  cases phase : buffer.phase with
  | failed report => cases report <;> simp [legacy, phase]
  | running => cases pending : buffer.pending <;> simp [legacy, phase, pending]
  | closed => cases pending : buffer.pending <;> simp [legacy, phase, pending]

theorem isReady_of_ended {buffer : Buffer α} (ended : buffer.phase ≠ .running) :
    buffer.isReady = true := by
  simp [isReady, isRunning_eq_false_iff.mpr ended]

theorem isReady_of_running {buffer : Buffer α} (running : buffer.phase = .running) :
    buffer.isReady = true ↔ buffer.due = true ∧ buffer.filled = true := by
  simp [isReady, isRunning_iff.mpr running]

namespace Observed.IsTold

variable {observed : Observed α}

/-- A unit that has reached the least size, or after which a hint came, makes a buffer ready. -/
theorem isReady
    (told : observed.IsTold)
    {unit : Tally α}
    (isTold : observed.tally = some unit)
    (ready : unit.IsReady observed.buffer.config) :
    observed.buffer.isReady = true := by
  by_cases running : observed.buffer.phase = .running
  · have toldBy := told running
    rw [isReady_of_running running, toldBy.filled, isTold]
    exact ⟨toldBy.ready unit isTold ready, rfl⟩
  · exact isReady_of_ended running

/-- The deadline of a take has come as soon as it begins only if the take need not wait. -/
theorem reached_patience (config : Config) (now : Instant) :
    Instant.reached now (config.patience.map (now + ·)) = true ↔ config.patience = some 0 := by
  cases config.patience with
  | none => simp
  | some length =>
      have atOnce : now + length ≤ now + 0 ↔ length ≤ 0 := Nat.add_le_add_iff_left
      rw [Option.map_some, Instant.reached_some, decide_eq_true_iff, Option.some.injEq]
      exact atOnce.trans Nat.le_zero

/-- With the timers that a new take sets, its look finds the unit of a running buffer due if the
buffer is ready or a timer has lapsed. -/
theorem dueAt_iff
    (told : observed.IsTold)
    (running : observed.buffer.phase = .running)
    {idle : Option Instant}
    (idleDeadline : observed.buffer.idleDeadline = .ok idle) :
    (observed.buffer.pending.isSome = true ∧
        observed.buffer.DueAt observed.now
          (observed.buffer.config.patience.map (observed.now + ·)) idle) ↔
      observed.buffer.isReady = true ∨ observed.HasLapsed := by
  have toldBy := told running
  rw [isReady_of_running running]
  cases isTold : observed.tally with
  | none =>
      rw [isTold] at toldBy
      simp [toldBy.pending, toldBy.filled, HasLapsed, isTold]
  | some unit =>
      rw [isTold] at toldBy
      have isIdle : idle = observed.buffer.config.idle.map (unit.latest + ·) :=
        Instant.expiry_eq_ok (toldBy.idleDeadline ▸ idleDeadline)
      have idled : Instant.reached observed.now idle = true ↔
          ∃ length, observed.buffer.config.idle = some length ∧
            unit.latest + length ≤ observed.now := by
        rw [isIdle]
        cases observed.buffer.config.idle <;> simp
      have waited := reached_patience observed.buffer.config observed.now
      simp [DueAt, noticed, toldBy.pending, toldBy.filled, HasLapsed, running, isTold, idled,
        waited, or_assoc]

/-- A new take that can set its timers gets what there is, if the buffer is ready or a timer has
lapsed, and otherwise it has to wait. -/
theorem taking_new
    (told : observed.IsTold)
    (settable : ¬observed.Overruns)
    {result : Take α} {rest : Buffer α}
    (taking : Taking observed.buffer observed.now
      (observed.buffer.config.patience.map (observed.now + ·)) result rest) :
    result = observed.buffer.legacy ∧ (observed.buffer.isReady = true ∨ observed.HasLapsed) ∨
      (∃ wake, result = .waiting wake) ∧
        ¬(observed.buffer.isReady = true ∨ observed.HasLapsed) := by
  cases taking with
  | reported fault failed =>
      exact .inl ⟨by simp [legacy, failed], .inl (isReady_of_ended (by simp [failed]))⟩
  | silent failed =>
      exact .inl ⟨by simp [legacy, failed], .inl (isReady_of_ended (by simp [failed]))⟩
  | remainder unit closed pending =>
      exact .inl ⟨by simp [legacy, closed, pending], .inl (isReady_of_ended (by simp [closed]))⟩
  | ended closed empty =>
      exact .inl ⟨by simp [legacy, closed, empty], .inl (isReady_of_ended (by simp [closed]))⟩
  | overflow problem running beyond =>
      exact absurd
        (.inr ⟨running, (told.idleDeadline_eq_error running).mp ⟨problem, beyond⟩⟩) settable
  | release unit idle running pending idleDeadline dueAt =>
      refine .inl ⟨by simp [legacy, running, pending], ?_⟩
      exact (told.dueAt_iff running idleDeadline).mp ⟨by simp [pending], dueAt⟩
  | waiting idle running idleDeadline notDue =>
      refine .inr ⟨⟨_, rfl⟩, fun ready => ?_⟩
      obtain ⟨pending, dueAt⟩ := (told.dueAt_iff running idleDeadline).mpr ready
      exact notDue pending dueAt

end Observed.IsTold

/-! ## The first look of a take -/

namespace Session

variable {session : Session α}

/-- A step of nobody changes nothing. -/
theorem act_step_of_absent
    {id : Nat}
    (absent : ∀ caller ∈ session.crowd.callers, caller.id ≠ id) :
    (session.act (.step id)).crowd = session.crowd := by
  rcases session.act_step id with same | ⟨caller, mem, isId, _⟩
  · rw [same]
  · exact absurd isId (absent caller mem)

/-- A caller that only changes its own state goes on, and nothing else happens. -/
theorem Numbered.act_step_alone
    (numbered : session.Numbered)
    {caller following : Caller α}
    (mem : caller ∈ session.crowd.callers)
    (able : caller.canProceed session.crowd.now = true)
    (advance : caller.advance session.crowd.buffer session.crowd.now =
      ⟨session.crowd.buffer, .none, .inl following⟩)
    (isId : following.id = caller.id) :
    (session.act (.step caller.id)).Numbered ∧
      following ∈ (session.act (.step caller.id)).crowd.callers ∧
      (session.act (.step caller.id)).crowd.buffer = session.crowd.buffer ∧
      (session.act (.step caller.id)).crowd.now = session.crowd.now ∧
      (session.act (.step caller.id)).crowd.completions = session.crowd.completions := by
  have stepped := numbered.act_step mem able
  rw [advance] at stepped
  rw [stepped]
  let alone : Advance α := ⟨session.crowd.buffer, .none, .inl following⟩
  have next : alone.next = .inl following := rfl
  have present := session.crowd.mem_apply_of_next mem next isId
  refine ⟨numbered.act _, present, by simp, by simp, by simp [Advance.completion?]⟩

end Session

/-- A take that finds nothing due falls asleep. -/
theorem Caller.next_of_waiting
    (caller : Caller α)
    {buffer : Buffer α} {now : Instant} {wake : Option Instant}
    (waiting : (buffer.take now caller.deadline).1 = .waiting wake) :
    (caller.lookTake buffer now).next = .inl (caller.goTo (.asleep wake)) := by
  simp [lookTake, waiting]

/-- A take that finds anything else ends with it. -/
theorem Caller.next_of_not_waiting
    (caller : Caller α)
    {buffer : Buffer α} {now : Instant}
    (notWaiting : ∀ wake, (buffer.take now caller.deadline).1 ≠ .waiting wake) :
    (caller.lookTake buffer now).next = .inr (.took (buffer.take now caller.deadline).1) := by
  cases result : (buffer.take now caller.deadline).1 with
  | waiting wake => exact absurd result (notWaiting wake)
  | _ => simp [lookTake, result]

namespace Observed

variable {observed : Observed α}

/-- A new take with a timer that it cannot set is over at its first step. -/
theorem yields_overflow
    (numbered : observed.session.Numbered)
    {problem : Instant.Unrepresentable}
    (patience : observed.buffer.patienceDeadline observed.now = .error problem) :
    observed.Yields .overflow := by
  let id := observed.session.calls
  let called := observed.session.act (.call .take)
  have mem : .create id .take ∈ called.crowd.callers :=
    List.mem_append_right _ (List.mem_singleton.mpr rfl)
  have advance : (Caller.create id .take).advance called.crowd.buffer called.crowd.now =
      ⟨observed.buffer, .none, .inr (.took .overflow)⟩ := by
    have isPatience : called.crowd.buffer.patienceDeadline called.crowd.now = .error problem :=
      patience
    simp only [Caller.advance, Caller.create, Caller.beginTake, isPatience]
    rfl
  have completed : (called.act (.step id)).crowd = _ :=
    (numbered.act (.call .take)).act_step mem rfl
  rw [advance] at completed
  have absent : ∀ caller ∈ (called.act (.step id)).crowd.callers, caller.id ≠ id := by
    rw [completed]
    intro caller isThere
    obtain ⟨before, stayed, rfl⟩ := (Crowd.mem_callers_notify _).mp isThere
    rw [Caller.id_signal_if]
    exact bne_iff_ne.mp (List.mem_filter.mp stayed).2
  have second := Session.act_step_of_absent absent
  have third := Session.act_step_of_absent (second ▸ absent)
  have crowd : observed.asked.session.crowd = (called.act (.step id)).crowd := by
    rw [asked, session_run]
    exact third.trans second
  rw [Yields, completions, crowd, completed, Crowd.completions_apply]
  rfl

/-- A new take that can set its own timer looks at the buffer. -/
theorem looks
    (numbered : observed.session.Numbered)
    {deadline : Option Instant}
    (patience : observed.buffer.patienceDeadline observed.now = .ok deadline) :
    let id := observed.session.calls
    let looking := observed.session.run [.call .take, .step id, .step id]
    looking.Numbered ∧ ⟨id, .take, .looking, false, 0, deadline⟩ ∈ looking.crowd.callers ∧
      looking.crowd.buffer = observed.buffer ∧ looking.crowd.now = observed.now ∧
      looking.crowd.completions = observed.completions := by
  intro id looking
  let called := observed.session.act (.call .take)
  have mem : .create id .take ∈ called.crowd.callers :=
    List.mem_append_right _ (List.mem_singleton.mpr rfl)
  have began : (Caller.create id .take).advance called.crowd.buffer called.crowd.now =
      ⟨called.crowd.buffer, .none, .inl ⟨id, .take, .turning, false, 0, deadline⟩⟩ := by
    have isPatience : called.crowd.buffer.patienceDeadline called.crowd.now = .ok deadline :=
      patience
    simp only [Caller.advance, Caller.create, Caller.beginTake, isPatience]
  obtain ⟨turningNumbered, turning, buffer, now, completions⟩ :=
    (numbered.act (.call .take)).act_step_alone mem rfl began rfl
  obtain ⟨lookingNumbered, isThere, sameBuffer, sameNow, sameCompletions⟩ :=
    turningNumbered.act_step_alone turning rfl rfl rfl
  exact ⟨lookingNumbered, isThere, sameBuffer.trans buffer, sameNow.trans now,
    sameCompletions.trans completions⟩

/-- A new take that can set its own timer is over at its first look, with what it finds, unless
it has to wait. -/
theorem yields_or_waits
    (numbered : observed.session.Numbered)
    {deadline : Option Instant}
    (patience : observed.buffer.patienceDeadline observed.now = .ok deadline) :
    (∃ wake, (observed.buffer.take observed.now deadline).1 = .waiting wake) ∧
        observed.asked.completions = observed.completions ∧
        observed.session.calls ∈ observed.asked.unfinished ∨
      (∀ wake, (observed.buffer.take observed.now deadline).1 ≠ .waiting wake) ∧
        observed.Yields (observed.buffer.take observed.now deadline).1 := by
  obtain ⟨lookingNumbered, isThere, buffer, now, completions⟩ := looks numbered patience
  let taker : Caller α := ⟨observed.session.calls, .take, .looking, false, 0, deadline⟩
  let looking := observed.session.run
    [.call .take, .step observed.session.calls, .step observed.session.calls]
  have crowd : observed.asked.session.crowd =
      looking.crowd.apply taker (taker.lookTake observed.buffer observed.now) := by
    rw [asked, session_run, ← buffer, ← now]
    exact lookingNumbered.act_step isThere rfl
  have completed : observed.asked.completions = observed.completions ++
      ((taker.lookTake observed.buffer observed.now).completion? taker.id observed.now).toList := by
    rw [Observed.completions, crowd, Crowd.completions_apply, now, completions]
  by_cases waits : ∃ wake, (observed.buffer.take observed.now deadline).1 = .waiting wake
  · obtain ⟨wake, waiting⟩ := waits
    have next : (taker.lookTake observed.buffer observed.now).next =
        .inl (taker.goTo (.asleep wake)) := taker.next_of_waiting waiting
    refine .inl ⟨⟨wake, waiting⟩, by simp [completed, Advance.completion?, next], ?_⟩
    have asleep := looking.crowd.mem_apply_of_next isThere next rfl
    rw [unfinished, crowd]
    refine List.mem_map.mpr ⟨_, asleep, ?_⟩
    rw [Caller.id_signal_if]
    rfl
  · have notWaiting := not_exists.mp waits
    have next : (taker.lookTake observed.buffer observed.now).next =
        .inr (.took (observed.buffer.take observed.now deadline).1) :=
      taker.next_of_not_waiting notWaiting
    exact .inr ⟨notWaiting, by simp [Yields, completed, Advance.completion?, next, taker]⟩

/-- A take that begins now is over at its first look for a reason that can be told beforehand, or
it has none and waits. -/
theorem IsTold.yields_or_waits
    (told : observed.IsTold)
    (numbered : observed.session.Numbered) :
    (∃ result, observed.Yields result ∧
        (observed.Overruns ∧ result = .overflow ∨
          ¬observed.Overruns ∧ (observed.buffer.isReady = true ∨ observed.HasLapsed) ∧
            result = observed.buffer.legacy)) ∨
      ¬observed.Overruns ∧ ¬(observed.buffer.isReady = true ∨ observed.HasLapsed) ∧
        observed.asked.completions = observed.completions ∧
        observed.session.calls ∈ observed.asked.unfinished := by
  cases patience : observed.buffer.patienceDeadline observed.now with
  | error problem =>
      have late := Instant.overshoots_iff.mpr ⟨problem, patience⟩
      exact .inl ⟨.overflow, yields_overflow numbered patience, .inl ⟨.inl late, rfl⟩⟩
  | ok deadline =>
      obtain rfl := Instant.expiry_eq_ok patience
      have first := Observed.yields_or_waits numbered patience
      by_cases overruns : observed.Overruns
      · have overflows : ∀ deadline,
            (observed.buffer.take observed.now deadline).1 = .overflow := by
          intro deadline
          rcases overruns with late | ⟨running, late⟩
          · obtain ⟨problem, isError⟩ := Instant.overshoots_iff.mp late
            rw [patienceDeadline, isError] at patience
            cases patience
          · obtain ⟨problem, beyond⟩ := (told.idleDeadline_eq_error running).mpr late
            simp [take, running, beyond]
        rw [overflows] at first
        rcases first with ⟨⟨_, waiting⟩, _⟩ | ⟨_, yields⟩
        · cases waiting
        · exact .inl ⟨.overflow, yields, .inl ⟨overruns, rfl⟩⟩
      · have taking := taking_take observed.buffer observed.now
          (observed.buffer.config.patience.map (observed.now + ·))
        rcases told.taking_new overruns taking with ⟨isLegacy, ready⟩ | ⟨⟨wake, waiting⟩, notReady⟩
        · rcases first with ⟨⟨wake, waiting⟩, _⟩ | ⟨_, yields⟩
          · exact absurd (isLegacy.symm.trans waiting) (legacy_ne_waiting _ wake)
          · exact .inl ⟨_, yields, .inr ⟨overruns, ready, isLegacy⟩⟩
        · rcases first with ⟨_, completions, unfinished⟩ | ⟨notWaiting, _⟩
          · exact .inr ⟨overruns, notReady, completions, unfinished⟩
          · exact absurd waiting (notWaiting wake)

theorem Yields.unique
    {result other : Take α}
    (yields : observed.Yields result)
    (also : observed.Yields other) :
    result = other := by
  simpa [Yields] using yields.symm.trans also

/-- What a new take comes to at its first look is foretold by the readiness of the buffer and by
the timers that have lapsed. A take that begins now overflows if it has to set a timer beyond the
end of the clock. Otherwise it is over at once exactly if the buffer is ready or a timer has
lapsed, and then it gets what there is: the unit as a whole, or how the buffer has ended. If it
is not over at once, nothing else has happened but that it waits. And a buffer whose unit has
reached the least size or was followed by a hint is always ready. -/
theorem readiness_foretells_takes_but_for_timers (config : Config) (moves : List (Move α)) :
    let observed := (create config).run moves
    let isForetold := observed.buffer.isReady = true ∨ observed.HasLapsed
    (∀ result, observed.Yields result ↔
      observed.Overruns ∧ result = .overflow ∨
        ¬observed.Overruns ∧ isForetold ∧ result = observed.buffer.legacy) ∧
    ((∀ result, ¬observed.Yields result) ->
      observed.asked.completions = observed.completions ∧
        observed.session.calls ∈ observed.asked.unfinished) ∧
    (∀ told, observed.tally = some told -> told.IsReady config ->
      observed.buffer.isReady = true) := by
  intro observed isForetold
  have told : observed.IsTold := (IsTold.create config).run moves
  have isConfig : observed.buffer.config = config := by
    rw [config_run]
    rfl
  have numbered : observed.session.Numbered := by
    rw [session_run]
    exact (Session.Numbered.create config).run moves
  have decided := told.yields_or_waits numbered
  refine ⟨?results, ?waits, ?conditions⟩
  case results =>
    intro result
    rcases decided with ⟨given, yields, reason⟩ | ⟨settable, notReady, completions, _⟩
    · constructor
      · intro also
        rwa [also.unique yields]
      · intro other
        have same : result = given := by
          rcases reason with ⟨overruns, rfl⟩ | ⟨settable, _, rfl⟩
          · rcases other with ⟨_, rfl⟩ | ⟨settable, _⟩
            · rfl
            · exact absurd overruns settable
          · rcases other with ⟨overruns, _⟩ | ⟨_, _, rfl⟩
            · exact absurd overruns settable
            · rfl
        rwa [same]
    · constructor
      · intro yields
        simp [Yields, completions] at yields
      · rintro (⟨overruns, _⟩ | ⟨_, ready, _⟩)
        · exact absurd overruns settable
        · exact absurd ready notReady
  case waits =>
    intro nothing
    rcases decided with ⟨given, yields, _⟩ | ⟨_, _, waits⟩
    · exact absurd yields (nothing given)
    · exact waits
  case conditions =>
    intro unit isTold ready
    exact told.isReady isTold (isConfig.symm ▸ ready)

/-- A unit that has reached the least size is there for a take at once. -/
theorem readiness_foretells_takes_but_for_timers_of_full_unit :
    let config : Config := ⟨1, 2, some 3, none⟩
    let observed : Observed Nat := (create config).run [.call (.put [7] 1), .step 0]
    observed.buffer.isReady = true ∧ observed.Yields (.released [7]) := by
  intro config observed
  have foretold := readiness_foretells_takes_but_for_timers config
    ([.call (.put [7] 1), .step 0] : List (Move Nat))
  have ready : observed.buffer.isReady = true := foretold.2.2 ⟨[7], 1, false, 0⟩ rfl
    (.inl (by decide))
  have settable : ¬observed.Overruns := by
    rintro (⟨_, isPatience, _⟩ | ⟨_, unit, isTold, _, isIdle, late⟩)
    · cases isPatience
    · cases isTold
      cases isIdle
      exact absurd late (by decide +kernel)
  exact ⟨ready, (foretold.1 _).mpr (.inr ⟨settable, .inl ready, rfl⟩)⟩

/-- A unit that has been idle for long enough is there for a take at once, and so is any unit for
a take that need not wait. In both cases the buffer is not ready. -/
theorem lapsed_units_are_taken_though_not_ready :
    let put : List (Move Nat) := [.call (.put [7] 10), .step 0]
    let idled := (create (.make 1000 none (some 300) none)).run (put ++ [.pass 500])
    let hasty := (create (.make 1000 none none (some 0))).run put
    idled.buffer.isReady = false ∧ idled.Yields (.released [7]) ∧
      hasty.buffer.isReady = false ∧ hasty.Yields (.released [7]) := by
  unfold Yields
  decide +kernel

end Observed
end Buffer
end BlockFeed
