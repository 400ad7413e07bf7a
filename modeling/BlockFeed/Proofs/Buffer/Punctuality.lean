import BlockFeed.Proofs.Buffer.Attunement
import BlockFeed.Proofs.Buffer.Deadlines

/-!
# Takes end when they should

A take that began at an instant is ripe as soon as the buffer has ended or a
release is due for it: the unit is ready, or there is one and the take has waited
long enough or the unit has been idle long enough. In an orderly session a take
never ends before it is ripe, and the clock does not pass an instant at which a
take is ripe before it has ended.

The one exception is a timer beyond the end of the clock: a take that would have
to set it ends at once.
-/

namespace BlockFeed

namespace Instant

/-- The earlier of two instants is no later than the first. -/
theorem earliest_le_left (left : Instant) (right : Option Instant) :
    ∃ alarm, earliest (some left) right = some alarm ∧ alarm ≤ left := by
  cases right with
  | none => exact ⟨left, rfl, Nat.le_refl _⟩
  | some right => exact ⟨min left right, rfl, Nat.min_le_left _ _⟩

/-- The earlier of two instants is no later than the second. -/
theorem earliest_le_right (left : Option Instant) (right : Instant) :
    ∃ alarm, earliest left (some right) = some alarm ∧ alarm ≤ right := by
  cases left with
  | none => exact ⟨right, rfl, Nat.le_refl _⟩
  | some left => exact ⟨min left right, rfl, Nat.min_le_right _ _⟩

end Instant

namespace Buffer

namespace Observed

/-- At an instant, a take that began at another is to end: the buffer has ended,
or there is a unit and its release is due. -/
def IsRipe (observed : Observed α) (began now : Instant) : Prop :=
  observed.buffer.phase ≠ .running ∨
    ∃ told, observed.tally = some told ∧ told.IsDue observed.buffer.config began now

/-- A timer of a take that began at an instant lies beyond the end of the
clock. -/
def IsBeyondClock (observed : Observed α) (began : Instant) : Prop :=
  Instant.Overshoots began observed.buffer.config.patience ∨
    ∃ told, observed.tally = some told ∧
      Instant.Overshoots told.latest observed.buffer.config.idle

/-- A take that began at an instant ends now as it should: it is ripe, and from a
running buffer it gets the whole unit. -/
structure Concludes (observed : Observed α) (began : Instant) (outcome : Outcome α) :
    Prop where
  ripe : observed.IsRipe began observed.now
  noOverflow : outcome ≠ .took .overflow
  whole : observed.buffer.phase = .running ->
    ∃ told, observed.tally = some told ∧ outcome = .took (.released told.blocks)

/-- The session at the last moment of an instant, before a move takes the clock
beyond it. -/
def leaving (observed : Observed α) : List (Move α) -> Instant -> Observed α
  | [], _ => observed
  | move :: rest, instant =>
      if instant < (observed.act move).now then observed
      else (observed.act move).leaving rest instant

/-- The numbers of the calls in progress. -/
def unfinished (observed : Observed α) : List Nat :=
  observed.session.crowd.unfinished

/-- The calls that are over. -/
def completions (observed : Observed α) : List (Completion α) :=
  observed.session.crowd.completions

end Observed

/-! ## A take in progress -/

/-- A caller that is in the middle of a take which began at an instant. -/
structure Caller.Serves
    (caller : Caller α) (config : Config) (began now : Instant) : Prop where
  isTake : caller.isTake = true
  arriving : caller.stage = .arriving -> now = began
  waiting : caller.stage ≠ .arriving ->
    Instant.expiry began config.patience = .ok caller.deadline

namespace Caller

variable {caller : Caller α} {config : Config} {began now : Instant}

/-- The deadline of a take has been reached when it has waited long enough. -/
theorem Serves.reached_iff
    (serves : caller.Serves config began now)
    (arrived : caller.stage ≠ .arriving)
    (instant : Instant) :
    Instant.reached instant caller.deadline = true ↔
      ∃ patience, config.patience = some patience ∧ began + patience ≤ instant := by
  rw [Instant.expiry_eq_ok (serves.waiting arrived)]
  cases config.patience <;> simp

/-- A caller that goes on with a take goes on with the same one. -/
theorem Advancing.serves
    {following : Caller α} {buffer : Buffer α} {advance : Advance α} {deed : Option (Deed α)}
    (advancing : caller.Advancing buffer now advance deed)
    (next : advance.next = .inl following)
    (serves : caller.Serves buffer.config began now) :
    following.Serves advance.buffer.config began now := by
  have config : advance.buffer.config = buffer.config := (advancing.follows []).config
  obtain ⟨_, call, arrived⟩ := advancing.identity next
  refine ⟨by rw [isTake, call]; exact serves.isTake, fun arriving => absurd arriving arrived, ?_⟩
  intro _
  rw [config]
  by_cases arriving : caller.stage = .arriving
  · cases advancing with
    | began deadline _ _ patience =>
        cases next
        rw [← serves.arriving arriving]
        exact patience
    | heldBack blocks bytes _ isPut =>
        exact absurd serves.isTake (by simp [isTake_of_put isPut])
    | listened turning => simp [turning] at arriving
    | sleptHeld _ _ looking => simp [looking] at arriving
    | sleptWaiting _ _ looking => simp [looking] at arriving
    | woke _ asleep => simp [asleep] at arriving
    | _ => simp at next
  · rw [advancing.deadline arriving next]
    exact serves.waiting arriving

/-- A caller whom others signal goes on with the same take. -/
theorem Serves.signal_if
    (serves : caller.Serves config began now)
    (heard : Prop) [Decidable heard] :
    (if heard then caller.signal else caller).Serves config began now where
  isTake := by rw [isTake_signal_if]; exact serves.isTake
  arriving := by rw [stage_signal_if]; exact serves.arriving
  waiting := by
    rw [stage_signal_if, deadline_signal_if]
    exact serves.waiting

end Caller

namespace Observed
namespace Attuned

variable {observed : Observed α} {caller : Caller α} {began : Instant}

/-! ## Never late -/

/-- While a take sleeps, it is not ripe. -/
theorem unripe_of_asleep
    (attuned : observed.Attuned)
    (mem : caller ∈ observed.session.crowd.callers)
    (serves : caller.Serves observed.buffer.config began observed.now)
    (asleep : caller.canProceed observed.now = false)
    {instant : Instant}
    (early : ∀ wake ∈ caller.wake?, instant < wake) :
    ¬observed.IsRipe began instant := by
  obtain ⟨wake, stage, silent⟩ := Session.asleep_of_not_canProceed asleep
  obtain ⟨running, notDue, alarm⟩ :=
    (attuned.justified caller mem).take wake serves.isTake stage silent
  have told := attuned.told running
  rintro (ended | ⟨unit, isTold, due⟩)
  · exact ended running
  · have pending : observed.buffer.pending.isSome = true := by rw [told.pending, isTold]; rfl
    have filled : observed.buffer.filled = true := by rw [told.filled, isTold]; rfl
    obtain ⟨idle, idleDeadline, wakeEq⟩ := alarm pending
    rw [isTold] at told
    have idleEq : idle = observed.buffer.config.idle.map (unit.latest + ·) :=
      Instant.expiry_eq_ok (told.idleDeadline ▸ idleDeadline)
    have deadlineEq : caller.deadline = observed.buffer.config.patience.map (began + ·) :=
      Instant.expiry_eq_ok (serves.waiting (by simp [stage]))
    have notYet : ∀ timer, (∃ alarm, wake = some alarm ∧ alarm ≤ timer) ->
        ¬timer ≤ instant := by
      rintro timer ⟨alarm, isAlarm, alarmLe⟩ timerLe
      have late : instant < alarm := early alarm (by simp [Caller.wake?, stage, isAlarm])
      exact Nat.lt_irrefl _ (Nat.lt_of_lt_of_le late (Nat.le_trans alarmLe timerLe))
    rcases due with ready | ⟨patience, isPatience, waited⟩ | ⟨length, isLength, idled⟩
    · exact notDue ⟨told.ready unit rfl ready, filled⟩
    · refine notYet (began + patience) ?_ waited
      rw [wakeEq, deadlineEq, isPatience]
      exact Instant.earliest_le_left _ _
    · refine notYet (unit.latest + length) ?_ idled
      rw [wakeEq, idleEq, isLength]
      exact Instant.earliest_le_right _ _

/-! ## Never early -/

/-- Whoever has waited long enough is the take in progress. -/
theorem waited_of_reached
    (attuned : observed.Attuned)
    (mem : caller ∈ observed.session.crowd.callers)
    (serves : caller.Serves observed.buffer.config began observed.now)
    (reached : ∃ taker ∈ observed.session.crowd.callers, taker.isTake = true ∧
      taker.stage ≠ .arriving ∧ Instant.reached observed.now taker.deadline = true) :
    ∃ patience, observed.buffer.config.patience = some patience ∧
      began + patience ≤ observed.now := by
  obtain ⟨taker, takerMem, isTake, arrived, isReached⟩ := reached
  have same := attuned.single taker takerMem caller mem isTake serves.isTake
  obtain rfl := attuned.eq_of_id takerMem mem same
  exact (serves.reached_iff arrived _).mp isReached

/-- A unit that a look at the timers finds due is due. -/
theorem isDue_of_dueAt
    (attuned : observed.Attuned)
    (mem : caller ∈ observed.session.crowd.callers)
    (serves : caller.Serves observed.buffer.config began observed.now)
    (looking : caller.stage = .looking)
    (running : observed.buffer.phase = .running)
    {unit : Tally α}
    (isTold : observed.tally = some unit)
    {idle : Option Instant}
    (idleDeadline : observed.buffer.idleDeadline = .ok idle)
    (dueAt : observed.buffer.DueAt observed.now caller.deadline idle) :
    unit.IsDue observed.buffer.config began observed.now := by
  have told := attuned.told running
  rw [isTold] at told
  have either : observed.buffer.due = true ∨
      Instant.reached observed.now caller.deadline = true ∨
      Instant.reached observed.now idle = true := by
    simpa [Buffer.noticed, or_assoc] using dueAt.1
  rcases either with due | reached | reached
  · rcases attuned.cause running due with ⟨ready, isReady, wasReady⟩ | reached | ⟨_, beyond⟩
    · rw [isTold] at isReady
      exact .inl (Option.some.inj isReady ▸ wasReady)
    · exact .inr (.inl (attuned.waited_of_reached mem serves reached))
    · rw [idleDeadline] at beyond
      cases beyond
  · exact .inr (.inl ((serves.reached_iff (by simp [looking]) _).mp reached))
  · rw [told.idleDeadline] at idleDeadline
    rw [Instant.expiry_eq_ok idleDeadline] at reached
    cases isLength : observed.buffer.config.idle with
    | none => simp [isLength] at reached
    | some length => exact .inr (.inr ⟨length, isLength, by simpa [isLength] using reached⟩)

/-- A take that ends does so as it should, or it has to set a timer beyond the end of the
clock. -/
theorem concludes
    (attuned : observed.Attuned)
    (mem : caller ∈ observed.session.crowd.callers)
    (serves : caller.Serves observed.buffer.config began observed.now)
    {advance : Advance α} {deed : Option (Deed α)} {outcome : Outcome α}
    (advancing : caller.Advancing observed.buffer observed.now advance deed)
    (notWaiting : ∀ wake, advance.next ≠ .inr (.took (.waiting wake)))
    (next : advance.next = .inr outcome) :
    observed.Concludes began outcome ∨
      (outcome = .took .overflow ∧ observed.IsBeyondClock began) := by
  cases advancing with
  | joined _ _ _ call => exact absurd serves.isTake (by simp [Caller.isTake_of_put call])
  | discarded _ _ _ call => exact absurd serves.isTake (by simp [Caller.isTake_of_put call])
  | admitted _ _ _ call => exact absurd serves.isTake (by simp [Caller.isTake_of_put call])
  | overflowed problem arriving _ patience =>
      cases next
      rw [patienceDeadline, serves.arriving arriving] at patience
      exact .inr ⟨rfl, .inl (Instant.overshoots_iff.mpr ⟨problem, patience⟩)⟩
  | took blocks rest looking _ taking =>
      cases next
      cases taking with
      | remainder unit closed =>
          have ended : observed.buffer.phase ≠ .running := by simp [closed]
          exact .inl ⟨.inl ended, by simp, fun running => absurd running ended⟩
      | release unit idle running pending idleDeadline dueAt =>
          have told := attuned.told running
          obtain ⟨unitTold, isTold, rfl⟩ :
              ∃ told, observed.tally = some told ∧ told.unit = unit := by
            simpa [told.pending] using pending
          have due := attuned.isDue_of_dueAt mem serves looking running isTold idleDeadline dueAt
          exact .inl ⟨.inr ⟨unitTold, isTold, due⟩, by simp, fun _ => ⟨unitTold, isTold, rfl⟩⟩
  | tookNothing result rest looking _ taking noBlocks =>
      cases next
      cases taking with
      | reported fault failed =>
          have ended : observed.buffer.phase ≠ .running := by simp [failed]
          exact .inl ⟨.inl ended, by simp, fun running => absurd running ended⟩
      | silent failed =>
          have ended : observed.buffer.phase ≠ .running := by simp [failed]
          exact .inl ⟨.inl ended, by simp, fun running => absurd running ended⟩
      | ended closed =>
          have ended : observed.buffer.phase ≠ .running := by simp [closed]
          exact .inl ⟨.inl ended, by simp, fun running => absurd running ended⟩
      | overflow problem running beyond =>
          have told := attuned.told running
          obtain ⟨unit, isTold⟩ : ∃ unit, observed.tally = some unit := by
            cases isTold : observed.tally with
            | none => simp [Buffer.idleDeadline, told.pending, isTold] at beyond
            | some unit => exact ⟨unit, rfl⟩
          rw [isTold] at told
          have late := Instant.overshoots_iff.mpr ⟨problem, told.idleDeadline ▸ beyond⟩
          exact .inr ⟨rfl, .inr ⟨unit, isTold, late⟩⟩
      | remainder unit => exact absurd rfl (noBlocks unit.blocks)
      | release unit => exact absurd rfl (noBlocks unit.blocks)
      | waiting => exact absurd rfl (notWaiting _)
  | _ => cases next

/-! ## Never stuck -/

/-- A unit whose release is due is found due by a look at the timers. -/
theorem dueAt_of_isDue
    (attuned : observed.Attuned)
    (serves : caller.Serves observed.buffer.config began observed.now)
    (looking : caller.stage = .looking)
    (running : observed.buffer.phase = .running)
    {unit : Tally α}
    (isTold : observed.tally = some unit)
    {idle : Option Instant}
    (idleDeadline : observed.buffer.idleDeadline = .ok idle)
    (due : unit.IsDue observed.buffer.config began observed.now) :
    observed.buffer.DueAt observed.now caller.deadline idle := by
  have told := attuned.told running
  rw [isTold] at told
  refine ⟨?_, told.filled⟩
  rcases due with ready | waited | ⟨length, isLength, idled⟩
  · simp [Buffer.noticed, told.ready unit rfl ready]
  · simp [Buffer.noticed, (serves.reached_iff (by simp [looking]) _).mpr waited]
  · have idleEq := Instant.expiry_eq_ok (told.idleDeadline ▸ idleDeadline)
    have reached : Instant.reached observed.now idle = true := by
      rw [idleEq, isLength]
      simpa using idled
    simp [Buffer.noticed, reached]

/-- A caller that can proceed does so at its step. -/
theorem act_step_of_able
    (attuned : observed.Attuned)
    (mem : caller ∈ observed.session.crowd.callers)
    (able : caller.canProceed observed.now = true) :
    observed.act (.step caller.id) =
      observed.stepped caller (caller.advance observed.buffer observed.now)
        (caller.deed? observed.buffer observed.now) := by
  obtain ⟨isStep, isDeed⟩ := observed.session.crowd.step?_of_unique mem
    (fun other isOther => attuned.eq_of_id isOther mem) able
  simp [Observed.act, Session.act, tallyAfter, Observed.stepped, isStep, isDeed, now, buffer]

end Attuned
end Observed

/-- How many of its own steps take a caller that can proceed to the end of its
next look at the buffer. -/
def Caller.distance (caller : Caller α) : Nat :=
  match caller.stage with
  | .looking => 1
  | .turning => 2
  | _ => 3

theorem Caller.distance_pos (caller : Caller α) : 0 < caller.distance := by
  unfold distance
  split <;> decide

theorem Caller.distance_le (caller : Caller α) : caller.distance ≤ 3 := by
  unfold distance
  split <;> decide

namespace Observed
namespace Attuned

variable {observed : Observed α} {caller : Caller α} {began : Instant}

/-- A ripe take that can proceed ends at its step or comes closer to its end, and
it is still ripe. -/
theorem nears_end
    (attuned : observed.Attuned)
    (mem : caller ∈ observed.session.crowd.callers)
    (serves : caller.Serves observed.buffer.config began observed.now)
    (able : caller.canProceed observed.now = true)
    (ripe : observed.IsRipe began observed.now) :
    (∃ completion ∈ (observed.act (.step caller.id)).completions,
        completion.id = caller.id ∧ completion.instant = observed.now) ∨
      (observed.act (.step caller.id)).now = observed.now ∧
        (observed.act (.step caller.id)).IsRipe began observed.now ∧
        ∃ following ∈ (observed.act (.step caller.id)).session.crowd.callers,
          following.id = caller.id ∧
            following.Serves (observed.act (.step caller.id)).buffer.config began observed.now ∧
            following.canProceed observed.now = true ∧
            following.distance < caller.distance := by
  rw [attuned.act_step_of_able mem able]
  have advancing := caller.advancing_advance observed.buffer observed.now
  generalize caller.advance observed.buffer observed.now = advance at advancing ⊢
  generalize caller.deed? observed.buffer observed.now = deed at advancing ⊢
  -- A step that ends the call records it.
  have ends : ∀ outcome, advance.next = .inr outcome ->
      ∃ completion ∈ (observed.stepped caller advance deed).completions,
        completion.id = caller.id ∧ completion.instant = observed.now := by
    intro outcome next
    refine ⟨⟨caller.id, observed.now, outcome⟩, ?_, rfl, rfl⟩
    simp [completions, Observed.stepped, Advance.completion?, next, now]
  -- A step that does not look at the buffer leaves it as it was.
  have nears : ∀ following, advance.next = .inl following ->
      advance.buffer = observed.buffer -> advance.signal = .none -> deed = none ->
      following.canProceed observed.now = true -> following.distance < caller.distance ->
      (observed.stepped caller advance deed).now = observed.now ∧
        (observed.stepped caller advance deed).IsRipe began observed.now ∧
        ∃ following ∈ (observed.stepped caller advance deed).session.crowd.callers,
          following.id = caller.id ∧
            following.Serves (observed.stepped caller advance deed).buffer.config began
              observed.now ∧
            following.canProceed observed.now = true ∧
            following.distance < caller.distance := by
    intro following next sameBuffer silent noDeed stillAble closer
    have identity := (advancing.identity next).1
    have stillServes := advancing.serves next serves
    have buffer : (observed.stepped caller advance deed).buffer = observed.buffer := by
      simp [Observed.buffer, Observed.stepped, sameBuffer]
    have present := observed.session.crowd.mem_apply_of_next mem next identity
    rw [silent, if_neg (by simp [Signal.concerns])] at present
    refine ⟨by simp [now, Observed.stepped], ?_, following, present, identity, ?_, stillAble,
      closer⟩
    · have tally : (observed.stepped caller advance deed).tally = observed.tally := by
        rw [Observed.stepped, noDeed]
        rfl
      rwa [IsRipe, buffer, tally]
    · rw [buffer]
      rwa [sameBuffer] at stillServes
  cases advancing with
  | joined _ _ _ call => exact absurd serves.isTake (by simp [Caller.isTake_of_put call])
  | heldBack _ _ _ call => exact absurd serves.isTake (by simp [Caller.isTake_of_put call])
  | discarded _ _ _ call => exact absurd serves.isTake (by simp [Caller.isTake_of_put call])
  | admitted _ _ _ call => exact absurd serves.isTake (by simp [Caller.isTake_of_put call])
  | sleptHeld _ _ _ call => exact absurd serves.isTake (by simp [Caller.isTake_of_put call])
  | began deadline arriving =>
      exact .inr (nears _ rfl rfl rfl rfl rfl (by simp [Caller.distance, arriving]))
  | listened turning =>
      exact .inr (nears _ rfl rfl rfl rfl rfl (by simp [Caller.distance, turning]))
  | woke wake asleep =>
      exact .inr (nears _ rfl rfl rfl rfl rfl (by simp [Caller.distance, Caller.goTo, asleep]))
  | overflowed => exact .inl (ends _ rfl)
  | took => exact .inl (ends _ rfl)
  | tookNothing => exact .inl (ends _ rfl)
  | sleptWaiting wake rest looking _ taking =>
      cases taking with
      | waiting idle running idleDeadline notDue =>
          rcases ripe with ended | ⟨unit, isTold, due⟩
          · exact absurd running ended
          · have pending : observed.buffer.pending.isSome = true := by
              rw [(attuned.told running).pending, isTold]
              rfl
            exact absurd
              (attuned.dueAt_of_isDue serves looking running isTold idleDeadline due)
              (notDue pending)

end Attuned

/-! ## What moves leave behind -/

section moves

variable (observed : Observed α)

/-- Only the passing of time moves the clock. -/
theorem now_act (move : Move α) :
    (observed.act move).now = observed.now ∨ ∃ duration, move = .pass duration := by
  cases move with
  | step id =>
      rcases observed.act_step id with same | ⟨caller, _, _, _, advance, deed, _, _, stepped⟩
      · exact .inl (by rw [same])
      · rw [stepped]
        exact .inl (by simp [now, Observed.stepped])
  | pass duration => exact .inr ⟨duration, rfl⟩
  | _ => exact .inl rfl

theorem now_le_act (move : Move α) : observed.now ≤ (observed.act move).now := by
  rcases observed.now_act move with same | ⟨duration, rfl⟩
  · exact Nat.le_of_eq same.symm
  · exact Nat.le_add_right _ _

theorem calls_le_act (move : Move α) :
    observed.session.calls ≤ (observed.act move).session.calls := by
  cases move with
  | call call => exact Nat.le_succ _
  | _ => exact Nat.le_refl _

theorem calls_le_run (moves : List (Move α)) :
    observed.session.calls ≤ (observed.run moves).session.calls := by
  induction moves generalizing observed with
  | nil => exact Nat.le_refl _
  | cons move rest inductionHypothesis =>
      exact Nat.le_trans (observed.calls_le_act move) (inductionHypothesis (observed.act move))

theorem config_act (move : Move α) :
    (observed.act move).buffer.config = observed.buffer.config :=
  Session.config_run observed.session [move]

theorem config_run (moves : List (Move α)) :
    (observed.run moves).buffer.config = observed.buffer.config := by
  rw [buffer, session_run]
  exact Session.config_run observed.session moves

/-- Whoever is in progress after a move was so before, or its number is that of the
call that the move makes. -/
theorem unfinished_act
    {move : Move α} {id : Nat}
    (mem : id ∈ (observed.act move).unfinished)
    (called : id < observed.session.calls) :
    id ∈ observed.unfinished := by
  cases move with
  | step stepping =>
      rcases observed.act_step stepping with
        same | ⟨caller, _, _, _, advance, deed, _, _, stepped⟩
      · rwa [same] at mem
      · rw [stepped] at mem
        exact (observed.session.crowd.ids_apply caller advance).subset mem
  | call call =>
      obtain ⟨caller, callerMem, rfl⟩ := List.mem_map.mp mem
      rcases List.mem_append.mp callerMem with wasThere | isNew
      · exact List.mem_map_of_mem wasThere
      · rw [List.mem_singleton.mp isNew] at called
        exact absurd called (Nat.lt_irrefl _)
  | abandon given => exact (List.filter_sublist.map _).subset mem
  | pass duration => exact mem
  | hint => exact (congrArg (id ∈ ·) (Crowd.ids_notify _ _)).mp mem
  | close => exact (congrArg (id ∈ ·) (Crowd.ids_notify _ _)).mp mem
  | fail fault => exact (congrArg (id ∈ ·) (Crowd.ids_notify _ _)).mp mem

theorem unfinished_run
    {moves : List (Move α)} {id : Nat}
    (mem : id ∈ (observed.run moves).unfinished)
    (called : id < observed.session.calls) :
    id ∈ observed.unfinished := by
  induction moves generalizing observed with
  | nil => exact mem
  | cons move rest inductionHypothesis =>
      refine observed.unfinished_act (inductionHypothesis (observed.act move) mem ?_) called
      exact Nat.lt_of_lt_of_le called (observed.calls_le_act move)

/-- A call that is over after a move was over before, or the move is the step that
ends it. -/
theorem completions_act
    {move : Move α} {completion : Completion α}
    (mem : completion ∈ (observed.act move).completions) :
    completion ∈ observed.completions ∨
      move = .step completion.id ∧ completion.instant = observed.now ∧
        ∃ caller ∈ observed.session.crowd.callers, caller.id = completion.id ∧
          ∃ advance deed, caller.Advancing observed.buffer observed.now advance deed ∧
            (∀ wake, advance.next ≠ .inr (.took (.waiting wake))) ∧
            advance.next = .inr completion.outcome := by
  cases move with
  | step id =>
      rcases observed.act_step id with
        same | ⟨caller, callerMem, isId, _, advance, deed, advancing, notWaiting, stepped⟩
      · rw [same] at mem
        exact .inl mem
      · rw [stepped, completions, Observed.stepped, Crowd.completions_apply] at mem
        rcases List.mem_append.mp mem with wasOver | isNew
        · exact .inl wasOver
        · cases next : advance.next with
          | inl following => simp [Advance.completion?, next] at isNew
          | inr outcome =>
              obtain rfl : completion = ⟨caller.id, observed.now, outcome⟩ := by
                simpa [Advance.completion?, next, now] using isNew
              exact .inr ⟨by rw [isId], rfl, caller, callerMem, rfl, advance, deed, advancing,
                notWaiting, next⟩
  | _ => exact .inl mem

/-- What is over stays so. -/
theorem completions_subset_act (move : Move α) :
    observed.completions ⊆ (observed.act move).completions := by
  cases move with
  | step id =>
      rcases observed.act_step id with same | ⟨caller, _, _, _, advance, deed, _, _, stepped⟩
      · rw [same]
        exact List.Subset.refl _
      · rw [stepped, completions, completions, Observed.stepped, Crowd.completions_apply]
        exact List.subset_append_left _ _
  | _ => exact List.Subset.refl _

theorem completions_subset_run (moves : List (Move α)) :
    observed.completions ⊆ (observed.run moves).completions := by
  induction moves generalizing observed with
  | nil => exact List.Subset.refl _
  | cons move rest inductionHypothesis =>
      exact List.Subset.trans (observed.completions_subset_act move)
        (inductionHypothesis (observed.act move))

/-- A call that is over after a run was over before, or a step of the run has ended
it. -/
theorem completions_run
    {moves : List (Move α)} {completion : Completion α}
    (mem : completion ∈ (observed.run moves).completions) :
    completion ∈ observed.completions ∨
      ∃ done rest, moves = done ++ .step completion.id :: rest ∧
        completion.instant = (observed.run done).now ∧
        ∃ caller ∈ (observed.run done).session.crowd.callers, caller.id = completion.id ∧
          ∃ advance deed,
            caller.Advancing (observed.run done).buffer (observed.run done).now advance deed ∧
            (∀ wake, advance.next ≠ .inr (.took (.waiting wake))) ∧
            advance.next = .inr completion.outcome := by
  induction moves generalizing observed with
  | nil => exact .inl mem
  | cons move rest inductionHypothesis =>
      rcases inductionHypothesis (observed.act move) mem with
        wasOver | ⟨done, later, rfl, instant, ends⟩
      · rcases observed.completions_act wasOver with wasOverBefore | ⟨rfl, instant, ends⟩
        · exact .inl wasOverBefore
        · exact .inr ⟨[], rest, rfl, instant, ends⟩
      · exact .inr ⟨move :: done, later, rfl, instant, ends⟩

/-- The last moment of an instant that a run has left does not depend on what comes
later. -/
theorem leaving_append
    {done : List (Move α)} {instant : Instant}
    (left : instant < (observed.run done).now)
    (rest : List (Move α)) :
    observed.leaving (done ++ rest) instant = observed.leaving done instant := by
  induction done generalizing observed with
  | nil =>
      cases rest with
      | nil => rfl
      | cons move rest =>
          have leftAfter : instant < (observed.act move).now :=
            Nat.lt_of_lt_of_le left (observed.now_le_act move)
          simp only [List.nil_append, leaving, if_pos leftAfter]
  | cons move done inductionHypothesis =>
      simp only [List.cons_append, leaving]
      split
      · rfl
      · exact inductionHypothesis (observed.act move) left

end moves

/-! ## What follows for the timers -/

/-- The timers alone do not make a take ripe while the buffer is empty. -/
theorem not_isRipe_of_empty
    {observed : Observed α}
    (running : observed.buffer.phase = .running)
    (empty : observed.tally = none)
    (began instant : Instant) :
    ¬observed.IsRipe began instant := by
  rintro (ended | ⟨told, isTold, _⟩)
  · exact ended running
  · simp [empty] at isTold

section put

variable {observed : Observed α} {caller : Caller α} {advance : Advance α}
  {id : Nat} {blocks : List α} {bytes : Nat} {began : Instant}

/-- A put into a running buffer adds its blocks at its first step. -/
theorem Attuned.act_put
    (attuned : observed.Attuned)
    (mem : caller ∈ observed.session.crowd.callers)
    (call : caller.call = .put blocks bytes)
    (arriving : caller.stage = .arriving)
    (running : observed.buffer.phase = .running) :
    ∃ advance,
      caller.Advancing observed.buffer observed.now advance
        (some (.put caller.id blocks bytes)) ∧
      observed.act (.step caller.id) =
        observed.stepped caller advance (some (.put caller.id blocks bytes)) := by
  have able : caller.canProceed observed.now = true := by simp [Caller.canProceed, arriving]
  have isDeed : caller.deed? observed.buffer observed.now =
      some (.put caller.id blocks bytes) := by
    simp [Caller.deed?, arriving, call, running]
  have advancing := caller.advancing_advance observed.buffer observed.now
  have stepped := attuned.act_step_of_able mem able
  rw [isDeed] at advancing stepped
  exact ⟨_, advancing, stepped⟩

/-- A take that has waited long enough is ripe after the very next put. -/
theorem isRipe_of_put
    (advancing : caller.Advancing observed.buffer observed.now advance
      (some (.put id blocks bytes)))
    {patience : Duration}
    (isPatience : observed.buffer.config.patience = some patience)
    (waited : began + patience ≤ observed.now) :
    (observed.stepped caller advance (some (.put id blocks bytes))).IsRipe began
      observed.now := by
  have config : advance.buffer.config = observed.buffer.config :=
    (advancing.follows []).config
  refine .inr ⟨_, rfl, .inr (.inl ⟨patience, ?_, waited⟩)⟩
  simpa [stepped, buffer, config] using isPatience

/-- A put restarts the idle timer: a unit that is not ready is not due, for a take that
has not waited long enough, before it has been idle again for the whole time. -/
theorem not_isRipe_of_put
    (advancing : caller.Advancing observed.buffer observed.now advance
      (some (.put id blocks bytes)))
    (running : observed.buffer.phase = .running)
    (notReady : ¬(Tally.put observed.tally observed.now blocks bytes).IsReady
      observed.buffer.config)
    {instant : Instant}
    (notWaited : ∀ patience, observed.buffer.config.patience = some patience ->
      instant < began + patience)
    (notIdle : ∀ idle, observed.buffer.config.idle = some idle ->
      instant < observed.now + idle) :
    ¬(observed.stepped caller advance (some (.put id blocks bytes))).IsRipe began instant := by
  have config : (observed.stepped caller advance (some (.put id blocks bytes))).buffer.config =
      observed.buffer.config := by
    simpa [stepped, buffer] using (advancing.follows []).config
  have latest : (Tally.put observed.tally observed.now blocks bytes).latest = observed.now := by
    cases observed.tally <;> rfl
  rintro (ended | ⟨told, isTold, due⟩)
  · cases advancing with
    | joined => exact ended (by simpa [stepped, buffer] using running)
    | heldBack => exact ended (by simpa [stepped, buffer] using running)
  · obtain rfl : Tally.put observed.tally observed.now blocks bytes = told := Option.some.inj isTold
    rw [config] at due
    rcases due with ready | ⟨patience, isPatience, waited⟩ | ⟨idle, isIdle, idled⟩
    · exact notReady ready
    · exact Nat.not_le.mpr (notWaited patience isPatience) waited
    · rw [latest] at idled
      exact Nat.not_le.mpr (notIdle idle isIdle) idled

end put

/-! ## The whole life of a take -/

/-- Who has a number is in the middle of a take that began at an instant. -/
structure Attends (observed : Observed α) (id : Nat) (began : Instant) : Prop where
  called : id < observed.session.calls
  serves : ∀ caller ∈ observed.session.crowd.callers, caller.id = id ->
    caller.Serves observed.buffer.config began observed.now

namespace Attends

variable {observed : Observed α} {id : Nat} {began : Instant}

/-- A call of a take begins one. -/
theorem begin (attuned : observed.Attuned) :
    (observed.act (.call .take)).Attends observed.session.calls observed.now where
  called := Nat.lt_succ_self _
  serves := by
    intro caller mem isId
    rcases List.mem_append.mp mem with wasThere | isNew
    · exact absurd (isId ▸ attuned.counted caller wasThere) (Nat.lt_irrefl _)
    · rw [List.mem_singleton.mp isNew]
      exact ⟨rfl, fun _ => rfl, fun arrived => absurd rfl arrived⟩

theorem step
    (attends : observed.Attends id began)
    {caller : Caller α} {advance : Advance α} {deed : Option (Deed α)}
    (mem : caller ∈ observed.session.crowd.callers)
    (advancing : caller.Advancing observed.buffer observed.now advance deed) :
    (observed.stepped caller advance deed).Attends id began where
  called := attends.called
  serves := by
    intro member memAfter isId
    obtain ⟨before, origin, rfl⟩ := observed.session.crowd.mem_callers_apply memAfter
    rw [Caller.id_signal_if] at isId
    have config : advance.buffer.config = observed.buffer.config :=
      (advancing.follows []).config
    have serves : before.Serves advance.buffer.config began observed.now := by
      rcases origin with wasThere | proceeded
      · rw [config]
        exact attends.serves before wasThere isId
      · have sameId := (advancing.identity proceeded).1
        exact advancing.serves proceeded (attends.serves caller mem (sameId ▸ isId))
    simpa [Observed.stepped, buffer, now] using serves.signal_if _

/-- A change of the buffer from outside leaves whoever attends attending. -/
theorem notified
    (attends : observed.Attends id began)
    {buffer : Buffer α}
    (config : buffer.config = observed.buffer.config)
    (signal : Signal)
    (tally : Option (Tally α)) :
    Attends
      ⟨{ observed.session with
          crowd := { observed.session.crowd with buffer := buffer }.notify signal }, tally⟩
      id began where
  called := attends.called
  serves := by
    intro member memAfter isId
    obtain ⟨before, wasThere, rfl⟩ := (Crowd.mem_callers_notify _).mp memAfter
    rw [Caller.id_signal_if] at isId
    have serves := attends.serves before wasThere isId
    rw [← config] at serves
    exact serves.signal_if _

/-- An orderly move leaves whoever attends attending. -/
theorem act
    (attends : observed.Attends id began)
    {move : Move α}
    (allowed : observed.session.Allows move) :
    (observed.act move).Attends id began := by
  have config := observed.config_act move
  cases move with
  | step stepping =>
      rcases observed.act_step stepping with
        same | ⟨caller, mem, _, _, advance, deed, advancing, _, stepped⟩
      · rwa [same]
      · rw [stepped]
        exact attends.step mem advancing
  | call call =>
      refine ⟨Nat.lt_succ_of_lt attends.called, ?_⟩
      intro member memAfter isId
      rcases List.mem_append.mp memAfter with wasThere | isNew
      · exact attends.serves member wasThere isId
      · rw [List.mem_singleton.mp isNew] at isId
        exact absurd attends.called (isId ▸ Nat.lt_irrefl _)
  | abandon given =>
      exact ⟨attends.called, fun member memAfter =>
        attends.serves member (List.mem_filter.mp memAfter).1⟩
  | pass duration =>
      refine ⟨attends.called, ?_⟩
      intro member wasThere isId
      have serves := attends.serves member wasThere isId
      refine ⟨serves.isTake, ?_, serves.waiting⟩
      -- Whoever arrives can proceed, so that no time passes.
      intro arriving
      have stuck := (allowed member wasThere serves.isTake).1
      simp [Caller.canProceed, arriving] at stuck
  | hint => exact attends.notified config _ _
  | close => exact attends.notified config _ _
  | fail fault => exact attends.notified config _ _

/-- An orderly run leaves whoever attends attending. -/
theorem run
    (attends : observed.Attends id began)
    {moves : List (Move α)}
    (orderly : observed.session.Orderly moves) :
    (observed.run moves).Attends id began := by
  induction moves generalizing observed with
  | nil => exact attends
  | cons move rest inductionHypothesis =>
      exact inductionHypothesis (attends.act orderly.1) orderly.2

/-- As long as a take is in progress, it was not ripe at any instant that the clock
has left. -/
theorem unripe_leaving
    (attends : observed.Attends id began)
    (attuned : observed.Attuned)
    {moves : List (Move α)}
    (orderly : observed.session.Orderly moves)
    (present : id ∈ (observed.run moves).unfinished)
    {instant : Instant}
    (reached : observed.now ≤ instant)
    (left : instant < (observed.run moves).now) :
    ¬(observed.leaving moves instant).IsRipe began instant := by
  induction moves generalizing observed with
  | nil => exact absurd left (Nat.not_lt.mpr reached)
  | cons move rest inductionHypothesis =>
      obtain ⟨allowed, restOrderly⟩ := orderly
      have attendsThen := attends.act allowed
      rw [leaving]
      split
      · next leftNow =>
          rcases observed.now_act move with same | ⟨duration, rfl⟩
          · exact absurd (same ▸ leftNow) (Nat.not_lt.mpr reached)
          · have presentThen := (observed.act (.pass duration)).unfinished_run present
              attendsThen.called
            obtain ⟨caller, mem, isId⟩ := List.mem_map.mp presentThen
            have serves := attends.serves caller mem isId
            obtain ⟨asleep, alarm⟩ := allowed caller mem serves.isTake
            refine attuned.unripe_of_asleep mem serves asleep ?_
            intro wake isWake
            exact Nat.lt_of_lt_of_le leftNow (alarm wake isWake)
      · next notLeft =>
          exact inductionHypothesis attendsThen (attuned.act allowed) restOrderly present
            (Nat.not_lt.mp notLeft) left

/-- A ripe take ends when it takes enough steps of its own. -/
theorem ends_of_ripe
    (attends : observed.Attends id began)
    (attuned : observed.Attuned)
    (ripe : observed.IsRipe began observed.now)
    {caller : Caller α}
    (mem : caller ∈ observed.session.crowd.callers)
    (isId : caller.id = id)
    (able : caller.canProceed observed.now = true)
    {steps : Nat}
    (enough : caller.distance ≤ steps) :
    ∃ completion ∈ (observed.run (List.replicate steps (.step id))).completions,
      completion.id = id ∧ completion.instant = observed.now := by
  induction steps generalizing observed caller with
  | zero => exact absurd enough (Nat.not_le.mpr caller.distance_pos)
  | succ steps inductionHypothesis =>
      rw [List.replicate_succ, run_cons]
      have serves := attends.serves caller mem isId
      have progress := attuned.nears_end mem serves able ripe
      rw [isId] at progress
      rcases progress with
        ⟨completion, isOver, sameId, instant⟩ |
          ⟨clock, stillRipe, following, present, sameId, _, stillAble, closer⟩
      · exact ⟨completion, (observed.act (.step id)).completions_subset_run _ isOver, sameId,
          instant⟩
      · rw [← clock] at stillRipe stillAble ⊢
        exact inductionHypothesis (attends.act trivial) (attuned.act trivial) stillRipe present
          sameId stillAble (Nat.le_of_lt_succ (Nat.lt_of_lt_of_le closer enough))

/-- A take in progress that is ripe can end at once. -/
theorem ends_at_once
    (attends : observed.Attends id began)
    (attuned : observed.Attuned)
    (present : id ∈ observed.unfinished)
    (ripe : observed.IsRipe began observed.now) :
    ∃ completion ∈ (observed.run (List.replicate 3 (.step id))).completions,
      completion.id = id ∧ completion.instant = observed.now := by
  obtain ⟨caller, mem, isId⟩ := List.mem_map.mp present
  have serves := attends.serves caller mem isId
  have able : caller.canProceed observed.now = true := by
    by_contra unable
    have asleep : caller.canProceed observed.now = false := by simpa using unable
    refine attuned.unripe_of_asleep mem serves asleep ?_ ripe
    intro wake isWake
    obtain ⟨alarm, stage, silent⟩ := Session.asleep_of_not_canProceed asleep
    simp only [Caller.wake?, stage, Option.mem_def] at isWake
    simpa [Caller.canProceed, stage, silent, isWake] using asleep
  exact attends.ends_of_ripe attuned ripe mem isId able caller.distance_le

/-- A take in progress is so after an orderly move, or it is over. -/
theorem unfinished_or_over
    (attends : observed.Attends id began)
    {move : Move α}
    (allowed : observed.session.Allows move)
    (present : id ∈ observed.unfinished) :
    id ∈ (observed.act move).unfinished ∨
      ∃ completion ∈ (observed.act move).completions, completion.id = id := by
  obtain ⟨caller, mem, isId⟩ := List.mem_map.mp present
  cases move with
  | step stepping =>
      rcases observed.act_step stepping with
        same | ⟨stepper, stepperMem, _, _, advance, deed, advancing, _, stepped⟩
      · rw [same]
        exact .inl present
      · rw [stepped]
        by_cases isStepper : id = stepper.id
        · cases next : advance.next with
          | inl following =>
              have sameId := (advancing.identity next).1
              have still := observed.session.crowd.mem_apply_of_next stepperMem next sameId
              refine .inl (List.mem_map.mpr ⟨_, still, ?_⟩)
              rw [Caller.id_signal_if, sameId, isStepper]
          | inr outcome =>
              refine .inr ⟨⟨stepper.id, observed.now, outcome⟩, ?_, isStepper.symm⟩
              simp [completions, Observed.stepped, Advance.completion?, next, now]
        · have still := observed.session.crowd.mem_apply_of_other mem (isId ▸ isStepper)
            (fun following next => (advancing.identity next).1)
          refine .inl (List.mem_map.mpr ⟨_, still, ?_⟩)
          rw [Caller.id_signal_if, isId]
  | call call => exact .inl (List.mem_map.mpr ⟨caller, List.mem_append_left _ mem, isId⟩)
  | abandon given =>
      have stays : caller.id ≠ given := by
        intro isGiven
        have isTake := (attends.serves caller mem isId).isTake
        simp [allowed caller mem isGiven] at isTake
      exact .inl (List.mem_map.mpr
        ⟨caller, List.mem_filter.mpr ⟨mem, by simpa using stays⟩, isId⟩)
  | pass duration => exact .inl present
  | hint => exact .inl ((congrArg (id ∈ ·) (Crowd.ids_notify _ _)).mpr present)
  | close => exact .inl ((congrArg (id ∈ ·) (Crowd.ids_notify _ _)).mpr present)
  | fail fault => exact .inl ((congrArg (id ∈ ·) (Crowd.ids_notify _ _)).mpr present)

/-- A take in progress is so after an orderly run, or it is over. -/
theorem unfinished_or_over_run
    (attends : observed.Attends id began)
    {moves : List (Move α)}
    (orderly : observed.session.Orderly moves)
    (present : id ∈ observed.unfinished) :
    id ∈ (observed.run moves).unfinished ∨
      ∃ completion ∈ (observed.run moves).completions, completion.id = id := by
  induction moves generalizing observed with
  | nil => exact .inl present
  | cons move rest inductionHypothesis =>
      rcases attends.unfinished_or_over orderly.1 present with still | ⟨completion, isOver, isId⟩
      · exact inductionHypothesis (attends.act orderly.1) orderly.2 still
      · exact .inr ⟨completion, (observed.act move).completions_subset_run rest isOver, isId⟩

end Attends

/-- In an orderly session that began with a new buffer, every call that is over has
been made. -/
theorem id_lt_calls_of_completed
    {config : Config}
    {moves : List (Move α)}
    (orderly : (Session.create config : Session α).Orderly moves)
    {completion : Completion α}
    (isOver : completion ∈ ((create config : Observed α).run moves).completions) :
    completion.id < ((create config : Observed α).run moves).session.calls := by
  rcases (create config).completions_run isOver with
    never | ⟨done, rest, rfl, _, caller, mem, isId, _⟩
  · cases never
  · have attuned := (Attuned.create config).run
      (((Session.create config).orderly_append _ _).mp orderly).1
    rw [run_append]
    refine Nat.lt_of_lt_of_le ?_ (((create config).run done).calls_le_run _)
    exact isId ▸ attuned.counted caller mem

/-- A take that is over was ended by a step of its own as it should be, and at no instant that
the clock left before was it ripe. -/
theorem Attends.completed
    {start : Observed α} {id : Nat} {began : Instant} {later : List (Move α)}
    (attends : start.Attends id began)
    (attuned : start.Attuned)
    (orderly : start.session.Orderly later)
    {completion : Completion α}
    (isOver : completion ∈ (start.run later).completions)
    (notBefore : completion ∉ start.completions)
    (isId : completion.id = id) :
    ∃ done rest, later = done ++ .step id :: rest ∧
      completion.instant = (start.run done).now ∧
      ((start.run done).Concludes began completion.outcome ∨
        (completion.outcome = .took .overflow ∧ (start.run done).IsBeyondClock began)) ∧
      ∀ instant, start.now ≤ instant -> instant < completion.instant ->
        ¬(start.leaving later instant).IsRipe began instant := by
  rcases start.completions_run isOver with
    wasOver | ⟨done, rest, rfl, instant, caller, mem, sameId, advance, deed, advancing,
      notWaiting, next⟩
  · exact absurd wasOver notBefore
  · have doneOrderly := ((start.session.orderly_append _ _).mp orderly).1
    have serves := (attends.run doneOrderly).serves caller mem (sameId.trans isId)
    refine ⟨done, rest, isId ▸ rfl, instant,
      (attuned.run doneOrderly).concludes mem serves advancing notWaiting next, ?_⟩
    intro moment reached left
    rw [instant] at left
    rw [start.leaving_append left]
    exact attends.unripe_leaving attuned doneOrderly
      (List.mem_map.mpr ⟨caller, mem, sameId.trans isId⟩) reached left

/-- In an orderly session, a take ends at the first instant at which it is ripe.

Whenever a take is over, a step of its own has ended it as it should, and at no
instant that the clock left before that was it ripe. As long as it is in progress,
it was not ripe at any instant that the clock has left, and once it is ripe, three
steps of its own end it without any more time passing. It is always one or the
other. The one exception is a take that has to set a timer beyond the end of the
clock, which overflows.

So the timers alone never end a take on an empty buffer. After a put, a take that has
waited long enough is ripe at once, and the unit has to be idle anew for the whole time. -/
theorem takes_end_when_ripe
    (config : Config)
    (earlier later : List (Move α))
    (opening start final : Observed α)
    (isOpening : opening = (create config).run earlier)
    (isStart : start = opening.act (.call .take))
    (isFinal : final = start.run later)
    (orderly : (Session.create config : Session α).Orderly (earlier ++ .call .take :: later)) :
    (∀ completion ∈ final.completions, completion.id = opening.session.calls ->
        ∃ done rest, later = done ++ .step opening.session.calls :: rest ∧
          completion.instant = (start.run done).now ∧
          ((start.run done).Concludes opening.now completion.outcome ∨
            (completion.outcome = .took .overflow ∧
              (start.run done).IsBeyondClock opening.now)) ∧
          ∀ instant, opening.now ≤ instant -> instant < completion.instant ->
            ¬(start.leaving later instant).IsRipe opening.now instant) ∧
      (opening.session.calls ∈ final.unfinished ->
        (∀ instant, opening.now ≤ instant -> instant < final.now ->
            ¬(start.leaving later instant).IsRipe opening.now instant) ∧
          (final.IsRipe opening.now final.now ->
            ∃ completion ∈
              (final.run (List.replicate 3 (.step opening.session.calls))).completions,
              completion.id = opening.session.calls ∧ completion.instant = final.now)) ∧
      (opening.session.calls ∈ final.unfinished ∨
        ∃ completion ∈ final.completions, completion.id = opening.session.calls) ∧
      (final.buffer.phase = .running -> final.tally = none ->
        ∀ instant, ¬final.IsRipe opening.now instant) ∧
      ∀ caller ∈ final.session.crowd.callers, ∀ blocks bytes,
        caller.call = .put blocks bytes -> caller.stage = .arriving ->
        final.buffer.phase = .running ->
        let behind := final.act (.step caller.id)
        (∀ patience, config.patience = some patience -> opening.now + patience ≤ final.now ->
          behind.IsRipe opening.now final.now) ∧
        (¬(Tally.put final.tally final.now blocks bytes).IsReady config -> ∀ instant,
          (∀ patience, config.patience = some patience -> instant < opening.now + patience) ->
          (∀ idle, config.idle = some idle -> instant < final.now + idle) ->
          ¬behind.IsRipe opening.now instant) := by
  obtain ⟨earlierOrderly, allowed, laterOrderly⟩ :=
    ((Session.create config).orderly_append _ _).mp orderly
  have openingAttuned : opening.Attuned := by
    rw [isOpening]
    exact (Attuned.create config).run earlierOrderly
  have isSession : (Session.create config : Session α).run earlier = opening.session := by
    rw [isOpening, session_run]
    rfl
  rw [isSession] at allowed laterOrderly
  have attuned : start.Attuned := isStart ▸ openingAttuned.act allowed
  have attends : start.Attends opening.session.calls opening.now := by
    rw [isStart]
    exact .begin openingAttuned
  replace laterOrderly : start.session.Orderly later := isStart ▸ laterOrderly
  have startNow : start.now = opening.now := by rw [isStart]; rfl
  have present : opening.session.calls ∈ start.unfinished := by
    rw [isStart]
    exact List.mem_map.mpr ⟨_, List.mem_append_right _ (List.mem_singleton.mpr rfl), rfl⟩
  refine ⟨?_, ?_, ?_, fun running empty => not_isRipe_of_empty running empty _, ?_⟩
  · intro completion isOver isId
    have notBefore : completion ∉ start.completions := by
      rw [isStart, isOpening]
      intro wasOver
      have below := id_lt_calls_of_completed earlierOrderly wasOver
      rw [← isOpening, isId] at below
      exact Nat.lt_irrefl _ below
    have ended := attends.completed attuned laterOrderly (isFinal ▸ isOver) notBefore isId
    rwa [startNow] at ended
  · rw [isFinal]
    intro still
    refine ⟨?_, ?_⟩
    · intro moment reached left
      exact attends.unripe_leaving attuned laterOrderly still (startNow ▸ reached) left
    · intro ripe
      exact (attends.run laterOrderly).ends_at_once (attuned.run laterOrderly) still ripe
  · rw [isFinal]
    exact attends.unfinished_or_over_run laterOrderly present
  · intro caller mem blocks bytes call arriving running
    have isConfig : final.buffer.config = config := by
      rw [isFinal, isStart, isOpening, config_run, config_act, config_run]
      rfl
    have finalAttuned : final.Attuned := isFinal ▸ attuned.run laterOrderly
    obtain ⟨advance, advancing, stepped⟩ := finalAttuned.act_put mem call arriving running
    rw [stepped, ← isConfig]
    exact ⟨fun patience isPatience => isRipe_of_put advancing isPatience,
      fun notReady instant => not_isRipe_of_put advancing running notReady⟩

/-- A take that has waited long enough ends at the very next put, and it was not ripe
before. -/
theorem takes_end_when_ripe_after_waiting :
    let start : Observed Nat :=
      (create (.make 1000 none none (some 100))).act (.call .take)
    let later : List (Move Nat) :=
      [.step 0, .step 0, .step 0, .pass 100, .step 0, .step 0, .step 0, .pass 400,
        .call (.put [9] 1), .step 1, .step 0, .step 0, .step 0]
    (start.run later).completions = [⟨1, 500, .put⟩, ⟨0, 500, .took (.released [9])⟩] ∧
      ∀ instant, instant < 500 -> ¬(start.leaving later instant).IsRipe 0 instant := by
  intro start later
  have completed : (start.run later).completions =
      [⟨1, 500, .put⟩, ⟨0, 500, .took (.released [9])⟩] := by decide
  have ends := (takes_end_when_ripe (.make 1000 none none (some 100)) [] later
    (create _) start _ rfl rfl rfl (by decide)).1 ⟨0, 500, .took (.released [9])⟩
    (by rw [completed]; simp) rfl
  obtain ⟨_, _, _, _, _, unripe⟩ := ends
  exact ⟨completed, fun instant left => unripe instant (Nat.zero_le _) left⟩

/-- A take finds a unit that is ready, but would wait for the longest time that there is: it
overflows and leaves the unit. Without a limit of its own it gets the unit at once. -/
theorem longest_wait_ends_ripe_take :
    let longest : Duration := Duration.ofSeconds (Nat.pow 2 64 - 1) + 999999999
    let start := fun patience : Option Duration =>
      ((create (.make 10 (some 20) none patience) : Observed Nat).run
        [.call (.put [7] 10), .step 0]).act (.call .take)
    let steps : List (Move Nat) := [.step 1, .step 1, .step 1]
    (start (some longest)).IsRipe 0 (start (some longest)).now ∧
      ((start (some longest)).run steps).completions =
        [⟨0, 0, .put⟩, ⟨1, 0, .took .overflow⟩] ∧
      ((start (some longest)).run steps).buffer.pendingBlocks = [7] ∧
      ((start none).run steps).completions =
        [⟨0, 0, .put⟩, ⟨1, 0, .took (.released [7])⟩] := by
  intro longest start steps
  have ripe : (start (some longest)).IsRipe 0 (start (some longest)).now :=
    .inr ⟨⟨[7], 10, false, 0⟩, rfl, .inl (.inl (by decide))⟩
  exact ⟨ripe, by decide +kernel⟩

end Observed
end Buffer
end BlockFeed
