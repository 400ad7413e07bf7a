import BlockFeed.Proofs.Buffer.Punctuality

/-!
# The end of a buffer

The first end of a buffer decides for good how it has ended, and it wakes everybody. From then
on nobody sleeps any more: a caller that proceeds comes closer to its end with every step, and
the only one to change anything is a take that looks at the buffer. The first such take gets
what is left, which is the unit of a buffer that was closed and the fault of one that failed,
and all later ones find that nothing is left.
-/

namespace BlockFeed
namespace Buffer

variable {buffer rest : Buffer α} {now : Instant}

/-! ## What is left -/

/-- What a take gets from a buffer that has ended: the fault until it has been reported, or the
unit of a buffer that was closed. -/
def legacy (buffer : Buffer α) : Take α :=
  match buffer.phase with
  | .failed report => (report.map Take.failed).getD .ended
  | _ => (buffer.pending.map fun unit => Take.released unit.blocks).getD .ended

/-- A buffer that has ended, after a take. -/
def spent (buffer : Buffer α) : Buffer α :=
  { buffer with
    pending := none
    phase :=
      match buffer.phase with
      | .failed _ => .failed none
      | phase => phase }

/-- What is left depends on the end and the unit only. -/
theorem legacy_congr (phase : rest.phase = buffer.phase) (pending : rest.pending = buffer.pending) :
    rest.legacy = buffer.legacy := by
  rw [legacy, legacy, phase, pending]

theorem phase_spent_congr (phase : rest.phase = buffer.phase) :
    rest.spent.phase = buffer.spent.phase := by
  simp only [spent, phase]

/-- After one take nothing is left. -/
@[simp] theorem legacy_spent (buffer : Buffer α) : buffer.spent.legacy = .ended := by
  cases phase : buffer.phase <;> simp [legacy, spent, phase]

theorem phase_spent_ne_running (ended : buffer.phase ≠ .running) :
    buffer.spent.phase ≠ .running := by
  cases phase : buffer.phase <;> simp_all [spent]

@[simp] theorem phase_spent_spent (buffer : Buffer α) :
    buffer.spent.spent.phase = buffer.spent.phase := by
  cases phase : buffer.phase <;> simp [spent, phase]

/-- A take from a buffer that has ended gets what is left, whatever the time is. -/
theorem Taking.of_ended
    {deadline : Option Instant} {result : Take α}
    (taking : Taking buffer now deadline result rest)
    (ended : buffer.phase ≠ .running) :
    result = buffer.legacy ∧ rest = buffer.spent := by
  cases taking with
  | reported fault failed => simp [legacy, spent, failed]
  | silent failed => simp [legacy, spent, failed]
  | remainder unit closed pending => simp [legacy, spent, closed, pending]
  | ended closed pending => simp [legacy, spent, closed, pending]
  | overflow _ running => exact absurd running ended
  | release _ _ running => exact absurd running ended
  | waiting _ running => exact absurd running ended

/-! ## One small step after the end -/

/-- What a caller does that proceeds when the buffer has ended. -/
inductive Caller.Leaving (caller : Caller α) (buffer : Buffer α) (now : Instant) :
    Advance α -> Prop
  /-- It comes closer to its end. -/
  | nearer (following : Caller α) :
      following.id = caller.id ->
      (∀ wake, following.stage ≠ .asleep wake) ->
      following.distance < caller.distance ->
      Leaving caller buffer now ⟨buffer, .none, .inl following⟩
  /-- A put is over. -/
  | put :
      Leaving caller buffer now ⟨buffer, .none, .inr .put⟩
  /-- A take cannot set its deadline. -/
  | overflow :
      Instant.Overshoots now buffer.config.patience ->
      Leaving caller buffer now ⟨buffer, .none, .inr (.took .overflow)⟩
  /-- A take gets what is left. -/
  | took :
      caller.call = .take ->
      Leaving caller buffer now ⟨buffer.spent, .none, .inr (.took buffer.legacy)⟩

/-- Whoever proceeds when the buffer has ended does one of these things. -/
theorem Caller.Advancing.leaving
    {caller : Caller α} {advance : Advance α} {deed : Option (Deed α)}
    (advancing : caller.Advancing buffer now advance deed)
    (ended : buffer.phase ≠ .running) :
    caller.Leaving buffer now advance := by
  have notRunning : buffer.isRunning = false := isRunning_eq_false_iff.mpr ended
  cases advancing with
  | joined _ _ _ _ running => exact absurd running ended
  | heldBack _ _ _ _ running => exact absurd running ended
  | discarded => exact .put
  | began _ arriving => exact .nearer _ rfl (by simp) (by simp [distance, arriving])
  | overflowed problem _ _ patience =>
      exact .overflow (Instant.overshoots_iff.mpr ⟨problem, patience⟩)
  | listened turning => exact .nearer _ rfl (by simp) (by simp [distance, turning])
  | admitted => exact .put
  | sleptHeld _ _ _ _ admits => simp [Buffer.admits, notRunning] at admits
  | sleptWaiting wake _ _ _ taking =>
      cases taking with
      | waiting _ running => exact absurd running ended
  | took blocks _ _ call taking =>
      obtain ⟨result, rfl⟩ := taking.of_ended ended
      rw [result, notRunning]
      exact .took call
  | tookNothing _ _ _ call taking =>
      obtain ⟨rfl, rfl⟩ := taking.of_ended ended
      exact .took call
  | woke wake asleep => exact .nearer _ rfl (by simp [goTo]) (by simp [distance, goTo, asleep])

theorem Taking.keeps_running
    {deadline : Option Instant} {result : Take α}
    (taking : Taking buffer now deadline result rest)
    (running : buffer.phase = .running) :
    rest.phase = .running := by
  cases taking with
  | reported _ failed => exact absurd (failed.symm.trans running) nofun
  | silent failed => exact absurd (failed.symm.trans running) nofun
  | _ => exact running

/-- No small step ends a buffer. -/
theorem Caller.Advancing.keeps_running
    {caller : Caller α} {advance : Advance α} {deed : Option (Deed α)}
    (advancing : caller.Advancing buffer now advance deed)
    (running : buffer.phase = .running) :
    advance.buffer.phase = .running := by
  cases advancing with
  | sleptWaiting _ _ _ _ taking => exact taking.keeps_running running
  | took _ _ _ _ taking => exact taking.keeps_running running
  | tookNothing _ _ _ _ taking => exact taking.keeps_running running
  | _ => exact running

/-! ## Sessions whose buffer has ended -/

/-- What a call got that has looked at the buffer; one whose deadline cannot be set never
does. -/
def Completion.gain? (completion : Completion α) : Option (Take α) :=
  match completion.outcome with
  | .put => none
  | .took .overflow => none
  | .took result => some result

/-- A call is over that has not looked at what is left: a put, or a take whose deadline lies
beyond the end of the clock. -/
def Completion.IsAside (completion : Completion α) (config : Config) : Prop :=
  completion.outcome = .put ∨
    completion.outcome = .took .overflow ∧
      Instant.Overshoots completion.instant config.patience

theorem Completion.IsAside.gain?_eq_none
    {completion : Completion α} {config : Config}
    (isAside : completion.IsAside config) :
    completion.gain? = none := by
  rcases isAside with isPut | ⟨overflowed, _⟩
  · rw [gain?, isPut]
  · rw [gain?, overflowed]

theorem gain?_legacy (buffer : Buffer α) (id : Nat) (now : Instant) :
    Completion.gain? ⟨id, now, .took buffer.legacy⟩ = some buffer.legacy := by
  unfold legacy
  split
  · next report _ => cases report <;> rfl
  · cases buffer.pending <;> rfl

/-- The end that a move brings to a running buffer. -/
def Move.ending? : Move α -> Option Phase
  | .close => some .closed
  | .fail fault => some (endedBy fault)
  | _ => none

/-- Whether a move is a step of the caller with a number. -/
def Move.isStepOf (id : Nat) : Move α -> Bool
  | .step stepping => stepping == id
  | _ => false

namespace Session

variable {session : Session α}

/-- A small step is that of a caller with its number who can proceed, or nothing. -/
theorem act_step (session : Session α) (id : Nat) :
    session.act (.step id) = session ∨
      ∃ caller ∈ session.crowd.callers, caller.id = id ∧
        ∃ advance deed,
          caller.Advancing session.crowd.buffer session.crowd.now advance deed ∧
            (session.act (.step id)).crowd = session.crowd.apply caller advance := by
  rcases Observed.act_step ⟨session, none⟩ id with
    same | ⟨caller, mem, isId, _, advance, deed, advancing, _, stepped⟩
  · exact .inl (congrArg Observed.session same)
  · exact .inr ⟨caller, mem, isId, advance, deed, advancing,
      congrArg (fun observed => observed.session.crowd) stepped⟩

/-- The callers have different numbers, in the order of their calls. -/
def Numbered (session : Session α) : Prop :=
  (session.crowd.callers.map (·.id)).Sublist (List.range session.calls)

theorem Numbered.create (config : Config) : (Session.create config : Session α).Numbered :=
  List.nil_sublist _

/-- Every move keeps the numbers. -/
theorem Numbered.act (numbered : session.Numbered) (move : Move α) :
    (session.act move).Numbered := by
  cases move with
  | step id =>
      rcases session.crowd.step?_cases id with ⟨none, _⟩ | ⟨caller, _, _, stepped, _⟩
      · simpa only [Numbered, Session.act, none, Option.getD_none] using numbered
      · simp only [Numbered, Session.act, stepped, Option.getD_some]
        exact (session.crowd.ids_apply _ _).trans numbered
  | call call =>
      simp only [Numbered, Session.act, Session.react, Crowd.react, List.map_append,
        List.range_succ]
      exact numbered.append (List.Sublist.refl _)
  | abandon id => exact (List.filter_sublist.map _).trans numbered
  | pass duration => exact numbered
  | hint => exact (congrArg (List.Sublist · _) (Crowd.ids_notify _ _)).mpr numbered
  | close => exact (congrArg (List.Sublist · _) (Crowd.ids_notify _ _)).mpr numbered
  | fail fault => exact (congrArg (List.Sublist · _) (Crowd.ids_notify _ _)).mpr numbered

/-- A caller that can proceed does so at its step. -/
theorem Numbered.act_step
    (numbered : session.Numbered)
    {caller : Caller α}
    (mem : caller ∈ session.crowd.callers)
    (able : caller.canProceed session.crowd.now = true) :
    (session.act (.step caller.id)).crowd =
      session.crowd.apply caller (caller.advance session.crowd.buffer session.crowd.now) := by
  have distinct := List.nodup_range.sublist numbered
  obtain ⟨isStep, -⟩ := session.crowd.step?_of_unique mem
    (fun other isOther => List.inj_on_of_nodup_map distinct isOther mem) able
  simp [Session.act, isStep]

/-- The buffer has ended, and nobody sleeps whom no signal has reached. -/
structure HasEnded (session : Session α) : Prop where
  ended : session.crowd.buffer.phase ≠ .running
  awake : ∀ caller ∈ session.crowd.callers, ∀ wake, caller.stage = .asleep wake ->
    caller.signalled = true
  numbered : session.Numbered

/-- An end from outside does not end the calls in progress by itself. -/
theorem unfinished_of_ending
    {move : Move α} {phase : Phase}
    (ends : move.ending? = some phase) :
    (session.act move).crowd.unfinished = session.crowd.unfinished := by
  cases move with
  | close => exact Crowd.ids_notify _ _
  | fail fault => exact Crowd.ids_notify _ _
  | _ => cases ends

namespace HasEnded

/-- When the buffer has ended, everybody can proceed. -/
theorem canProceed
    (hasEnded : session.HasEnded)
    {caller : Caller α}
    (mem : caller ∈ session.crowd.callers) :
    caller.canProceed session.crowd.now = true := by
  cases able : caller.canProceed session.crowd.now with
  | true => rfl
  | false =>
      obtain ⟨wake, asleep, silent⟩ := asleep_of_not_canProceed able
      rw [hasEnded.awake caller mem wake asleep] at silent
      cases silent

/-- An end that a move brings to a running buffer signals everybody. -/
theorem of_ending
    {move : Move α} {phase : Phase}
    (numbered : session.Numbered)
    (running : session.crowd.buffer.phase = .running)
    (ends : move.ending? = some phase) :
    (session.act move).crowd.buffer = { session.crowd.buffer with phase := phase } ∧
      (session.act move).HasEnded := by
  -- Either end leaves such a crowd.
  have brings : (session.act move).crowd =
        { session.crowd with buffer := { session.crowd.buffer with phase := phase } }.notify .all ->
      phase ≠ .running ->
      (session.act move).crowd.buffer = { session.crowd.buffer with phase := phase } ∧
        (session.act move).HasEnded := by
    intro crowd ended
    refine ⟨by rw [crowd]; rfl, by rw [crowd]; exact ended, ?_, numbered.act move⟩
    intro caller mem wake asleep
    rw [crowd] at mem
    obtain ⟨before, _, rfl⟩ := (Crowd.mem_callers_notify _).mp mem
    have asleepBefore : before.stage = .asleep wake := by simpa using asleep
    simp [Signal.concerns, Caller.signal, Caller.isListening, asleepBefore]
  have isRunning := isRunning_iff.mpr running
  cases move with
  | close =>
      obtain rfl : Phase.closed = phase := by simpa [Move.ending?] using ends
      exact brings (by simp [act, react, Crowd.react, isRunning, close_of_running running])
        (by simp)
  | fail fault =>
      obtain rfl : endedBy fault = phase := by simpa [Move.ending?] using ends
      exact brings (by simp [act, react, Crowd.react, isRunning, fail_of_running running])
        (endedBy_ne_running fault)
  | _ => cases ends

/-- What a move does when the buffer has ended. Either it changes neither the end nor the unit,
and a call that it ends has not looked at what is left; or it is the step of a take that gets
what is left. -/
theorem act_cases (hasEnded : session.HasEnded) (move : Move α) :
    ((session.act move).crowd.buffer.phase = session.crowd.buffer.phase ∧
        (session.act move).crowd.buffer.pending = session.crowd.buffer.pending ∧
        ∃ completion : Option (Completion α),
          (session.act move).crowd.completions =
              session.crowd.completions ++ completion.toList ∧
            ∀ last ∈ completion, last.IsAside session.crowd.buffer.config) ∨
      ∃ taker ∈ session.crowd.callers, move = .step taker.id ∧ taker.call = .take ∧
        (session.act move).crowd.buffer = session.crowd.buffer.spent ∧
        (session.act move).crowd.completions = session.crowd.completions ++
          [⟨taker.id, session.crowd.now, .took session.crowd.buffer.legacy⟩] := by
  -- Nothing from outside ends a call.
  have still : ∀ completions : List (Completion α), completions = session.crowd.completions ->
      ∃ completion : Option (Completion α),
        completions = session.crowd.completions ++ completion.toList ∧
          ∀ last ∈ completion, last.IsAside session.crowd.buffer.config :=
    fun _ same => ⟨none, by rw [same]; exact (List.append_nil _).symm, nofun⟩
  cases move with
  | step id =>
      rcases session.act_step id with same | ⟨caller, mem, rfl, advance, deed, advancing, crowd⟩
      · exact .inl ⟨by rw [same], by rw [same], still _ (by rw [same])⟩
      · rw [crowd, Crowd.buffer_apply, Crowd.completions_apply]
        cases advancing.leaving hasEnded.ended with
        | nearer following => exact .inl ⟨rfl, rfl, none, rfl, nofun⟩
        | put =>
            refine .inl ⟨rfl, rfl, some _, rfl, fun last isLast => .inl ?_⟩
            rw [← Option.some_inj.mp isLast]
        | overflow late =>
            refine .inl ⟨rfl, rfl, some _, rfl, fun last isLast => .inr ?_⟩
            rw [← Option.some_inj.mp isLast]
            exact ⟨rfl, late⟩
        | took call => exact .inr ⟨caller, mem, rfl, call, rfl, rfl⟩
  | close =>
      refine .inl ⟨?_, ?_, still _ rfl⟩ <;>
        simp [act, react, Crowd.react, close_of_ended hasEnded.ended]
  | fail fault =>
      refine .inl ⟨?_, ?_, still _ rfl⟩ <;>
        simp [act, react, Crowd.react, fail_of_ended hasEnded.ended]
  | _ => exact .inl ⟨rfl, rfl, still _ rfl⟩

/-- Whoever is in progress when the buffer has ended is there after a move that does not
abandon it, and closer to its end if the move is its own, or the move has ended its call. -/
theorem nears_end
    (hasEnded : session.HasEnded)
    {caller : Caller α}
    (mem : caller ∈ session.crowd.callers)
    {move : Move α}
    (stays : move ≠ .abandon caller.id) :
    (∃ outcome, (session.act move).crowd.completions =
        session.crowd.completions ++ [⟨caller.id, session.crowd.now, outcome⟩]) ∨
      ∃ following ∈ (session.act move).crowd.callers, following.id = caller.id ∧
        following.distance + (if move.isStepOf caller.id then 1 else 0) ≤ caller.distance := by
  -- A signal brings nobody farther from its end.
  have signalled : ∀ signal : Signal,
      ∃ following ∈ (session.crowd.notify signal).callers, following.id = caller.id ∧
        following.distance + 0 ≤ caller.distance := by
    intro signal
    refine ⟨_, (Crowd.mem_callers_notify _).mpr ⟨caller, mem, rfl⟩, by simp, ?_⟩
    simp [Caller.distance]
  cases move with
  | step id =>
      by_cases isOwn : id = caller.id
      · subst isOwn
        have advancing := caller.advancing_advance session.crowd.buffer session.crowd.now
        rw [hasEnded.numbered.act_step mem (hasEnded.canProceed mem), Crowd.completions_apply]
        generalize caller.advance session.crowd.buffer session.crowd.now = advance at advancing ⊢
        cases advancing.leaving hasEnded.ended with
        | nearer following sameId awake closer =>
            have next : (Advance.mk session.crowd.buffer .none (.inl following)).next =
                .inl following := rfl
            have present := session.crowd.mem_apply_of_next mem next sameId
            refine .inr ⟨following, by simpa [Signal.concerns] using present, sameId, ?_⟩
            rwa [Move.isStepOf, beq_self_eq_true, if_pos rfl]
        | put => exact .inl ⟨_, rfl⟩
        | overflow late => exact .inl ⟨_, rfl⟩
        | took call => exact .inl ⟨_, rfl⟩
      · have present : ∃ following ∈ (session.act (.step id)).crowd.callers,
            following.id = caller.id ∧ following.distance = caller.distance := by
          rcases session.act_step id with
            same | ⟨other, otherMem, rfl, advance, deed, advancing, crowd⟩
          · exact ⟨caller, by rwa [same], rfl, rfl⟩
          · have still := session.crowd.mem_apply_of_other mem (Ne.symm isOwn)
              fun following next => (advancing.identity next).1
            rw [crowd]
            exact ⟨_, still, by simp, by simp [Caller.distance]⟩
        obtain ⟨following, followingMem, sameId, same⟩ := present
        exact .inr ⟨following, followingMem, sameId, by simp [Move.isStepOf, isOwn, same]⟩
  | call call =>
      exact .inr ⟨caller, List.mem_append_left _ mem, rfl, Nat.le_refl _⟩
  | abandon id =>
      have isOther : caller.id ≠ id := fun same => stays (by rw [same])
      exact .inr ⟨caller, List.mem_filter.mpr ⟨mem, by simpa using isOther⟩, rfl, Nat.le_refl _⟩
  | pass duration => exact .inr ⟨caller, mem, rfl, Nat.le_refl _⟩
  | hint => exact .inr (signalled _)
  | close => exact .inr (signalled _)
  | fail fault => exact .inr (signalled _)

/-- A buffer that has ended stays so, and nobody falls asleep. -/
theorem act (hasEnded : session.HasEnded) (move : Move α) : (session.act move).HasEnded := by
  have ended : (session.act move).crowd.buffer.phase ≠ .running := by
    rcases hasEnded.act_cases move with ⟨phase, _⟩ | ⟨_, _, _, _, spent, _⟩
    · rw [phase]
      exact hasEnded.ended
    · rw [spent]
      exact phase_spent_ne_running hasEnded.ended
  -- Whom a signal has reached is not asleep without one.
  have signalled : ∀ (before : Caller α) (heard : Prop) [Decidable heard],
      (∀ wake, before.stage = .asleep wake -> before.signalled = true) ->
      ∀ wake, (if heard then before.signal else before).stage = .asleep wake ->
        (if heard then before.signal else before).signalled = true := by
    intro before heard _ awake wake asleep
    rw [Caller.stage_signal_if] at asleep
    split
    · simp [Caller.signal, awake wake asleep]
    · exact awake wake asleep
  have notified : ∀ signal : Signal, ∀ caller ∈ (session.crowd.notify signal).callers,
      ∀ wake, caller.stage = .asleep wake -> caller.signalled = true := by
    intro signal caller mem
    obtain ⟨before, wasThere, rfl⟩ := (Crowd.mem_callers_notify _).mp mem
    exact signalled before _ (hasEnded.awake before wasThere)
  refine ⟨ended, ?_, hasEnded.numbered.act move⟩
  cases move with
  | step id =>
      rcases session.act_step id with same | ⟨caller, _, _, advance, deed, advancing, crowd⟩
      · rw [same]
        exact hasEnded.awake
      · rw [crowd]
        intro member memAfter
        obtain ⟨before, origin, rfl⟩ := session.crowd.mem_callers_apply memAfter
        refine signalled before _ ?_
        rcases origin with wasThere | proceeded
        · exact hasEnded.awake before wasThere
        · cases advancing.leaving hasEnded.ended with
          | nearer following _ awake =>
              obtain rfl := Sum.inl.inj proceeded
              exact fun wake asleep => absurd asleep (awake wake)
          | _ => cases proceeded
  | call call =>
      intro caller mem
      rcases List.mem_append.mp mem with wasThere | isNew
      · exact hasEnded.awake caller wasThere
      · rw [List.mem_singleton.mp isNew]
        simp [Caller.create]
  | abandon id => exact fun caller mem => hasEnded.awake caller (List.mem_filter.mp mem).1
  | pass duration => exact hasEnded.awake
  | hint => exact notified _
  | close => exact notified _
  | fail fault => exact notified _

theorem run (hasEnded : session.HasEnded) (moves : List (Move α)) :
    (session.run moves).HasEnded :=
  run_induction (fun _ move current => current.act move) hasEnded moves

end HasEnded

/-- What is over stays so. -/
theorem completions_run (session : Session α) (moves : List (Move α)) :
    session.crowd.completions <+: (session.run moves).crowd.completions := by
  refine run_induction
    (motive := fun later => session.crowd.completions <+: later.crowd.completions)
    (fun later move before => before.trans ?_) List.prefix_rfl moves
  refine act_induction
    (motive := fun next => later.crowd.completions <+: next.crowd.completions)
    ?_ ?_ List.prefix_rfl move
  · intro caller _ _ advance deed _
    rw [Crowd.completions_apply]
    exact List.prefix_append _ _
  · intro event calls
    cases event <;> exact List.prefix_rfl

namespace HasEnded

/-- Whoever is in progress when the buffer has ended is over after at most three steps of its
own, whatever the others do meanwhile. -/
theorem ends
    (hasEnded : session.HasEnded)
    {caller : Caller α}
    (mem : caller ∈ session.crowd.callers)
    {moves : List (Move α)}
    (stays : .abandon caller.id ∉ moves)
    (enough : caller.distance ≤ moves.countP (Move.isStepOf caller.id)) :
    ∃ completions, (session.run moves).crowd.completions =
        session.crowd.completions ++ completions ∧
      ∃ completion ∈ completions, completion.id = caller.id := by
  induction moves generalizing session caller with
  | nil => exact absurd enough (Nat.not_le.mpr caller.distance_pos)
  | cons move rest inductionHypothesis =>
      obtain ⟨notThis, notRest⟩ := not_or.mp (List.mem_cons.not.mp stays)
      rw [List.countP_cons] at enough
      rcases hasEnded.nears_end mem (Ne.symm notThis) with
        ⟨outcome, isOver⟩ | ⟨following, followingMem, sameId, closer⟩
      · obtain ⟨later, run⟩ := (session.act move).completions_run rest
        refine ⟨⟨caller.id, session.crowd.now, outcome⟩ :: later, ?_, _, List.mem_cons_self, rfl⟩
        rw [run_cons, ← run, isOver, List.append_assoc]
        rfl
      · rw [← sameId] at notRest enough closer
        obtain ⟨later, run, ends⟩ := inductionHypothesis (hasEnded.act move) followingMem notRest
          (by omega)
        obtain ⟨first, act⟩ := session.completions_run [move]
        obtain ⟨completion, isOver, isCaller⟩ := ends
        refine ⟨first ++ later, ?_, completion, List.mem_append_right _ isOver,
          isCaller.trans sameId⟩
        rw [run_cons, run, ← List.append_assoc, act]
        rfl

/-- What takes have got when the buffer has ended: nothing as long as none has looked at it, and
then the first what was left and all others nothing. -/
theorem gains
    (hasEnded : session.HasEnded)
    {config : Config}
    (isConfig : session.crowd.buffer.config = config)
    (moves : List (Move α)) :
    ∃ completions, (session.run moves).crowd.completions =
        session.crowd.completions ++ completions ∧
      (∀ completion ∈ completions, completion.gain? = none -> completion.IsAside config) ∧
      (completions.filterMap Completion.gain? = [] ∧
          (session.run moves).crowd.buffer.phase = session.crowd.buffer.phase ∧
          (session.run moves).crowd.buffer.pending = session.crowd.buffer.pending ∨
        (∃ count, completions.filterMap Completion.gain? =
            session.crowd.buffer.legacy :: List.replicate count .ended) ∧
          (session.run moves).crowd.buffer.phase = session.crowd.buffer.spent.phase ∧
          (session.run moves).crowd.buffer.pending = none) := by
  refine (run_induction (motive := fun later => later.HasEnded ∧
    later.crowd.buffer.config = config ∧
    ∃ completions, later.crowd.completions = session.crowd.completions ++ completions ∧
      (∀ completion ∈ completions, completion.gain? = none -> completion.IsAside config) ∧
      (completions.filterMap Completion.gain? = [] ∧
          later.crowd.buffer.phase = session.crowd.buffer.phase ∧
          later.crowd.buffer.pending = session.crowd.buffer.pending ∨
        (∃ count, completions.filterMap Completion.gain? =
            session.crowd.buffer.legacy :: List.replicate count .ended) ∧
          later.crowd.buffer.phase = session.crowd.buffer.spent.phase ∧
          later.crowd.buffer.pending = none)) ?_ ?_ moves).2.2
  · rintro later move ⟨laterOver, laterConfig, completions, isOver, aside, state⟩
    refine ⟨laterOver.act move, (config_run later [move]).trans laterConfig, ?_⟩
    rcases laterOver.act_cases move with
      ⟨phase, pending, completion, act, isAside⟩ | ⟨taker, _, _, _, spent, act⟩
    · rw [laterConfig] at isAside
      refine ⟨completions ++ completion.toList, by rw [act, isOver, List.append_assoc], ?_, ?_⟩
      · intro last mem silent
        rcases List.mem_append.mp mem with wasOver | isNew
        · exact aside last wasOver silent
        · exact isAside last (Option.mem_toList.mp isNew)
      · have silent : completion.toList.filterMap Completion.gain? = [] :=
          List.filterMap_eq_nil_iff.mpr fun last isNew =>
            (isAside last (Option.mem_toList.mp isNew)).gain?_eq_none
        rw [List.filterMap_append, silent, List.append_nil, phase, pending]
        exact state
    · refine ⟨completions ++ [_], by rw [act, isOver, List.append_assoc], ?_, .inr ?_⟩
      · intro last mem silent
        rcases List.mem_append.mp mem with wasOver | isNew
        · exact aside last wasOver silent
        · rw [List.mem_singleton.mp isNew, gain?_legacy] at silent
          cases silent
      · rw [List.filterMap_append, List.filterMap_cons_some (gain?_legacy _ _ _), spent]
        rcases state with ⟨nothing, phase, pending⟩ | ⟨⟨count, before⟩, phase, pending⟩
        · refine ⟨⟨0, ?_⟩, phase_spent_congr phase, rfl⟩
          rw [nothing, legacy_congr phase pending]
          rfl
        · refine ⟨⟨count + 1, ?_⟩, ?_, rfl⟩
          · rw [before, List.replicate_succ', legacy_congr phase pending, legacy_spent]
            rfl
          · rw [phase_spent_congr phase, phase_spent_spent]
  · exact ⟨hasEnded, isConfig, [], (List.append_nil _).symm, nofun, .inl ⟨rfl, rfl, rfl⟩⟩

end HasEnded

/-- A buffer runs until a move ends it. -/
theorem phase_run
    {moves : List (Move α)}
    (running : session.crowd.buffer.phase = .running)
    (unended : ∀ move ∈ moves, move.ending? = none) :
    (session.run moves).crowd.buffer.phase = .running := by
  induction moves generalizing session with
  | nil => exact running
  | cons move rest inductionHypothesis =>
      obtain ⟨notThis, notRest⟩ := List.forall_mem_cons.mp unended
      refine inductionHypothesis ?_ notRest
      cases move with
      | step id =>
          rcases session.act_step id with same | ⟨caller, _, _, advance, deed, advancing, crowd⟩
          · rwa [same]
          · rw [crowd, Crowd.buffer_apply]
            exact advancing.keeps_running running
      | close => cases notThis
      | fail fault => cases notThis
      | _ => exact running

theorem Numbered.run (numbered : session.Numbered) (moves : List (Move α)) :
    (session.run moves).Numbered :=
  run_induction (fun _ move current => current.act move) numbered moves

/-- To fail because of being called off is to be closed. -/
theorem act_fail_of_cancelled
    (session : Session α)
    {fault : Fault}
    (cancelled : fault.isCancelled = true) :
    session.act (.fail fault) = session.act .close := by
  have same : session.crowd.buffer.fail fault = session.crowd.buffer.close := by
    by_cases running : session.crowd.buffer.phase = .running
    · rw [fail_of_running running, close_of_running running, endedBy, if_pos cancelled]
    · rw [fail_of_ended running, close_of_ended running]
  simp only [act, react, Crowd.react, same]

/-- The first end of a buffer is final. It decides the phase and leaves the unit as it is; to
fail because of being called off is to be closed. From then on everybody can proceed, and a call
that was in progress, unless it is abandoned, is over after three steps of its own. Another end,
a hint, a put or anything else changes neither the phase nor the unit, but for a take that gets
what is left. So of all takes that look at the buffer from then on, the first gets what was left
at the end, and all others nothing. The only ones that do not look are those whose deadline
lies beyond the end of the clock: they overflow. -/
theorem first_end_is_final
    (config : Config)
    (earlier later : List (Move α))
    (ending : Move α)
    (phase : Phase)
    (before ended final : Session α)
    (isBefore : before = (create config).run earlier)
    (isEnded : ended = before.act ending)
    (isFinal : final = ended.run later)
    (isFirst : ∀ move ∈ earlier, move.ending? = none)
    (ends : ending.ending? = some phase) :
    before.crowd.buffer.phase = .running ∧
      ended.crowd.buffer = { before.crowd.buffer with phase := phase } ∧
      (∀ fault : Fault, fault.isCancelled = true ->
        before.act (.fail fault) = before.act .close) ∧
      (∀ caller ∈ final.crowd.callers, caller.canProceed final.crowd.now = true) ∧
      (∀ move,
        (final.act move).crowd.buffer.phase = final.crowd.buffer.phase ∧
            (final.act move).crowd.buffer.pending = final.crowd.buffer.pending ∨
          ∃ taker ∈ final.crowd.callers, move = .step taker.id ∧ taker.call = .take ∧
            (final.act move).crowd.completions = final.crowd.completions ++
              [⟨taker.id, final.crowd.now, .took final.crowd.buffer.legacy⟩]) ∧
      ∃ completions, final.crowd.completions = ended.crowd.completions ++ completions ∧
        (∀ id ∈ before.crowd.unfinished, .abandon id ∉ later ->
          3 ≤ later.countP (Move.isStepOf id) ->
          ∃ completion ∈ completions, completion.id = id) ∧
        (∀ completion ∈ completions, completion.gain? = none -> completion.IsAside config) ∧
        (completions.filterMap Completion.gain? = [] ∧
            final.crowd.buffer.phase = phase ∧
            final.crowd.buffer.pending = before.crowd.buffer.pending ∨
          (∃ count, completions.filterMap Completion.gain? =
              ended.crowd.buffer.legacy :: List.replicate count .ended) ∧
            final.crowd.buffer.phase = ended.crowd.buffer.spent.phase ∧
            final.crowd.buffer.pending = none) := by
  have running : before.crowd.buffer.phase = .running := by
    rw [isBefore]
    exact phase_run rfl isFirst
  have numbered : before.Numbered := by
    rw [isBefore]
    exact (Numbered.create config).run earlier
  have isConfig : ended.crowd.buffer.config = config := by
    rw [isEnded, isBefore]
    exact (config_run _ [ending]).trans (config_run _ earlier)
  obtain ⟨isEnd, hasEnded⟩ := HasEnded.of_ending numbered running ends
  rw [← isEnded] at isEnd hasEnded
  have finalEnded : final.HasEnded := isFinal ▸ hasEnded.run later
  refine ⟨running, isEnd, fun fault => before.act_fail_of_cancelled,
    fun caller => finalEnded.canProceed, ?_, ?_⟩
  · intro move
    rcases finalEnded.act_cases move with
      ⟨samePhase, samePending, _⟩ | ⟨taker, mem, isStep, isTake, _, isOver⟩
    · exact .inl ⟨samePhase, samePending⟩
    · exact .inr ⟨taker, mem, isStep, isTake, isOver⟩
  · obtain ⟨completions, isRun, aside, state⟩ := hasEnded.gains isConfig later
    rw [← isFinal] at isRun state
    refine ⟨completions, isRun, ?_, aside, ?_⟩
    · intro id mem stays enough
      rw [← unfinished_of_ending ends, ← isEnded] at mem
      obtain ⟨caller, callerMem, rfl⟩ := List.mem_map.mp mem
      obtain ⟨_, isRunThen, isOver⟩ :=
        hasEnded.ends callerMem stays (Nat.le_trans caller.distance_le enough)
      rw [← isFinal, isRun, List.append_cancel_left_eq] at isRunThen
      rwa [isRunThen]
    · rw [isEnd] at state ⊢
      exact state

/-- Two takes wait for a unit that is not due when the buffer is closed. The one that looks
first gets the unit, and the other one nothing, whatever is put afterwards. -/
theorem first_end_is_final_for_two_takes :
    let config : Config := .make 100 none none none
    let before : Session Nat := (create config).run
      [.call (.put [1] 60), .step 0, .call .take, .step 1, .step 1, .step 1,
        .call .take, .step 2, .step 2, .step 2]
    let later : List (Move Nat) :=
      [.fail (.other "late"), .call (.put [2] 60), .step 3, .step 2, .step 1, .hint, .step 2,
        .step 2, .close, .step 1, .step 1]
    let final := (before.act .close).run later
    before.crowd.unfinished = [1, 2] ∧
      (∀ id ∈ before.crowd.unfinished, ∃ completion ∈ final.crowd.completions,
        completion.id = id) ∧
      final.crowd.completions.filterMap Completion.gain? = [.released [1], .ended] ∧
      final.crowd.buffer.phase = .closed := by
  intro config before later final
  have waiting : before.crowd.unfinished = [1, 2] := by decide
  have stays : ∀ id ∈ before.crowd.unfinished, Move.abandon id ∉ later ∧
      3 ≤ later.countP (Move.isStepOf id) := by
    rw [waiting]
    simp [later, Move.isStepOf]
  have gains : final.crowd.completions.filterMap Completion.gain? = [.released [1], .ended] := by
    decide
  obtain ⟨_, _, _, _, _, completions, isRun, ends, _, _⟩ :=
    first_end_is_final config _ later .close .closed before _ final rfl rfl rfl (by decide) rfl
  refine ⟨waiting, fun id mem => ?_, gains, by decide⟩
  obtain ⟨completion, isOver, isId⟩ := ends id mem (stays id mem).1 (stays id mem).2
  exact ⟨completion, isRun ▸ List.mem_append_right _ isOver, isId⟩

/-- Two takes would wait for the longest time that there is. Both overflow, and the fault by
which the buffer has failed is reported to nobody. Without a limit of their own, the first one
is told of the fault and the second one of the end. -/
theorem longest_wait_hides_fault :
    let longest : Duration := Duration.ofSeconds (Nat.pow 2 64 - 1) + 999999999
    let takes : List (Move Nat) :=
      [.call .take, .step 0, .step 0, .step 0, .call .take, .step 1, .step 1, .step 1]
    let final := fun patience =>
      ((create (.make 10 none none patience)).act (.fail (.other "late"))).run takes
    (final (some longest)).crowd.completions =
        [⟨0, 0, .took .overflow⟩, ⟨1, 0, .took .overflow⟩] ∧
      (final (some longest)).crowd.buffer.phase = .failed (some (.other "late")) ∧
      (final none).crowd.completions =
        [⟨0, 0, .took (.failed (.other "late"))⟩, ⟨1, 0, .took .ended⟩] := by
  decide +kernel

end Session

end Buffer
end BlockFeed
