import BlockFeed.Proofs.Buffer.Tally
import Mathlib.Data.List.Nodup

/-!
# Orderly sessions

A session is orderly if at most one take is in progress at a time, none is given
up, and no instant is skipped at which a take could proceed.

The buffer agrees with its tally in every session. In an orderly one it also knows
that a release is due only for a reason that can be told from the tally and from
the take in progress.
-/

namespace BlockFeed
namespace Buffer

namespace Session

/-- Whether a move is orderly: at most one take is in progress at a time, and none
is given up; and time passes only while no take can proceed, and not beyond the
instant at which one wakes. -/
def Allows (session : Session α) : Move α -> Prop
  | .call .take => ∀ caller ∈ session.crowd.callers, caller.isTake = false
  | .abandon id => ∀ caller ∈ session.crowd.callers, caller.id = id -> caller.isTake = false
  | .pass duration =>
      ∀ caller ∈ session.crowd.callers, caller.isTake = true ->
        caller.canProceed session.crowd.now = false ∧
          ∀ wake ∈ caller.wake?, session.crowd.now + duration ≤ wake
  | _ => True

instance (session : Session α) (move : Move α) : Decidable (session.Allows move) :=
  match move with
  | .call .take => inferInstanceAs (Decidable (∀ caller ∈ session.crowd.callers, _))
  | .abandon _ => inferInstanceAs (Decidable (∀ caller ∈ session.crowd.callers, _))
  | .pass _ => inferInstanceAs (Decidable (∀ caller ∈ session.crowd.callers, _))
  | .call (.put _ _) => .isTrue trivial
  | .step _ => .isTrue trivial
  | .hint => .isTrue trivial
  | .close => .isTrue trivial
  | .fail _ => .isTrue trivial

/-- Whether all moves of a run are orderly. -/
def Orderly (session : Session α) : List (Move α) -> Prop
  | [] => True
  | move :: rest => session.Allows move ∧ (session.act move).Orderly rest

instance decidableOrderly : (session : Session α) -> (moves : List (Move α)) ->
    Decidable (session.Orderly moves)
  | _, [] => .isTrue trivial
  | session, move :: rest =>
      have := decidableOrderly (session.act move) rest
      inferInstanceAs (Decidable (session.Allows move ∧ (session.act move).Orderly rest))

theorem orderly_append (session : Session α) (left right : List (Move α)) :
    session.Orderly (left ++ right) ↔
      session.Orderly left ∧ (session.run left).Orderly right := by
  induction left generalizing session with
  | nil => simp [Orderly]
  | cons move left inductionHypothesis =>
      simp only [List.cons_append, Orderly, inductionHypothesis, run_cons, and_assoc]

end Session

namespace Observed

/-- The session and its tally after a small step of a caller. -/
def stepped
    (observed : Observed α)
    (caller : Caller α)
    (advance : Advance α)
    (deed : Option (Deed α)) : Observed α where
  session :=
    { observed.session with
      crowd := observed.session.crowd.apply caller advance
      history := observed.session.history ++ deed.toList }
  tally := Tally.after observed.tally observed.now deed

/-- A small step is that of a caller with its number who can proceed, or
nothing. -/
theorem act_step (observed : Observed α) (id : Nat) :
    observed.act (.step id) = observed ∨
      ∃ caller ∈ observed.session.crowd.callers, caller.id = id ∧
        caller.canProceed observed.now = true ∧
        ∃ advance deed,
          caller.Advancing observed.buffer observed.now advance deed ∧
            (∀ wake, advance.next ≠ .inr (.took (.waiting wake))) ∧
            observed.act (.step id) = observed.stepped caller advance deed := by
  cases found : observed.session.crowd.callers.find? (·.id == id) with
  | none =>
      refine .inl ?_
      simp [act, Session.act, tallyAfter, Tally.after, Crowd.step?, Crowd.deed?, found]
  | some caller =>
      cases able : caller.canProceed observed.session.crowd.now with
      | false =>
          refine .inl ?_
          simp [act, Session.act, tallyAfter, Tally.after, Crowd.step?, Crowd.deed?, found, able]
      | true =>
          refine .inr ⟨caller, List.mem_of_find?_eq_some found, ?_, able, _, _,
            caller.advancing_advance _ _, caller.advance_ne_waiting _ _, ?_⟩
          · simpa using List.find?_some found
          · simp [act, Session.act, tallyAfter, stepped, Crowd.step?, Crowd.deed?, found, able,
              now, buffer]

/-- While the buffer runs, its unit is the one that the tally tells of. -/
def IsTold (observed : Observed α) : Prop :=
  observed.buffer.phase = .running -> observed.buffer.ToldBy observed.tally observed.now

namespace IsTold

variable {observed : Observed α}

theorem create (config : Config) : (Observed.create config : Observed α).IsTold :=
  fun _ => ⟨rfl, rfl, rfl, nofun, nofun⟩

/-- A small step that leaves the buffer running leaves behind what the tally tells then. -/
theorem advance
    (told : observed.IsTold)
    {caller : Caller α} {advance : Advance α} {deed : Option (Deed α)}
    (advancing : caller.Advancing observed.buffer observed.now advance deed)
    (running : advance.buffer.phase = .running) :
    advance.buffer.ToldBy (Tally.after observed.tally observed.now deed) observed.now := by
  cases advancing with
  | joined blocks bytes _ _ wasRunning => exact (told wasRunning).grown blocks bytes
  | heldBack blocks bytes _ _ wasRunning => exact (told wasRunning).grown blocks bytes
  | sleptWaiting wake rest _ _ taking =>
      cases taking with
      | waiting idle wasRunning => exact (told wasRunning).noticed _ _
  | took blocks rest _ _ taking =>
      cases taking with
      | remainder unit closed => simp [closed] at running
      | release => exact .drained
  | tookNothing result rest _ _ taking noBlocks =>
      cases taking with
      | reported => simp at running
      | silent => simp at running
      | remainder unit => exact absurd rfl (noBlocks unit.blocks)
      | ended closed => simp [closed] at running
      | overflow => exact told running
      | release unit => exact absurd rfl (noBlocks unit.blocks)
      | waiting idle wasRunning => exact (told wasRunning).noticed _ _
  | _ => exact told running

/-- A small step keeps the tally right. -/
theorem stepped
    (told : observed.IsTold)
    {caller : Caller α} {advance : Advance α} {deed : Option (Deed α)}
    (advancing : caller.Advancing observed.buffer observed.now advance deed) :
    (observed.stepped caller advance deed).IsTold := by
  intro running
  simp only [Observed.stepped, buffer, now, Crowd.buffer_apply, Crowd.now_apply] at running ⊢
  exact told.advance advancing running

/-- Every move keeps the tally right, be it orderly or not. -/
theorem act (told : observed.IsTold) (move : Move α) : (observed.act move).IsTold := by
  cases move with
  | step id =>
      rcases observed.act_step id with
        same | ⟨caller, _, _, _, advance, deed, advancing, _, stepped⟩
      · rwa [same]
      · rw [stepped]
        exact told.stepped advancing
  | call call => exact told
  | abandon id => exact told
  | hint => exact fun running => (told running).hint
  | close => exact fun running => absurd running close_ne_running
  | fail fault => exact fun running => absurd running (fail_ne_running fault)
  | pass duration => exact fun running => (told running).later (Nat.le_add_right _ _)

/-- Every run keeps the tally right. -/
theorem run (told : observed.IsTold) (moves : List (Move α)) : (observed.run moves).IsTold := by
  induction moves generalizing observed with
  | nil => exact told
  | cons move rest inductionHypothesis => exact inductionHypothesis (told.act move)

end IsTold

/-- A session that has been orderly: the buffer and the tally agree, whoever
sleeps has a reason, and there is at most one take. -/
structure Attuned (observed : Observed α) : Prop where
  told : observed.buffer.phase = .running ->
    observed.buffer.ToldBy observed.tally observed.now
  cause : observed.buffer.phase = .running -> observed.buffer.due = true ->
    Cause observed.buffer observed.tally observed.session.crowd.callers observed.now
  justified : ∀ caller ∈ observed.session.crowd.callers, caller.Justified observed.buffer
  single : ∀ caller ∈ observed.session.crowd.callers,
    ∀ other ∈ observed.session.crowd.callers,
      caller.isTake = true -> other.isTake = true -> caller.id = other.id
  distinct : (observed.session.crowd.callers.map (·.id)).Nodup
  counted : ∀ caller ∈ observed.session.crowd.callers, caller.id < observed.session.calls

namespace Attuned

variable {observed : Observed α}

theorem create (config : Config) : (Observed.create config : Observed α).Attuned where
  told := IsTold.create config
  cause _ due := by cases due
  justified := nofun
  single := nofun
  distinct := List.nodup_nil
  counted := nofun

/-- Callers with the same number are the same. -/
theorem eq_of_id
    (attuned : observed.Attuned)
    {caller other : Caller α}
    (mem : caller ∈ observed.session.crowd.callers)
    (otherMem : other ∈ observed.session.crowd.callers)
    (same : caller.id = other.id) :
    caller = other :=
  List.inj_on_of_nodup_map attuned.distinct mem otherMem same

theorem agree (attuned : observed.Attuned) (running : observed.buffer.phase = .running) :
    observed.buffer.filled = observed.buffer.pending.isSome :=
  (attuned.told running).agree

/-! ### Small steps -/

section stepped

variable {caller : Caller α} {advance : Advance α} {deed : Option (Deed α)}

/-- A take that has arrived stays in progress unless it is the one that ends. -/
theorem taker_stepped
    (attuned : observed.Attuned)
    (mem : caller ∈ observed.session.crowd.callers)
    (advancing : caller.Advancing observed.buffer observed.now advance deed)
    {taker : Caller α}
    (takerMem : taker ∈ observed.session.crowd.callers)
    (isTake : taker.isTake = true)
    (arrived : taker.stage ≠ .arriving)
    (goes : taker = caller -> ∃ following, advance.next = .inl following) :
    ∃ later ∈ (observed.session.crowd.apply caller advance).callers,
      later.isTake = true ∧ later.stage ≠ .arriving ∧ later.deadline = taker.deadline := by
  by_cases same : taker.id = caller.id
  · have isCaller := attuned.eq_of_id takerMem mem same
    obtain ⟨following, next⟩ := goes isCaller
    subst isCaller
    obtain ⟨id, call, stillArrived⟩ := advancing.identity next
    refine ⟨_, observed.session.crowd.mem_apply_of_next mem next id, ?_⟩
    have stillTake : following.isTake = true := by
      rw [Caller.isTake, call]
      exact isTake
    have deadline := advancing.deadline arrived next
    simpa using ⟨stillTake, stillArrived, deadline⟩
  · refine ⟨_, observed.session.crowd.mem_apply_of_other takerMem same
      (fun following next => (advancing.identity next).1), ?_⟩
    simpa using ⟨isTake, arrived⟩

/-- A release that was due before a small step is due for the same reason after
it, unless the step ends a take or drains the buffer. -/
theorem cause_kept
    (attuned : observed.Attuned)
    (mem : caller ∈ observed.session.crowd.callers)
    (advancing : caller.Advancing observed.buffer observed.now advance deed)
    (running : observed.buffer.phase = .running)
    (due : observed.buffer.due = true)
    (goes : caller.isTake = true -> caller.stage ≠ .arriving ->
      ∃ following, advance.next = .inl following)
    {laterTally : Option (Tally α)}
    (ready : ∀ told, observed.tally = some told -> told.IsReady observed.buffer.config ->
      ∃ later, laterTally = some later ∧ later.IsReady advance.buffer.config)
    (idle : ∀ problem, observed.buffer.idleDeadline = .error problem ->
      ∃ problem, advance.buffer.idleDeadline = .error problem) :
    Cause advance.buffer laterTally (observed.session.crowd.apply caller advance).callers
      observed.now := by
  refine (attuned.cause running due).after ready ?_ (Nat.le_refl _) idle
  intro taker takerMem isTake arrived
  refine attuned.taker_stepped mem advancing takerMem isTake arrived ?_
  intro isCaller
  exact goes (isCaller ▸ isTake) (isCaller ▸ arrived)

/-- After a put a release is due because it was before, or because of the size. -/
theorem cause_put
    (attuned : observed.Attuned)
    (mem : caller ∈ observed.session.crowd.callers)
    (advancing : caller.Advancing observed.buffer observed.now advance deed)
    (running : observed.buffer.phase = .running)
    {blocks : List α} {bytes : Nat}
    (call : caller.call = .put blocks bytes)
    (grown : advance.buffer = observed.buffer.grown observed.now blocks bytes)
    (due : advance.buffer.due = true) :
    Cause advance.buffer (some (.put observed.tally observed.now blocks bytes))
      (observed.session.crowd.apply caller advance).callers observed.now := by
  have told := attuned.told running
  cases wasDue : observed.buffer.due with
  | true =>
      refine attuned.cause_kept mem advancing running wasDue ?_ ?_ ?_
      · intro isTake
        simp [Caller.isTake_of_put call] at isTake
      · intro told isTold ready
        rw [isTold, grown]
        exact ⟨_, rfl, ready.put observed.now blocks bytes⟩
      · intro problem beyond
        rw [grown]
        exact told.idleDeadline_grown beyond blocks bytes
  | false =>
      refine .inl ⟨_, rfl, .inl ?_⟩
      rw [grown] at due ⊢
      rw [told.bytes_put]
      simpa [Buffer.grown, wasDue] using due

theorem cause_stepped
    (attuned : observed.Attuned)
    (mem : caller ∈ observed.session.crowd.callers)
    (advancing : caller.Advancing observed.buffer observed.now advance deed)
    (notWaiting : ∀ wake, advance.next ≠ .inr (.took (.waiting wake)))
    (running : advance.buffer.phase = .running)
    (due : advance.buffer.due = true) :
    Cause advance.buffer (Tally.after observed.tally observed.now deed)
      (observed.session.crowd.apply caller advance).callers observed.now := by
  have proceeding := advancing
  cases advancing with
  | joined blocks bytes _ call wasRunning =>
      exact attuned.cause_put mem proceeding wasRunning call rfl due
  | heldBack blocks bytes _ call wasRunning =>
      exact attuned.cause_put mem proceeding wasRunning call rfl due
  | discarded blocks bytes _ _ ended => exact absurd running ended
  | overflowed _ arriving =>
      exact attuned.cause_kept mem proceeding running due
        (fun _ arrived => absurd arriving arrived)
        (fun told isTold ready => ⟨told, isTold, ready⟩) (fun problem beyond => ⟨problem, beyond⟩)
  | admitted _ _ _ call =>
      exact attuned.cause_kept mem proceeding running due
        (fun isTake => by simp [Caller.isTake_of_put call] at isTake)
        (fun told isTold ready => ⟨told, isTold, ready⟩) (fun problem beyond => ⟨problem, beyond⟩)
  | took blocks rest _ _ taking =>
      cases taking with
      | remainder unit closed => simp [closed] at running
      | release => cases due
  | tookNothing result rest _ _ taking noBlocks =>
      cases taking with
      | reported => simp at running
      | silent => simp at running
      | remainder unit => exact absurd rfl (noBlocks unit.blocks)
      | ended closed => simp [closed] at running
      | overflow problem _ beyond => exact .inr (.inr ⟨problem, beyond⟩)
      | release unit => exact absurd rfl (noBlocks unit.blocks)
      | waiting => exact absurd rfl (notWaiting _)
  | sleptWaiting wake rest looking call taking =>
      cases taking with
      | waiting idle wasRunning idleDeadline notDue =>
          have agree := attuned.agree wasRunning
          have empty : observed.buffer.pending = none := by
            cases pending : observed.buffer.pending with
            | none => rfl
            | some unit =>
                have filled : observed.buffer.filled = true := by rw [agree, pending]; rfl
                exact absurd ⟨due, filled⟩ (notDue (by rw [pending]; rfl))
          have never : idle = none := by
            simp only [Buffer.idleDeadline, empty] at idleDeadline
            cases idleDeadline
            rfl
          have either : observed.buffer.due = true ∨
              Instant.reached observed.now caller.deadline = true := by
            simpa [Buffer.noticed, never] using due
          rcases either with wasDue | reached
          · exact attuned.cause_kept mem proceeding wasRunning wasDue (fun _ _ => ⟨_, rfl⟩)
              (fun told isTold ready => ⟨told, isTold, ready⟩)
              (fun problem beyond => ⟨problem, beyond⟩)
          · have isTake := Caller.isTake_of_take call
            obtain ⟨later, laterMem, stillTake, arrived, deadline⟩ :=
              attuned.taker_stepped mem proceeding mem isTake (by simp [looking])
                (fun _ => ⟨_, rfl⟩)
            exact .inr (.inl ⟨later, laterMem, stillTake, arrived, by rw [deadline, reached]⟩)
  | _ =>
      exact attuned.cause_kept mem proceeding running due (fun _ _ => ⟨_, rfl⟩)
        (fun told isTold ready => ⟨told, isTold, ready⟩) (fun problem beyond => ⟨problem, beyond⟩)

/-- A small step keeps the session attuned. -/
theorem stepped
    (attuned : observed.Attuned)
    (mem : caller ∈ observed.session.crowd.callers)
    (advancing : caller.Advancing observed.buffer observed.now advance deed)
    (notWaiting : ∀ wake, advance.next ≠ .inr (.took (.waiting wake))) :
    (observed.stepped caller advance deed).Attuned where
  told := IsTold.stepped attuned.told advancing
  cause running due := by
    simp only [Observed.stepped, buffer, now, Crowd.buffer_apply, Crowd.now_apply]
      at running due ⊢
    exact attuned.cause_stepped mem advancing notWaiting running due
  justified := by
    intro member memAfter
    obtain ⟨before, origin, rfl⟩ := observed.session.crowd.mem_callers_apply memAfter
    simp only [Observed.stepped, buffer, Crowd.buffer_apply]
    rcases origin with wasThere | proceeded
    · exact (attuned.justified before wasThere).after (advancing.spares attuned.agree)
    · have justified := advancing.justified attuned.agree proceeded
      split
      · exact justified.signal
      · exact justified
  single := by
    intro member memAfter other otherAfter isTake otherIsTake
    have identity : ∀ following, advance.next = .inl following ->
        following.id = caller.id ∧ following.call = caller.call :=
      fun following next => ⟨(advancing.identity next).1, (advancing.identity next).2.1⟩
    obtain ⟨before, beforeMem, sameId, sameCall⟩ :=
      observed.session.crowd.origin_of_mem_apply mem identity memAfter
    obtain ⟨otherBefore, otherMem, otherId, otherCall⟩ :=
      observed.session.crowd.origin_of_mem_apply mem identity otherAfter
    rw [← sameId, ← otherId]
    refine attuned.single before beforeMem otherBefore otherMem ?_ ?_
    · rwa [Caller.isTake, sameCall]
    · rwa [Caller.isTake, otherCall]
  distinct := attuned.distinct.sublist (observed.session.crowd.ids_apply caller advance)
  counted := by
    intro member memAfter
    have idMem := (observed.session.crowd.ids_apply caller advance).subset
      (List.mem_map_of_mem memAfter)
    obtain ⟨before, beforeMem, sameId⟩ := List.mem_map.mp idMem
    rw [← sameId]
    exact attuned.counted before beforeMem

end stepped

/-! ### What happens outside -/

/-- A change of the buffer from outside, after which it tells the same of a unit
that is still there, keeps the session attuned if it signals those whom it may
concern. -/
theorem notified
    (attuned : observed.Attuned)
    {buffer : Buffer α}
    {signal : Signal}
    {tally : Option (Tally α)}
    (spares : Spares signal observed.buffer buffer)
    (told : buffer.phase = .running -> buffer.ToldBy tally observed.now)
    (cause : buffer.phase = .running -> buffer.due = true ->
      Cause buffer tally observed.session.crowd.callers observed.now) :
    Attuned
      ⟨{ observed.session with
          crowd := { observed.session.crowd with buffer := buffer }.notify signal }, tally⟩ where
  told := told
  cause running due := by
    refine (cause running due).after (fun told isTold ready => ⟨told, isTold, ready⟩) ?_
      (Nat.le_refl _) (fun problem beyond => ⟨problem, beyond⟩)
    intro taker mem isTake arrived
    refine ⟨_, (Crowd.mem_callers_notify _).mpr ⟨taker, mem, rfl⟩, ?_⟩
    simpa using ⟨isTake, arrived⟩
  justified := by
    intro member memAfter
    obtain ⟨before, wasThere, rfl⟩ := (Crowd.mem_callers_notify _).mp memAfter
    exact (attuned.justified before wasThere).after spares
  single := by
    intro member memAfter other otherAfter isTake otherIsTake
    obtain ⟨before, wasThere, rfl⟩ := (Crowd.mem_callers_notify _).mp memAfter
    obtain ⟨otherBefore, otherWasThere, rfl⟩ := (Crowd.mem_callers_notify _).mp otherAfter
    simp only [Caller.isTake_signal_if, Caller.id_signal_if] at isTake otherIsTake ⊢
    exact attuned.single before wasThere otherBefore otherWasThere isTake otherIsTake
  distinct := by
    have ids := Crowd.ids_notify { observed.session.crowd with buffer := buffer } signal
    exact ids ▸ attuned.distinct
  counted := by
    intro member memAfter
    obtain ⟨before, wasThere, rfl⟩ := (Crowd.mem_callers_notify _).mp memAfter
    rw [Caller.id_signal_if]
    exact attuned.counted before wasThere

theorem call
    (attuned : observed.Attuned)
    {call : Call α}
    (allowed : observed.session.Allows (.call call)) :
    (observed.act (.call call)).Attuned where
  told := attuned.told
  cause running due := by
    refine (attuned.cause running due).after (fun told isTold ready => ⟨told, isTold, ready⟩) ?_
      (Nat.le_refl _) (fun problem beyond => ⟨problem, beyond⟩)
    intro taker mem isTake arrived
    exact ⟨taker, List.mem_append_left _ mem, isTake, arrived, rfl⟩
  justified := by
    intro member memAfter
    rcases List.mem_append.mp memAfter with wasThere | isNew
    · exact attuned.justified member wasThere
    · rw [List.mem_singleton.mp isNew]
      exact .of_awake (by simp [Caller.create])
  single := by
    have alone : ∀ caller ∈ observed.session.crowd.callers,
        (Caller.create observed.session.calls call).isTake = true -> caller.isTake = false := by
      intro caller mem isTake
      cases call with
      | put blocks bytes => cases isTake
      | take => exact allowed caller mem
    intro member memAfter other otherAfter isTake otherIsTake
    rcases List.mem_append.mp memAfter with wasThere | isNew <;>
      rcases List.mem_append.mp otherAfter with otherWasThere | otherIsNew
    · exact attuned.single member wasThere other otherWasThere isTake otherIsTake
    · rw [List.mem_singleton.mp otherIsNew] at otherIsTake
      rw [alone member wasThere otherIsTake] at isTake
      cases isTake
    · rw [List.mem_singleton.mp isNew] at isTake
      rw [alone other otherWasThere isTake] at otherIsTake
      cases otherIsTake
    · rw [List.mem_singleton.mp isNew, List.mem_singleton.mp otherIsNew]
  distinct := by
    have fresh : observed.session.calls ∉ observed.session.crowd.callers.map (·.id) := by
      intro mem
      obtain ⟨caller, callerMem, same⟩ := List.mem_map.mp mem
      exact Nat.lt_irrefl _ (same ▸ attuned.counted caller callerMem)
    simpa [act, Session.act, Session.react, Crowd.react, Caller.create, List.nodup_append,
      attuned.distinct] using fresh
  counted := by
    intro member memAfter
    rcases List.mem_append.mp memAfter with wasThere | isNew
    · exact Nat.lt_succ_of_lt (attuned.counted member wasThere)
    · rw [List.mem_singleton.mp isNew]
      exact Nat.lt_succ_self _

theorem abandon
    (attuned : observed.Attuned)
    {id : Nat}
    (allowed : observed.session.Allows (.abandon id)) :
    (observed.act (.abandon id)).Attuned where
  told := attuned.told
  cause running due := by
    refine (attuned.cause running due).after (fun told isTold ready => ⟨told, isTold, ready⟩) ?_
      (Nat.le_refl _) (fun problem beyond => ⟨problem, beyond⟩)
    intro taker mem isTake arrived
    have stays : taker.id ≠ id := by
      intro given
      simp [allowed taker mem given] at isTake
    exact ⟨taker, List.mem_filter.mpr ⟨mem, by simpa using stays⟩, isTake, arrived, rfl⟩
  justified := fun member memAfter => attuned.justified member (List.mem_filter.mp memAfter).1
  single := fun member memAfter other otherAfter =>
    attuned.single member (List.mem_filter.mp memAfter).1 other (List.mem_filter.mp otherAfter).1
  distinct := attuned.distinct.sublist (List.filter_sublist.map _)
  counted := fun member memAfter => attuned.counted member (List.mem_filter.mp memAfter).1

theorem hint (attuned : observed.Attuned) : (observed.act .hint).Attuned := by
  refine attuned.notified spares_hint (fun running => (attuned.told running).hint) ?_
  intro running due
  change Cause observed.buffer.hint (Tally.hint observed.tally) _ _
  cases tally : observed.tally with
  | some earlier => exact .inl ⟨{ earlier with hinted := true }, rfl, .inr rfl⟩
  | none =>
      have pending : observed.buffer.pending = none := by
        rw [(attuned.told running).pending, tally]
        rfl
      have same : observed.buffer.hint = observed.buffer := hint_of_empty (by rw [pending]; rfl)
      change observed.buffer.hint.due = true at due
      rw [same] at due ⊢
      simpa [Tally.hint, tally] using attuned.cause running due

/-- An end, which signals everybody, keeps the session attuned. -/
theorem ended
    (attuned : observed.Attuned)
    {buffer : Buffer α}
    (ended : buffer.phase ≠ .running) :
    Attuned
      ⟨{ observed.session with
          crowd := { observed.session.crowd with buffer := buffer }.notify
            (if observed.buffer.isRunning then .all else .none) }, observed.tally⟩ := by
  refine attuned.notified ?_ (fun running => absurd running ended)
    (fun running => absurd running ended)
  by_cases running : observed.buffer.phase = .running
  · rw [if_pos (isRunning_iff.mpr running)]
    exact .of_all
  · exact .of_ended _ running

theorem pass (attuned : observed.Attuned) (duration : Duration) :
    (observed.act (.pass duration)).Attuned where
  told running := (attuned.told running).later (Nat.le_add_right _ _)
  cause running due :=
    (attuned.cause running due).after (fun told isTold ready => ⟨told, isTold, ready⟩)
      (fun taker mem isTake arrived => ⟨taker, mem, isTake, arrived, rfl⟩)
      (Nat.le_add_right _ _) (fun problem beyond => ⟨problem, beyond⟩)
  justified := attuned.justified
  single := attuned.single
  distinct := attuned.distinct
  counted := attuned.counted

/-- An orderly move keeps the session attuned. -/
theorem act
    (attuned : observed.Attuned)
    {move : Move α}
    (allowed : observed.session.Allows move) :
    (observed.act move).Attuned := by
  cases move with
  | step id =>
      rcases observed.act_step id with
        same | ⟨caller, mem, _, _, advance, deed, advancing, notWaiting, stepped⟩
      · rwa [same]
      · rw [stepped]
        exact attuned.stepped mem advancing notWaiting
  | call call => exact attuned.call allowed
  | abandon id => exact attuned.abandon allowed
  | hint => exact attuned.hint
  | close => exact attuned.ended close_ne_running
  | fail fault => exact attuned.ended (fail_ne_running fault)
  | pass duration => exact attuned.pass duration

/-- An orderly run keeps the session attuned. -/
theorem run
    (attuned : observed.Attuned)
    {moves : List (Move α)}
    (orderly : observed.session.Orderly moves) :
    (observed.run moves).Attuned := by
  induction moves generalizing observed with
  | nil => exact attuned
  | cons move rest inductionHypothesis =>
      exact inductionHypothesis (attuned.act orderly.1) orderly.2

end Attuned
end Observed
end Buffer
end BlockFeed
