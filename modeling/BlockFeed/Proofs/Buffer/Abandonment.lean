import BlockFeed.Proofs.Buffer.Tally

/-!
# Takes that are abandoned

A run in which a take is called, waits and gives up is compared with the run in which the
take was never called. A take that goes on waiting writes nothing but one flag: when it
finds its time up, it leaves a note that a release is due. A take that never does so
leaves no trace, whatever the other callers do meanwhile and later on. One that does so
hurries the next release: a later take gets the next unit at once, as if it had waited
since the abandoned one began.
-/

namespace BlockFeed
namespace Buffer

variable {buffer rest : Buffer α} {now : Instant}

/-! ## The flags of a buffer -/

/-- A running buffer is filled exactly if it has a unit. -/
def IsFlagged (buffer : Buffer α) : Prop :=
  buffer.phase = .running -> buffer.filled = buffer.pending.isSome

theorem IsFlagged.taking
    {deadline : Option Instant} {result : Take α}
    (flagged : buffer.IsFlagged)
    (taking : Taking buffer now deadline result rest) :
    rest.IsFlagged := by
  cases taking with
  | release => exact fun _ => rfl
  | waiting => exact flagged
  | overflow => exact flagged
  | reported => exact nofun
  | silent => exact nofun
  | remainder _ closed => exact fun running => absurd (closed.symm.trans running) nofun
  | ended closed => exact fun running => absurd (closed.symm.trans running) nofun

/-- Every small step of a caller keeps the flags. -/
theorem IsFlagged.advance
    {caller : Caller α} {advance : Advance α} {deed : Option (Deed α)}
    (flagged : buffer.IsFlagged)
    (advancing : caller.Advancing buffer now advance deed) :
    advance.buffer.IsFlagged := by
  cases advancing with
  | joined => exact fun _ => rfl
  | heldBack => exact fun _ => rfl
  | sleptWaiting _ _ _ _ taking => exact flagged.taking taking
  | took _ _ _ _ taking => exact flagged.taking taking
  | tookNothing _ _ _ _ taking => exact flagged.taking taking
  | _ => exact flagged

/-- A buffer that has ended is not running, whatever its flags are. -/
theorem IsFlagged.close (flagged : buffer.IsFlagged) : buffer.close.IsFlagged := by
  by_cases running : buffer.phase = .running
  · rw [close_of_running running]
    exact nofun
  · rwa [close_of_ended running]

theorem IsFlagged.fail (flagged : buffer.IsFlagged) (fault : Fault) :
    (buffer.fail fault).IsFlagged := by
  by_cases running : buffer.phase = .running
  · rw [fail_of_running running]
    exact fun stillRunning => absurd stillRunning (endedBy_ne_running fault)
  · rwa [fail_of_ended running]

/-- A consumer that goes on waiting leaves the buffer as it is, unless its time is up and
that has not been noted before. -/
theorem Taking.leaves_buffer
    {deadline wake : Option Instant}
    (taking : Taking buffer now deadline (.waiting wake) rest)
    (flagged : buffer.IsFlagged)
    (unhurried : Instant.reached now deadline = false ∨ buffer.due = true) :
    rest = buffer := by
  cases taking with
  | waiting idle running idleDeadline notDue =>
      -- Without a unit there is no idle time, so that only the deadline could make a release
      -- due; with one, a release that is due would have ended the take.
      have sameDue : (buffer.noticed now deadline idle).due = buffer.due := by
        cases pending : buffer.pending with
        | none =>
            have noIdle : idle = none := by simpa [Buffer.idleDeadline, pending] using
              idleDeadline.symm
            rcases unhurried with early | due
            · simp [noticed, early, noIdle]
            · simp [noticed, due]
        | some unit =>
            have filled : buffer.filled = true := by simpa [pending] using flagged running
            have notNoticed : (buffer.noticed now deadline idle).due = false := by
              simpa [DueAt, filled, pending] using notDue
            have notDueBefore : buffer.due = false := by
              simp only [noticed, Bool.or_eq_false_iff] at notNoticed
              exact notNoticed.1.1
            rw [notNoticed, notDueBefore]
      exact congrArg (fun due => { buffer with due := due }) sameDue

/-! ## Turns -/

/-- One thing that happens to a crowd: a caller proceeds, or something happens outside. -/
inductive Crowd.Turn (α : Type)
  | step (id : Nat)
  | event (event : Crowd.Event α)

/-- Whether it is the caller with a number to whom something happens. -/
def Crowd.Turn.concerns (id : Nat) : Crowd.Turn α -> Bool
  | .step stepping => stepping == id
  | .event (.call called _) => called == id
  | .event (.abandon given) => given == id
  | .event _ => false

namespace Crowd

/-- The crowd after a turn. -/
def go (crowd : Crowd α) : Turn α -> Crowd α
  | .step id => (crowd.step? id).getD crowd
  | .event event => crowd.react event

/-- The crowd after a list of turns. -/
def play (crowd : Crowd α) (turns : List (Turn α)) : Crowd α :=
  turns.foldl go crowd

@[simp] theorem play_nil (crowd : Crowd α) : crowd.play [] = crowd := rfl

@[simp] theorem play_cons (crowd : Crowd α) (turn : Turn α) (rest : List (Turn α)) :
    crowd.play (turn :: rest) = (crowd.go turn).play rest := rfl

@[simp] theorem play_append (crowd : Crowd α) (left right : List (Turn α)) :
    crowd.play (left ++ right) = (crowd.play left).play right := by
  simp [play]

/-- Every turn keeps the flags of the buffer. -/
theorem isFlagged_go {crowd : Crowd α} (flagged : crowd.buffer.IsFlagged) (turn : Turn α) :
    (crowd.go turn).buffer.IsFlagged := by
  cases turn with
  | step id =>
      rcases crowd.step?_cases id with ⟨none, _⟩ | ⟨caller, _, _, stepped, _⟩
      · simpa only [go, none, Option.getD_none] using flagged
      · simp only [go, stepped, Option.getD_some, buffer_apply]
        exact flagged.advance (caller.advancing_advance _ _)
  | event event =>
      cases event with
      | hint => exact flagged
      | close => exact flagged.close
      | fail fault => exact flagged.fail fault
      | _ => exact flagged

theorem isFlagged_play
    {crowd : Crowd α}
    (flagged : crowd.buffer.IsFlagged)
    (turns : List (Turn α)) :
    (crowd.play turns).buffer.IsFlagged := by
  induction turns generalizing crowd with
  | nil => exact flagged
  | cons turn rest inductionHypothesis => exact inductionHypothesis (isFlagged_go flagged turn)

/-! ## Turns of others -/

section without

variable (crowd : Crowd α) {id : Nat}

/-- Signals reach the others whether or not a caller is there. -/
theorem without_notify (signal : Signal) :
    (crowd.notify signal).without id = (crowd.without id).notify signal := by
  simp only [without, notify, List.filter_map]
  congr 2
  refine List.filter_congr fun caller _ => ?_
  simp

theorem find?_without {other : Nat} (isOther : other ≠ id) :
    (crowd.without id).callers.find? (·.id == other) =
      crowd.callers.find? (·.id == other) := by
  rw [without, List.find?_filter]
  congr 1
  funext caller
  by_cases isThis : caller.id = other <;> simp [isThis, isOther]

theorem without_replace (next : Caller α) :
    (crowd.replace next).without id = (crowd.without id).replace next := by
  simp only [without, replace, List.filter_map]
  congr 2
  refine List.filter_congr fun caller _ => ?_
  by_cases isThis : caller.id = next.id <;> simp [isThis]

theorem without_complete (other : Nat) (outcome : Outcome α) :
    (crowd.complete other outcome).without id =
      (crowd.without id).complete other outcome := by
  simp only [without, complete, List.filter_filter, Bool.and_comm]

/-- A small step of another caller is the same whether or not a caller is there. -/
theorem without_apply (caller : Caller α) (advance : Advance α) :
    (crowd.apply caller advance).without id = (crowd.without id).apply caller advance := by
  cases next : advance.next with
  | inl following =>
      simp only [apply, next, without_notify, without_replace]
      rfl
  | inr outcome =>
      simp only [apply, next, without_notify, without_complete]
      rfl

theorem without_step {other : Nat} (isOther : other ≠ id) :
    (crowd.go (.step other)).without id = (crowd.without id).go (.step other) := by
  simp only [go, step?, crowd.find?_without isOther]
  cases found : crowd.callers.find? (·.id == other) with
  | none => rfl
  | some caller =>
      cases able : caller.canProceed crowd.now with
      | false =>
          have ableThen : caller.canProceed (crowd.without id).now = false := able
          simp [able, ableThen]
      | true =>
          have ableThen : caller.canProceed (crowd.without id).now = true := able
          simp only [able, ableThen, if_true, Option.getD_some]
          exact crowd.without_apply caller _

/-- What happens to others is the same whether or not a caller is there. -/
theorem without_go {turn : Turn α} (ofOthers : turn.concerns id = false) :
    (crowd.go turn).without id = (crowd.without id).go turn := by
  cases turn with
  | step other => exact crowd.without_step (by simpa [Turn.concerns] using ofOthers)
  | event event =>
      cases event with
      | call other call =>
          have isOther : other ≠ id := by simpa [Turn.concerns] using ofOthers
          simp [go, react, without, Caller.create, isOther]
      | abandon other => simp only [go, react, without, List.filter_filter, Bool.and_comm]
      | hint => exact without_notify { crowd with buffer := crowd.buffer.hint } _
      | close => exact without_notify { crowd with buffer := crowd.buffer.close } _
      | fail fault => exact without_notify { crowd with buffer := crowd.buffer.fail fault } _
      | pass duration => rfl

end without

/-! ## A take that waits -/

/-- The time of a caller is not up, or a release is due in any case. -/
def IsUnhurried (crowd : Crowd α) (id : Nat) : Prop :=
  ∀ caller ∈ crowd.callers, caller.id = id ->
    Instant.reached crowd.now caller.deadline = false ∨ crowd.buffer.due = true

instance (crowd : Crowd α) (id : Nat) : Decidable (crowd.IsUnhurried id) :=
  inferInstanceAs (Decidable (∀ caller ∈ crowd.callers, _ -> _))

/-- The callers with a number, of whom there is at most one, are consumers. -/
def AreTakes (crowd : Crowd α) (id : Nat) : Prop :=
  ∀ caller ∈ crowd.callers, caller.id = id -> caller.isTake = true

variable {crowd : Crowd α} {id : Nat}

@[simp] theorem notify_none (crowd : Crowd α) : crowd.notify .none = crowd := by
  simp [notify, Signal.concerns]

/-- Nobody takes the place of a caller who is not there. -/
theorem replace_without (crowd : Crowd α) (next : Caller α) :
    (crowd.without next.id).replace next = crowd.without next.id := by
  have unchanged : (crowd.callers.filter (·.id != next.id)).map
      (fun caller => if caller.id == next.id then next else caller) =
        crowd.callers.filter (·.id != next.id) := by
    refine (List.map_congr_left fun caller mem => ?_).trans (List.map_id _)
    have isOther : caller.id ≠ next.id := by simpa using (List.mem_filter.mp mem).2
    simp [isOther]
  simp only [replace, without, unchanged]

/-- A step of a consumer that goes on waiting is not noticed without it. -/
theorem without_apply_waiting
    {caller following : Caller α} {advance : Advance α} {deed : Option (Deed α)}
    (advancing : caller.Advancing crowd.buffer crowd.now advance deed)
    (isTake : caller.isTake = true)
    (flagged : crowd.buffer.IsFlagged)
    (unhurried : Instant.reached crowd.now caller.deadline = false ∨ crowd.buffer.due = true)
    (next : advance.next = .inl following) :
    (crowd.apply caller advance).without caller.id = crowd.without caller.id := by
  have sameId := (advancing.identity next).1
  have quiet : advance.buffer = crowd.buffer ∧ advance.signal = .none := by
    cases advancing with
    | heldBack _ _ _ call => simp [Caller.isTake, call] at isTake
    | sleptWaiting _ _ _ _ taking => exact ⟨taking.leaves_buffer flagged unhurried, rfl⟩
    | began => exact ⟨rfl, rfl⟩
    | listened => exact ⟨rfl, rfl⟩
    | sleptHeld => exact ⟨rfl, rfl⟩
    | woke => exact ⟨rfl, rfl⟩
    | _ => simp at next
  obtain ⟨sameBuffer, noSignal⟩ := quiet
  simp only [apply, next, noSignal, sameBuffer, notify_none, without_replace]
  rw [← sameId]
  exact crowd.replace_without following

/-- Whoever is in progress after a turn was so before, unless the turn calls it. -/
theorem unfinished_of_go
    {turn : Turn α}
    (present : id ∈ (crowd.go turn).unfinished)
    (notCalled : ∀ call, turn ≠ .event (.call id call)) :
    id ∈ crowd.unfinished := by
  cases turn with
  | step stepping =>
      rcases crowd.step?_cases stepping with ⟨none, _⟩ | ⟨caller, _, _, stepped, _⟩
      · simpa only [go, none, Option.getD_none] using present
      · simp only [go, stepped, Option.getD_some] at present
        exact (crowd.ids_apply caller _).subset present
  | event event =>
      cases event with
      | call other call =>
          obtain ⟨caller, mem, isId⟩ := List.mem_map.mp present
          rcases List.mem_append.mp mem with wasThere | isNew
          · exact isId ▸ List.mem_map_of_mem wasThere
          · obtain rfl : other = id := by
              rw [← isId, List.mem_singleton.mp isNew]
              rfl
            exact absurd rfl (notCalled call)
      | abandon other => exact (List.filter_sublist.map _).subset present
      | pass duration => exact present
      | hint => exact (congrArg (id ∈ ·) (ids_notify _ _)).mp present
      | close => exact (congrArg (id ∈ ·) (ids_notify _ _)).mp present
      | fail fault => exact (congrArg (id ∈ ·) (ids_notify _ _)).mp present

theorem unfinished_of_play
    {turns : List (Turn α)}
    (present : id ∈ (crowd.play turns).unfinished)
    (notCalled : ∀ turn ∈ turns, ∀ call, turn ≠ .event (.call id call)) :
    id ∈ crowd.unfinished := by
  induction turns generalizing crowd with
  | nil => exact present
  | cons turn rest inductionHypothesis =>
      refine unfinished_of_go (inductionHypothesis present ?_)
        (notCalled turn List.mem_cons_self)
      exact fun later mem => notCalled later (List.mem_cons_of_mem turn mem)

/-- A consumer stays one. -/
theorem AreTakes.go
    {turn : Turn α}
    (takes : crowd.AreTakes id)
    (notCalled : ∀ call, turn ≠ .event (.call id call)) :
    (crowd.go turn).AreTakes id := by
  cases turn with
  | step stepping =>
      rcases crowd.step?_cases stepping with ⟨none, _⟩ | ⟨caller, mem, _, stepped, _⟩
      · simpa only [Crowd.go, none, Option.getD_none] using takes
      · simp only [Crowd.go, stepped, Option.getD_some]
        intro member memAfter isId
        have advancing := caller.advancing_advance crowd.buffer crowd.now
        obtain ⟨before, wasThere, sameId, sameCall⟩ := crowd.origin_of_mem_apply mem
          (fun following next => ⟨(advancing.identity next).1, (advancing.identity next).2.1⟩)
          memAfter
        have isTake := takes before wasThere (sameId.trans isId)
        rwa [Caller.isTake, ← sameCall]
  | event event =>
      have notified : ∀ (changed : Crowd α) (signal : Signal),
          changed.callers = crowd.callers -> (changed.notify signal).AreTakes id := by
        intro changed signal same member memAfter isId
        obtain ⟨before, wasThere, rfl⟩ := (mem_callers_notify _).mp memAfter
        rw [Caller.isTake_signal_if]
        rw [Caller.id_signal_if] at isId
        exact takes before (same ▸ wasThere) isId
      cases event with
      | call other call =>
          intro member mem isId
          rcases List.mem_append.mp mem with wasThere | isNew
          · exact takes member wasThere isId
          · obtain rfl : other = id := by
              rw [← isId, List.mem_singleton.mp isNew]
              rfl
            exact absurd rfl (notCalled call)
      | abandon other => exact fun member mem => takes member (List.mem_of_mem_filter mem)
      | pass duration => exact takes
      | hint => exact notified _ _ rfl
      | close => exact notified _ _ rfl
      | fail fault => exact notified _ _ rfl

/-- A step of a take that is still waiting afterwards is not noticed without it. -/
theorem without_step_waiting
    (takes : crowd.AreTakes id)
    (flagged : crowd.buffer.IsFlagged)
    (unhurried : crowd.IsUnhurried id)
    (present : id ∈ (crowd.go (.step id)).unfinished) :
    (crowd.go (.step id)).without id = crowd.without id := by
  cases found : crowd.callers.find? (·.id == id) with
  | none => simp [go, step?, found]
  | some caller =>
      have mem := List.mem_of_find?_eq_some found
      have isId : caller.id = id := by simpa using List.find?_some found
      subst isId
      by_cases able : caller.canProceed crowd.now = true
      · have stepped : crowd.go (.step caller.id) =
            crowd.apply caller (caller.advance crowd.buffer crowd.now) := by
          simp [go, step?, found, able]
        have advancing := caller.advancing_advance crowd.buffer crowd.now
        rw [stepped] at present ⊢
        cases next : (caller.advance crowd.buffer crowd.now).next with
        | inl following =>
            exact without_apply_waiting advancing (takes caller mem rfl) flagged
              (unhurried caller mem rfl) next
        | inr outcome =>
            have gone : caller.id ∉
                (crowd.apply caller (caller.advance crowd.buffer crowd.now)).unfinished := by
              simp [apply, next, unfinished, ids_notify, complete, without]
            exact absurd present gone
      · simp [go, step?, found, able]

/-- A take that waits and never finds its time up is not noticed without it. -/
theorem without_play
    {turns : List (Turn α)}
    (takes : crowd.AreTakes id)
    (flagged : crowd.buffer.IsFlagged)
    (alone : ∀ turn ∈ turns, turn.concerns id = true -> turn = .step id)
    (present : id ∈ (crowd.play turns).unfinished)
    (unhurried : ∀ front back, turns = front ++ .step id :: back ->
      (crowd.play front).IsUnhurried id) :
    (crowd.play turns).without id =
      (crowd.without id).play (turns.filter fun turn => !turn.concerns id) := by
  have notCalled : ∀ turn ∈ turns, ∀ call, turn ≠ .event (.call id call) := by
    rintro turn mem call rfl
    exact absurd (alone _ mem (by simp [Turn.concerns])) nofun
  -- By induction on the turns: those of others commute with the removal, and the take's own
  -- turns change nothing but the take, since it is still there in the end.
  induction turns generalizing crowd with
  | nil => rfl
  | cons turn rest inductionHypothesis =>
      have notCalledNow := notCalled turn List.mem_cons_self
      have notCalledLater := fun later mem => notCalled later (List.mem_cons_of_mem turn mem)
      have goesOn := inductionHypothesis (takes.go notCalledNow) (isFlagged_go flagged turn)
        (fun later mem => alone later (List.mem_cons_of_mem turn mem)) present
        (fun front back split => unhurried (turn :: front) back (congrArg (turn :: ·) split))
        notCalledLater
      rw [play_cons, goesOn]
      cases concerns : turn.concerns id with
      | false => simp [concerns, without_go crowd concerns]
      | true =>
          obtain rfl := alone turn List.mem_cons_self concerns
          rw [without_step_waiting takes flagged (unhurried [] rest rfl)
            (unfinished_of_play present notCalledLater)]
          simp [concerns]

/-- Abandoning a take that never found its time up while no release was due leaves the
crowd as if the take had never been called, whatever the others did meanwhile, and so
whatever happens later on. -/
theorem abandoned_takes_leave_no_trace
    (config : Config) (opening middle rest : List (Turn α)) (id : Nat) :
    let start := (create config).play opening
    let called := start.go (.event (.call id .take))
    id ∉ start.unfinished ->
    (∀ turn ∈ middle, turn.concerns id = true -> turn = .step id) ->
    id ∈ (called.play middle).unfinished ->
    (∀ front back, middle = front ++ .step id :: back -> (called.play front).IsUnhurried id) ->
    start.play (.event (.call id .take) :: middle ++ .event (.abandon id) :: rest) =
      start.play (middle.filter (fun turn => !turn.concerns id) ++ rest) := by
  intro start called fresh alone present unhurried
  have unflagged : (create config : Crowd α).buffer.IsFlagged := fun _ => rfl
  have flagged : called.buffer.IsFlagged := isFlagged_play unflagged opening
  have others : ∀ caller ∈ start.callers, caller.id ≠ id :=
    fun caller mem isId => fresh (isId ▸ List.mem_map_of_mem mem)
  have takes : called.AreTakes id := by
    intro caller mem isId
    rcases List.mem_append.mp mem with wasThere | isNew
    · exact absurd isId (others caller wasThere)
    · rw [List.mem_singleton.mp isNew]
      rfl
  have gone : called.without id = start := by
    have same : (start.callers ++ [Caller.create id .take]).filter (·.id != id) =
        start.callers := by
      rw [List.filter_append, List.filter_eq_self.mpr (by simpa using others)]
      simp [Caller.create]
    simp only [called, go, react, without, same]
  have before := without_play takes flagged alone present unhurried
  rw [gone] at before
  simp only [List.cons_append, play_cons, play_append]
  exact congrArg (fun crowd => crowd.play rest) before

/-- A take that gives up halfway leaves no trace, and the next one gets its unit when its
own time is up. -/
theorem abandoned_takes_leave_no_trace_halfway :
    let config := Config.make 1000 none none (some (Duration.ofMillis 100))
    let waits : List (Turn Nat) := List.replicate 3 (.step 0)
    let halfway : Turn Nat := .event (.pass (Duration.ofMillis 50))
    let later : List (Turn Nat) :=
      [.event (.call 1 (.put [7] 10)), .step 1, .event (.call 2 .take), .step 2, .step 2,
        .step 2, .event (.pass (Duration.ofMillis 100)), .step 2, .step 2, .step 2]
    let crowd := (create config).play
      (.event (.call 0 .take) :: (waits ++ [halfway]) ++ .event (.abandon 0) :: later)
    crowd = (create config).play (halfway :: later) ∧
      crowd.completions =
        [⟨1, Duration.ofMillis 50, .put⟩, ⟨2, Duration.ofMillis 150, .took (.released [7])⟩] := by
  intro config waits halfway later crowd
  have unhurried : ∀ front back, waits ++ [halfway] = front ++ .step 0 :: back ->
      ((create config).play (.event (.call 0 .take) :: front)).IsUnhurried 0 := by
    intro front back split
    have isFront : front = (waits ++ [halfway]).take front.length := by
      rw [split, List.take_left]
    have short : front.length < 4 := by
      have lengths := congrArg List.length split
      simp [waits] at lengths
      omega
    have always : ∀ count < 4, ((create config).play
        (.event (.call 0 .take) :: (waits ++ [halfway]).take count)).IsUnhurried 0 := by
      decide +kernel
    rw [isFront]
    exact always front.length short
  have same := abandoned_takes_leave_no_trace config [] (waits ++ [halfway]) later 0
    (by decide +kernel) (by simp [waits, halfway, Turn.concerns]) (by decide +kernel) unhurried
  exact ⟨same, by decide +kernel⟩

/-- A take that gives up after its time is up leaves the note that a release is due: the next
put is ready for release at once, and the next take does not wait. -/
theorem abandoned_takes_hurry_the_next_one :
    let config := Config.make 1000 none none (some (Duration.ofMillis 100))
    let middle : List (Turn Nat) :=
      List.replicate 3 (.step 0) ++ .event (.pass (Duration.ofMillis 150)) ::
        List.replicate 3 (.step 0)
    let put : List (Turn Nat) := [.event (.call 1 (.put [7] 10)), .step 1]
    let take : List (Turn Nat) :=
      [.event (.call 2 .take), .step 2, .step 2, .step 2,
        .event (.pass (Duration.ofMillis 100)), .step 2, .step 2, .step 2]
    let abandoned := (create config).play
      (.event (.call 0 .take) :: middle ++ .event (.abandon 0) :: put)
    let untouched := (create config).play
      (middle.filter (fun turn => !turn.concerns 0) ++ put)
    0 ∈ ((create config).play (.event (.call 0 .take) :: middle)).unfinished ∧
      abandoned.buffer.isReady = true ∧ untouched.buffer.isReady = false ∧
      (abandoned.play take).completions =
        [⟨1, Duration.ofMillis 150, .put⟩, ⟨2, Duration.ofMillis 150, .took (.released [7])⟩] ∧
      (untouched.play take).completions =
        [⟨1, Duration.ofMillis 150, .put⟩, ⟨2, Duration.ofMillis 250, .took (.released [7])⟩] := by
  decide +kernel

end Crowd
end Buffer
end BlockFeed
