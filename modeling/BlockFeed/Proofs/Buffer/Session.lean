import BlockFeed.Buffer.Crowd
import BlockFeed.Proofs.Buffer.Operations

/-!
# Sessions

A session is a crowd together with what has gone into its buffer and come out of
it so far, in order. A session goes on by moves: a small step of one caller, or
something from outside. Every order of moves is a run, and each new call gets a
number of its own.

The small steps are described once. A caller that proceeds does one of twelve
things, and whoever is in the crowd afterwards either was there before, perhaps
with a signal, or is the caller that has just proceeded.
-/

namespace BlockFeed
namespace Buffer

/-- What goes into a buffer or comes out of it. -/
inductive Deed (α : Type)
  /-- A put found the buffer running and added its blocks. -/
  | put (id : Nat) (blocks : List α) (bytes : Nat)
  /-- A take got blocks. -/
  | release (id : Nat) (blocks : List α)

/-- What goes into the buffer or comes out of it when a caller proceeds. -/
def Caller.deed? (caller : Caller α) (buffer : Buffer α) (now : Instant) : Option (Deed α) :=
  match caller.stage, caller.call with
  | .arriving, .put blocks bytes =>
      if buffer.isRunning then some (.put caller.id blocks bytes) else none
  | .looking, .take =>
      match (buffer.take now caller.deadline).1 with
      | .released blocks => some (.release caller.id blocks)
      | _ => none
  | _, _ => none

/-- What goes into the buffer or comes out of it at a small step of the caller
with a number. -/
def Crowd.deed? (crowd : Crowd α) (id : Nat) : Option (Deed α) :=
  match crowd.callers.find? (·.id == id) with
  | some caller =>
      if caller.canProceed crowd.now then caller.deed? crowd.buffer crowd.now else none
  | none => none

/-- A crowd and its past. -/
structure Session (α : Type) where
  crowd : Crowd α
  /-- How many calls have been made. -/
  calls : Nat
  /-- What has gone into the buffer and come out of it, the oldest first. -/
  history : List (Deed α)

/-- How a session goes on. -/
inductive Move (α : Type)
  /-- The caller with a number takes a small step, if it can. -/
  | step (id : Nat)
  /-- A new call begins. -/
  | call (call : Call α)
  /-- The caller with a number gives up. -/
  | abandon (id : Nat)
  | hint
  | close
  | fail (fault : Fault)
  /-- Time passes. -/
  | pass (duration : Duration)

namespace Session

/-- A new buffer without callers and without a past. -/
def create (config : Config) : Session α := ⟨.create config, 0, []⟩

/-- The session after something happened outside. -/
def react (session : Session α) (event : Crowd.Event α) : Session α :=
  { session with crowd := session.crowd.react event }

/-- The session after a move. -/
def act (session : Session α) : Move α -> Session α
  | .step id =>
      { session with
        crowd := (session.crowd.step? id).getD session.crowd
        history := session.history ++ (session.crowd.deed? id).toList }
  | .call call =>
      { session.react (.call session.calls call) with calls := session.calls + 1 }
  | .abandon id => session.react (.abandon id)
  | .hint => session.react .hint
  | .close => session.react .close
  | .fail fault => session.react (.fail fault)
  | .pass duration => session.react (.pass duration)

/-- The session after a list of moves. -/
def run (session : Session α) (moves : List (Move α)) : Session α :=
  moves.foldl act session

@[simp] theorem run_nil (session : Session α) : session.run [] = session := rfl

@[simp] theorem run_cons (session : Session α) (move : Move α) (rest : List (Move α)) :
    session.run (move :: rest) = (session.act move).run rest := rfl

/-- What every move keeps, every run keeps. -/
theorem run_induction
    {motive : Session α -> Prop}
    (kept : ∀ session move, motive session -> motive (session.act move))
    {session : Session α}
    (initially : motive session)
    (moves : List (Move α)) :
    motive (session.run moves) := by
  induction moves generalizing session with
  | nil => exact initially
  | cons move rest inductionHypothesis => exact inductionHypothesis (kept session move initially)

end Session

/-! ## What one small step does -/

/-- The things that a caller does when it proceeds, and what goes into the buffer
or comes out of it then. -/
inductive Caller.Advancing (caller : Caller α) (buffer : Buffer α) (now : Instant) :
    Advance α -> Option (Deed α) -> Prop
  | joined (blocks : List α) (bytes : Nat) :
      caller.stage = .arriving ->
      caller.call = .put blocks bytes ->
      buffer.phase = .running ->
      buffer.pendingBytes + bytes < buffer.config.greatest ->
      Advancing caller buffer now
        ⟨buffer.grown now blocks bytes, .takes, .inr .put⟩
        (some (.put caller.id blocks bytes))
  | heldBack (blocks : List α) (bytes : Nat) :
      caller.stage = .arriving ->
      caller.call = .put blocks bytes ->
      buffer.phase = .running ->
      buffer.config.greatest ≤ buffer.pendingBytes + bytes ->
      Advancing caller buffer now
        ⟨buffer.grown now blocks bytes, .takes,
          .inl { caller with stage := .turning, ticket := buffer.releases }⟩
        (some (.put caller.id blocks bytes))
  | discarded (blocks : List α) (bytes : Nat) :
      caller.stage = .arriving ->
      caller.call = .put blocks bytes ->
      buffer.phase ≠ .running ->
      Advancing caller buffer now ⟨buffer, .none, .inr .put⟩ none
  | began (deadline : Option Instant) :
      caller.stage = .arriving ->
      caller.call = .take ->
      buffer.patienceDeadline now = .ok deadline ->
      Advancing caller buffer now
        ⟨buffer, .none, .inl { caller with stage := .turning, deadline := deadline }⟩ none
  | overflowed (problem : Instant.Unrepresentable) :
      caller.stage = .arriving ->
      caller.call = .take ->
      buffer.patienceDeadline now = .error problem ->
      Advancing caller buffer now ⟨buffer, .none, .inr (.took .overflow)⟩ none
  | listened :
      caller.stage = .turning ->
      Advancing caller buffer now
        ⟨buffer, .none, .inl { caller with stage := .looking, signalled := false }⟩ none
  | admitted (blocks : List α) (bytes : Nat) :
      caller.stage = .looking ->
      caller.call = .put blocks bytes ->
      buffer.admits caller.ticket = true ->
      Advancing caller buffer now ⟨buffer, .none, .inr .put⟩ none
  | sleptHeld (blocks : List α) (bytes : Nat) :
      caller.stage = .looking ->
      caller.call = .put blocks bytes ->
      buffer.admits caller.ticket = false ->
      Advancing caller buffer now
        ⟨buffer, .none, .inl (caller.goTo (.asleep none))⟩ none
  | sleptWaiting (wake : Option Instant) (rest : Buffer α) :
      caller.stage = .looking ->
      caller.call = .take ->
      Taking buffer now caller.deadline (.waiting wake) rest ->
      Advancing caller buffer now ⟨rest, .none, .inl (caller.goTo (.asleep wake))⟩ none
  | took (blocks : List α) (rest : Buffer α) :
      caller.stage = .looking ->
      caller.call = .take ->
      Taking buffer now caller.deadline (.released blocks) rest ->
      Advancing caller buffer now
        ⟨rest, if buffer.isRunning then .puts else .none, .inr (.took (.released blocks))⟩
        (some (.release caller.id blocks))
  | tookNothing (result : Take α) (rest : Buffer α) :
      caller.stage = .looking ->
      caller.call = .take ->
      Taking buffer now caller.deadline result rest ->
      (∀ blocks, result ≠ .released blocks) ->
      Advancing caller buffer now ⟨rest, .none, .inr (.took result)⟩ none
  | woke (wake : Option Instant) :
      caller.stage = .asleep wake ->
      Advancing caller buffer now ⟨buffer, .none, .inl (caller.goTo .turning)⟩ none

/-- A caller that proceeds does one of these things. -/
theorem Caller.advancing_advance (caller : Caller α) (buffer : Buffer α) (now : Instant) :
    Advancing caller buffer now (caller.advance buffer now) (caller.deed? buffer now) := by
  cases stage : caller.stage with
  | arriving =>
      cases call : caller.call with
      | put blocks bytes =>
          by_cases running : buffer.phase = .running
          · by_cases small : buffer.pendingBytes + bytes < buffer.config.greatest
            · simpa [advance, deed?, beginPut, stage, call, put_of_running running, running,
                small] using Advancing.joined blocks bytes stage call running small
            · simpa [advance, deed?, beginPut, stage, call, put_of_running running, running,
                small] using
                Advancing.heldBack blocks bytes stage call running (Nat.not_lt.mp small)
          · have ended : buffer.isRunning = false := isRunning_eq_false_iff.mpr running
            simpa [advance, deed?, beginPut, stage, call, put_of_ended running, ended] using
              Advancing.discarded blocks bytes stage call running
      | take =>
          cases patience : buffer.patienceDeadline now with
          | ok deadline =>
              simpa [advance, deed?, beginTake, stage, call, patience] using
                Advancing.began deadline stage call patience
          | error problem =>
              simpa [advance, deed?, beginTake, stage, call, patience] using
                Advancing.overflowed problem stage call patience
  | turning => simpa [advance, deed?, stage] using Advancing.listened stage
  | looking =>
      cases call : caller.call with
      | put blocks bytes =>
          cases admits : buffer.admits caller.ticket with
          | true =>
              simpa [advance, deed?, lookPut, stage, call, admits] using
                Advancing.admitted blocks bytes stage call admits
          | false =>
              simpa [advance, deed?, lookPut, stage, call, admits] using
                Advancing.sleptHeld blocks bytes stage call admits
      | take =>
          have taking := taking_take buffer now caller.deadline
          generalize taken : buffer.take now caller.deadline = pair at taking
          obtain ⟨result, rest⟩ := pair
          cases result with
          | released blocks =>
              simpa [advance, deed?, lookTake, stage, call, taken] using
                Advancing.took blocks rest stage call taking
          | waiting wake =>
              simpa [advance, deed?, lookTake, stage, call, taken] using
                Advancing.sleptWaiting wake rest stage call taking
          | ended =>
              simpa [advance, deed?, lookTake, stage, call, taken] using
                Advancing.tookNothing _ rest stage call taking (by simp)
          | failed fault =>
              simpa [advance, deed?, lookTake, stage, call, taken] using
                Advancing.tookNothing _ rest stage call taking (by simp)
          | overflow =>
              simpa [advance, deed?, lookTake, stage, call, taken] using
                Advancing.tookNothing _ rest stage call taking (by simp)
  | asleep wake => simpa [advance, deed?, stage] using Advancing.woke wake stage

/-! ## What one small step leaves behind -/

/-- The calls that are over when a caller has proceeded. -/
def Advance.completion? (advance : Advance α) (id : Nat) (now : Instant) :
    Option (Completion α) :=
  match advance.next with
  | .inl _ => none
  | .inr outcome => some ⟨id, now, outcome⟩

namespace Crowd

variable (crowd : Crowd α)

@[simp] theorem buffer_notify (signal : Signal) :
    (crowd.notify signal).buffer = crowd.buffer := rfl

@[simp] theorem now_notify (signal : Signal) : (crowd.notify signal).now = crowd.now := rfl

@[simp] theorem completions_notify (signal : Signal) :
    (crowd.notify signal).completions = crowd.completions := rfl

/-- After a signal a caller is as before, but for the signal. -/
theorem mem_callers_notify {signal : Signal} {caller : Caller α} :
    caller ∈ (crowd.notify signal).callers ↔
      ∃ before ∈ crowd.callers,
        (if signal.concerns before then before.signal else before) = caller := by
  simp [notify]

@[simp] theorem buffer_apply (caller : Caller α) (advance : Advance α) :
    (crowd.apply caller advance).buffer = advance.buffer := by
  cases next : advance.next <;> simp [apply, next, replace, complete, without]

@[simp] theorem now_apply (caller : Caller α) (advance : Advance α) :
    (crowd.apply caller advance).now = crowd.now := by
  cases next : advance.next <;> simp [apply, next, replace, complete, without]

@[simp] theorem completions_apply (caller : Caller α) (advance : Advance α) :
    (crowd.apply caller advance).completions =
      crowd.completions ++ (advance.completion? caller.id crowd.now).toList := by
  cases next : advance.next <;>
    simp [apply, next, replace, complete, without, Advance.completion?]

/-- Whoever is in the crowd after a small step was there before or is the caller
that has proceeded; the signal of the step has reached both. -/
theorem mem_callers_apply
    {caller member : Caller α}
    {advance : Advance α}
    (mem : member ∈ (crowd.apply caller advance).callers) :
    ∃ before, (before ∈ crowd.callers ∨ advance.next = .inl before) ∧
      (if advance.signal.concerns before then before.signal else before) = member := by
  obtain ⟨before, beforeMem, signalled⟩ := (mem_callers_notify _).mp mem
  refine ⟨before, ?_, signalled⟩
  cases next : advance.next with
  | inl following =>
      simp only [next, replace, List.mem_map] at beforeMem
      obtain ⟨earlier, earlierMem, equal⟩ := beforeMem
      split at equal
      · exact Or.inr (by rw [equal])
      · exact Or.inl (equal ▸ earlierMem)
  | inr outcome =>
      simp only [next, complete, without, List.mem_filter] at beforeMem
      exact Or.inl beforeMem.1

/-- A small step is that of a caller who is there and can proceed. -/
theorem step?_cases (id : Nat) :
    (crowd.step? id = none ∧ crowd.deed? id = none) ∨
      ∃ caller ∈ crowd.callers, caller.canProceed crowd.now = true ∧
        crowd.step? id = some (crowd.apply caller (caller.advance crowd.buffer crowd.now)) ∧
        crowd.deed? id = caller.deed? crowd.buffer crowd.now := by
  cases found : crowd.callers.find? (·.id == id) with
  | none => exact Or.inl (by simp [step?, deed?, found])
  | some caller =>
      cases able : caller.canProceed crowd.now with
      | false => exact Or.inl (by simp [step?, deed?, found, able])
      | true =>
          exact Or.inr ⟨caller, List.mem_of_find?_eq_some found, able,
            by simp [step?, found, able], by simp [deed?, found, able]⟩

/-- A caller that can proceed does so at its step if nobody else goes by its number. -/
theorem step?_of_unique
    {caller : Caller α}
    (mem : caller ∈ crowd.callers)
    (unique : ∀ other ∈ crowd.callers, other.id = caller.id -> other = caller)
    (able : caller.canProceed crowd.now = true) :
    crowd.step? caller.id = some (crowd.apply caller (caller.advance crowd.buffer crowd.now)) ∧
      crowd.deed? caller.id = caller.deed? crowd.buffer crowd.now := by
  have found : crowd.callers.find? (·.id == caller.id) = some caller := by
    cases found : crowd.callers.find? (·.id == caller.id) with
    | none => simpa using List.find?_eq_none.mp found caller mem
    | some other =>
        have same : other.id = caller.id := by simpa using List.find?_some found
        rw [unique other (List.mem_of_find?_eq_some found) same]
  simp [step?, deed?, found, able]

end Crowd

namespace Session

/-- What every small step of a caller and everything from outside keeps, every
move keeps. -/
theorem act_induction
    {motive : Session α -> Prop}
    {session : Session α}
    (steps : ∀ caller ∈ session.crowd.callers,
      caller.canProceed session.crowd.now = true ->
      ∀ advance deed, caller.Advancing session.crowd.buffer session.crowd.now advance deed ->
      motive
        { session with
          crowd := session.crowd.apply caller advance
          history := session.history ++ deed.toList })
    (events : ∀ event calls,
      motive { session with crowd := session.crowd.react event, calls := calls })
    (still : motive session)
    (move : Move α) :
    motive (session.act move) := by
  cases move with
  | step id =>
      rcases session.crowd.step?_cases id with
        ⟨stepEq, deedEq⟩ | ⟨caller, mem, able, stepEq, deedEq⟩
      · simpa [act, stepEq, deedEq] using still
      · simp only [act, stepEq, deedEq]
        exact steps caller mem able _ _ (caller.advancing_advance _ _)
  | call call => exact events (.call session.calls call) (session.calls + 1)
  | abandon id => exact events (.abandon id) session.calls
  | hint => exact events .hint session.calls
  | close => exact events .close session.calls
  | fail fault => exact events (.fail fault) session.calls
  | pass duration => exact events (.pass duration) session.calls

end Session

end Buffer
end BlockFeed
