import BlockFeed.Proofs.Buffer.Session
import Mathlib.Data.List.DropRight

/-!
# Nothing is lost in a buffer

What takes have got, followed by the pending unit, is what puts have added, in
the order in which they added it. This ends with the report of a fault, which
drops the pending unit; nothing is got any more afterwards. While the buffer is
running, its unit and its flags are those of the puts since the last release.
-/

namespace BlockFeed
namespace Buffer

namespace Deed

/-- Whether blocks were added. -/
def isPut : Deed α -> Bool
  | .put _ _ _ => true
  | .release _ _ => false

/-- The blocks that were added. -/
def added : Deed α -> List α
  | .put _ blocks _ => blocks
  | .release _ _ => []

/-- The size of the blocks that were added. -/
def bytes : Deed α -> Nat
  | .put _ _ bytes => bytes
  | .release _ _ => 0

/-- The blocks that a take got. -/
def gotten : Deed α -> List α
  | .put _ _ _ => []
  | .release _ blocks => blocks

/-- The size of all blocks that were added. -/
def totalBytes : List (Deed α) -> Nat
  | [] => 0
  | deed :: rest => deed.bytes + totalBytes rest

theorem totalBytes_append (left right : List (Deed α)) :
    totalBytes (left ++ right) = totalBytes left + totalBytes right := by
  induction left with
  | nil => simp [totalBytes]
  | cons deed left inductionHypothesis =>
      simp only [List.cons_append, totalBytes, inductionHypothesis, Nat.add_assoc]

/-- The same size as a machine adds it up, in words of 64 bits. -/
def wordBytes (deeds : List (Deed α)) : UInt64 :=
  deeds.foldl (fun sum deed => sum + UInt64.ofNat deed.bytes) 0

theorem toNat_foldl_bytes (deeds : List (Deed α)) (sum : UInt64) :
    (deeds.foldl (fun sum deed => sum + UInt64.ofNat deed.bytes) sum).toNat =
      (sum.toNat + totalBytes deeds) % UInt64.size := by
  induction deeds generalizing sum with
  | nil => exact (Nat.mod_eq_of_lt sum.toNat_lt).symm
  | cons deed rest inductionHypothesis =>
      rw [List.foldl_cons, inductionHypothesis, totalBytes, UInt64.toNat_add,
        UInt64.toNat_ofNat', UInt64.size]
      omega

/-- Words of 64 bits hold a size that is small enough. -/
theorem toNat_wordBytes {deeds : List (Deed α)} (small : totalBytes deeds < UInt64.size) :
    (wordBytes deeds).toNat = totalBytes deeds := by
  rw [wordBytes, toNat_foldl_bytes, UInt64.toNat_zero, Nat.zero_add, Nat.mod_eq_of_lt small]

end Deed

/-- The blocks that a call got. -/
def Outcome.blocks : Outcome α -> List α
  | .took (.released blocks) => blocks
  | _ => []

/-- A call whose caller gets no blocks and learns of no fault. -/
def Outcome.IsSilent (outcome : Outcome α) : Prop :=
  outcome.blocks = [] ∧ ∀ fault, outcome ≠ .took (.failed fault)

namespace Crowd

/-- The blocks that takes have got, in the order in which the takes ended. -/
def received (crowd : Crowd α) : List α :=
  crowd.completions.flatMap fun completion => completion.outcome.blocks

/-- A take has reported a fault. -/
def HasReported (crowd : Crowd α) : Prop :=
  ∃ completion ∈ crowd.completions, ∃ fault, completion.outcome = .took (.failed fault)

theorem received_apply (crowd : Crowd α) (caller : Caller α) (advance : Advance α) :
    (crowd.apply caller advance).received =
      crowd.received ++
        (advance.completion? caller.id crowd.now).toList.flatMap fun completion =>
          completion.outcome.blocks := by
  simp [received]

theorem received_apply_of_silent
    (crowd : Crowd α)
    (caller : Caller α)
    {advance : Advance α}
    (silent : ∀ outcome, advance.next = .inr outcome -> outcome.IsSilent) :
    (crowd.apply caller advance).received = crowd.received := by
  cases next : advance.next with
  | inl following => simp [received_apply, Advance.completion?, next]
  | inr outcome =>
      simp [received_apply, Advance.completion?, next, (silent outcome next).1]

theorem hasReported_apply (crowd : Crowd α) (caller : Caller α) (advance : Advance α) :
    (crowd.apply caller advance).HasReported ↔
      crowd.HasReported ∨
        ∃ completion ∈ (advance.completion? caller.id crowd.now).toList,
          ∃ fault, completion.outcome = .took (.failed fault) := by
  simp only [HasReported, completions_apply, List.mem_append, or_and_right, exists_or]

theorem hasReported_apply_of_silent
    (crowd : Crowd α)
    (caller : Caller α)
    {advance : Advance α}
    (silent : ∀ outcome, advance.next = .inr outcome -> outcome.IsSilent) :
    (crowd.apply caller advance).HasReported ↔ crowd.HasReported := by
  cases next : advance.next with
  | inl following => simp [hasReported_apply, Advance.completion?, next]
  | inr outcome =>
      simp [hasReported_apply, Advance.completion?, next, (silent outcome next).2]

end Crowd

namespace Session

/-- The blocks that puts have added, in the order in which they did. -/
def appended (session : Session α) : List α :=
  session.history.flatMap Deed.added

/-- The puts that have added blocks since the last release. -/
def current (session : Session α) : List (Deed α) :=
  session.history.rtakeWhile Deed.isPut

/-- The unit and the flags of a buffer are those of a list of puts. -/
structure Holds (buffer : Buffer α) (puts : List (Deed α)) : Prop where
  blocks : buffer.pendingBlocks = puts.flatMap Deed.added
  bytes : buffer.pendingBytes = Deed.totalBytes puts
  pending : buffer.pending.isSome = !puts.isEmpty
  filled : buffer.filled = !puts.isEmpty
  lastPut : buffer.lastPut.isSome = !puts.isEmpty

/-- The invariant from which conservation follows. -/
structure Balanced (session : Session α) : Prop where
  gotten : session.crowd.received = session.history.flatMap Deed.gotten
  reported : session.crowd.HasReported ↔ session.crowd.buffer.phase = .failed none
  whole : session.crowd.buffer.phase ≠ .failed none ->
    session.crowd.received ++ session.crowd.buffer.pendingBlocks = session.appended
  rest : session.crowd.buffer.phase = .failed none ->
    session.crowd.received <+: session.appended ∧ session.crowd.buffer.pending = none
  unit : session.crowd.buffer.phase = .running ->
    Holds session.crowd.buffer session.current

namespace Balanced

variable {session next : Session α}

theorem create (config : Config) : Balanced (.create config : Session α) where
  gotten := rfl
  reported := by simp [Session.create, Crowd.create, Crowd.HasReported, Buffer.create]
  whole _ := rfl
  rest failed := by simp [Session.create, Crowd.create, Buffer.create] at failed
  unit _ := ⟨rfl, rfl, rfl, rfl, rfl⟩

/-- What neither adds nor gets blocks keeps the balance, unless a fault is
reported. -/
theorem keep
    (balanced : session.Balanced)
    (received : next.crowd.received = session.crowd.received)
    (history : next.history = session.history)
    (reported : next.crowd.HasReported ↔ session.crowd.HasReported)
    (pending : next.crowd.buffer.pending = session.crowd.buffer.pending)
    (filled : next.crowd.buffer.filled = session.crowd.buffer.filled)
    (lastPut : next.crowd.buffer.lastPut = session.crowd.buffer.lastPut)
    (failed : next.crowd.buffer.phase = .failed none ↔
      session.crowd.buffer.phase = .failed none)
    (running : next.crowd.buffer.phase = .running ->
      session.crowd.buffer.phase = .running) :
    next.Balanced where
  gotten := by rw [received, history, balanced.gotten]
  reported := by rw [reported, failed, balanced.reported]
  whole notFailed := by
    have before := balanced.whole (fun isFailed => notFailed (failed.mpr isFailed))
    simpa [received, appended, history, pendingBlocks, pending] using before
  rest isFailed := by
    have before := balanced.rest (failed.mp isFailed)
    simpa [received, appended, history, pending] using before
  unit isRunning := by
    have before := balanced.unit (running isRunning)
    have sameCurrent : next.current = session.current := by rw [current, current, history]
    exact
      { blocks := by rw [sameCurrent, ← before.blocks, pendingBlocks, pendingBlocks, pending]
        bytes := by rw [sameCurrent, ← before.bytes, pendingBytes, pendingBytes, pending]
        pending := by rw [sameCurrent, pending, before.pending]
        filled := by rw [sameCurrent, filled, before.filled]
        lastPut := by rw [sameCurrent, lastPut, before.lastPut] }

/-- A put into a running buffer keeps the balance. -/
theorem put
    {now : Instant} {id : Nat} {blocks : List α} {bytes : Nat}
    (balanced : session.Balanced)
    (running : session.crowd.buffer.phase = .running)
    (received : next.crowd.received = session.crowd.received)
    (history : next.history = session.history ++ [.put id blocks bytes])
    (reported : next.crowd.HasReported ↔ session.crowd.HasReported)
    (buffer : next.crowd.buffer = session.crowd.buffer.grown now blocks bytes) :
    next.Balanced where
  gotten := by simp [received, history, balanced.gotten, Deed.gotten]
  reported := by rw [reported, balanced.reported, buffer, phase_grown]
  whole _ := by
    have before := balanced.whole (by simp [running])
    rw [received, buffer, pendingBlocks_grown, ← List.append_assoc, before]
    simp [appended, history, Deed.added]
  rest isFailed := by simp [buffer, running] at isFailed
  unit _ := by
    have before := balanced.unit running
    have currentEq : next.current = session.current ++ [.put id blocks bytes] := by
      rw [current, history, List.rtakeWhile_concat_pos _ _ _ rfl, current]
    exact
      { blocks := by simp [currentEq, buffer, before.blocks, Deed.added]
        bytes := by
          simp [currentEq, buffer, before.bytes, Deed.totalBytes_append, Deed.totalBytes,
            Deed.bytes]
        pending := by simp [currentEq, buffer, grown]
        filled := by simp [currentEq, buffer, grown]
        lastPut := by simp [currentEq, buffer, grown] }

/-- A take that gets the whole unit keeps the balance. -/
theorem release
    {id : Nat}
    (balanced : session.Balanced)
    (notFailed : session.crowd.buffer.phase ≠ .failed none)
    (received : next.crowd.received =
      session.crowd.received ++ session.crowd.buffer.pendingBlocks)
    (history : next.history =
      session.history ++ [.release id session.crowd.buffer.pendingBlocks])
    (reported : next.crowd.HasReported ↔ session.crowd.HasReported)
    (phase : next.crowd.buffer.phase = session.crowd.buffer.phase)
    (pending : next.crowd.buffer.pending = none)
    (flags : next.crowd.buffer.phase = .running ->
      next.crowd.buffer.filled = false ∧ next.crowd.buffer.lastPut = none) :
    next.Balanced where
  gotten := by simp [received, history, balanced.gotten, Deed.gotten]
  reported := by rw [reported, balanced.reported, phase]
  whole _ := by
    have before := balanced.whole notFailed
    rw [received, before, pendingBlocks_of_none pending]
    simp [appended, history, Deed.added]
  rest isFailed := absurd (phase ▸ isFailed) notFailed
  unit isRunning := by
    obtain ⟨notFilled, noLastPut⟩ := flags isRunning
    have currentEq : next.current = [] := by
      rw [current, history, List.rtakeWhile_concat_neg _ _ _ (by simp [Deed.isPut])]
    exact
      { blocks := by rw [currentEq, pendingBlocks_of_none pending]; rfl
        bytes := by rw [currentEq, pendingBytes, pending]; rfl
        pending := by rw [currentEq, pending]; rfl
        filled := by rw [currentEq, notFilled]; rfl
        lastPut := by rw [currentEq, noLastPut]; rfl }

/-- The report of a fault drops the pending unit. -/
theorem report
    {fault : Fault}
    (balanced : session.Balanced)
    (failed : session.crowd.buffer.phase = .failed (some fault))
    (received : next.crowd.received = session.crowd.received)
    (history : next.history = session.history)
    (reported : next.crowd.HasReported)
    (phase : next.crowd.buffer.phase = .failed none)
    (pending : next.crowd.buffer.pending = none) :
    next.Balanced where
  gotten := by rw [received, history, balanced.gotten]
  reported := ⟨fun _ => phase, fun _ => reported⟩
  whole notFailed := absurd phase notFailed
  rest _ := by
    have before := balanced.whole (by simp [failed])
    refine ⟨?_, pending⟩
    rw [received, appended, history, ← appended, ← before]
    exact List.prefix_append _ _
  unit isRunning := by simp [phase] at isRunning

/-- A small step that leaves the buffer's unit, flags and phase alone, and whose
caller gets nothing, keeps the balance. -/
theorem apply_of_silent
    {caller : Caller α} {advance : Advance α}
    (balanced : session.Balanced)
    (silent : ∀ outcome, advance.next = .inr outcome -> outcome.IsSilent)
    (pending : advance.buffer.pending = session.crowd.buffer.pending)
    (filled : advance.buffer.filled = session.crowd.buffer.filled)
    (lastPut : advance.buffer.lastPut = session.crowd.buffer.lastPut)
    (phase : advance.buffer.phase = session.crowd.buffer.phase) :
    Balanced { session with crowd := session.crowd.apply caller advance } :=
  balanced.keep
    (Crowd.received_apply_of_silent _ _ silent) rfl
    (Crowd.hasReported_apply_of_silent _ _ silent)
    (by simpa using pending) (by simpa using filled) (by simpa using lastPut)
    (by simp [phase]) (by simp [phase])

/-- A take that gets blocks keeps the balance. -/
theorem advance_took
    {caller : Caller α} {blocks : List α} {rest : Buffer α} {signal : Signal}
    (balanced : session.Balanced)
    (taking : Taking session.crowd.buffer session.crowd.now caller.deadline
      (.released blocks) rest) :
    Balanced
      { session with
        crowd := session.crowd.apply caller ⟨rest, signal, .inr (.took (.released blocks))⟩
        history := session.history ++ [.release caller.id blocks] } := by
  have received := session.crowd.received_apply caller
    ⟨rest, signal, .inr (.took (.released blocks))⟩
  have reported := session.crowd.hasReported_apply caller
    ⟨rest, signal, .inr (.took (.released blocks))⟩
  simp only [Advance.completion?, Option.toList_some, List.flatMap_cons, List.flatMap_nil,
    List.append_nil, Outcome.blocks] at received
  simp only [Advance.completion?, Option.toList_some, List.mem_singleton, exists_eq_left,
    Outcome.took.injEq, reduceCtorEq, exists_false, or_false] at reported
  cases taking with
  | remainder unit closed pending =>
      have unitBlocks := pendingBlocks_of_pending pending
      exact balanced.release (by simp [closed])
        (by rw [received, unitBlocks]) (by rw [unitBlocks]) reported
        (by simp) (by simp) (by simp [closed])
  | release unit idle running pending _ _ =>
      have unitBlocks := pendingBlocks_of_pending pending
      exact balanced.release (by simp [running])
        (by rw [received, unitBlocks]) (by rw [unitBlocks]) reported
        (by simp [drained]) (by simp [drained]) (by simp [drained])

/-- A take that ends without blocks keeps the balance. -/
theorem advance_tookNothing
    {caller : Caller α} {result : Take α} {rest : Buffer α} {signal : Signal}
    (balanced : session.Balanced)
    (taking : Taking session.crowd.buffer session.crowd.now caller.deadline result rest)
    (noBlocks : ∀ blocks, result ≠ .released blocks) :
    Balanced
      { session with
        crowd := session.crowd.apply caller ⟨rest, signal, .inr (.took result)⟩ } := by
  cases taking with
  | reported fault failed =>
      exact balanced.report failed
        (by simp [Crowd.received_apply, Advance.completion?, Outcome.blocks]) rfl
        (by simp [Crowd.hasReported_apply, Advance.completion?]) (by simp) (by simp)
  | silent failed =>
      exact balanced.apply_of_silent (by simp [Outcome.IsSilent, Outcome.blocks])
        (balanced.rest failed).2.symm rfl rfl failed.symm
  | ended closed pending =>
      exact balanced.apply_of_silent (by simp [Outcome.IsSilent, Outcome.blocks])
        pending.symm rfl rfl rfl
  | overflow =>
      exact balanced.apply_of_silent (by simp [Outcome.IsSilent, Outcome.blocks])
        rfl rfl rfl rfl
  | waiting =>
      exact balanced.apply_of_silent (by simp [Outcome.IsSilent, Outcome.blocks])
        rfl rfl rfl rfl
  | remainder unit => exact absurd rfl (noBlocks unit.blocks)
  | release unit => exact absurd rfl (noBlocks unit.blocks)

/-- Every small step keeps the balance. -/
theorem advance
    {caller : Caller α} {advance : Advance α} {deed : Option (Deed α)}
    (balanced : session.Balanced)
    (advancing : caller.Advancing session.crowd.buffer session.crowd.now advance deed) :
    Balanced
      { session with
        crowd := session.crowd.apply caller advance
        history := session.history ++ deed.toList } := by
  have silentPut : (Outcome.put : Outcome α).IsSilent := ⟨rfl, by simp⟩
  cases advancing with
  | joined blocks bytes _ _ running _ =>
      exact balanced.put running
        (Crowd.received_apply_of_silent _ _ (by simpa using silentPut)) rfl
        (Crowd.hasReported_apply_of_silent _ _ (by simpa using silentPut))
        (Crowd.buffer_apply _ _ _)
  | heldBack blocks bytes _ _ running _ =>
      exact balanced.put running
        (Crowd.received_apply_of_silent _ _ (by simp)) rfl
        (Crowd.hasReported_apply_of_silent _ _ (by simp))
        (Crowd.buffer_apply _ _ _)
  | discarded =>
      simpa using balanced.apply_of_silent (by simpa using silentPut) rfl rfl rfl rfl
  | began => simpa using balanced.apply_of_silent (by simp) rfl rfl rfl rfl
  | overflowed =>
      simpa using balanced.apply_of_silent (by simp [Outcome.IsSilent, Outcome.blocks])
        rfl rfl rfl rfl
  | listened => simpa using balanced.apply_of_silent (by simp) rfl rfl rfl rfl
  | admitted =>
      simpa using balanced.apply_of_silent (by simpa using silentPut) rfl rfl rfl rfl
  | sleptHeld => simpa using balanced.apply_of_silent (by simp) rfl rfl rfl rfl
  | sleptWaiting wake rest _ _ taking =>
      cases taking with
      | waiting => simpa using balanced.apply_of_silent (by simp) rfl rfl rfl rfl
  | woke => simpa using balanced.apply_of_silent (by simp) rfl rfl rfl rfl
  | took blocks rest _ _ taking => exact balanced.advance_took taking
  | tookNothing result rest _ _ taking noBlocks =>
      simpa using balanced.advance_tookNothing taking noBlocks

/-- The end of a running buffer keeps the balance. -/
theorem ended
    {phase : Phase}
    (balanced : session.Balanced)
    (running : session.crowd.buffer.phase = .running)
    (notReported : phase ≠ .failed none)
    (completions : next.crowd.completions = session.crowd.completions)
    (history : next.history = session.history)
    (buffer : next.crowd.buffer = { session.crowd.buffer with phase := phase }) :
    next.Balanced := by
  refine balanced.keep ?_ history ?_ ?_ ?_ ?_ ?_ ?_
  · rw [Crowd.received, completions, Crowd.received]
  · rw [Crowd.HasReported, completions, Crowd.HasReported]
  · rw [buffer]
  · rw [buffer]
  · rw [buffer]
  · simp [buffer, running, notReported]
  · intro isRunning
    exact running

/-- Whatever happens outside keeps the balance. -/
theorem react
    (balanced : session.Balanced)
    (event : Crowd.Event α)
    (calls : Nat) :
    Balanced { session with crowd := session.crowd.react event, calls := calls } := by
  have unchanged (running : session.crowd.buffer.phase = .running) :
      session.crowd.buffer.phase = .running := running
  cases event with
  | call id call => exact balanced.keep rfl rfl Iff.rfl rfl rfl rfl Iff.rfl unchanged
  | abandon id => exact balanced.keep rfl rfl Iff.rfl rfl rfl rfl Iff.rfl unchanged
  | hint => exact balanced.keep rfl rfl Iff.rfl rfl rfl rfl Iff.rfl unchanged
  | pass duration => exact balanced.keep rfl rfl Iff.rfl rfl rfl rfl Iff.rfl unchanged
  | close =>
      by_cases running : session.crowd.buffer.phase = .running
      · exact balanced.ended running (by simp) rfl rfl
          (close_of_running running)
      · have same : session.crowd.buffer.close = session.crowd.buffer :=
          close_of_ended running
        exact balanced.keep rfl rfl Iff.rfl (congrArg Buffer.pending same)
          (congrArg Buffer.filled same) (congrArg Buffer.lastPut same)
          (by simp [Crowd.react, same]) (by simp [Crowd.react, same])
  | fail fault =>
      by_cases running : session.crowd.buffer.phase = .running
      · exact balanced.ended running (endedBy_ne_reported fault) rfl rfl
          (fail_of_running running fault)
      · have same : session.crowd.buffer.fail fault = session.crowd.buffer :=
          fail_of_ended running fault
        exact balanced.keep rfl rfl Iff.rfl (congrArg Buffer.pending same)
          (congrArg Buffer.filled same) (congrArg Buffer.lastPut same)
          (by simp [Crowd.react, same]) (by simp [Crowd.react, same])

/-- Every run keeps the balance. -/
theorem run (balanced : session.Balanced) (moves : List (Move α)) :
    (session.run moves).Balanced := by
  refine run_induction (fun current move currentBalanced => ?_) balanced moves
  refine act_induction ?_ currentBalanced.react currentBalanced move
  intro caller _ _ step deed advancing
  exact currentBalanced.advance advancing

end Balanced

/-! ## After the report of a fault -/

/-- A caller that proceeds after the report of a fault gets nothing, and the
report is not undone. -/
theorem silent_of_advancing
    {caller : Caller α} {buffer : Buffer α} {now : Instant}
    {advance : Advance α} {deed : Option (Deed α)}
    (advancing : caller.Advancing buffer now advance deed)
    (reported : buffer.phase = .failed none) :
    advance.buffer.phase = .failed none ∧
      ∀ outcome, advance.next = .inr outcome -> outcome.IsSilent := by
  cases advancing with
  | joined _ _ _ _ running => simp [reported] at running
  | heldBack _ _ _ _ running => simp [reported] at running
  | sleptWaiting wake rest _ _ taking =>
      cases taking with
      | waiting idle running => simp [reported] at running
  | took blocks rest _ _ taking =>
      cases taking with
      | remainder unit closed => simp [reported] at closed
      | release unit idle running => simp [reported] at running
  | tookNothing result rest _ _ taking noBlocks =>
      cases taking with
      | reported fault failed => simp [reported] at failed
      | silent => simp [Outcome.IsSilent, Outcome.blocks]
      | remainder unit => exact absurd rfl (noBlocks unit.blocks)
      | ended closed => simp [reported] at closed
      | overflow problem running => simp [reported] at running
      | release unit => exact absurd rfl (noBlocks unit.blocks)
      | waiting idle running => simp [reported] at running
  | _ => simp [reported, Outcome.IsSilent, Outcome.blocks]

/-- No move undoes the report of a fault, and nobody gets anything. -/
theorem act_of_reported
    {session : Session α}
    (reported : session.crowd.buffer.phase = .failed none)
    (move : Move α) :
    (session.act move).crowd.buffer.phase = .failed none ∧
      (session.act move).crowd.received = session.crowd.received := by
  refine act_induction
    (motive := fun next => next.crowd.buffer.phase = .failed none ∧
      next.crowd.received = session.crowd.received) ?_ ?_ ⟨reported, rfl⟩ move
  · intro caller _ _ advance deed advancing
    obtain ⟨still, silent⟩ := silent_of_advancing advancing reported
    exact ⟨by simpa using still, Crowd.received_apply_of_silent _ _ silent⟩
  · intro event calls
    have ended : session.crowd.buffer.phase ≠ .running := by simp [reported]
    refine ⟨?_, by cases event <;> rfl⟩
    cases event with
    | close => simpa [Crowd.react, close_of_ended ended] using reported
    | fail fault => simpa [Crowd.react, fail_of_ended ended] using reported
    | _ => exact reported

/-- Nothing is got any more after the report of a fault. -/
theorem received_run_of_reported
    {session : Session α}
    (reported : session.crowd.buffer.phase = .failed none)
    (moves : List (Move α)) :
    (session.run moves).crowd.received = session.crowd.received := by
  induction moves generalizing session with
  | nil => rfl
  | cons move rest inductionHypothesis =>
      obtain ⟨still, same⟩ := act_of_reported reported move
      rw [run_cons, inductionHypothesis still, same]

/-! ## Conservation -/

/-- What takes have got is what their calls were given. It is followed by the
pending unit in the sequence of all blocks that were added, until a take reports
a fault: then the unit is gone, and nothing is got any more. The unit of a
running buffer, its size and its flags are those of the puts since the last
release. Below `2 ^ 64` this is also the size that is added up in words of 64 bits. -/
theorem session_conserves_blocks (config : Config) (moves : List (Move α)) :
    let session := (create config : Session α).run moves
    session.crowd.received = session.history.flatMap Deed.gotten ∧
      (¬session.crowd.HasReported ->
        session.crowd.received ++ session.crowd.buffer.pendingBlocks =
          session.appended) ∧
      (session.crowd.HasReported ->
        session.crowd.received <+: session.appended ∧
          session.crowd.buffer.pending = none ∧
          ∀ more, (session.run more).crowd.received = session.crowd.received) ∧
      (session.crowd.buffer.phase = .running ->
        Holds session.crowd.buffer session.current ∧
          (session.crowd.buffer.pendingBytes < UInt64.size ->
            (Deed.wordBytes session.current).toNat = session.crowd.buffer.pendingBytes)) := by
  intro session
  have balanced : session.Balanced := (Balanced.create config).run moves
  refine ⟨balanced.gotten, ?_, ?_, ?_⟩
  · intro notReported
    exact balanced.whole fun failed => notReported (balanced.reported.mpr failed)
  · intro hasReported
    have failed := balanced.reported.mp hasReported
    obtain ⟨initialPart, noUnit⟩ := balanced.rest failed
    exact ⟨initialPart, noUnit, received_run_of_reported failed⟩
  · intro running
    have holds := balanced.unit running
    refine ⟨holds, fun small => ?_⟩
    rw [holds.bytes] at small ⊢
    exact Deed.toNat_wordBytes small

end Session
end Buffer
end BlockFeed
