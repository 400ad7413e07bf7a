import BlockFeed.Proofs.Buffer.Wakefulness

/-!
# What can be told of the pending unit

Whoever sees what is put, hinted and released can tell the pending unit without
looking at the buffer's flags: the tally holds its blocks, their size, whether a
hint came since the first of them and when the last ones were put.

A buffer whose unit is the one that a tally tells of may know that a release is
due for one of four reasons: the size, a hint, a consumer that has waited long
enough and is still there, or a timer that lies beyond the end of the clock. Small
steps keep such a reason as long as they leave behind what it consists in.
-/

namespace BlockFeed
namespace Buffer

/-- The pending unit as it can be told from what was put, hinted and released. -/
structure Tally (α : Type) where
  blocks : List α
  bytes : Nat
  /-- Whether a hint came since the unit came into being. -/
  hinted : Bool
  /-- When blocks were put last. -/
  latest : Instant

namespace Tally

/-- The tally after a put. -/
def put (tally : Option (Tally α)) (now : Instant) (blocks : List α) (bytes : Nat) :
    Tally α :=
  match tally with
  | none => ⟨blocks, bytes, false, now⟩
  | some earlier =>
      ⟨earlier.blocks ++ blocks, earlier.bytes + bytes, earlier.hinted, now⟩

/-- The tally after something went into the buffer or came out of it. -/
def after (tally : Option (Tally α)) (now : Instant) :
    Option (Deed α) -> Option (Tally α)
  | some (.put _ blocks bytes) => some (put tally now blocks bytes)
  | some (.release _ _) => none
  | none => tally

/-- The tally after a hint. -/
def hint (tally : Option (Tally α)) : Option (Tally α) :=
  tally.map fun earlier => { earlier with hinted := true }

/-- The unit. -/
def unit (tally : Tally α) : Pending α := ⟨tally.blocks, tally.bytes⟩

/-- A release is due without regard to the time. -/
def IsReady (tally : Tally α) (config : Config) : Prop :=
  config.least ≤ tally.bytes ∨ tally.hinted = true

/-- A release is due at an instant, for a consumer who began to wait at another. -/
def IsDue (tally : Tally α) (config : Config) (began now : Instant) : Prop :=
  tally.IsReady config ∨
    (∃ patience, config.patience = some patience ∧ began + patience ≤ now) ∨
    (∃ idle, config.idle = some idle ∧ tally.latest + idle ≤ now)

end Tally

/-- A session with the tally of its unit. -/
structure Observed (α : Type) where
  session : Session α
  tally : Option (Tally α)

namespace Observed

/-- A new buffer. -/
def create (config : Config) : Observed α := ⟨.create config, none⟩

/-- The time. -/
def now (observed : Observed α) : Instant := observed.session.crowd.now

/-- The buffer. -/
def buffer (observed : Observed α) : Buffer α := observed.session.crowd.buffer

/-- The tally after a move. -/
def tallyAfter (observed : Observed α) : Move α -> Option (Tally α)
  | .hint => Tally.hint observed.tally
  | .step id => Tally.after observed.tally observed.now (observed.session.crowd.deed? id)
  | _ => observed.tally

/-- The session and its tally after a move. -/
def act (observed : Observed α) (move : Move α) : Observed α :=
  ⟨observed.session.act move, observed.tallyAfter move⟩

/-- The session and its tally after a list of moves. -/
def run (observed : Observed α) (moves : List (Move α)) : Observed α :=
  moves.foldl act observed

@[simp] theorem run_nil (observed : Observed α) : observed.run [] = observed := rfl

@[simp] theorem run_cons (observed : Observed α) (move : Move α) (rest : List (Move α)) :
    observed.run (move :: rest) = (observed.act move).run rest := rfl

@[simp] theorem run_append (observed : Observed α) (left right : List (Move α)) :
    observed.run (left ++ right) = (observed.run left).run right := by
  simp [run]

@[simp] theorem session_run (observed : Observed α) (moves : List (Move α)) :
    (observed.run moves).session = observed.session.run moves := by
  induction moves generalizing observed with
  | nil => rfl
  | cons move rest inductionHypothesis => exact inductionHypothesis (observed.act move)

end Observed

/-! ## Who is in a crowd after a small step -/

namespace Caller.Advancing

variable {caller following : Caller α} {buffer : Buffer α} {now : Instant}
  {advance : Advance α} {deed : Option (Deed α)}

/-- A caller that goes on is the same caller with the same call, and it never
arrives again. -/
theorem identity
    (advancing : caller.Advancing buffer now advance deed)
    (next : advance.next = .inl following) :
    following.id = caller.id ∧ following.call = caller.call ∧ following.stage ≠ .arriving := by
  cases advancing with
  | joined => simp at next
  | discarded => simp at next
  | overflowed => simp at next
  | admitted => simp at next
  | took => simp at next
  | tookNothing => simp at next
  | _ =>
      cases next
      exact ⟨rfl, rfl, by simp [goTo]⟩

/-- A caller that goes on keeps its deadline, once it has one. -/
theorem deadline
    (advancing : caller.Advancing buffer now advance deed)
    (arrived : caller.stage ≠ .arriving)
    (next : advance.next = .inl following) :
    following.deadline = caller.deadline := by
  cases advancing with
  | joined => simp at next
  | discarded => simp at next
  | overflowed => simp at next
  | admitted => simp at next
  | took => simp at next
  | tookNothing => simp at next
  | began _ arriving => exact absurd arriving arrived
  | _ =>
      cases next
      rfl

end Caller.Advancing

/-- No take is over because nothing is due yet. -/
theorem Caller.advance_ne_waiting
    (caller : Caller α) (buffer : Buffer α) (now : Instant) (wake : Option Instant) :
    (caller.advance buffer now).next ≠ .inr (.took (.waiting wake)) := by
  cases stage : caller.stage with
  | arriving =>
      cases call : caller.call with
      | put blocks bytes =>
          simp only [advance, stage, call, beginPut]
          split <;> simp
      | take =>
          simp only [advance, stage, call, beginTake]
          split <;> simp
  | turning => simp [advance, stage]
  | looking =>
      cases call : caller.call with
      | put blocks bytes =>
          simp only [advance, stage, call, lookPut]
          split <;> simp
      | take =>
          simp only [advance, stage, call, lookTake]
          split <;> simp
  | asleep alarm => simp [advance, stage]

section signal

variable (caller : Caller α) (heard : Prop) [Decidable heard]

@[simp] theorem Caller.id_signal_if :
    (if heard then caller.signal else caller).id = caller.id := by
  split <;> rfl

@[simp] theorem Caller.call_signal_if :
    (if heard then caller.signal else caller).call = caller.call := by
  split <;> rfl

@[simp] theorem Caller.isTake_signal_if :
    (if heard then caller.signal else caller).isTake = caller.isTake := by
  split <;> rfl

@[simp] theorem Caller.stage_signal_if :
    (if heard then caller.signal else caller).stage = caller.stage := by
  split <;> rfl

@[simp] theorem Caller.deadline_signal_if :
    (if heard then caller.signal else caller).deadline = caller.deadline := by
  split <;> rfl

end signal

namespace Crowd

variable (crowd : Crowd α)

@[simp] theorem ids_notify (signal : Signal) :
    (crowd.notify signal).callers.map (·.id) = crowd.callers.map (·.id) := by
  simp only [notify, List.map_map]
  refine List.map_congr_left fun caller _ => ?_
  simp only [Function.comp_apply]
  split <;> rfl

/-- A small step brings nobody new into the crowd. -/
theorem ids_apply (caller : Caller α) (advance : Advance α) :
    ((crowd.apply caller advance).callers.map (·.id)).Sublist
      (crowd.callers.map (·.id)) := by
  cases next : advance.next with
  | inl following =>
      simp only [apply, next, ids_notify, replace, List.map_map]
      have same : ∀ member ∈ crowd.callers,
          ((fun caller : Caller α => caller.id) ∘
            fun caller => if caller.id == following.id then following else caller) member =
              member.id := by
        intro member _
        by_cases isThis : member.id = following.id <;> simp [isThis]
      rw [List.map_congr_left same]
  | inr outcome =>
      simp only [apply, next, ids_notify, complete, without]
      exact List.filter_sublist.map _

/-- Whoever is in the crowd after a small step was there before with the same
call. -/
theorem origin_of_mem_apply
    {caller member : Caller α} {advance : Advance α}
    (mem : caller ∈ crowd.callers)
    (identity : ∀ following, advance.next = .inl following ->
      following.id = caller.id ∧ following.call = caller.call)
    (memAfter : member ∈ (crowd.apply caller advance).callers) :
    ∃ before ∈ crowd.callers, before.id = member.id ∧ before.call = member.call := by
  obtain ⟨before, origin, signalled⟩ := crowd.mem_callers_apply memAfter
  have sameId : before.id = member.id := by rw [← signalled, Caller.id_signal_if]
  have sameCall : before.call = member.call := by rw [← signalled, Caller.call_signal_if]
  rcases origin with wasThere | proceeded
  · exact ⟨before, wasThere, sameId, sameCall⟩
  · obtain ⟨id, call⟩ := identity before proceeded
    exact ⟨caller, mem, id.symm.trans sameId, call.symm.trans sameCall⟩

/-- Those who do not proceed are still there after a small step of another. -/
theorem mem_apply_of_other
    {caller member : Caller α} {advance : Advance α}
    (mem : member ∈ crowd.callers)
    (other : member.id ≠ caller.id)
    (identity : ∀ following, advance.next = .inl following -> following.id = caller.id) :
    (if advance.signal.concerns member then member.signal else member) ∈
      (crowd.apply caller advance).callers := by
  refine (mem_callers_notify _).mpr ⟨member, ?_, rfl⟩
  cases next : advance.next with
  | inl following =>
      have notThis : member.id ≠ following.id := identity following next ▸ other
      simp only [replace, List.mem_map]
      exact ⟨member, mem, by simp [notThis]⟩
  | inr outcome =>
      simp only [complete, without, List.mem_filter]
      exact ⟨mem, by simp [other]⟩

/-- A caller that goes on is still there. -/
theorem mem_apply_of_next
    {caller following : Caller α} {advance : Advance α}
    (mem : caller ∈ crowd.callers)
    (next : advance.next = .inl following)
    (identity : following.id = caller.id) :
    (if advance.signal.concerns following then following.signal else following) ∈
      (crowd.apply caller advance).callers := by
  refine (mem_callers_notify _).mpr ⟨following, ?_, rfl⟩
  simp only [next, replace, List.mem_map]
  exact ⟨caller, mem, by simp [identity]⟩

end Crowd

/-! ## Agreement of the buffer and the tally -/

/-- The unit of a buffer is the one that a tally tells of. -/
structure ToldBy (buffer : Buffer α) (tally : Option (Tally α)) (now : Instant) : Prop where
  pending : buffer.pending = tally.map Tally.unit
  filled : buffer.filled = tally.isSome
  lastPut : buffer.lastPut = tally.map Tally.latest
  ready : ∀ told, tally = some told -> told.IsReady buffer.config -> buffer.due = true
  past : ∀ told, tally = some told -> told.latest ≤ now

/-- Why a buffer knows that a release is due: the unit is ready, a consumer has
waited long enough, or nobody can tell when the unit will have been idle long
enough. -/
def Cause
    (buffer : Buffer α)
    (tally : Option (Tally α))
    (callers : List (Caller α))
    (now : Instant) : Prop :=
  (∃ told, tally = some told ∧ told.IsReady buffer.config) ∨
    (∃ taker ∈ callers, taker.isTake = true ∧ taker.stage ≠ .arriving ∧
      Instant.reached now taker.deadline = true) ∨
    ∃ problem, buffer.idleDeadline = .error problem

/-- A hint says nothing about an empty buffer. -/
theorem hint_of_empty {buffer : Buffer α} (empty : buffer.pending.isSome = false) :
    buffer.hint = buffer := by
  simp [hint, empty]

section told

variable {buffer : Buffer α} {tally : Option (Tally α)} {before now : Instant}

namespace ToldBy

theorem agree (toldBy : buffer.ToldBy tally now) :
    buffer.filled = buffer.pending.isSome := by
  rw [toldBy.filled, toldBy.pending, Option.isSome_map]

theorem pendingBytes (toldBy : buffer.ToldBy tally now) :
    buffer.pendingBytes = (tally.map Tally.bytes).getD 0 := by
  rw [Buffer.pendingBytes, toldBy.pending]
  cases tally <;> rfl

/-- The size of a unit after a put. -/
theorem bytes_put (toldBy : buffer.ToldBy tally now) (blocks : List α) (bytes : Nat) :
    (Tally.put tally now blocks bytes).bytes = buffer.pendingBytes + bytes := by
  rw [toldBy.pendingBytes]
  cases tally <;> simp [Tally.put]

/-- The deadline of a unit is counted from its last put. -/
theorem idleDeadline {told : Tally α} (toldBy : buffer.ToldBy (some told) now) :
    buffer.idleDeadline = Instant.expiry told.latest buffer.config.idle := by
  rw [Buffer.idleDeadline, toldBy.pending, toldBy.lastPut]
  rfl

theorem later (toldBy : buffer.ToldBy tally before) (passed : before ≤ now) :
    buffer.ToldBy tally now :=
  { toldBy with past := fun told isTold => Nat.le_trans (toldBy.past told isTold) passed }

theorem grown
    (toldBy : buffer.ToldBy tally now)
    (blocks : List α)
    (bytes : Nat) :
    (buffer.grown now blocks bytes).ToldBy (some (.put tally now blocks bytes)) now where
  pending := by
    simp only [Buffer.grown, Buffer.extended, Buffer.pendingBlocks, Buffer.pendingBytes,
      toldBy.pending]
    cases tally <;> simp [Tally.put, Tally.unit]
  filled := rfl
  lastPut := by cases tally <;> rfl
  ready := by
    rintro told isTold (reached | hinted)
    · rw [← Option.some.inj isTold, toldBy.bytes_put] at reached
      have reachedNow : buffer.config.least ≤ buffer.pendingBytes + bytes := reached
      simp [Buffer.grown, reachedNow]
    · rw [← Option.some.inj isTold] at hinted
      cases tally with
      | none => cases hinted
      | some earlier =>
          have due := toldBy.ready earlier rfl (.inr hinted)
          simp [Buffer.grown, due]
  past := by
    intro told isTold
    rw [← Option.some.inj isTold]
    cases tally <;> exact Nat.le_refl _

theorem drained : buffer.drained.ToldBy none now :=
  ⟨rfl, rfl, rfl, nofun, nofun⟩

theorem noticed (toldBy : buffer.ToldBy tally now) (deadline idle : Option Instant) :
    (buffer.noticed now deadline idle).ToldBy tally now :=
  { toldBy with
    ready := fun told isTold ready => by
      simp [Buffer.noticed, toldBy.ready told isTold ready] }

theorem hint (toldBy : buffer.ToldBy tally now) : buffer.hint.ToldBy (Tally.hint tally) now := by
  cases tally with
  | none =>
      have nothing : buffer.pending.isSome = false := by rw [toldBy.pending]; rfl
      rw [hint_of_empty nothing]
      exact toldBy
  | some earlier =>
      exact
        { pending := toldBy.pending
          filled := toldBy.filled
          lastPut := toldBy.lastPut
          ready := fun _ _ _ => by simp [Buffer.hint, toldBy.pending]
          past := fun told isTold => by
            rw [← Option.some.inj isTold]
            exact toldBy.past earlier rfl }

/-- Beyond the end of the clock, a unit stays there as long as it grows. -/
theorem idleDeadline_grown
    (toldBy : buffer.ToldBy tally now)
    {problem : Instant.Unrepresentable}
    (beyond : buffer.idleDeadline = .error problem)
    (blocks : List α)
    (bytes : Nat) :
    ∃ problem, (buffer.grown now blocks bytes).idleDeadline = .error problem := by
  cases tally with
  | none => simp [Buffer.idleDeadline, toldBy.pending] at beyond
  | some told =>
      rw [toldBy.idleDeadline] at beyond
      have past := toldBy.past told rfl
      simp only [Buffer.idleDeadline, Buffer.grown]
      cases idle : buffer.config.idle with
      | none => simp [idle] at beyond
      | some duration =>
          simp only [Instant.expiry, idle] at beyond ⊢
          split at beyond
          · cases beyond
          · next notBefore =>
              have stillNotBefore : ¬now + duration < Instant.horizon := fun before =>
                notBefore (Nat.lt_of_le_of_lt (Nat.add_le_add_right past duration) before)
              exact ⟨_, if_neg stillNotBefore⟩

end ToldBy

/-- A cause is still there if what it consists in is. -/
theorem Cause.after
    {buffer later : Buffer α} {tally laterTally : Option (Tally α)}
    {callers laterCallers : List (Caller α)} {now laterNow : Instant}
    (cause : Cause buffer tally callers now)
    (ready : ∀ told, tally = some told -> told.IsReady buffer.config ->
      ∃ laterTold, laterTally = some laterTold ∧ laterTold.IsReady later.config)
    (takers : ∀ taker ∈ callers, taker.isTake = true -> taker.stage ≠ .arriving ->
      ∃ laterTaker ∈ laterCallers, laterTaker.isTake = true ∧ laterTaker.stage ≠ .arriving ∧
        laterTaker.deadline = taker.deadline)
    (passed : now ≤ laterNow)
    (idle : ∀ problem, buffer.idleDeadline = .error problem ->
      ∃ problem, later.idleDeadline = .error problem) :
    Cause later laterTally laterCallers laterNow := by
  rcases cause with ⟨told, isTold, isReady⟩ | ⟨taker, mem, isTake, arrived, reached⟩ | beyond
  · exact .inl (ready told isTold isReady)
  · obtain ⟨laterTaker, laterMem, stillTake, stillArrived, deadline⟩ :=
      takers taker mem isTake arrived
    refine .inr (.inl ⟨laterTaker, laterMem, stillTake, stillArrived, ?_⟩)
    rw [deadline]
    cases isDeadline : taker.deadline with
    | none => simp [isDeadline] at reached
    | some instant =>
        simp only [isDeadline, Instant.reached_some, decide_eq_true_eq] at reached ⊢
        exact Nat.le_trans reached passed
  · obtain ⟨problem, isBeyond⟩ := beyond
    exact .inr (.inr (idle problem isBeyond))

/-- A unit that is ready stays so when blocks are put. -/
theorem Tally.IsReady.put
    {told : Tally α} {config : Config}
    (ready : told.IsReady config)
    (now : Instant)
    (blocks : List α)
    (bytes : Nat) :
    (Tally.put (some told) now blocks bytes).IsReady config := by
  rcases ready with reached | hinted
  · exact .inl (Nat.le_trans reached (Nat.le_add_right _ _))
  · exact .inr hinted

end told

theorem close_ne_running {buffer : Buffer α} : buffer.close.phase ≠ .running := by
  by_cases running : buffer.phase = .running
  · simp [close_of_running running]
  · rwa [close_of_ended running]

theorem fail_ne_running {buffer : Buffer α} (fault : Fault) :
    (buffer.fail fault).phase ≠ .running := by
  by_cases running : buffer.phase = .running
  · rw [fail_of_running running]
    exact endedBy_ne_running fault
  · rwa [fail_of_ended running]

end Buffer
end BlockFeed
