import BlockFeed.Proofs.Buffer.Conservation

/-!
# Nobody sleeps without a reason

Every sleeping caller whom no signal has reached has a reason to sleep that the
buffer still gives: a put sleeps because the unit that holds its blocks has
reached the greatest size and has not been released, and a take sleeps because
no release is due, with its alarm set for the earlier of its own deadline and
that of the unit. As a unit of the greatest size is due, a put and a take never
sleep at the same time for good.

The reasons are kept by every small step, because a step that takes a reason
away signals all callers who may have had it.
-/

namespace BlockFeed
namespace Buffer

/-- No caller can proceed. -/
def Crowd.IsQuiet (crowd : Crowd α) : Prop :=
  ∀ caller ∈ crowd.callers, caller.canProceed crowd.now = false

instance (crowd : Crowd α) : Decidable crowd.IsQuiet :=
  inferInstanceAs (Decidable (∀ caller ∈ crowd.callers, _))

/-- A call added its blocks, and nothing has been released since. -/
def Unreleased (history : List (Deed α)) (id : Nat) (blocks : List α) (bytes : Nat) : Prop :=
  ∃ earlier later, history = earlier ++ .put id blocks bytes :: later ∧
    ∀ deed ∈ later, deed.isPut = true

/-- A unit of the least size is due, and the greatest size is no smaller. -/
structure Prompt (buffer : Buffer α) : Prop where
  ordered : buffer.config.least ≤ buffer.config.greatest
  due : buffer.phase = .running -> buffer.pending.isSome = true ->
    buffer.config.least ≤ buffer.pendingBytes -> buffer.due = true

/-- What a caller has noted agrees with what has happened: its ticket with the
releases since it added its blocks, and its deadline with an instant at which it
began. -/
structure Caller.Tracked
    (caller : Caller α)
    (buffer : Buffer α)
    (history : List (Deed α))
    (now : Instant) : Prop where
  ticket_le : caller.isTake = false -> caller.stage ≠ .arriving ->
    caller.ticket ≤ buffer.releases
  held : ∀ blocks bytes, caller.call = .put blocks bytes -> caller.stage ≠ .arriving ->
    buffer.phase = .running -> caller.ticket = buffer.releases ->
    buffer.config.greatest ≤ buffer.pendingBytes ∧
      Unreleased history caller.id blocks bytes
  begun : caller.isTake = true -> caller.stage ≠ .arriving ->
    ∃ start ≤ now, Instant.expiry start buffer.config.patience = .ok caller.deadline

/-- A caller whom no signal has reached sleeps for a reason. -/
structure Caller.Justified (caller : Caller α) (buffer : Buffer α) : Prop where
  put : ∀ wake, caller.isTake = false -> caller.stage = .asleep wake ->
    caller.signalled = false ->
    buffer.phase = .running ∧ caller.ticket = buffer.releases
  take : ∀ wake, caller.isTake = true -> caller.stage = .asleep wake ->
    caller.signalled = false ->
    buffer.phase = .running ∧ ¬(buffer.due = true ∧ buffer.filled = true) ∧
      (buffer.pending.isSome = true ->
        ∃ idle, buffer.idleDeadline = .ok idle ∧
          wake = Instant.earliest caller.deadline idle)

/-- A later state of a buffer, from which nothing of the unit is gone unless
there was a release. -/
structure Follows
    (buffer : Buffer α) (history : List (Deed α))
    (later : Buffer α) (laterHistory : List (Deed α)) : Prop where
  config : later.config = buffer.config
  running : later.phase = .running -> buffer.phase = .running
  releases : buffer.releases ≤ later.releases
  unreleased : later.phase = .running -> later.releases = buffer.releases ->
    buffer.pendingBytes ≤ later.pendingBytes ∧
      ∃ puts, laterHistory = history ++ puts ∧ ∀ deed ∈ puts, deed.isPut = true

/-- Whomever a signal does not concern still has its reason to sleep. -/
structure Spares (signal : Signal) (buffer later : Buffer α) : Prop where
  puts : ∀ caller : Caller α, caller.isTake = false -> signal.concerns caller = false ->
    buffer.phase = .running ->
    later.phase = .running ∧ later.releases = buffer.releases
  takes : ∀ caller : Caller α, caller.isTake = true -> signal.concerns caller = false ->
    buffer.phase = .running -> ¬(buffer.due = true ∧ buffer.filled = true) ->
    later.phase = .running ∧ ¬(later.due = true ∧ later.filled = true) ∧
      (later.pending.isSome = true ->
        buffer.pending.isSome = true ∧ later.idleDeadline = buffer.idleDeadline)

theorem Unreleased.append
    {history : List (Deed α)} {id : Nat} {blocks : List α} {bytes : Nat}
    (unreleased : Unreleased history id blocks bytes)
    {puts : List (Deed α)}
    (arePuts : ∀ deed ∈ puts, deed.isPut = true) :
    Unreleased (history ++ puts) id blocks bytes := by
  obtain ⟨earlier, later, split, laterPuts⟩ := unreleased
  refine ⟨earlier, later ++ puts, by simp [split], ?_⟩
  intro deed mem
  rcases List.mem_append.mp mem with old | new
  · exact laterPuts deed old
  · exact arePuts deed new

namespace Caller

theorem isTake_of_put {caller : Caller α} {blocks : List α} {bytes : Nat}
    (call : caller.call = .put blocks bytes) : caller.isTake = false := by
  simp [isTake, call]

theorem isTake_of_take {caller : Caller α} (call : caller.call = .take) :
    caller.isTake = true := by
  simp [isTake, call]

variable {caller : Caller α} {buffer later : Buffer α} {history laterHistory : List (Deed α)}
  {now laterNow : Instant}

/-- A signal changes nothing that a caller has noted. -/
theorem Tracked.signal (tracked : caller.Tracked buffer history now) :
    caller.signal.Tracked buffer history now :=
  ⟨tracked.ticket_le, tracked.held, tracked.begun⟩

/-- What a caller has noted still agrees later on. -/
theorem Tracked.after
    (tracked : caller.Tracked buffer history now)
    (follows : Follows buffer history later laterHistory)
    (passed : now ≤ laterNow) :
    caller.Tracked later laterHistory laterNow where
  ticket_le isPut arrived :=
    Nat.le_trans (tracked.ticket_le isPut arrived) follows.releases
  held blocks bytes call arrived running ticket := by
    have ticketLe := tracked.ticket_le (isTake_of_put call) arrived
    have sameReleases : later.releases = buffer.releases :=
      Nat.le_antisymm (ticket ▸ ticketLe) follows.releases
    obtain ⟨full, unreleased⟩ := tracked.held blocks bytes call arrived
      (follows.running running) (ticket.trans sameReleases)
    obtain ⟨bytesLe, puts, split, arePuts⟩ := follows.unreleased running sameReleases
    refine ⟨?_, split ▸ unreleased.append arePuts⟩
    rw [follows.config]
    exact Nat.le_trans full bytesLe
  begun isTake arrived := by
    obtain ⟨start, startLe, deadline⟩ := tracked.begun isTake arrived
    exact ⟨start, Nat.le_trans startLe passed, by rw [follows.config, deadline]⟩

/-- What a caller has noted agrees at every later stage. -/
theorem Tracked.goTo
    (tracked : caller.Tracked buffer history now)
    (arrived : caller.stage ≠ .arriving)
    (stage : Stage) :
    (caller.goTo stage).Tracked buffer history now where
  ticket_le isPut _ := tracked.ticket_le isPut arrived
  held blocks bytes call _ := tracked.held blocks bytes call arrived
  begun isTake _ := tracked.begun isTake arrived

/-- A caller who has been signalled needs no reason. -/
theorem Justified.of_signalled (signalled : caller.signal.signalled = true) :
    caller.signal.Justified buffer where
  put _ _ _ silent := by simp [signalled] at silent
  take _ _ _ silent := by simp [signalled] at silent

/-- A caller that is not asleep needs no reason. -/
theorem Justified.of_awake (awake : ∀ wake, caller.stage ≠ .asleep wake) :
    caller.Justified buffer where
  put wake _ asleep := absurd asleep (awake wake)
  take wake _ asleep := absurd asleep (awake wake)

/-- A signal takes no reason away. -/
theorem Justified.signal (justified : caller.Justified buffer) :
    caller.signal.Justified buffer := by
  cases listening : caller.isListening with
  | true => exact .of_signalled (by simp [Caller.signal, listening])
  | false =>
      have same : caller.signal = caller := by simp [Caller.signal, listening]
      rwa [same]

/-- The reasons of callers who have not proceeded are kept, as those whom the
change may concern are signalled. -/
theorem Justified.after
    {signal : Signal}
    (justified : caller.Justified buffer)
    (spares : Spares signal buffer later) :
    (if signal.concerns caller then caller.signal else caller).Justified later := by
  cases listening : caller.isListening with
  | false =>
      have awake : ∀ wake, caller.stage ≠ .asleep wake := by
        intro wake asleep
        simp [isListening, asleep] at listening
      split
      · exact .of_awake awake
      · exact .of_awake awake
  | true =>
      cases concerned : signal.concerns caller with
      | true =>
          rw [if_pos rfl]
          exact .of_signalled (by simp [Caller.signal, listening])
      | false =>
          rw [if_neg Bool.false_ne_true]
          exact
            { put := by
                intro wake isPut asleep silent
                obtain ⟨running, ticket⟩ := justified.put wake isPut asleep silent
                obtain ⟨laterRunning, releases⟩ :=
                  spares.puts caller isPut concerned running
                exact ⟨laterRunning, ticket.trans releases.symm⟩
              take := by
                intro wake isTake asleep silent
                obtain ⟨running, notDue, alarm⟩ := justified.take wake isTake asleep silent
                obtain ⟨laterRunning, laterNotDue, kept⟩ :=
                  spares.takes caller isTake concerned running notDue
                refine ⟨laterRunning, laterNotDue, ?_⟩
                intro laterPending
                obtain ⟨pending, sameIdle⟩ := kept laterPending
                rw [sameIdle]
                exact alarm pending }

end Caller

/-! ## Changes of the buffer -/

section changes

variable {buffer later : Buffer α} {history laterHistory : List (Deed α)}

theorem Follows.refl (buffer : Buffer α) (history : List (Deed α)) :
    Follows buffer history buffer history where
  config := rfl
  running := id
  releases := Nat.le_refl _
  unreleased _ _ := ⟨Nat.le_refl _, [], by simp, by simp⟩

theorem Spares.refl (signal : Signal) (buffer : Buffer α) : Spares signal buffer buffer where
  puts _ _ _ running := ⟨running, rfl⟩
  takes _ _ _ running notDue := ⟨running, notDue, fun pending => ⟨pending, rfl⟩⟩

/-- A buffer that has ended stays so, and nobody sleeps at it. -/
theorem Follows.of_ended
    (config : later.config = buffer.config)
    (ended : later.phase ≠ .running)
    (releases : later.releases = buffer.releases) :
    Follows buffer history later laterHistory where
  config := config
  running isRunning := absurd isRunning ended
  releases := Nat.le_of_eq releases.symm
  unreleased isRunning := absurd isRunning ended

theorem Spares.of_ended (signal : Signal) (ended : buffer.phase ≠ .running) :
    Spares signal buffer later where
  puts _ _ _ running := absurd running ended
  takes _ _ _ running := absurd running ended

/-- Everybody is signalled when a buffer ends. -/
theorem Spares.of_all : Spares .all buffer later where
  puts _ _ unconcerned := by simp [Signal.concerns] at unconcerned
  takes _ _ unconcerned := by simp [Signal.concerns] at unconcerned

theorem follows_grown (now : Instant) (id : Nat) (blocks : List α) (bytes : Nat) :
    Follows buffer history (buffer.grown now blocks bytes)
      (history ++ [.put id blocks bytes]) where
  config := rfl
  running := fun running => running
  releases := Nat.le_refl _
  unreleased _ _ :=
    ⟨Nat.le_add_right _ _, [.put id blocks bytes], rfl, by simp [Deed.isPut]⟩

theorem spares_grown (now : Instant) (blocks : List α) (bytes : Nat) :
    Spares .takes buffer (buffer.grown now blocks bytes) where
  puts _ _ _ running := ⟨running, rfl⟩
  takes caller isTake unconcerned := by simp [Signal.concerns, isTake] at unconcerned

theorem prompt_grown
    (prompt : buffer.Prompt) (now : Instant) (blocks : List α) (bytes : Nat) :
    (buffer.grown now blocks bytes).Prompt where
  ordered := prompt.ordered
  due _ _ reached := by
    have reachedNow : buffer.config.least ≤ buffer.pendingBytes + bytes := reached
    simp [grown, reachedNow]

namespace Taking

variable {now : Instant} {deadline : Option Instant} {result : Take α}

/-- A take that gets no blocks leaves the past alone. -/
theorem follows
    (taking : Taking buffer now deadline result later)
    (unchanged : (∀ blocks, result ≠ .released blocks) -> laterHistory = history) :
    Follows buffer history later laterHistory := by
  cases taking with
  | reported => exact .of_ended rfl (by simp) rfl
  | silent => exact .of_ended rfl (by simp) rfl
  | remainder _ closed => exact .of_ended rfl (by simp [closed]) rfl
  | ended closed => exact .of_ended rfl (by simp [closed]) rfl
  | overflow =>
      rw [unchanged (by simp)]
      exact .refl _ _
  | release unit idle running =>
      exact
        { config := rfl
          running := fun _ => running
          releases := Nat.le_succ _
          unreleased := fun _ same => absurd same (Nat.succ_ne_self _) }
  | waiting =>
      rw [unchanged (by simp)]
      exact
        { config := rfl
          running := fun running => running
          releases := Nat.le_refl _
          unreleased := fun _ _ => ⟨Nat.le_refl _, [], by simp, by simp⟩ }

/-- A release signals the puts; other takes give nobody a reason to go on. -/
theorem spares
    {signal : Signal}
    (taking : Taking buffer now deadline result later)
    (agree : buffer.phase = .running -> buffer.filled = buffer.pending.isSome)
    (signalled : ∀ blocks, result = .released blocks ->
      signal = if buffer.isRunning then .puts else .none) :
    Spares signal buffer later := by
  cases taking with
  | reported fault failed => exact .of_ended _ (by simp [failed])
  | silent failed => exact .of_ended _ (by simp [failed])
  | remainder unit closed => exact .of_ended _ (by simp [closed])
  | ended closed => exact .of_ended _ (by simp [closed])
  | overflow => exact .refl _ _
  | release unit idle running =>
      have isPuts : signal = .puts := by simpa [running] using signalled _ rfl
      exact
        { puts := by
            intro caller isPut unconcerned
            simp [isPuts, Signal.concerns, isPut] at unconcerned
          takes := by
            intro caller _ _ isRunning _
            exact ⟨isRunning, by simp [drained], by simp [drained]⟩ }
  | waiting idle running _ notDue =>
      exact
        { puts := fun _ _ _ isRunning => ⟨isRunning, rfl⟩
          takes := by
            intro caller _ _ isRunning _
            refine ⟨isRunning, ?_, fun pending => ⟨pending, rfl⟩⟩
            intro dueAndFilled
            have pending : buffer.pending.isSome = true := by
              rw [← agree running]
              exact dueAndFilled.2
            exact notDue pending dueAndFilled }

theorem prompt
    (taking : Taking buffer now deadline result later)
    (prompt : buffer.Prompt) :
    later.Prompt := by
  cases taking with
  | reported => exact ⟨prompt.ordered, by simp⟩
  | silent => exact ⟨prompt.ordered, by simp⟩
  | remainder _ closed => exact ⟨prompt.ordered, by simp [closed]⟩
  | ended closed => exact ⟨prompt.ordered, by simp [closed]⟩
  | overflow => exact prompt
  | release => exact ⟨prompt.ordered, by simp [drained]⟩
  | waiting =>
      refine ⟨prompt.ordered, ?_⟩
      intro running pending reached
      have due := prompt.due running pending reached
      simp [noticed, due]

end Taking

namespace Caller.Advancing

variable {caller : Caller α} {now : Instant} {advance : Advance α} {deed : Option (Deed α)}

theorem follows
    (advancing : caller.Advancing buffer now advance deed)
    (history : List (Deed α)) :
    Follows buffer history advance.buffer (history ++ deed.toList) := by
  cases advancing with
  | joined blocks bytes => exact follows_grown now caller.id blocks bytes
  | heldBack blocks bytes => exact follows_grown now caller.id blocks bytes
  | sleptWaiting wake rest _ _ taking => exact taking.follows (by simp)
  | took blocks rest _ _ taking => exact taking.follows (by simp)
  | tookNothing result rest _ _ taking => exact taking.follows (by simp)
  | _ => simpa using Follows.refl buffer history

theorem spares
    (advancing : caller.Advancing buffer now advance deed)
    (agree : buffer.phase = .running -> buffer.filled = buffer.pending.isSome) :
    Spares advance.signal buffer advance.buffer := by
  cases advancing with
  | joined blocks bytes => exact spares_grown now blocks bytes
  | heldBack blocks bytes => exact spares_grown now blocks bytes
  | sleptWaiting wake rest _ _ taking => exact taking.spares agree (by simp)
  | took blocks rest _ _ taking => exact taking.spares agree (by simp)
  | tookNothing result rest _ _ taking noBlocks =>
      exact taking.spares agree fun blocks isBlocks => absurd isBlocks (noBlocks blocks)
  | _ => exact .refl _ _

theorem prompt
    (advancing : caller.Advancing buffer now advance deed)
    (prompt : buffer.Prompt) :
    advance.buffer.Prompt := by
  cases advancing with
  | joined blocks bytes => exact prompt_grown prompt now blocks bytes
  | heldBack blocks bytes => exact prompt_grown prompt now blocks bytes
  | sleptWaiting wake rest _ _ taking => exact taking.prompt prompt
  | took blocks rest _ _ taking => exact taking.prompt prompt
  | tookNothing result rest _ _ taking => exact taking.prompt prompt
  | _ => exact prompt

/-- What the caller that proceeds notes agrees with what it has done. -/
theorem tracked
    (advancing : caller.Advancing buffer now advance deed)
    (tracked : caller.Tracked buffer history now)
    {following : Caller α}
    (next : advance.next = .inl following) :
    following.Tracked advance.buffer (history ++ deed.toList) now := by
  have before := tracked.after (advancing.follows history) (Nat.le_refl now)
  cases advancing with
  | joined => simp at next
  | discarded => simp at next
  | overflowed => simp at next
  | admitted => simp at next
  | took => simp at next
  | tookNothing => simp at next
  | heldBack blocks bytes _ call running full =>
      cases next
      have isPut : caller.isTake = false := isTake_of_put call
      exact
        { ticket_le := fun _ _ => Nat.le_refl _
          held := by
            intro otherBlocks otherBytes sameCall _ _ _
            obtain ⟨rfl, rfl⟩ : blocks = otherBlocks ∧ bytes = otherBytes := by
              simpa using call.symm.trans sameCall
            exact ⟨full, history, [], rfl, by simp⟩
          begun := fun isTake => absurd (isPut.symm.trans isTake) Bool.false_ne_true }
  | began deadline _ call patience =>
      cases next
      have isTake : caller.isTake = true := isTake_of_take call
      exact
        { ticket_le := fun isPut => absurd (isPut.symm.trans isTake) Bool.false_ne_true
          held := fun _ _ sameCall => by simp [call] at sameCall
          begun := fun _ _ => ⟨now, Nat.le_refl _, patience⟩ }
  | listened stage =>
      cases next
      have arrived : caller.stage ≠ .arriving := by simp [stage]
      exact
        { ticket_le := fun isPut _ => before.ticket_le isPut arrived
          held := fun blocks bytes call _ => before.held blocks bytes call arrived
          begun := fun isTake _ => before.begun isTake arrived }
  | sleptHeld _ _ stage =>
      cases next
      exact before.goTo (by simp [stage]) _
  | sleptWaiting _ _ stage =>
      cases next
      exact before.goTo (by simp [stage]) _
  | woke _ stage =>
      cases next
      exact before.goTo (by simp [stage]) _

/-- If the caller that proceeds falls asleep, it has a reason. -/
theorem justified
    (advancing : caller.Advancing buffer now advance deed)
    (agree : buffer.phase = .running -> buffer.filled = buffer.pending.isSome)
    {following : Caller α}
    (next : advance.next = .inl following) :
    following.Justified advance.buffer := by
  cases advancing with
  | joined => simp at next
  | discarded => simp at next
  | overflowed => simp at next
  | admitted => simp at next
  | took => simp at next
  | tookNothing => simp at next
  | heldBack =>
      cases next
      exact .of_awake (by simp)
  | began =>
      cases next
      exact .of_awake (by simp)
  | listened =>
      cases next
      exact .of_awake (by simp)
  | woke =>
      cases next
      exact .of_awake (by simp [goTo])
  | sleptHeld blocks bytes _ call refused =>
      cases next
      have isPut : caller.isTake = false := isTake_of_put call
      have reason : buffer.phase = .running ∧ caller.ticket = buffer.releases := by
        simp only [admits, Bool.or_eq_false_iff, bne_eq_false_iff_eq, Bool.not_eq_false',
          isRunning_iff] at refused
        exact ⟨refused.2, refused.1.symm⟩
      exact
        { put := fun _ _ _ _ => reason
          take := fun _ isTake => absurd (isPut.symm.trans isTake) Bool.false_ne_true }
  | sleptWaiting wake rest _ call taking =>
      cases next
      have isTake : caller.isTake = true := isTake_of_take call
      refine
        { put := fun _ isPut => absurd (isPut.symm.trans isTake) Bool.false_ne_true
          take := ?_ }
      intro alarm _ asleep _
      cases taking with
      | waiting idle running idleDeadline notDue =>
          have alarmEq := Stage.asleep.inj asleep
          have filledEq : buffer.filled = buffer.pending.isSome := agree running
          refine ⟨running, ?_, ?_⟩
          · intro dueAndFilled
            have pending : buffer.pending.isSome = true := filledEq ▸ dueAndFilled.2
            exact notDue pending dueAndFilled
          · intro pending
            have filled : buffer.filled = true := filledEq.trans pending
            have unready : (buffer.noticed now caller.deadline idle).due = false := by
              rw [← Bool.not_eq_true]
              exact fun due => notDue pending ⟨due, filled⟩
            refine ⟨idle, idleDeadline, ?_⟩
            rw [← alarmEq, unready]
            rfl

end Caller.Advancing

/-! ## Changes from outside -/

theorem follows_hint : Follows buffer history buffer.hint history where
  config := rfl
  running := fun running => running
  releases := Nat.le_refl _
  unreleased _ _ := ⟨Nat.le_refl _, [], by simp, by simp⟩

theorem spares_hint :
    Spares (if buffer.pending.isSome then .takes else .none) buffer buffer.hint where
  puts _ _ _ running := ⟨running, rfl⟩
  takes caller isTake unconcerned running notDue := by
    cases pending : buffer.pending.isSome with
    | true => simp [pending, Signal.concerns, isTake] at unconcerned
    | false =>
        have same : buffer.hint = buffer := by simp [hint, pending]
        rw [same]
        exact ⟨running, notDue, fun isSome => by simp [pending] at isSome⟩

theorem prompt_hint (prompt : buffer.Prompt) : buffer.hint.Prompt where
  ordered := prompt.ordered
  due running pending reached := by
    have due := prompt.due running pending reached
    simp [hint, due]

/-- What is true of a buffer that an end has changed, if it was running. -/
theorem ended_cases
    (phase : Phase)
    (notRunning : phase ≠ .running)
    (ended : buffer.phase = .running -> later = { buffer with phase := phase })
    (same : buffer.phase ≠ .running -> later = buffer)
    (prompt : buffer.Prompt) :
    Follows buffer history later history ∧
      Spares (if buffer.isRunning then .all else .none) buffer later ∧ later.Prompt := by
  by_cases running : buffer.phase = .running
  · rw [ended running, isRunning_iff.mpr running, if_pos rfl]
    exact ⟨.of_ended rfl notRunning rfl, .of_all,
      ⟨prompt.ordered, fun isRunning => absurd isRunning notRunning⟩⟩
  · rw [same running]
    exact ⟨.refl _ _, .of_ended _ running, prompt⟩

end changes

/-! ## Sessions -/

namespace Session

/-- The invariant of sessions from which it follows that nobody sleeps without a
reason. -/
structure Watchful (session : Session α) : Prop where
  balanced : session.Balanced
  prompt : session.crowd.buffer.Prompt
  tracked : ∀ caller ∈ session.crowd.callers,
    caller.Tracked session.crowd.buffer session.history session.crowd.now
  justified : ∀ caller ∈ session.crowd.callers,
    caller.Justified session.crowd.buffer

namespace Watchful

variable {session next : Session α}

theorem create
    (least : Nat) (greatest : Option Nat) (idle patience : Option Duration) :
    (Session.create (.make least greatest idle patience) : Session α).Watchful where
  balanced := .create _
  prompt := ⟨Config.least_le_make_greatest least greatest idle patience, by
    simp [Session.create, Crowd.create, Buffer.create]⟩
  tracked := by simp [Session.create, Crowd.create]
  justified := by simp [Session.create, Crowd.create]

theorem agree (watchful : session.Watchful) :
    session.crowd.buffer.phase = .running ->
      session.crowd.buffer.filled = session.crowd.buffer.pending.isSome := by
  intro running
  have holds := watchful.balanced.unit running
  rw [holds.filled, holds.pending]

/-- Every small step of a caller keeps the invariant. -/
theorem advance
    {caller : Caller α} {advance : Advance α} {deed : Option (Deed α)}
    (watchful : session.Watchful)
    (mem : caller ∈ session.crowd.callers)
    (advancing : caller.Advancing session.crowd.buffer session.crowd.now advance deed) :
    Watchful
      { session with
        crowd := session.crowd.apply caller advance
        history := session.history ++ deed.toList } where
  balanced := watchful.balanced.advance advancing
  prompt := by simpa using advancing.prompt watchful.prompt
  tracked := by
    intro member memAfter
    obtain ⟨before, origin, rfl⟩ := session.crowd.mem_callers_apply memAfter
    have tracked : before.Tracked advance.buffer (session.history ++ deed.toList)
        session.crowd.now := by
      rcases origin with wasThere | proceeded
      · exact (watchful.tracked before wasThere).after
          (advancing.follows session.history) (Nat.le_refl _)
      · exact advancing.tracked (watchful.tracked caller mem) proceeded
    rw [Crowd.buffer_apply, Crowd.now_apply]
    split
    · exact tracked.signal
    · exact tracked
  justified := by
    intro member memAfter
    obtain ⟨before, origin, rfl⟩ := session.crowd.mem_callers_apply memAfter
    rw [Crowd.buffer_apply]
    rcases origin with wasThere | proceeded
    · exact (watchful.justified before wasThere).after (advancing.spares watchful.agree)
    · have justified := advancing.justified watchful.agree proceeded
      split
      · exact justified.signal
      · exact justified

/-- A change of the buffer from outside keeps the invariant if it signals those
whom it may concern. -/
theorem notify
    {signal : Signal} {buffer : Buffer α}
    (watchful : session.Watchful)
    (balanced : next.Balanced)
    (crowd : next.crowd = { session.crowd with buffer := buffer }.notify signal)
    (history : next.history = session.history)
    (change : Follows session.crowd.buffer session.history buffer session.history ∧
      Spares signal session.crowd.buffer buffer ∧ buffer.Prompt) :
    next.Watchful where
  balanced := balanced
  prompt := by
    rw [crowd]
    exact change.2.2
  tracked := by
    intro member memAfter
    rw [crowd] at memAfter
    obtain ⟨before, wasThere, rfl⟩ := (Crowd.mem_callers_notify _).mp memAfter
    have tracked := (watchful.tracked before wasThere).after change.1
      (Nat.le_refl session.crowd.now)
    rw [crowd, history, Crowd.buffer_notify, Crowd.now_notify]
    split
    · exact tracked.signal
    · exact tracked
  justified := by
    intro member memAfter
    rw [crowd] at memAfter
    obtain ⟨before, wasThere, rfl⟩ := (Crowd.mem_callers_notify _).mp memAfter
    rw [crowd, Crowd.buffer_notify]
    exact (watchful.justified before wasThere).after change.2.1

/-- Whatever happens outside keeps the invariant. -/
theorem react
    (watchful : session.Watchful)
    (event : Crowd.Event α)
    (calls : Nat) :
    Watchful { session with crowd := session.crowd.react event, calls := calls } := by
  have balanced := watchful.balanced.react event calls
  cases event with
  | call id call =>
      refine ⟨balanced, watchful.prompt, ?_, ?_⟩
      · intro member memAfter
        rcases List.mem_append.mp memAfter with wasThere | isNew
        · exact watchful.tracked member wasThere
        · rw [List.mem_singleton.mp isNew]
          exact ⟨fun _ arrived => absurd rfl arrived,
            fun _ _ _ arrived => absurd rfl arrived, fun _ arrived => absurd rfl arrived⟩
      · intro member memAfter
        rcases List.mem_append.mp memAfter with wasThere | isNew
        · exact watchful.justified member wasThere
        · rw [List.mem_singleton.mp isNew]
          exact .of_awake (by simp [Caller.create])
  | abandon id =>
      refine ⟨balanced, watchful.prompt, ?_, ?_⟩
      · intro member memAfter
        exact watchful.tracked member (List.mem_filter.mp memAfter).1
      · intro member memAfter
        exact watchful.justified member (List.mem_filter.mp memAfter).1
  | pass duration =>
      refine ⟨balanced, watchful.prompt, ?_, watchful.justified⟩
      intro member wasThere
      exact (watchful.tracked member wasThere).after (.refl _ _) (Nat.le_add_right _ _)
  | hint =>
      exact watchful.notify balanced rfl rfl
        ⟨follows_hint, spares_hint, prompt_hint watchful.prompt⟩
  | close =>
      exact watchful.notify balanced rfl rfl
        (ended_cases .closed (by simp) close_of_running close_of_ended watchful.prompt)
  | fail fault =>
      exact watchful.notify balanced rfl rfl
        (ended_cases (endedBy fault) (endedBy_ne_running fault)
          (fun running => fail_of_running running fault)
          (fun ended => fail_of_ended ended fault) watchful.prompt)

/-- Every run keeps the invariant. -/
theorem run (watchful : session.Watchful) (moves : List (Move α)) :
    (session.run moves).Watchful := by
  refine run_induction (fun current move currentWatchful => ?_) watchful moves
  refine act_induction ?_ currentWatchful.react currentWatchful move
  intro caller mem _ step deed advancing
  exact currentWatchful.advance mem advancing

end Watchful

/-- No run changes the configuration. -/
theorem config_run (session : Session α) (moves : List (Move α)) :
    (session.run moves).crowd.buffer.config = session.crowd.buffer.config := by
  refine run_induction
    (motive := fun later => later.crowd.buffer.config = session.crowd.buffer.config)
    (fun later move same => ?_) rfl moves
  refine act_induction
    (motive := fun next => next.crowd.buffer.config = session.crowd.buffer.config)
    ?_ ?_ same move
  · intro caller _ _ advance deed advancing
    rw [Crowd.buffer_apply, (advancing.follows later.history).config, same]
  · intro event calls
    rw [← same]
    cases event with
    | close =>
        by_cases running : later.crowd.buffer.phase = .running
        · simp [Crowd.react, close_of_running running]
        · simp [Crowd.react, close_of_ended running]
    | fail fault =>
        by_cases running : later.crowd.buffer.phase = .running
        · simp [Crowd.react, fail_of_running running]
        · simp [Crowd.react, fail_of_ended running]
    | _ => rfl

/-- A caller that cannot proceed is asleep, and no signal has reached it. -/
theorem asleep_of_not_canProceed
    {caller : Caller α} {now : Instant}
    (stuck : caller.canProceed now = false) :
    ∃ wake, caller.stage = .asleep wake ∧ caller.signalled = false := by
  cases stage : caller.stage with
  | asleep wake =>
      simp only [Caller.canProceed, stage, Bool.or_eq_false_iff] at stuck
      exact ⟨wake, rfl, stuck.1⟩
  | _ => simp [Caller.canProceed, stage] at stuck

/-- Blocks that have been added and not released are those of a unit. -/
theorem current_ne_nil_of_unreleased
    {session : Session α} {id : Nat} {blocks : List α} {bytes : Nat}
    (unreleased : Unreleased session.history id blocks bytes) :
    session.current ≠ [] := by
  obtain ⟨earlier, later, split, laterPuts⟩ := unreleased
  intro empty
  have lastIsRelease := List.rtakeWhile_eq_nil_iff.mp empty
  have nonempty : session.history ≠ [] := by simp [split]
  refine lastIsRelease nonempty ?_
  have lastMem : session.history.getLast nonempty ∈ Deed.put id blocks bytes :: later := by
    simp [split]
  rcases List.mem_cons.mp lastMem with isThis | isLater
  · simp [isThis, Deed.isPut]
  · exact laterPuts _ isLater

namespace Watchful

variable {session : Session α}

/-- A put that no signal has reached sleeps because its unit has reached the
greatest size and has not been released. -/
theorem put_asleep
    (watchful : session.Watchful)
    {caller : Caller α}
    (mem : caller ∈ session.crowd.callers)
    {wake : Option Instant}
    (asleep : caller.stage = .asleep wake)
    (silent : caller.signalled = false)
    {blocks : List α} {bytes : Nat}
    (call : caller.call = .put blocks bytes) :
    session.crowd.buffer.phase = .running ∧
      Unreleased session.history caller.id blocks bytes ∧
      session.crowd.buffer.pending.isSome = true ∧
      session.crowd.buffer.config.greatest ≤ session.crowd.buffer.pendingBytes := by
  have isPut : caller.isTake = false := Caller.isTake_of_put call
  obtain ⟨running, ticket⟩ := (watchful.justified caller mem).put wake isPut asleep silent
  obtain ⟨full, unreleased⟩ := (watchful.tracked caller mem).held blocks bytes call
    (by simp [asleep]) running ticket
  refine ⟨running, unreleased, ?_, full⟩
  rw [(watchful.balanced.unit running).pending]
  simpa using current_ne_nil_of_unreleased unreleased

/-- A take that no signal has reached sleeps because nothing is due, until its
deadline or that of the unit. -/
theorem take_asleep
    (watchful : session.Watchful)
    {caller : Caller α}
    (mem : caller ∈ session.crowd.callers)
    {wake : Option Instant}
    (asleep : caller.stage = .asleep wake)
    (silent : caller.signalled = false)
    (isTake : caller.isTake = true) :
    session.crowd.buffer.phase = .running ∧
      ¬(session.crowd.buffer.due = true ∧ session.crowd.buffer.filled = true) ∧
      (∃ start ≤ session.crowd.now,
        Instant.expiry start session.crowd.buffer.config.patience = .ok caller.deadline) ∧
      (session.crowd.buffer.pending.isSome = true ->
        ∃ last unitDeadline, session.crowd.buffer.lastPut = some last ∧
          Instant.expiry last session.crowd.buffer.config.idle = .ok unitDeadline ∧
          wake = Instant.earliest caller.deadline unitDeadline) := by
  obtain ⟨running, notDue, alarm⟩ := (watchful.justified caller mem).take wake isTake asleep silent
  have begun := (watchful.tracked caller mem).begun isTake (by simp [asleep])
  refine ⟨running, notDue, begun, ?_⟩
  intro pending
  obtain ⟨unitDeadline, deadlineEq, wakeEq⟩ := alarm pending
  have holds := watchful.balanced.unit running
  have timed : session.crowd.buffer.lastPut.isSome = true := by
    rw [holds.lastPut, ← holds.pending, pending]
  obtain ⟨unit, unitEq⟩ := Option.isSome_iff_exists.mp pending
  obtain ⟨last, lastEq⟩ := Option.isSome_iff_exists.mp timed
  rw [idleDeadline, unitEq, lastEq] at deadlineEq
  exact ⟨last, unitDeadline, lastEq, deadlineEq, wakeEq⟩

/-- A unit that holds back a put is due, so that no take sleeps. -/
theorem ready_of_full
    (watchful : session.Watchful)
    (running : session.crowd.buffer.phase = .running)
    (pending : session.crowd.buffer.pending.isSome = true)
    (full : session.crowd.buffer.config.greatest ≤ session.crowd.buffer.pendingBytes) :
    session.crowd.buffer.due = true ∧ session.crowd.buffer.filled = true := by
  have reached : session.crowd.buffer.config.least ≤ session.crowd.buffer.pendingBytes :=
    Nat.le_trans watchful.prompt.ordered full
  refine ⟨watchful.prompt.due running pending reached, ?_⟩
  rw [watchful.agree running, pending]

end Watchful

/-- Whenever no caller can proceed, each of them sleeps for a reason. A put
sleeps because the buffer is running, nothing has been released since it added
its blocks, and the unit has reached the greatest size. A take sleeps because
the buffer is running and not both due and filled; if there is a unit, its alarm
is set for the earlier of its own deadline and the one that the last put gave the
unit. There are never both. -/
theorem sleepers_have_reasons
    (least : Nat)
    (greatest : Option Nat)
    (idle patience : Option Duration)
    (moves : List (Move α))
    (session : Session α)
    (isRun : session = (create (.make least greatest idle patience)).run moves)
    (quiet : session.crowd.IsQuiet) :
    (∀ caller ∈ session.crowd.callers, ∃ wake, caller.stage = .asleep wake) ∧
      (∀ caller ∈ session.crowd.callers, ∀ blocks bytes, caller.call = .put blocks bytes ->
        session.crowd.buffer.phase = .running ∧
          Unreleased session.history caller.id blocks bytes ∧
          session.crowd.buffer.pending.isSome = true ∧
          max (greatest.getD least) least ≤ session.crowd.buffer.pendingBytes) ∧
      (∀ caller ∈ session.crowd.callers, caller.call = .take ->
        session.crowd.buffer.phase = .running ∧
          ¬(session.crowd.buffer.due = true ∧ session.crowd.buffer.filled = true) ∧
          (∃ start ≤ session.crowd.now,
            Instant.expiry start patience = .ok caller.deadline) ∧
          (session.crowd.buffer.pending.isSome = true ->
            ∃ last unitDeadline, session.crowd.buffer.lastPut = some last ∧
              Instant.expiry last idle = .ok unitDeadline ∧
              caller.stage = .asleep (Instant.earliest caller.deadline unitDeadline))) ∧
      ¬∃ put ∈ session.crowd.callers, ∃ take ∈ session.crowd.callers,
        put.isTake = false ∧ take.isTake = true := by
  have watchful : session.Watchful := by
    rw [isRun]
    exact (Watchful.create least greatest idle patience).run moves
  have config : session.crowd.buffer.config = .make least greatest idle patience := by
    rw [isRun, config_run]
    rfl
  have asleep : ∀ caller ∈ session.crowd.callers,
      ∃ wake, caller.stage = .asleep wake ∧ caller.signalled = false := by
    intro caller mem
    exact asleep_of_not_canProceed (quiet caller mem)
  refine ⟨?_, ?_, ?_, ?_⟩
  · intro caller mem
    obtain ⟨wake, stage, _⟩ := asleep caller mem
    exact ⟨wake, stage⟩
  · intro caller mem blocks bytes call
    obtain ⟨wake, stage, silent⟩ := asleep caller mem
    obtain ⟨running, unreleased, pending, full⟩ :=
      watchful.put_asleep mem stage silent call
    rw [config] at full
    exact ⟨running, unreleased, pending, full⟩
  · intro caller mem call
    obtain ⟨wake, stage, silent⟩ := asleep caller mem
    obtain ⟨running, notDue, begun, alarm⟩ :=
      watchful.take_asleep mem stage silent (Caller.isTake_of_take call)
    rw [config] at begun alarm
    refine ⟨running, notDue, begun, ?_⟩
    intro pending
    obtain ⟨last, unitDeadline, lastPut, deadlineEq, wakeEq⟩ := alarm pending
    exact ⟨last, unitDeadline, lastPut, deadlineEq, by rw [stage, wakeEq]⟩
  · rintro ⟨put, putMem, take, takeMem, isPut, isTake⟩
    obtain ⟨putWake, putStage, putSilent⟩ := asleep put putMem
    obtain ⟨takeWake, takeStage, takeSilent⟩ := asleep take takeMem
    obtain ⟨blocks, bytes, call⟩ : ∃ blocks bytes, put.call = .put blocks bytes := by
      cases call : put.call with
      | put blocks bytes => exact ⟨blocks, bytes, rfl⟩
      | take => simp [Caller.isTake, call] at isPut
    obtain ⟨running, _, pending, full⟩ := watchful.put_asleep putMem putStage putSilent call
    obtain ⟨_, notDue, _⟩ := watchful.take_asleep takeMem takeStage takeSilent isTake
    exact notDue (watchful.ready_of_full running pending full)

/-- A put that has filled a unit sleeps for that reason, and so does a take while
the unit is small. -/
theorem sleepers_have_reasons_in_short_runs :
    let config : Config := .make 5 none (some 7) none
    let full : Session Nat :=
      (create config).run [.call (.put [1] 10), .step 0, .step 0, .step 0]
    let small : Session Nat :=
      (create config).run [.call (.put [1] 2), .step 0, .call .take, .step 1, .step 1, .step 1]
    full.crowd.IsQuiet ∧ full.crowd.callers.length = 1 ∧
      (∀ caller ∈ full.crowd.callers, ∀ blocks bytes, caller.call = .put blocks bytes ->
        Unreleased full.history caller.id blocks bytes) ∧
      small.crowd.IsQuiet ∧ small.crowd.callers.length = 1 ∧
      (∀ caller ∈ small.crowd.callers, ∃ wake, caller.stage = .asleep wake) := by
  intro config full small
  have fullIsQuiet : full.crowd.IsQuiet := by decide
  have smallIsQuiet : small.crowd.IsQuiet := by decide
  have inFull := sleepers_have_reasons 5 none (some 7) none _ full rfl fullIsQuiet
  have inSmall := sleepers_have_reasons 5 none (some 7) none _ small rfl smallIsQuiet
  refine ⟨fullIsQuiet, by decide, ?_, smallIsQuiet, by decide, inSmall.1⟩
  intro caller mem blocks bytes call
  exact (inFull.2.1 caller mem blocks bytes call).2.1

end Session
end Buffer
end BlockFeed
