import BlockFeed.Http

/-!
# Bodies whose waits are limited

A reader asks a body for one item after the other and pauses before each as long as it
likes; the wait for an item begins when it is asked for. A limit is set anew for each wait.
An item that comes within the limit is handed on as it is, and so is the end. Where nothing
comes in time, there is one fault at the instant at which the limit is reached; the body is
let go, and the end follows at once.

So a reader of the limited body gets what a reader of the plain body gets, at the same
instants, up to the first wait that is too long. A body that a call hands on with a limit
is read in the same way.
-/

namespace BlockFeed
namespace Http

/-! ## Waits with a limit -/

section await

variable {now : Instant} {delay : Option Duration} {wait limit : Duration}

/-- What arrives within the limit, or just when it is reached, arrives. -/
theorem await_of_within (within : wait ≤ limit) :
    await now (some wait) (some limit) none = .arrived (now + wait) := by
  have earlier : min (now + wait) (now + limit) = now + wait :=
    Nat.min_eq_left (Nat.add_le_add_left within now)
  simp [await, Instant.earliest, earlier]

/-- What does not arrive within the limit is waited for until it is reached. -/
theorem await_of_beyond (beyond : delay.any (· ≤ limit) = false) :
    await now delay (some limit) none = .timedOut (now + limit) := by
  cases delay with
  | none => simp [await, Instant.earliest]
  | some wait =>
      have longer : limit < wait := by simpa using beyond
      have earlier : min (now + wait) (now + limit) = now + limit :=
        Nat.min_eq_right (Nat.add_le_add_left (Nat.le_of_lt longer) now)
      have notArrived : wait ≠ limit := Nat.ne_of_gt longer
      simp [await, Instant.earliest, earlier, notArrived]

end await

/-! ## Readers -/

/-- What comes of asking for the next item, if anything ever does: when it comes, and the
item with what is left behind it, or the end. -/
abbrev Fetched (σ : Type) := Option (Instant × Option (Except Fault Bytes × σ))

/-- What was asked for at an instant, and what came of it. -/
structure Pull (σ : Type) where
  asked : Instant
  fetched : Fetched σ

namespace Pull

/-- The same with something else that is left. -/
def map (change : σ -> τ) (pull : Pull σ) : Pull τ where
  asked := pull.asked
  fetched := pull.fetched.map fun (instant, got) =>
    (instant, got.map fun (item, rest) => (item, change rest))

/-- What a reader sees, who does not know what is left. -/
def seen (pull : Pull σ) : Pull Unit := pull.map fun _ => ()

/-- Whether it came within a limit after it was asked for. -/
def isWithin (limit : Duration) (pull : Pull σ) : Bool :=
  pull.fetched.any (·.1 ≤ pull.asked + limit)

end Pull

/-- What a reader gets who pauses before each item, one pause after the other. It asks for
nothing behind the end. -/
def pulls (next : Instant -> σ -> Fetched σ) : List Duration -> Instant -> σ -> List (Pull σ)
  | [], _, _ => []
  | pause :: later, start, state =>
      ⟨start + pause, next (start + pause) state⟩ ::
        match next (start + pause) state with
        | some (instant, some (_, rest)) => pulls next later instant rest
        | _ => []

/-- Two answers are the same for a reader, and what is left is related. -/
inductive Fetched.Agree (related : σ -> τ -> Prop) : Fetched σ -> Fetched τ -> Prop
  | never : Agree related none none
  | ended (instant : Instant) : Agree related (some (instant, none)) (some (instant, none))
  | item (instant : Instant) (content : Except Fault Bytes) {rest : σ} {other : τ} :
      related rest other ->
      Agree related (some (instant, some (content, rest))) (some (instant, some (content, other)))

/-- Readers see the same if the answers agree and go on to do so. -/
theorem seen_pulls_of_agree
    {related : σ -> τ -> Prop}
    {next : Instant -> σ -> Fetched σ} {nextOther : Instant -> τ -> Fetched τ}
    (agree : ∀ now state other, related state other ->
      Fetched.Agree related (next now state) (nextOther now other))
    (pauses : List Duration) (start : Instant) {state : σ} {other : τ}
    (isRelated : related state other) :
    (pulls next pauses start state).map Pull.seen =
      (pulls nextOther pauses start other).map Pull.seen := by
  induction pauses generalizing start state other with
  | nil => rfl
  | cons pause later inductionHypothesis =>
      have answers := agree (start + pause) state other isRelated
      simp only [pulls, List.map_cons]
      generalize next (start + pause) state = fetched at answers
      generalize nextOther (start + pause) other = fetchedOther at answers
      cases answers with
      | never => rfl
      | ended instant => rfl
      | item instant content stillRelated =>
          exact congrArg (List.cons _) (inductionHypothesis instant stillRelated)

/-! ## Bodies -/

namespace Source

/-- How long the next item or the end is waited for, if it ever comes. -/
def wait? : Source -> Option Duration
  | ⟨[], ending⟩ => ending
  | ⟨part :: _, _⟩ => some part.delay

/-- The next item and the rest behind it, unless the body is at its end. -/
def split? : Source -> Option (Except Fault Bytes × Source)
  | ⟨[], _⟩ => none
  | ⟨part :: rest, ending⟩ => some (part.content, ⟨rest, ending⟩)

/-- Ask a body for its next item. -/
def next (now : Instant) (source : Source) : Fetched Source :=
  source.wait?.map fun wait => (now + wait, source.split?)

/-- Ask a body for its next item and wait no longer than a limit. Once that was too long,
no body is left. -/
def nextWithin (limit : Duration) (now : Instant) : Option Source -> Fetched (Option Source)
  | none => some (now, none)
  | some source =>
      match await now source.wait? (some limit) none with
      | .arrived instant =>
          some (instant, source.split?.map fun (item, rest) => (item, some rest))
      | .timedOut instant => some (instant, some (.error (tooLong (some limit)), none))
      | _ => none

variable {source : Source} {limit : Duration} {now : Instant}

/-- What comes within the limit is handed on. -/
theorem nextWithin_of_within (within : source.wait?.any (· ≤ limit) = true) :
    nextWithin limit now (some source) =
      (source.next now).map fun (instant, got) =>
        (instant, got.map fun (item, rest) => (item, some rest)) := by
  cases isWait : source.wait? with
  | none => simp [isWait] at within
  | some wait =>
      have notLonger : wait ≤ limit := by simpa [isWait] using within
      rw [nextWithin, next, isWait, await_of_within notLonger]
      rfl

/-- Where nothing comes within the limit, there is a fault and the body is let go. -/
theorem nextWithin_of_beyond (beyond : source.wait?.any (· ≤ limit) = false) :
    nextWithin limit now (some source) =
      some (now + limit, some (.error (tooLong (some limit)), none)) := by
  rw [nextWithin, await_of_beyond beyond]

/-- A wait is too long for a reader if it is for the body. -/
theorem isWithin_next (limit : Duration) (now : Instant) (source : Source) :
    Pull.isWithin limit ⟨now, source.next now⟩ = source.wait?.any (· ≤ limit) := by
  cases isWait : source.wait? <;> simp [Pull.isWithin, next, isWait]

/-! ## Limited bodies -/

/-- What is left of a body is what is left of the limited one, which ends at once when
nothing is left. -/
def IsLimitedTo (limit : Duration) (limited : Source) : Option Source -> Prop
  | none => limited = ⟨[], some 0⟩
  | some source => limited = source.limited limit

/-- The limited body answers as if its waits were limited one by one. -/
theorem agree_limited
    (now : Instant) (limited : Source) (left : Option Source)
    (isLimited : IsLimitedTo limit limited left) :
    Fetched.Agree (IsLimitedTo limit) (limited.next now) (nextWithin limit now left) := by
  cases left with
  | none =>
      obtain rfl : limited = ⟨[], some 0⟩ := isLimited
      exact .ended now
  | some source =>
      obtain rfl : limited = source.limited limit := isLimited
      obtain ⟨parts, ending⟩ := source
      cases within : (Source.mk parts ending).wait?.any (· ≤ limit) with
      | false =>
          rw [nextWithin_of_beyond within]
          have isFault : limited limit ⟨parts, ending⟩ =
              ⟨[⟨limit, .error (tooLong (some limit))⟩], some 0⟩ := by
            cases parts with
            | nil => exact if_neg (by simpa [wait?] using within)
            | cons part rest => exact if_neg (by simpa [wait?] using within)
          rw [isFault]
          exact .item _ _ rfl
      | true =>
          rw [nextWithin_of_within within]
          cases parts with
          | nil =>
              have same : limited limit ⟨[], ending⟩ = ⟨[], ending⟩ := if_pos within
              rw [same]
              cases ending with
              | none => cases within
              | some wait => exact .ended _
          | cons part rest =>
              have split : limited limit ⟨part :: rest, ending⟩ =
                  ⟨part :: (limited limit ⟨rest, ending⟩).parts,
                    (limited limit ⟨rest, ending⟩).ending⟩ :=
                if_pos (by simpa [wait?] using within)
              rw [split]
              exact .item _ _ rfl

/-! ## Up to the first wait that is too long -/

section pulls

variable {pauses : List Duration} {start : Instant}

/-- As long as nothing comes too late, the limit changes nothing. -/
theorem pulls_nextWithin_of_within
    (within : ∀ pull ∈ pulls next pauses start source, pull.isWithin limit = true) :
    pulls (nextWithin limit) pauses start (some source) =
      (pulls next pauses start source).map (Pull.map some) := by
  induction pauses generalizing start source with
  | nil => rfl
  | cons pause later inductionHypothesis =>
      rw [pulls, List.forall_mem_cons, isWithin_next] at within
      obtain ⟨first, others⟩ := within
      rw [pulls, pulls, nextWithin_of_within first, List.map_cons]
      refine congrArg (List.cons _) ?_
      cases fetched : source.next (start + pause) with
      | none => rfl
      | some answer =>
          obtain ⟨instant, _ | ⟨item, rest⟩⟩ := answer
          · rfl
          · rw [fetched] at others
            exact inductionHypothesis others

/-- Behind a wait that was too long, a reader finds the end. -/
theorem pulls_nextWithin_none (limit : Duration) (pauses : List Duration) (start : Instant) :
    pulls (nextWithin limit) pauses start none =
      (pauses.head?.map fun pause => ⟨start + pause, some (start + pause, none)⟩).toList := by
  cases pauses <;> rfl

/-- The first item that comes too late is replaced by a fault, when the limit is reached. -/
theorem pulls_nextWithin_of_late
    {earlier later : List (Pull Source)} {late : Pull Source}
    (split : pulls next pauses start source = earlier ++ late :: later)
    (within : ∀ pull ∈ earlier, pull.isWithin limit = true)
    (beyond : late.isWithin limit = false) :
    pulls (nextWithin limit) pauses start (some source) =
      earlier.map (Pull.map some) ++
        ⟨late.asked, some (late.asked + limit, some (.error (tooLong (some limit)), none))⟩ ::
          (pauses[earlier.length + 1]?.map fun pause =>
            ⟨late.asked + limit + pause, some (late.asked + limit + pause, none)⟩).toList := by
  induction pauses generalizing start source earlier with
  | nil => simp [pulls] at split
  | cons pause others inductionHypothesis =>
      rw [pulls] at split
      cases earlier with
      | nil =>
          obtain ⟨rfl, _⟩ := List.cons.inj split
          rw [isWithin_next] at beyond
          rw [pulls, nextWithin_of_beyond beyond]
          simp [pulls_nextWithin_none, List.head?_eq_getElem?]
      | cons first rest =>
          obtain ⟨rfl, behind⟩ := List.cons.inj split
          rw [List.forall_mem_cons, isWithin_next] at within
          obtain ⟨inTime, restInTime⟩ := within
          rw [pulls, nextWithin_of_within inTime]
          cases fetched : source.next (start + pause) with
          | none => simp [fetched] at behind
          | some answer =>
              obtain ⟨instant, _ | ⟨item, left⟩⟩ := answer
              · simp [fetched] at behind
              · rw [fetched] at behind
                have goesOn := inductionHypothesis behind restInTime
                simp only [Option.map_some, goesOn, List.map_cons, List.cons_append,
                  List.length_cons, List.getElem?_cons_succ]
                rfl

end pulls

/-- For every body and limit, and a reader who pauses as it likes: a body that is handed on
with a limit is read like the plain one whose waits are limited one by one. If every item
and the end come within the limit after they were asked for, everything comes as without
it, at the same instants. Otherwise this is so up to the first item, or the end, that comes
too late or never: in its place there is one fault, just when the limit is reached; no body
is left then, and the reader finds the end as soon as it asks again. -/
theorem limits_are_transparent_until_they_fire
    (limit : Duration) (source : Source) (pauses : List Duration) (start : Instant) :
    let plain := pulls next pauses start source
    let limited := pulls (nextWithin limit) pauses start (some source)
    (pulls next pauses start (source.limited limit)).map Pull.seen = limited.map Pull.seen ∧
    ((∀ pull ∈ plain, pull.isWithin limit = true) -> limited = plain.map (Pull.map some)) ∧
    ∀ earlier late later, plain = earlier ++ late :: later ->
      (∀ pull ∈ earlier, pull.isWithin limit = true) -> late.isWithin limit = false ->
        limited = earlier.map (Pull.map some) ++
          ⟨late.asked, some (late.asked + limit,
            some (.error (.timeout (limit.millis % UInt64.size)), none))⟩ ::
          (pauses[earlier.length + 1]?.map fun pause =>
            ⟨late.asked + limit + pause, some (late.asked + limit + pause, none)⟩).toList := by
  intro plain limited
  refine ⟨?_, ?_, ?_⟩
  · exact seen_pulls_of_agree agree_limited pauses start rfl
  · exact pulls_nextWithin_of_within
  · intro earlier late later split within beyond
    exact pulls_nextWithin_of_late split within beyond

/-- Behind a part that comes in time, the second one takes longer than a limit of 50
milliseconds, and the reader finds the end after another pause. The pauses do not count. -/
theorem limits_are_transparent_until_they_fire_at_second_part :
    let source : Source := ⟨[⟨40000000, .ok [97]⟩, ⟨90000000, .ok [98]⟩], some 0⟩
    let pauses : List Duration := [5000000, 500000000, 3000000]
    pulls next pauses 0 source =
        [⟨5000000, some (45000000, some (.ok [97], ⟨[⟨90000000, .ok [98]⟩], some 0⟩))⟩,
          ⟨545000000, some (635000000, some (.ok [98], ⟨[], some 0⟩))⟩,
          ⟨638000000, some (638000000, none)⟩] ∧
      pulls (nextWithin 50000000) pauses 0 (some source) =
        [⟨5000000,
            some (45000000, some (.ok [97], some ⟨[⟨90000000, .ok [98]⟩], some 0⟩))⟩,
          ⟨545000000, some (595000000, some (.error (.timeout 50), none))⟩,
          ⟨598000000, some (598000000, none)⟩] ∧
      pulls (nextWithin 100000000) pauses 0 (some source) =
        (pulls next pauses 0 source).map (Pull.map some) := by
  intro source pauses
  have plain : pulls next pauses 0 source =
      [⟨5000000, some (45000000, some (.ok [97], ⟨[⟨90000000, .ok [98]⟩], some 0⟩))⟩] ++
        ⟨545000000, some (635000000, some (.ok [98], ⟨[], some 0⟩))⟩ ::
          [⟨638000000, some (638000000, none)⟩] := rfl
  obtain ⟨_, _, fires⟩ := limits_are_transparent_until_they_fire 50000000 source pauses 0
  obtain ⟨_, transparent, _⟩ := limits_are_transparent_until_they_fire 100000000 source pauses 0
  have fired := fires _ _ _ plain (by decide +kernel) (by decide +kernel)
  exact ⟨plain, fired, transparent (by decide +kernel)⟩

end Source
end Http
end BlockFeed
