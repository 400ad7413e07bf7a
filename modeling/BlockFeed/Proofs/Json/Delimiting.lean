import BlockFeed.Json.Reader

/-!
# Where readers stop

A string, an array or an object has a last octet of its own, so that whoever
reads it knows its end without looking any further: what is added to the input
is left over. A number or layout goes on as long as the input allows; its reader
knows the end only once something follows.

Both kinds are closed under reading one thing after the other. What begins with
something that needs a follower delimits itself if the follower does and cannot
be missing.
-/

namespace BlockFeed
namespace Json
namespace Reader

/-- A reader that knows its end once something follows. -/
structure Delimited (reader : Reader α) : Prop where
  shortens : ∀ {input value rest}, reader input = .ok (value, rest) ->
    rest.length ≤ input.length
  prolongs : ∀ {input value rest}, reader input = .ok (value, rest) -> rest ≠ [] ->
    ∀ more, reader (input ++ more) = .ok (value, rest ++ more)

/-- A reader that knows its end by itself. -/
structure SelfDelimiting (reader : Reader α) : Prop where
  shortens : ∀ {input value rest}, reader input = .ok (value, rest) ->
    rest.length ≤ input.length
  prolongs : ∀ {input value rest}, reader input = .ok (value, rest) ->
    ∀ more, reader (input ++ more) = .ok (value, rest ++ more)

/-- A reader that knows its end by itself where an octet stands. -/
structure SelfDelimitingAt (octet : UInt8) (reader : Reader α) : Prop where
  shortens : ∀ {input value rest}, reader (octet :: input) = .ok (value, rest) ->
    rest.length ≤ input.length + 1
  prolongs : ∀ {input value rest}, reader (octet :: input) = .ok (value, rest) ->
    ∀ more, reader (octet :: input ++ more) = .ok (value, rest ++ more)

/-- A reader that, where an octet stands, knows its end once something
follows. -/
structure DelimitedAt (octet : UInt8) (reader : Reader α) : Prop where
  shortens : ∀ {input value rest}, reader (octet :: input) = .ok (value, rest) ->
    rest.length ≤ input.length + 1
  prolongs : ∀ {input value rest}, reader (octet :: input) = .ok (value, rest) -> rest ≠ [] ->
    ∀ more, reader (octet :: input ++ more) = .ok (value, rest ++ more)

/-- A reader that reads nothing from an empty input. -/
def NeedsInput (reader : Reader α) : Prop :=
  ∀ result, reader [] ≠ .ok result

/-! ## One reader after the other -/

/-- Two computations in turn have no problem if neither has. -/
theorem except_bind_eq_ok
    {first : Except Problem α} {next : α -> Except Problem β} {result : β} :
    (first >>= next) = .ok result ↔
      ∃ value, first = .ok value ∧ next value = .ok result := by
  cases first with
  | error problem => simp [bind, Except.bind]
  | ok value => simp [bind, Except.bind]

/-- Both readers have read something. -/
theorem bind_eq_ok
    {first : Reader α} {next : α -> Reader β} {input : Bytes} {result : β × Bytes} :
    (first >>= next) input = .ok result ↔
      ∃ value rest, first input = .ok (value, rest) ∧ next value rest = .ok result := by
  refine except_bind_eq_ok.trans ?_
  constructor
  · rintro ⟨⟨value, rest⟩, readFirst, readNext⟩
    exact ⟨value, rest, readFirst, readNext⟩
  · rintro ⟨value, rest, readFirst, readNext⟩
    exact ⟨(value, rest), readFirst, readNext⟩

@[simp] theorem pure_eq_ok {value : α} {input : Bytes} {result : α × Bytes} :
    (pure value : Reader α) input = .ok result ↔ (value, input) = result :=
  ⟨Except.ok.inj, congrArg Except.ok⟩

@[simp] theorem fail_eq_ok {problem : Problem} {input : Bytes} {result : α × Bytes} :
    (fail problem : Reader α) input = .ok result ↔ False := by
  simp [fail]

theorem SelfDelimiting.delimited {reader : Reader α} (self : reader.SelfDelimiting) :
    reader.Delimited :=
  ⟨self.shortens, fun read _ => self.prolongs read⟩

theorem SelfDelimiting.at
    {reader : Reader α}
    (self : reader.SelfDelimiting)
    (octet : UInt8) :
    reader.SelfDelimitingAt octet :=
  ⟨self.shortens, self.prolongs⟩

theorem Delimited.at
    {reader : Reader α}
    (delimited : reader.Delimited)
    (octet : UInt8) :
    reader.DelimitedAt octet :=
  ⟨delimited.shortens, delimited.prolongs⟩

theorem SelfDelimitingAt.delimitedAt
    {reader : Reader α} {octet : UInt8}
    (self : reader.SelfDelimitingAt octet) :
    reader.DelimitedAt octet :=
  ⟨self.shortens, fun read _ => self.prolongs read⟩

theorem selfDelimiting_pure (value : α) : SelfDelimiting (pure value) where
  shortens read := by
    rw [pure_eq_ok] at read
    cases read
    exact Nat.le_refl _
  prolongs read more := by
    rw [pure_eq_ok] at read
    cases read
    rfl

theorem selfDelimiting_fail (problem : Problem) :
    SelfDelimiting (fail problem : Reader α) where
  shortens read := by simp at read
  prolongs read := by simp at read

/-- A computation that reads nothing has its result and leaves the input. -/
theorem lift_eq_ok
    {computation : Except Problem α} {input : Bytes} {result : α × Bytes} :
    (liftM computation : Reader α) input = .ok result ↔
      ∃ value, computation = .ok value ∧ (value, input) = result := by
  cases computation with
  | error problem =>
      constructor
      · exact nofun
      · rintro ⟨value, isOk, _⟩
        cases isOk
  | ok value =>
      constructor
      · intro read
        exact ⟨value, rfl, Except.ok.inj read⟩
      · rintro ⟨same, isOk, isResult⟩
        cases isOk
        exact congrArg Except.ok isResult

theorem selfDelimiting_lift (computation : Except Problem α) :
    SelfDelimiting (liftM computation : Reader α) where
  shortens read := by
    obtain ⟨value, _, same⟩ := lift_eq_ok.mp read
    cases same
    exact Nat.le_refl _
  prolongs read more := by
    obtain ⟨value, isValue, same⟩ := lift_eq_ok.mp read
    cases same
    exact lift_eq_ok.mpr ⟨_, isValue, rfl⟩

theorem SelfDelimiting.bind
    {first : Reader α} {next : α -> Reader β}
    (selfFirst : first.SelfDelimiting)
    (selfNext : ∀ value, (next value).SelfDelimiting) :
    (first >>= next).SelfDelimiting where
  shortens read := by
    obtain ⟨value, middle, readFirst, readNext⟩ := bind_eq_ok.mp read
    exact Nat.le_trans ((selfNext value).shortens readNext) (selfFirst.shortens readFirst)
  prolongs read more := by
    obtain ⟨value, middle, readFirst, readNext⟩ := bind_eq_ok.mp read
    exact bind_eq_ok.mpr ⟨value, middle ++ more, selfFirst.prolongs readFirst more,
      (selfNext value).prolongs readNext more⟩

theorem Delimited.bind
    {first : Reader α} {next : α -> Reader β}
    (delimitedFirst : first.Delimited)
    (delimitedNext : ∀ value, (next value).Delimited) :
    (first >>= next).Delimited where
  shortens read := by
    obtain ⟨value, middle, readFirst, readNext⟩ := bind_eq_ok.mp read
    exact Nat.le_trans ((delimitedNext value).shortens readNext)
      (delimitedFirst.shortens readFirst)
  prolongs read someRest more := by
    obtain ⟨value, middle, readFirst, readNext⟩ := bind_eq_ok.mp read
    have someMiddle : middle ≠ [] := by
      intro none
      have noLonger := (delimitedNext value).shortens readNext
      rw [none] at noLonger
      exact someRest (List.length_eq_zero_iff.mp (Nat.le_zero.mp noLonger))
    exact bind_eq_ok.mpr ⟨value, middle ++ more,
      delimitedFirst.prolongs readFirst someMiddle more,
      (delimitedNext value).prolongs readNext someRest more⟩

/-- What needs a follower and is followed by what delimits itself and cannot be
missing delimits itself. -/
theorem Delimited.bindSelf
    {first : Reader α} {next : α -> Reader β}
    (delimitedFirst : first.Delimited)
    (selfNext : ∀ value, (next value).SelfDelimiting)
    (needsNext : ∀ value, (next value).NeedsInput) :
    (first >>= next).SelfDelimiting where
  shortens read := by
    obtain ⟨value, middle, readFirst, readNext⟩ := bind_eq_ok.mp read
    exact Nat.le_trans ((selfNext value).shortens readNext)
      (delimitedFirst.shortens readFirst)
  prolongs read more := by
    obtain ⟨value, middle, readFirst, readNext⟩ := bind_eq_ok.mp read
    have someMiddle : middle ≠ [] := by
      intro none
      rw [none] at readNext
      exact needsNext value _ readNext
    exact bind_eq_ok.mpr ⟨value, middle ++ more,
      delimitedFirst.prolongs readFirst someMiddle more,
      (selfNext value).prolongs readNext more⟩

/-! ## Looking at the next octet -/

/-- A reader is delimited if it is wherever an octet stands. -/
theorem Delimited.of_octets
    {reader : Reader α}
    (atEnd : ∀ {value rest}, reader [] = .ok (value, rest) -> rest = [])
    (atOctet : ∀ octet, reader.DelimitedAt octet) :
    reader.Delimited where
  shortens := by
    intro input value rest read
    cases input with
    | nil => simp [atEnd read]
    | cons octet input => exact (atOctet octet).shortens read
  prolongs := by
    intro input value rest read someRest more
    cases input with
    | nil => exact absurd (atEnd read) someRest
    | cons octet input => exact (atOctet octet).prolongs read someRest more

/-- A reader that drops an octet and goes on like another one. -/
theorem DelimitedAt.of_behind
    {reader behind : Reader α} {octet : UInt8}
    (same : ∀ input, reader (octet :: input) = behind input)
    (delimited : behind.Delimited) :
    reader.DelimitedAt octet where
  shortens := by
    intro input value rest read
    rw [same] at read
    exact Nat.le_succ_of_le (delimited.shortens read)
  prolongs := by
    intro input value rest read someRest more
    rw [same] at read
    rw [List.cons_append, same]
    exact delimited.prolongs read someRest more

/-- A reader that does where an octet stands what another one does. -/
theorem DelimitedAt.of_same
    {reader other : Reader α} {octet : UInt8}
    (same : ∀ input, reader (octet :: input) = other (octet :: input))
    (delimited : other.Delimited) :
    reader.DelimitedAt octet where
  shortens := by
    intro input value rest read
    rw [same] at read
    exact delimited.shortens read
  prolongs := by
    intro input value rest read someRest more
    rw [same] at read
    rw [List.cons_append, same]
    exact delimited.prolongs read someRest more

section peek

variable {next : Option UInt8 -> Reader α}

/-- A choice by the next octet delimits itself if every branch does and the end
of the input is not among them. -/
theorem selfDelimiting_peek
    (atEnd : ∀ result, next none [] ≠ .ok result)
    (atOctet : ∀ octet, (next (some octet)).SelfDelimitingAt octet) :
    (peek >>= next).SelfDelimiting where
  shortens := by
    intro input value rest read
    cases input with
    | nil => exact absurd read (atEnd _)
    | cons octet input => exact (atOctet octet).shortens read
  prolongs := by
    intro input value rest read more
    cases input with
    | nil => exact absurd read (atEnd _)
    | cons octet input => exact (atOctet octet).prolongs read more

/-- A choice by the next octet is delimited if every branch is and the end of the
input is not among them. -/
theorem delimited_peek
    (atEnd : ∀ result, next none [] ≠ .ok result)
    (atOctet : ∀ octet, (next (some octet)).DelimitedAt octet) :
    (peek >>= next).Delimited :=
  .of_octets (fun read => absurd read (atEnd _)) fun octet =>
    ⟨(atOctet octet).shortens, (atOctet octet).prolongs⟩

theorem needsInput_peek (atEnd : ∀ result, next none [] ≠ .ok result) :
    (peek >>= next).NeedsInput :=
  atEnd

end peek

theorem SelfDelimitingAt.drop (octet : UInt8) : drop.SelfDelimitingAt octet where
  shortens read := by
    cases read
    exact Nat.le_succ _
  prolongs read more := by
    cases read
    rfl

/-- Where an octet stands, whatever follows it may be read after dropping it. -/
theorem SelfDelimitingAt.dropBind
    (octet : UInt8)
    {next : Unit -> Reader α}
    (selfNext : (next ()).SelfDelimiting) :
    (Reader.drop >>= next).SelfDelimitingAt octet where
  shortens read := Nat.le_succ_of_le (selfNext.shortens read)
  prolongs read more := selfNext.prolongs read more

theorem delimited_skipLayout : skipLayout.Delimited where
  shortens read := by
    cases read
    exact (List.dropWhile_suffix _).length_le
  prolongs := by
    intro input value rest read someRest more
    cases read
    have sameEnd : (input ++ more).dropWhile isLayout = input.dropWhile isLayout ++ more := by
      rw [List.dropWhile_append, if_neg (by simpa using someRest)]
    rw [skipLayout, sameEnd]

/-- A choice by the first octet behind layout delimits itself if every branch
does and the end of the input is not among them. -/
theorem selfDelimiting_layout
    {next : Option UInt8 -> Reader α}
    (atEnd : ∀ result, next none [] ≠ .ok result)
    (atOctet : ∀ octet, (next (some octet)).SelfDelimitingAt octet) :
    (skipLayout >>= fun _ => peek >>= next).SelfDelimiting :=
  delimited_skipLayout.bindSelf (fun _ => selfDelimiting_peek atEnd atOctet)
    (fun _ => needsInput_peek atEnd)

/-- A choice by the first octet behind layout is delimited if every branch is and
the end of the input is not among them. -/
theorem delimited_layout
    {next : Option UInt8 -> Reader α}
    (atEnd : ∀ result, next none [] ≠ .ok result)
    (atOctet : ∀ octet, (next (some octet)).DelimitedAt octet) :
    (skipLayout >>= fun _ => peek >>= next).Delimited :=
  delimited_skipLayout.bind fun _ => delimited_peek atEnd atOctet

theorem needsInput_layout
    {next : Option UInt8 -> Reader α}
    (atEnd : ∀ result, next none [] ≠ .ok result) :
    (skipLayout >>= fun _ => peek >>= next).NeedsInput :=
  atEnd

end Reader
end Json
end BlockFeed
