import BlockFeed.Proofs.Json.Delimiting

/-!
# How far the readers of JSON look

Strings, arrays, objects and the punctuation in them delimit themselves, and a
value of any kind is delimited. More input than needed only means that more
steps are allowed, which changes nothing.
-/

namespace BlockFeed
namespace Json
namespace Reader

/-! ## Words and strings -/

theorem selfDelimiting_word (expected : Bytes) : (word expected).SelfDelimiting := by
  induction expected with
  | nil =>
      refine ⟨fun read => ?_, fun read more => ?_⟩
      · cases read
        exact Nat.le_refl _
      · cases read
        rfl
  | cons octet expected inductionHypothesis =>
      refine ⟨?_, ?_⟩
      · intro input value rest read
        cases input with
        | nil => simp [word] at read
        | cons first input =>
            unfold word at read
            split at read
            · exact Nat.le_succ_of_le (inductionHypothesis.shortens read)
            · cases read
      · intro input value rest read more
        cases input with
        | nil => simp [word] at read
        | cons first input =>
            unfold word at read
            split at read
            · next same =>
                rw [List.cons_append, word, if_pos same]
                exact inductionHypothesis.prolongs read more
            · cases read

theorem selfDelimiting_hexUnit : hexUnit.SelfDelimiting := by
  refine ⟨?_, ?_⟩
  · intro input value rest read
    unfold hexUnit at read
    split at read
    · split at read
      · cases read
        simp only [List.length_cons]
        omega
      · cases read
    · cases read
  · intro input value rest read more
    unfold hexUnit at read
    split at read
    · split at read
      · next _ _ _ _ tail a b c d first second third fourth =>
          cases read
          simp [hexUnit, first, second, third, fourth]
      · cases read
    · cases read

theorem selfDelimiting_trailingUnit : trailingUnit.SelfDelimiting := by
  refine ⟨?_, ?_⟩
  · intro input value rest read
    unfold trailingUnit at read
    split at read
    · cases read
    · cases read
    · exact Nat.le_succ_of_le (Nat.le_succ_of_le (selfDelimiting_hexUnit.shortens read))
    · cases read
  · intro input value rest read more
    unfold trailingUnit at read
    split at read
    · cases read
    · cases read
    · exact selfDelimiting_hexUnit.prolongs read more
    · cases read

theorem selfDelimiting_escapedUnit : escapedUnit.SelfDelimiting := by
  refine selfDelimiting_hexUnit.bind fun unit => ?_
  split
  · exact selfDelimiting_fail _
  · split
    · refine selfDelimiting_trailingUnit.bind fun next => ?_
      split
      · exact selfDelimiting_pure _
      · exact selfDelimiting_fail _
    · exact selfDelimiting_pure _

theorem selfDelimiting_escape : escape.SelfDelimiting := by
  refine ⟨?_, ?_⟩
  · intro input value rest read
    unfold escape at read
    split at read
    case h_10 => exact Nat.le_succ_of_le (selfDelimiting_escapedUnit.shortens read)
    all_goals
      cases read
      try exact Nat.le_succ _
  · intro input value rest read more
    unfold escape at read
    split at read
    case h_10 => exact selfDelimiting_escapedUnit.prolongs read more
    all_goals
      cases read
      try rfl

/-- A string that ends within a number of steps ends there however many are
allowed and whatever follows. -/
theorem stringOctets_prolongs
    {steps more : Nat} {input value rest : Bytes}
    (read : stringOctets steps input = .ok (value, rest))
    (enough : steps ≤ more)
    (added : Bytes) :
    rest.length ≤ input.length ∧
      stringOctets more (input ++ added) = .ok (value, rest ++ added) := by
  induction steps generalizing more input value rest with
  | zero => cases input <;> simp [stringOctets] at read
  | succ steps inductionHypothesis =>
      obtain ⟨further, rfl⟩ : ∃ further, more = further + 1 := ⟨more - 1, by omega⟩
      have enoughBehind : steps ≤ further := Nat.le_of_succ_le_succ enough
      cases input with
      | nil => simp [stringOctets] at read
      | cons octet input =>
          rw [stringOctets] at read
          rw [List.cons_append, stringOctets]
          split at read
          · next isQuote =>
              cases read
              exact ⟨Nat.le_succ _, by rw [if_pos isQuote]⟩
          · next notQuote =>
              rw [if_neg notQuote]
              split at read
              · next isEscape =>
                  rw [if_pos isEscape]
                  obtain ⟨⟨character, behind⟩, escaped, read⟩ := except_bind_eq_ok.mp read
                  obtain ⟨⟨octets, remaining⟩, others, read⟩ := except_bind_eq_ok.mp read
                  cases read
                  obtain ⟨shorter, longer⟩ := inductionHypothesis others enoughBehind
                  have shorterEscape := selfDelimiting_escape.shortens escaped
                  refine ⟨by simp only [List.length_cons]; omega, ?_⟩
                  exact except_bind_eq_ok.mpr ⟨_, selfDelimiting_escape.prolongs escaped added,
                    except_bind_eq_ok.mpr ⟨_, longer, rfl⟩⟩
              · next notEscape =>
                  rw [if_neg notEscape]
                  split at read
                  · cases read
                  · next notControl =>
                      rw [if_neg notControl]
                      obtain ⟨⟨octets, remaining⟩, others, read⟩ := except_bind_eq_ok.mp read
                      cases read
                      obtain ⟨shorter, longer⟩ := inductionHypothesis others enoughBehind
                      exact ⟨Nat.le_succ_of_le shorter,
                        except_bind_eq_ok.mpr ⟨_, longer, rfl⟩⟩

theorem selfDelimiting_stringBody : stringBody.SelfDelimiting := by
  have inSteps : ∀ {input value rest}, stringBody input = .ok (value, rest) ->
      ∀ added, rest.length ≤ input.length ∧
        stringBody (input ++ added) = .ok (value, rest ++ added) := by
    intro input value rest read added
    obtain ⟨⟨octets, remaining⟩, isString, read⟩ := except_bind_eq_ok.mp read
    have enough : input.length + 1 ≤ (input ++ added).length + 1 := by simp
    obtain ⟨shorter, longer⟩ := stringOctets_prolongs isString enough added
    cases text : octets.toString? with
    | none => simp [text, throw, throwThe, MonadExceptOf.throw] at read
    | some decoded =>
        simp only [text] at read
        cases read
        refine ⟨shorter, except_bind_eq_ok.mpr ⟨_, longer, ?_⟩⟩
        simp only [text]
        rfl
  exact ⟨fun read => (inSteps read []).1, fun read more => (inSteps read more).2⟩

/-! ## Numbers -/

/-- Digits end where something else follows. -/
theorem spanDigits_append
    {input rest : Bytes} {digits : List Nat}
    (span : spanDigits input = (digits, rest))
    (someRest : rest ≠ [])
    (added : Bytes) :
    spanDigits (input ++ added) = (digits, rest ++ added) := by
  induction input generalizing digits rest with
  | nil =>
      cases span
      exact absurd rfl someRest
  | cons octet input inductionHypothesis =>
      rw [spanDigits] at span
      rw [List.cons_append, spanDigits]
      split at span
      · next digit isDigit =>
          generalize others : spanDigits input = pair at span
          obtain ⟨values, remaining⟩ := pair
          cases span
          rw [inductionHypothesis others someRest]
      · cases span
        rfl

theorem spanDigits_shortens (input : Bytes) :
    (spanDigits input).2.length ≤ input.length := by
  induction input with
  | nil => exact Nat.le_refl _
  | cons octet input inductionHypothesis =>
      rw [spanDigits]
      split
      · exact Nat.le_succ_of_le inductionHypothesis
      · exact Nat.le_refl _

/-- Read digits, of which there must be some. -/
def someDigits : Reader (List Nat) := fun input =>
  match spanDigits input with
  | ([], remaining) => .error (Numeral.missingDigit remaining)
  | (digits, remaining) => .ok (digits, remaining)

theorem delimited_someDigits : someDigits.Delimited := by
  refine ⟨?_, ?_⟩
  · intro input value rest read
    have shorter := spanDigits_shortens input
    unfold someDigits at read
    split at read
    · cases read
    · next span =>
        cases read
        rwa [span] at shorter
  · intro input value rest read someRest more
    unfold someDigits at read
    split at read
    · cases read
    · next notEmpty span =>
        cases read
        rw [someDigits, spanDigits_append span someRest more]
        split
        · simp_all
        · next same =>
            cases same
            rfl

/-- Refuse digits with a leading zero. -/
def withoutLeadingZero : List Nat -> Reader (List Nat)
  | 0 :: _ :: _ => fail .invalidNumber
  | digits => pure digits

theorem readWhole_eq :
    (Numeral.readWhole : Reader (List Nat)) = someDigits >>= withoutLeadingZero := by
  funext input
  simp only [Numeral.readWhole, bind, StateT.bind, Except.bind, someDigits]
  generalize spanDigits input = pair
  obtain ⟨_ | ⟨_ | _, _ | _⟩, _⟩ := pair <;> rfl

theorem delimited_readWhole : Delimited (Numeral.readWhole : Reader (List Nat)) := by
  rw [readWhole_eq]
  refine delimited_someDigits.bind fun digits => ?_
  unfold withoutLeadingZero
  split
  · exact (selfDelimiting_fail _).delimited
  · exact (selfDelimiting_pure _).delimited

/-- Read the fraction behind its point. -/
def fraction : Reader (Option (List Nat)) := do
  let digits ← someDigits
  return some digits

theorem readFraction_point (input : Bytes) :
    Numeral.readFraction? (0x2e :: input) = fraction input := by
  simp only [Numeral.readFraction?, fraction, bind, StateT.bind, Except.bind, someDigits]
  generalize spanDigits input = pair
  obtain ⟨_ | _, _⟩ := pair <;> rfl

theorem readFraction_other {octet : UInt8} (noPoint : octet ≠ 0x2e) (input : Bytes) :
    Numeral.readFraction? (octet :: input) = .ok (none, octet :: input) := by
  unfold Numeral.readFraction?
  split
  · next same =>
      cases same
      exact absurd rfl noPoint
  · rfl

theorem delimited_readFraction :
    Delimited (Numeral.readFraction? : Reader (Option (List Nat))) := by
  have behindPoint : fraction.Delimited :=
    delimited_someDigits.bind fun digits => (selfDelimiting_pure _).delimited
  refine .of_octets (fun read => by cases read; rfl) fun octet => ?_
  by_cases isPoint : octet = 0x2e
  · subst isPoint
    exact .of_behind readFraction_point behindPoint
  · exact .of_same (readFraction_other isPoint) (selfDelimiting_pure none).delimited

/-- An optional sign, whether it is a minus, and what follows it. -/
def signOf : Bytes -> Bool × Bytes
  | 0x2b :: rest => (false, rest)
  | 0x2d :: rest => (true, rest)
  | rest => (false, rest)

/-- Read an optional sign. -/
def sign : Reader Bool := fun input => .ok (signOf input)

theorem sign_other {octet : UInt8} (noPlus : octet ≠ 0x2b) (noMinus : octet ≠ 0x2d)
    (input : Bytes) :
    sign (octet :: input) = .ok (false, octet :: input) := by
  refine congrArg Except.ok (?_ : signOf (octet :: input) = (false, octet :: input))
  unfold signOf
  split
  · next same =>
      cases same
      exact absurd rfl noPlus
  · next same =>
      cases same
      exact absurd rfl noMinus
  · rfl

theorem delimited_sign : sign.Delimited := by
  refine .of_octets (fun read => by cases read; rfl) fun octet => ?_
  by_cases isPlus : octet = 0x2b
  · refine .of_behind (fun input => ?_) (selfDelimiting_pure false).delimited
    rw [isPlus]
    rfl
  · by_cases isMinus : octet = 0x2d
    · refine .of_behind (fun input => ?_) (selfDelimiting_pure true).delimited
      rw [isMinus]
      rfl
    · exact .of_same (sign_other isPlus isMinus) (selfDelimiting_pure false).delimited

theorem readExponent_eq :
    (Numeral.readExponent : Reader (Bool × List Nat)) = (do
      let negative ← sign
      let digits ← someDigits
      return (negative, digits) : Reader (Bool × List Nat)) := by
  funext input
  have behindSign : Numeral.readExponent input =
      match spanDigits (signOf input).2 with
      | ([], remaining) => .error (Numeral.missingDigit remaining)
      | (digits, remaining) => .ok (((signOf input).1, digits), remaining) := rfl
  rw [behindSign]
  simp only [bind, StateT.bind, Except.bind, sign, someDigits]
  generalize spanDigits (signOf input).2 = pair
  obtain ⟨_ | _, _⟩ := pair <;> rfl

theorem delimited_readExponent :
    Delimited (Numeral.readExponent : Reader (Bool × List Nat)) := by
  rw [readExponent_eq]
  refine delimited_sign.bind fun negative => ?_
  exact delimited_someDigits.bind fun digits => (selfDelimiting_pure _).delimited

/-- Read the exponent behind its letter. -/
def exponent : Reader (Option (Bool × List Nat)) := do
  let exponent ← (Numeral.readExponent : Reader (Bool × List Nat))
  return some exponent

theorem readExponent?_letter {octet : UInt8} (isLetter : (octet == 0x65 || octet == 0x45) = true)
    (input : Bytes) :
    Numeral.readExponent? (octet :: input) = exponent input := by
  rw [Numeral.readExponent?, if_pos isLetter]
  simp only [exponent, bind, StateT.bind]
  cases Numeral.readExponent input <;> rfl

theorem readExponent?_other {octet : UInt8} (noLetter : (octet == 0x65 || octet == 0x45) = false)
    (input : Bytes) :
    Numeral.readExponent? (octet :: input) = .ok (none, octet :: input) := by
  rw [Numeral.readExponent?, if_neg (by simp [noLetter])]

theorem delimited_readExponent? :
    Delimited (Numeral.readExponent? : Reader (Option (Bool × List Nat))) := by
  have behindLetter : exponent.Delimited :=
    delimited_readExponent.bind fun exponent => (selfDelimiting_pure _).delimited
  refine .of_octets (fun read => by cases read; rfl) fun octet => ?_
  cases isLetter : octet == 0x65 || octet == 0x45 with
  | true => exact .of_behind (readExponent?_letter isLetter) behindLetter
  | false => exact .of_same (readExponent?_other isLetter) (selfDelimiting_pure none).delimited

theorem readUnsigned_eq (negative : Bool) :
    (Numeral.readUnsigned negative : Reader Numeral) = (do
      let whole ← (Numeral.readWhole : Reader (List Nat))
      let fraction ← (Numeral.readFraction? : Reader (Option (List Nat)))
      let exponent ← (Numeral.readExponent? : Reader (Option (Bool × List Nat)))
      return ⟨negative, whole, fraction, exponent⟩ : Reader Numeral) := rfl

theorem delimited_readUnsigned (negative : Bool) :
    Delimited (Numeral.readUnsigned negative : Reader Numeral) := by
  rw [readUnsigned_eq]
  refine delimited_readWhole.bind fun whole => ?_
  refine delimited_readFraction.bind fun fraction => ?_
  exact delimited_readExponent?.bind fun exponent => (selfDelimiting_pure _).delimited

theorem read_other {octet : UInt8} (noMinus : octet ≠ 0x2d) (input : Bytes) :
    Numeral.read (octet :: input) = Numeral.readUnsigned false (octet :: input) := by
  unfold Numeral.read
  split
  · next same =>
      cases same
      exact absurd rfl noMinus
  · rfl

theorem delimited_readNumeral : Delimited (Numeral.read : Reader Numeral) := by
  refine .of_octets (fun read => by cases read) fun octet => ?_
  by_cases isMinus : octet = 0x2d
  · refine .of_behind (fun input => ?_) (delimited_readUnsigned true)
    rw [isMinus]
    rfl
  · exact .of_same (read_other isMinus) (delimited_readUnsigned false)

theorem number_eq :
    number = (do
      let numeral ← (Numeral.read : Reader Numeral)
      liftM numeral.value : Reader Number) := by
  funext input
  cases numeral : Numeral.read input with
  | error problem => simp [number, bind, StateT.bind, Except.bind, numeral]
  | ok pair => rfl

theorem delimited_number : number.Delimited := by
  rw [number_eq]
  exact delimited_readNumeral.bind fun numeral => (selfDelimiting_lift _).delimited

/-! ## Punctuation -/

theorem selfDelimiting_nextElement (first : Bool) : (nextElement first).SelfDelimiting := by
  refine selfDelimiting_layout (by simp) fun octet => ?_
  split
  · next none => cases none
  · exact (selfDelimiting_pure _).at _
  · next next _ same =>
      cases same
      split
      · exact (selfDelimiting_pure _).at _
      · split
        · refine .dropBind _ (selfDelimiting_layout (by simp) fun octet => ?_)
          split
          · next none => cases none
          · exact (selfDelimiting_fail _).at _
          · exact (selfDelimiting_pure _).at _
        · exact (selfDelimiting_fail _).at _

theorem selfDelimiting_closeList : closeList.SelfDelimiting := by
  refine selfDelimiting_layout (by simp) fun octet => ?_
  split
  · next none => cases none
  · exact .drop _
  · refine .dropBind _ (selfDelimiting_layout (by simp) fun octet => ?_)
    split <;> exact (selfDelimiting_fail _).at _
  · exact (selfDelimiting_fail _).at _

theorem selfDelimitingAt_key (octet : UInt8) : key.SelfDelimitingAt octet :=
  .dropBind octet (selfDelimiting_stringBody.bind fun _ => selfDelimiting_pure _)

theorem selfDelimiting_nextKey (first : Bool) : (nextKey first).SelfDelimiting := by
  refine selfDelimiting_layout (by simp) fun octet => ?_
  split
  · next none => cases none
  · exact .dropBind _ (selfDelimiting_pure _)
  · next next _ same =>
      cases same
      split
      · split
        · exact selfDelimitingAt_key _
        · exact (selfDelimiting_fail _).at _
      · split
        · refine .dropBind _ (selfDelimiting_layout (by simp) fun octet => ?_)
          split
          · next none => cases none
          · exact selfDelimitingAt_key _
          · exact (selfDelimiting_fail _).at _
          · exact (selfDelimiting_fail _).at _
        · exact (selfDelimiting_fail _).at _

theorem selfDelimiting_colon : colon.SelfDelimiting := by
  refine selfDelimiting_layout (by simp) fun octet => ?_
  split
  · next none => cases none
  · exact .drop _
  · exact (selfDelimiting_fail _).at _

theorem needsInput_nextElement (first : Bool) : (nextElement first).NeedsInput :=
  needsInput_layout (by simp)

theorem needsInput_nextKey (first : Bool) : (nextKey first).NeedsInput :=
  needsInput_layout (by simp)

theorem selfDelimitingAt_enter (octet : UInt8) (levels : Nat) :
    (enter levels).SelfDelimitingAt octet := by
  refine .dropBind octet ?_
  split
  · exact selfDelimiting_fail _
  · exact selfDelimiting_pure _

/-- What is entered is read behind its bracket. -/
theorem selfDelimitingAt_enterBind
    (octet : UInt8)
    (levels : Nat)
    {next : Unit -> Reader α}
    (selfNext : (next ()).SelfDelimiting) :
    (enter levels >>= next).SelfDelimitingAt octet := by
  have entered := selfDelimitingAt_enter octet levels
  refine ⟨?_, ?_⟩
  · intro input value rest read
    obtain ⟨_, middle, readFirst, readNext⟩ := bind_eq_ok.mp read
    exact Nat.le_trans (selfNext.shortens readNext) (entered.shortens readFirst)
  · intro input value rest read more
    obtain ⟨_, middle, readFirst, readNext⟩ := bind_eq_ok.mp read
    exact bind_eq_ok.mpr ⟨_, _, entered.prolongs readFirst more,
      selfNext.prolongs readNext more⟩

/-! ## Elements and members -/

/-- Elements that end within a number of steps end there however many are allowed
and whatever follows. -/
theorem elements_prolongs
    {element : Reader α}
    (delimited : element.Delimited)
    {steps more : Nat} {first : Bool} {input rest : Bytes} {values : List α}
    (read : elements element steps first input = .ok (values, rest))
    (enough : steps ≤ more)
    (added : Bytes) :
    rest.length ≤ input.length ∧
      elements element more first (input ++ added) = .ok (values, rest ++ added) := by
  induction steps generalizing more first input rest values with
  | zero => simp [elements] at read
  | succ steps inductionHypothesis =>
      obtain ⟨further, rfl⟩ : ∃ further, more = further + 1 := ⟨more - 1, by omega⟩
      obtain ⟨isThere, behindMark, readMark, read⟩ := bind_eq_ok.mp read
      have shorterMark := (selfDelimiting_nextElement first).shortens readMark
      have mark := (selfDelimiting_nextElement first).prolongs readMark added
      cases isThere with
      | true =>
          obtain ⟨head, behindHead, readHead, read⟩ := bind_eq_ok.mp read
          obtain ⟨tail, behindTail, readTail, read⟩ := bind_eq_ok.mp read
          cases read
          obtain ⟨shorter, longer⟩ :=
            inductionHypothesis readTail (Nat.le_of_succ_le_succ enough)
          have someBehind : behindHead ≠ [] := by
            intro none
            rw [none] at readTail
            cases steps with
            | zero => simp [elements] at readTail
            | succ steps =>
                obtain ⟨_, _, readNext, _⟩ := bind_eq_ok.mp readTail
                exact needsInput_nextElement _ _ readNext
          have shorterHead := delimited.shortens readHead
          refine ⟨by omega, ?_⟩
          exact bind_eq_ok.mpr ⟨true, _, mark, bind_eq_ok.mpr ⟨head, _,
            delimited.prolongs readHead someBehind added,
            bind_eq_ok.mpr ⟨tail, _, longer, rfl⟩⟩⟩
      | false =>
          obtain ⟨_, behind, readClose, read⟩ := bind_eq_ok.mp read
          cases read
          have shorterClose := selfDelimiting_closeList.shortens readClose
          refine ⟨by omega, ?_⟩
          exact bind_eq_ok.mpr ⟨false, _, mark, bind_eq_ok.mpr ⟨_, _,
            selfDelimiting_closeList.prolongs readClose added, rfl⟩⟩

/-- Members that end within a number of steps end there however many are allowed
and whatever follows. -/
theorem members_prolongs
    {member : σ -> String -> Reader σ}
    (delimited : ∀ state key, (member state key).Delimited)
    {steps more : Nat} {first : Bool} {input rest : Bytes} {initial final : σ}
    (read : members member steps first initial input = .ok (final, rest))
    (enough : steps ≤ more)
    (added : Bytes) :
    rest.length ≤ input.length ∧
      members member more first initial (input ++ added) = .ok (final, rest ++ added) := by
  induction steps generalizing more first input rest initial with
  | zero => simp [members] at read
  | succ steps inductionHypothesis =>
      obtain ⟨further, rfl⟩ : ∃ further, more = further + 1 := ⟨more - 1, by omega⟩
      obtain ⟨key?, behindKey, readKey, read⟩ := bind_eq_ok.mp read
      have shorterKey := (selfDelimiting_nextKey first).shortens readKey
      have prolongedKey := (selfDelimiting_nextKey first).prolongs readKey added
      cases key? with
      | none =>
          cases read
          exact ⟨shorterKey, bind_eq_ok.mpr ⟨none, _, prolongedKey, rfl⟩⟩
      | some key =>
          obtain ⟨next, behindMember, readMember, readOthers⟩ := bind_eq_ok.mp read
          obtain ⟨shorter, longer⟩ :=
            inductionHypothesis readOthers (Nat.le_of_succ_le_succ enough)
          have someBehind : behindMember ≠ [] := by
            intro none
            rw [none] at readOthers
            cases steps with
            | zero => simp [members] at readOthers
            | succ steps =>
                obtain ⟨_, _, readNext, _⟩ := bind_eq_ok.mp readOthers
                exact needsInput_nextKey _ _ readNext
          have shorterMember := (delimited initial key).shortens readMember
          refine ⟨by omega, ?_⟩
          exact bind_eq_ok.mpr ⟨some key, _, prolongedKey, bind_eq_ok.mpr ⟨next, _,
            (delimited initial key).prolongs readMember someBehind added, longer⟩⟩

/-- What holds at first and is kept by each member holds behind all of them. -/
theorem members_keep
    {member : σ -> String -> Reader σ} {holds : σ -> Prop}
    (keeps : ∀ {state key input next rest}, member state key input = .ok (next, rest) ->
      holds state -> holds next)
    {steps : Nat} {first : Bool} {input rest : Bytes} {initial final : σ}
    (read : members member steps first initial input = .ok (final, rest))
    (atFirst : holds initial) :
    holds final := by
  induction steps generalizing first input initial with
  | zero => simp [members] at read
  | succ steps inductionHypothesis =>
      obtain ⟨key?, _, _, read⟩ := bind_eq_ok.mp read
      cases key? with
      | none =>
          cases read
          exact atFirst
      | some key =>
          obtain ⟨next, _, readMember, readOthers⟩ := bind_eq_ok.mp read
          exact inductionHypothesis readOthers (keeps readMember atFirst)

theorem selfDelimiting_elements
    {element : Reader α}
    (delimited : element.Delimited)
    (first : Bool) :
    (bound >>= fun steps => elements element steps first).SelfDelimiting where
  shortens := by
    intro input values rest read
    exact (elements_prolongs delimited read (Nat.le_refl _) []).1
  prolongs := by
    intro input values rest read more
    have enough : input.length + 1 ≤ (input ++ more).length + 1 := by simp
    exact (elements_prolongs delimited read enough more).2

theorem selfDelimiting_members
    {member : σ -> String -> Reader σ}
    (delimited : ∀ state key, (member state key).Delimited)
    (first : Bool)
    (initial : σ) :
    (bound >>= fun steps => members member steps first initial).SelfDelimiting where
  shortens := by
    intro input values rest read
    exact (members_prolongs delimited read (Nat.le_refl _) []).1
  prolongs := by
    intro input values rest read more
    have enough : input.length + 1 ≤ (input ++ more).length + 1 := by simp
    exact (members_prolongs delimited read enough more).2

end Reader
end Json
end BlockFeed
