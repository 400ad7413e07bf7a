import BlockFeed.Proofs.Json.RoundTrip

/-!
# What has been read can be read again

A value that has been read is nested no deeper than it may be, the members of its objects are
sorted, and its integers lie in the range of their kind. So it is read back from its text as
long as the floating-point numbers in it are.
-/

namespace BlockFeed
namespace Json

/-! ## Numbers -/

theorem Number.IsExact.of_range
    {significand : Nat}
    (inRange : ¬(significand == 0 || decide (Nat.pow 2 63 < significand)) = true) :
    Number.IsExact (.negative significand.toUInt64) := by
  simp only [Bool.or_eq_true, beq_iff_eq, decide_eq_true_eq, not_or] at inRange
  obtain ⟨notZero, most⟩ := inRange
  have kept : significand.toUInt64.toNat = significand :=
    UInt64.toNat_ofNat_of_lt ((Nat.not_lt.mp most).trans_lt (by decide))
  exact .negative (kept.symm ▸ Nat.pos_of_ne_zero notZero) (kept.symm ▸ Nat.not_lt.mp most)

/-- A number that is no floating-point number has been read within its range. -/
theorem Numeral.isExact_of_value
    {numeral : Numeral} {number : Number}
    (isValue : numeral.value = .ok number) :
    number.IsExact ∨ ∃ float, number = .float float := by
  have approximated : ∀ {negative significand exponent},
      approximate negative significand exponent = .ok number -> ∃ float, number = .float float := by
    intro negative significand exponent isValue
    obtain ⟨_, _, isFloat⟩ := Reader.except_bind_eq_ok.mp isValue
    cases isFloat
    exact ⟨_, rfl⟩
  unfold value at isValue
  simp only at isValue
  split at isValue
  · split at isValue
    · exact .inr (approximated isValue)
    · split at isValue
      · cases isValue
      · cases isValue
        exact .inr ⟨_, rfl⟩
  · split at isValue
    · exact .inr (approximated isValue)
    · split at isValue
      · cases isValue
        exact .inl (.natural _)
      · split at isValue
        · cases isValue
          exact .inr ⟨_, rfl⟩
        · next inRange =>
            cases isValue
            exact .inl (.of_range inRange)

theorem Reader.isExact_of_number
    {input rest : Bytes} {read : Number}
    (isRead : number input = .ok (read, rest)) :
    read.IsExact ∨ ∃ float, read = .float float := by
  rw [number_eq] at isRead
  obtain ⟨_, _, _, isRead⟩ := bind_eq_ok.mp isRead
  obtain ⟨_, isValue, same⟩ := lift_eq_ok.mp isRead
  cases same
  exact Numeral.isExact_of_value isValue

/-! ## Floating-point numbers in a value -/

mutual

/-- The floating-point numbers in a value. -/
def Value.floats : Value -> List Float
  | .number (.float value) => [value]
  | .array elements => floatsOfElements elements
  | .object members => floatsOfMembers members
  | _ => []

/-- The floating-point numbers in the elements of an array. -/
def floatsOfElements : List Value -> List Float
  | [] => []
  | element :: rest => element.floats ++ floatsOfElements rest

/-- The floating-point numbers in the members of an object. -/
def floatsOfMembers : List (String × Value) -> List Float
  | [] => []
  | (_, value) :: rest => value.floats ++ floatsOfMembers rest

end

theorem floats_subset_of_element {elements : List Value} {element : Value}
    (mem : element ∈ elements) :
    element.floats ⊆ (Value.array elements).floats := by
  rw [Value.floats]
  induction elements with
  | nil => cases mem
  | cons first rest inductionHypothesis =>
      rw [floatsOfElements]
      rcases List.mem_cons.mp mem with rfl | mem
      · exact List.subset_append_left _ _
      · exact List.subset_append_of_subset_right _ (inductionHypothesis mem)

theorem floats_subset_of_member {members : Members} {member : String × Value}
    (mem : member ∈ members) :
    member.2.floats ⊆ (Value.object members).floats := by
  rw [Value.floats]
  induction members with
  | nil => cases mem
  | cons first rest inductionHypothesis =>
      rw [floatsOfMembers]
      rcases List.mem_cons.mp mem with rfl | mem
      · exact List.subset_append_left _ _
      · exact List.subset_append_of_subset_right _ (inductionHypothesis mem)

/-! ## What a value is read from -/

/-- A value has been read with `levels` levels left. -/
def Value.IsRead (levels : Nat) (read : Value) : Prop :=
  ∃ input rest, Reader.value levels input = .ok (read, rest)

/-- Members in their places, each of whose values has been read with `levels` levels left. -/
structure Members.AreRead (levels : Nat) (known : Members) : Prop where
  sorted : known.IsSorted
  values : ∀ member ∈ known, member.2.IsRead levels

theorem Members.AreRead.insert
    {levels : Nat} {known : Members} {value : Value}
    (areRead : known.AreRead levels)
    (isRead : value.IsRead levels)
    (key : String) :
    (known.insert key value).AreRead levels := by
  refine ⟨areRead.sorted.insert key value, fun member mem => ?_⟩
  rcases Members.mem_of_mem_insert mem with rfl | mem
  · exact isRead
  · exact areRead.values member mem

namespace Reader

/-- What stands for itself, a number, or an array or object whose parts have been read. -/
inductive Composed (levels : Nat) : Value -> Prop
  | null : Composed levels .null
  | bool (value : Bool) : Composed levels (.bool value)
  | string (text : String) : Composed levels (.string text)
  | number {input rest : Bytes} {number : Number}
      (isRead : Reader.number input = .ok (number, rest)) : Composed levels (.number number)
  | array {elements : List Value} (positive : 0 < levels)
      (areRead : ∀ element ∈ elements, element.IsRead levels) : Composed levels (.array elements)
  | object {members : List (String × Value)} (positive : 0 < levels)
      (areRead : Members.AreRead levels members) : Composed levels (.object members)

theorem read_of_mem_elements
    {element : Reader α} {steps : Nat} {first : Bool} {input rest : Bytes} {values : List α}
    (read : elements element steps first input = .ok (values, rest)) :
    ∀ value ∈ values, ∃ input rest, element input = .ok (value, rest) := by
  induction steps generalizing first input values with
  | zero => simp [elements] at read
  | succ steps inductionHypothesis =>
      obtain ⟨isThere, _, _, read⟩ := bind_eq_ok.mp read
      cases isThere with
      | true =>
          obtain ⟨head, _, readHead, read⟩ := bind_eq_ok.mp read
          obtain ⟨tail, _, readTail, read⟩ := bind_eq_ok.mp read
          cases read
          intro value mem
          rcases List.mem_cons.mp mem with rfl | mem
          · exact ⟨_, _, readHead⟩
          · exact inductionHypothesis readTail value mem
      | false =>
          obtain ⟨_, _, _, read⟩ := bind_eq_ok.mp read
          cases read
          exact fun value mem => absurd mem List.not_mem_nil

theorem areRead_of_members
    {levels steps : Nat} {input rest : Bytes} {known : Members}
    (read : members (insertMember levels) steps true [] input = .ok (known, rest)) :
    known.AreRead levels := by
  refine members_keep (fun isPut areRead => ?_) read ⟨.nil, fun _ => nofun⟩
  obtain ⟨_, _, _, isPut⟩ := bind_eq_ok.mp isPut
  obtain ⟨value, _, isValue, isPut⟩ := bind_eq_ok.mp isPut
  cases isPut
  exact areRead.insert ⟨_, _, isValue⟩ _

theorem positive_of_enter
    {levels : Nat} {input : Bytes} {result : Unit × Bytes}
    (entered : enter (levels + 1) input = .ok result) :
    0 < levels := by
  by_contra none
  obtain rfl : levels = 0 := Nat.eq_zero_of_not_pos none
  cases entered

/-- How a value that is read is made up. -/
theorem composed_of_value
    {levels : Nat} {input rest : Bytes} {read : Value}
    (isRead : value (levels + 1) input = .ok (read, rest)) :
    Composed levels read := by
  unfold value at isRead
  obtain ⟨_, _, _, isRead⟩ := bind_eq_ok.mp isRead
  obtain ⟨_, _, _, isRead⟩ := bind_eq_ok.mp isRead
  split at isRead
  · simp at isRead
  · obtain ⟨_, _, _, isRead⟩ := bind_eq_ok.mp isRead
    obtain ⟨_, _, _, isRead⟩ := bind_eq_ok.mp isRead
    cases isRead
    exact .null
  · obtain ⟨_, _, _, isRead⟩ := bind_eq_ok.mp isRead
    obtain ⟨_, _, _, isRead⟩ := bind_eq_ok.mp isRead
    cases isRead
    exact .bool true
  · obtain ⟨_, _, _, isRead⟩ := bind_eq_ok.mp isRead
    obtain ⟨_, _, _, isRead⟩ := bind_eq_ok.mp isRead
    cases isRead
    exact .bool false
  · obtain ⟨_, _, _, isRead⟩ := bind_eq_ok.mp isRead
    obtain ⟨text, _, _, isRead⟩ := bind_eq_ok.mp isRead
    cases isRead
    exact .string text
  · obtain ⟨_, _, entered, isRead⟩ := bind_eq_ok.mp isRead
    obtain ⟨_, _, _, isRead⟩ := bind_eq_ok.mp isRead
    obtain ⟨elements, _, areRead, isRead⟩ := bind_eq_ok.mp isRead
    cases isRead
    exact .array (positive_of_enter entered) (read_of_mem_elements areRead)
  · obtain ⟨_, _, entered, isRead⟩ := bind_eq_ok.mp isRead
    obtain ⟨_, _, _, isRead⟩ := bind_eq_ok.mp isRead
    obtain ⟨members, _, areRead, isRead⟩ := bind_eq_ok.mp isRead
    cases isRead
    exact .object (positive_of_enter entered) (areRead_of_members areRead)
  · split at isRead
    · obtain ⟨number, _, isNumber, isRead⟩ := bind_eq_ok.mp isRead
      cases isRead
      exact .number isNumber
    · simp at isRead

end Reader

/-- A number is read back from its text. -/
def Number.ReadsBack (number : Number) : Prop :=
  Reader.number (Bytes.ofString number.render) = .ok (number, [])

/-- A value that has been read is read back if its floating-point numbers are. -/
theorem Value.IsRead.fits
    {levels : Nat} {value : Value}
    (isRead : value.IsRead levels)
    (floats : ∀ float ∈ value.floats, (Number.float float).ReadsBack) :
    value.Fits levels := by
  induction levels generalizing value with
  | zero =>
      obtain ⟨_, _, isRead⟩ := isRead
      cases isRead
  | succ levels inductionHypothesis =>
      obtain ⟨_, _, isRead⟩ := isRead
      cases Reader.composed_of_value isRead with
      | null => exact .null levels
      | bool value => exact .bool levels value
      | string text => exact .string levels text
      | @number _ _ number isNumber =>
          rcases Reader.isExact_of_number isNumber with isExact | ⟨float, rfl⟩
          · exact .exact levels isExact
          · exact .number levels (floats float (List.mem_singleton.mpr rfl))
      | array positive areRead =>
          obtain ⟨levels, rfl⟩ := Nat.exists_eq_add_one.mpr positive
          exact .array fun element mem => inductionHypothesis (areRead element mem)
            fun float isThere => floats float (floats_subset_of_element mem isThere)
      | object positive areRead =>
          obtain ⟨levels, rfl⟩ := Nat.exists_eq_add_one.mpr positive
          exact .object areRead.sorted fun member mem =>
            inductionHypothesis (areRead.values member mem)
            fun float isThere => floats float (floats_subset_of_member mem isThere)

end Json
end BlockFeed
