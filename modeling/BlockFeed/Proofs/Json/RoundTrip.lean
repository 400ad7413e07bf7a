import BlockFeed.Proofs.Json.ReadingBack
import BlockFeed.Proofs.Json.Members
import Mathlib.Data.List.DropRight

/-!
# Values that are read back

The elements of an array and the members of an object stand between commas. Each of them is
read back where it stands if it is read back by itself. So a whole value is read back if its
numbers are, as long as it is nested no deeper than it may be and the members of its objects
are sorted.
-/

namespace BlockFeed
namespace Json

/-- The octets of the text of a value. -/
def Value.octets (value : Value) : Bytes := Bytes.ofString value.render

/-- Parts with commas between them, behind others unless they are the first. -/
def listed : Bool -> List Bytes -> Bytes
  | _, [] => []
  | first, part :: rest => (if first then part else 0x2c :: part) ++ listed false rest

/-- The octets of a member of an object. -/
def memberOctets (member : String × Value) : Bytes :=
  Bytes.ofString (renderString member.1) ++ 0x3a :: member.2.octets

theorem ofString_comma : Bytes.ofString "," = [0x2c] := by
  decide

theorem ofString_renderElements (elements : List Value) :
    Bytes.ofString (renderElements elements) = listed true (elements.map Value.octets) := by
  induction elements with
  | nil => rfl
  | cons element rest inductionHypothesis =>
      cases rest with
      | nil => exact (List.append_nil _).symm
      | cons next rest =>
          rw [renderElements, Bytes.ofString_append, Bytes.ofString_append, inductionHypothesis,
            ofString_comma]
          simp [listed, Value.octets]

theorem ofString_renderMembers (members : Members) :
    Bytes.ofString (renderMembers members) = listed true (members.map memberOctets) := by
  have member : ∀ key (value : Value), Bytes.ofString (renderString key ++ ":" ++ value.render) =
      memberOctets (key, value) := by
    intro key value
    rw [Bytes.ofString_append, Bytes.ofString_append, List.append_assoc]
    rfl
  induction members with
  | nil => rfl
  | cons first rest inductionHypothesis =>
      obtain ⟨key, value⟩ := first
      cases rest with
      | nil => exact (member key value).trans (List.append_nil _).symm
      | cons next rest =>
          rw [renderMembers, Bytes.ofString_append, Bytes.ofString_append, inductionHypothesis,
            member, ofString_comma]
          simp [listed]

/-- There are no more parts than octets, as each has at least one. -/
theorem length_le_listed
    {parts : List Bytes}
    (notEmpty : ∀ part ∈ parts, part ≠ [])
    (first : Bool) :
    parts.length ≤ (listed first parts).length := by
  induction parts generalizing first with
  | nil => exact Nat.le_refl _
  | cons part rest inductionHypothesis =>
      have others := inductionHypothesis
        (fun other mem => notEmpty other (List.mem_cons_of_mem _ mem)) false
      have positive := List.length_pos_iff.mpr (notEmpty part (List.mem_cons_self ..))
      rw [listed, List.length_append, List.length_cons]
      split
      · omega
      · rw [List.length_cons]
        omega

/-- Whoever reads parts up to a closing bracket takes enough steps for all of them. -/
theorem length_lt_bound
    {parts : List Bytes}
    (notEmpty : ∀ part ∈ parts, part ≠ [])
    (close : UInt8) :
    parts.length < (listed true parts ++ [close]).length + 1 := by
  have few := length_le_listed notEmpty true
  rw [List.length_append]
  omega

namespace Reader

/-- Behind a part stands what may follow a value. -/
theorem endsValue_listed
    (parts : List Bytes)
    {close : UInt8}
    (ends : EndsValue close)
    (more : Bytes) :
    ∃ octet rest, listed false parts ++ close :: more = octet :: rest ∧ EndsValue octet := by
  cases parts with
  | nil => exact ⟨close, more, rfl, ends⟩
  | cons part rest => exact ⟨0x2c, _, rfl, .inl rfl⟩

/-- What is read from a part by itself is read from it in front of others. -/
theorem Stops.listed
    {reader : Reader α}
    (stops : reader.Stops)
    {part : Bytes} {value : α}
    (read : reader part = .ok (value, []))
    (others : List Bytes)
    {close : UInt8}
    (ends : EndsValue close)
    (more : Bytes) :
    reader (part ++ (listed false others ++ close :: more)) =
      .ok (value, listed false others ++ close :: more) := by
  obtain ⟨octet, rest, behind, endsOctet⟩ := endsValue_listed others ends more
  rw [behind]
  exact stops read endsOctet rest

/-! ## Members -/

/-- What is read by itself is read behind a colon, and put where it belongs. -/
theorem read_behindColon
    {reader : Reader α} {octets rest : Bytes} {value : α}
    (read : reader octets = .ok (value, rest))
    (put : α -> β) :
    (colon >>= fun _ => reader >>= fun value => pure (put value)) (0x3a :: octets) =
      .ok (put value, rest) :=
  bind_eq_ok.mpr ⟨(), _, rfl, bind_eq_ok.mpr ⟨value, _, read, rfl⟩⟩

theorem stops_behindColon {reader : Reader α} (stops : reader.Stops) (put : α -> β) :
    (colon >>= fun _ => reader >>= fun value => pure (put value)).Stops :=
  Stops.bind selfDelimiting_colon.stops fun _ =>
    Stops.bind stops fun _ => (selfDelimiting_pure _).stops

/-- Refusing a field that has been read before does not stand in the way. -/
theorem stops_unless
    (taken : Bool)
    (problem : Problem)
    {next : Reader α}
    (stops : next.Stops) :
    Stops (do
      if taken then fail problem
      next) := by
  cases taken with
  | true => exact Stops.bind (selfDelimiting_fail problem).stops fun _ => stops
  | false => exact stops

/-- What is read behind a field that might have been refused was not refused. -/
theorem read_of_unless
    {taken : Bool} {problem : Problem} {next : Reader α} {input : Bytes} {result : α × Bytes}
    (read : (do
      if taken then fail problem
      next : Reader α) input = .ok result) :
    ¬taken = true ∧ next input = .ok result := by
  cases taken with
  | true => cases read
  | false => exact ⟨Bool.false_ne_true, read⟩

/-- A written key is read back, behind a comma unless it is the first. -/
theorem nextKey_renderString (first : Bool) (key : String) (rest : Bytes) :
    nextKey first
        (if first then Bytes.ofString (renderString key) ++ rest
          else 0x2c :: (Bytes.ofString (renderString key) ++ rest)) =
      .ok (some key, rest) := by
  have read := selfDelimiting_stringBody.prolongs (stringBody_escaped key) rest
  have isKey : Reader.key (0x22 :: (escaped key.toList ++ [0x22] ++ rest)) =
      .ok (some key, rest) := bind_eq_ok.mpr ⟨_, _, rfl, bind_eq_ok.mpr ⟨_, _, read, rfl⟩⟩
  rw [ofString_renderString, List.cons_append]
  cases first with
  | true => exact bind_eq_ok.mpr ⟨(), _, rfl, bind_eq_ok.mpr ⟨some 0x22, _, rfl, isKey⟩⟩
  | false =>
      exact bind_eq_ok.mpr ⟨(), _, rfl, bind_eq_ok.mpr ⟨some 0x2c, _, rfl,
        bind_eq_ok.mpr ⟨(), _, rfl, bind_eq_ok.mpr ⟨(), _, rfl,
          bind_eq_ok.mpr ⟨some 0x22, _, rfl, isKey⟩⟩⟩⟩⟩

/-- The members of an object take a state into another one, each read by itself. -/
inductive Absorbs (member : σ -> String -> Reader σ) : σ -> Members -> σ -> Prop
  | none (state : σ) : Absorbs member state [] state
  | next {state middle final : σ} {key : String} {value : Value} {rest : Members}
      (read : member state key (0x3a :: value.octets) = .ok (middle, []))
      (others : Absorbs member middle rest final) :
      Absorbs member state ((key, value) :: rest) final

/-- Members of which each is put to what is known of them are put to it one after another. -/
theorem absorbs_foldl
    {member : σ -> String -> Reader σ} {put : κ -> String × Value -> κ} {written : Members}
    (state : κ -> σ)
    (read : ∀ held ∈ written, ∀ known,
      member (state known) held.1 (0x3a :: held.2.octets) = .ok (state (put known held), []))
    (known : κ) :
    Absorbs member (state known) written (state (written.foldl put known)) := by
  induction written generalizing known with
  | nil => exact .none (state known)
  | cons held rest inductionHypothesis =>
      exact .next (read held (List.mem_cons_self ..) known)
        (inductionHypothesis (fun other mem => read other (List.mem_cons_of_mem _ mem)) _)

/-- Members with different keys are taken in any order. -/
theorem exists_absorbed
    {member : σ -> String -> Reader σ} {Reads : Members -> σ -> Prop}
    {members written : Members} {state : σ}
    (next : ∀ held ∈ members, ∀ known state, held.1 ∉ Members.keys known -> Reads known state ->
      ∃ middle, member state held.1 (0x3a :: held.2.octets) = .ok (middle, []) ∧
        Reads (held :: known) middle)
    (distinct : members.keys.Nodup)
    (perm : written.Perm members)
    (reads : Reads [] state) :
    ∃ final, Absorbs member state written final ∧
      ∃ known, known.Perm members ∧ Reads known final := by
  refine Members.exists_taken (Absorbs member) .none
    (fun held mem known state fresh reads => ?_) distinct perm reads
  obtain ⟨middle, isNext, readsHeld⟩ := next held mem known state fresh reads
  exact ⟨middle, readsHeld, fun rest final => .next isNext⟩

/-- Members that are read by themselves are read up to the end of their object. -/
theorem Absorbs.members
    {member : σ -> String -> Reader σ}
    (stops : ∀ state key, (member state key).Stops)
    {state final : σ} {written : Members} {steps : Nat}
    (absorbs : Absorbs member state written final)
    (enough : written.length < steps)
    (first : Bool)
    (more : Bytes) :
    members member steps first state (listed first (written.map memberOctets) ++ 0x7d :: more) =
      .ok (final, more) := by
  -- A comma or the closing brace follows each member, and its reader stops at either.
  induction absorbs generalizing steps first with
  | none state =>
      obtain ⟨steps, rfl⟩ := Nat.exists_eq_add_one.mpr enough
      rfl
  | @next state middle final key value rest read others inductionHypothesis =>
      obtain ⟨steps, rfl⟩ := Nat.exists_eq_add_one.mpr (Nat.zero_lt_of_lt enough)
      have isKey := nextKey_renderString first key (0x3a :: value.octets ++
        (listed false (rest.map memberOctets) ++ 0x7d :: more))
      have isMember := Stops.listed (stops state key) read (rest.map memberOctets)
        (.inr (.inr rfl)) more
      have isRest := inductionHypothesis (Nat.lt_of_succ_lt_succ enough) false
      refine bind_eq_ok.mpr ⟨some key, _, ?_, bind_eq_ok.mpr ⟨middle, _, isMember, isRest⟩⟩
      rw [← isKey]
      cases first <;> simp [listed, memberOctets]

theorem memberOctets_ne_nil (member : String × Value) : memberOctets member ≠ [] := by
  simp [memberOctets]

theorem octets_object (members : Members) :
    (Value.object members).octets =
      0x7b :: (listed true (members.map memberOctets) ++ [0x7d]) := by
  rw [Value.octets, Value.render, Bytes.ofString_append, Bytes.ofString_append,
    ofString_renderMembers]
  rfl

/-- Members that are read by themselves are read where their object is entered. -/
theorem Absorbs.enter
    {member : σ -> String -> Reader σ}
    (stops : ∀ state key, (member state key).Stops)
    {state final : σ} {written : Members}
    (absorbs : Absorbs member state written final)
    (levels : Nat) :
    (Reader.enter (levels + 2) >>= fun _ => bound >>= fun steps =>
        Reader.members member steps true state)
      (Value.object written).octets = .ok (final, []) := by
  have notEmpty : ∀ part ∈ written.map memberOctets, part ≠ [] := by
    intro part mem
    obtain ⟨held, _, rfl⟩ := List.mem_map.mp mem
    exact memberOctets_ne_nil held
  have enough := length_lt_bound notEmpty 0x7d
  rw [List.length_map] at enough
  rw [octets_object]
  exact bind_eq_ok.mpr ⟨(), _, rfl, bind_eq_ok.mpr ⟨_, _, rfl,
    absorbs.members stops enough true []⟩⟩

/-- An object is read back if its members are. -/
theorem Absorbs.object
    {member : σ -> String -> Reader σ}
    (stops : ∀ state key, (member state key).Stops)
    {state final : σ} {written : Members}
    (absorbs : Absorbs member state written final)
    (levels : Nat)
    (expected : String) :
    object (levels + 2) expected member state (Value.object written).octets =
      .ok (final, []) := by
  have read := absorbs.enter stops levels
  rw [octets_object] at read ⊢
  exact read

/-! ## Typed places -/

/-- A number of 64 bits is read back where one is expected. -/
theorem natural_octets (value : UInt64) :
    natural (Value.number (.natural value)).octets = .ok (value, []) := by
  rw [Value.octets, Value.render]
  exact natural_number (number_render (.natural value))

/-- A string is read back where one is expected. -/
theorem string_octets (expected text : String) :
    string expected (Value.string text).octets = .ok (text, []) := by
  rw [Value.octets, Value.render, ofString_renderString]
  exact bind_eq_ok.mpr ⟨(), _, rfl, bind_eq_ok.mpr ⟨some 0x22, _, rfl,
    bind_eq_ok.mpr ⟨(), _, rfl, stringBody_escaped text⟩⟩⟩

/-! ## Elements -/

/-- Layout in front of a value makes no difference. -/
theorem value_dropWhile (levels : Nat) (input : Bytes) :
    value levels (input.dropWhile isLayout) = value levels input := by
  cases levels with
  | zero => rfl
  | succ levels =>
      obtain ⟨next, same, _, _⟩ := value_branches (delimited_value levels)
      have once : skipLayout (input.dropWhile isLayout) = skipLayout input := by
        rw [skipLayout, skipLayout, List.dropWhile_idempotent]
      rw [same]
      simp only [bind, StateT.bind, once]

/-- Where a value can be read, an array does not end. -/
theorem nextElement_value
    {levels : Nat} {input rest : Bytes} {element : Value}
    (read : value levels input = .ok (element, rest))
    (first : Bool) :
    nextElement first (if first then input else 0x2c :: input) =
      .ok (true, input.dropWhile isLayout) := by
  rw [← value_dropWhile] at read
  obtain ⟨octet, others, begins, notEnd⟩ : ∃ octet others,
      input.dropWhile isLayout = octet :: others ∧ octet ≠ 0x5d := by
    cases levels with
    | zero => cases read
    | succ levels =>
        cases begins : input.dropWhile isLayout with
        | nil =>
            rw [begins] at read
            cases read
        | cons octet others =>
            refine ⟨octet, others, rfl, ?_⟩
            rintro rfl
            rw [begins] at read
            cases read
  have skipped : skipLayout input = .ok ((), octet :: others) := by rw [skipLayout, begins]
  rw [begins]
  cases first with
  | true =>
      refine bind_eq_ok.mpr ⟨(), _, skipped, bind_eq_ok.mpr ⟨some octet, _, rfl, ?_⟩⟩
      simp
  | false =>
      refine bind_eq_ok.mpr ⟨(), _, rfl, bind_eq_ok.mpr ⟨some 0x2c, _, rfl, ?_⟩⟩
      refine bind_eq_ok.mpr ⟨(), _, rfl, bind_eq_ok.mpr ⟨(), _, skipped, ?_⟩⟩
      refine bind_eq_ok.mpr ⟨some octet, _, rfl, ?_⟩
      simp

end Reader

/-- A value is read back from its text with `levels` levels left. -/
def Value.ReadsBack (levels : Nat) (written : Value) : Prop :=
  Reader.value levels written.octets = .ok (written, [])

namespace Reader

/-- Elements that are read back by themselves are read up to the end of their array. -/
theorem elements_render
    {levels steps : Nat} {written : List Value}
    (readBack : ∀ element ∈ written, element.ReadsBack levels)
    (enough : written.length < steps)
    (first : Bool)
    (more : Bytes) :
    elements (value levels) steps first
        (listed first (written.map Value.octets) ++ 0x5d :: more) =
      .ok (written, more) := by
  obtain ⟨steps, rfl⟩ := Nat.exists_eq_add_one.mpr (Nat.zero_lt_of_lt enough)
  induction written generalizing steps first with
  | nil => cases first <;> rfl
  | cons element rest inductionHypothesis =>
      have isElement := Stops.listed (stops_value levels) (readBack element (List.mem_cons_self ..))
        (rest.map Value.octets) (.inr (.inl rfl)) more
      have isThere := nextElement_value isElement first
      -- The layout in front of the element has been skipped when it is read.
      rw [← value_dropWhile] at isElement
      obtain ⟨steps, rfl⟩ := Nat.exists_eq_add_one.mpr
        (Nat.zero_lt_of_lt (Nat.lt_of_succ_lt_succ enough))
      have isRest := inductionHypothesis
        (fun other mem => readBack other (List.mem_cons_of_mem _ mem)) false steps
        (Nat.lt_of_succ_lt_succ enough)
      refine bind_eq_ok.mpr ⟨true, _, ?_, bind_eq_ok.mpr ⟨element, _, isElement,
        bind_eq_ok.mpr ⟨rest, _, isRest, rfl⟩⟩⟩
      rw [← isThere]
      cases first <;> simp [listed]

theorem octets_array (elements : List Value) :
    (Value.array elements).octets =
      0x5b :: (listed true (elements.map Value.octets) ++ [0x5d]) := by
  rw [Value.octets, Value.render, Bytes.ofString_append, Bytes.ofString_append,
    ofString_renderElements]
  rfl

/-- A value can only be read where there is something. -/
theorem octets_ne_nil
    {levels : Nat} {written : Value}
    (readsBack : written.ReadsBack levels) :
    written.octets ≠ [] := by
  intro nothing
  rw [Value.ReadsBack, nothing] at readsBack
  cases levels with
  | zero => cases readsBack
  | succ levels => cases readsBack

end Reader

/-! ## Values -/

namespace Value

/-- A value that has its own text: it is nested less than `levels` deep, the members of its
objects are sorted, and its numbers are read back, as exact numbers always are. -/
inductive Fits : Nat -> Value -> Prop
  | null (levels : Nat) : Fits (levels + 1) .null
  | bool (levels : Nat) (value : Bool) : Fits (levels + 1) (.bool value)
  | string (levels : Nat) (value : String) : Fits (levels + 1) (.string value)
  | number (levels : Nat) {value : Number}
      (readsBack : Reader.number (Bytes.ofString value.render) = .ok (value, [])) :
      Fits (levels + 1) (.number value)
  | array {levels : Nat} {elements : List Value}
      (fits : ∀ element ∈ elements, Fits (levels + 1) element) :
      Fits (levels + 2) (.array elements)
  | object {levels : Nat} {members : List (String × Value)}
      (sorted : Members.IsSorted members)
      (fits : ∀ member ∈ members, Fits (levels + 1) member.2) :
      Fits (levels + 2) (.object members)

theorem Fits.exact (levels : Nat) {value : Number} (isExact : value.IsExact) :
    Fits (levels + 1) (.number value) :=
  .number levels (Reader.number_render isExact)

end Value

namespace Reader

/-- Read the value of a member and put it in its place. -/
def insertMember (levels : Nat) (known : Members) (key : String) : Reader Members := do
  colon
  return Members.insert key (← value levels) known

theorem stops_insertMember (levels : Nat) (known : Members) (key : String) :
    (insertMember levels known key).Stops :=
  stops_behindColon (stops_value levels) _

/-- Members whose values are read back are put in their places. -/
theorem absorbs_insertMember
    {levels : Nat} {written : Members}
    (readBack : ∀ member ∈ written, member.2.ReadsBack levels)
    (known : Members) :
    Absorbs (insertMember levels) known written
      (written.foldl (fun result member => Members.insert member.1 member.2 result) known) :=
  absorbs_foldl id (fun held mem _ => read_behindColon (readBack held mem) _) known

/-- An object whose members are put in their places is read as the sorted object. -/
theorem Absorbs.value
    {levels : Nat} {written known : Members}
    (absorbs : Absorbs (insertMember (levels + 1)) [] written known) :
    value (levels + 2) (Value.object written).octets = .ok (.object known, []) := by
  have read := absorbs.enter (stops_insertMember (levels + 1)) levels
  rw [octets_object] at read ⊢
  refine bind_eq_ok.mpr ⟨(), _, rfl, bind_eq_ok.mpr ⟨some 0x7b, _, rfl, ?_⟩⟩
  obtain ⟨_, _, isEntered, read⟩ := bind_eq_ok.mp read
  obtain ⟨_, _, isBound, read⟩ := bind_eq_ok.mp read
  exact bind_eq_ok.mpr ⟨_, _, isEntered, bind_eq_ok.mpr ⟨_, _, isBound,
    bind_eq_ok.mpr ⟨_, _, read, rfl⟩⟩⟩

end Reader

namespace Value

open Reader

theorem readsBack_string (levels : Nat) (text : String) :
    ReadsBack (levels + 1) (.string text) := by
  rw [ReadsBack, Value.octets, Value.render, ofString_renderString]
  exact bind_eq_ok.mpr ⟨(), _, rfl, bind_eq_ok.mpr ⟨some 0x22, _, rfl,
    bind_eq_ok.mpr ⟨(), _, rfl, bind_eq_ok.mpr ⟨text, _, stringBody_escaped text, rfl⟩⟩⟩⟩

theorem readsBack_number
    {number : Number}
    (readsBack : Reader.number (Bytes.ofString number.render) = .ok (number, []))
    (levels : Nat) :
    ReadsBack (levels + 1) (.number number) := by
  rw [ReadsBack, Value.octets, Value.render]
  exact value_number readsBack levels

/-- An array is read back if its elements are. -/
theorem readsBack_array
    {levels : Nat} {elements : List Value}
    (readBack : ∀ element ∈ elements, element.ReadsBack (levels + 1)) :
    ReadsBack (levels + 2) (.array elements) := by
  have notEmpty : ∀ part ∈ elements.map Value.octets, part ≠ [] := by
    intro part mem
    obtain ⟨element, isElement, rfl⟩ := List.mem_map.mp mem
    exact octets_ne_nil (readBack element isElement)
  have enough := length_lt_bound notEmpty 0x5d
  rw [List.length_map] at enough
  rw [ReadsBack, octets_array]
  exact bind_eq_ok.mpr ⟨(), _, rfl, bind_eq_ok.mpr ⟨some 0x5b, _, rfl,
    bind_eq_ok.mpr ⟨(), _, rfl, bind_eq_ok.mpr ⟨_, _, rfl,
      bind_eq_ok.mpr ⟨elements, _, elements_render readBack enough true [], rfl⟩⟩⟩⟩⟩

/-- An object is read back if the values of its members are. -/
theorem readsBack_object
    {levels : Nat} {members : Members}
    (sorted : members.IsSorted)
    (readBack : ∀ member ∈ members, member.2.ReadsBack (levels + 1)) :
    ReadsBack (levels + 2) (.object members) := by
  have absorbs := absorbs_insertMember readBack []
  rw [← Members.sorted, Members.sorted_of_isSorted sorted] at absorbs
  exact absorbs.value

/-- A value that has its own text is read back from it. -/
theorem Fits.readsBack {levels : Nat} {value : Value} (fits : value.Fits levels) :
    value.ReadsBack levels := by
  induction fits with
  | null levels => rfl
  | bool levels value => cases value <;> rfl
  | string levels text => exact readsBack_string levels text
  | number levels readsBack => exact readsBack_number readsBack levels
  | array fits inductionHypothesis => exact readsBack_array inductionHypothesis
  | object sorted fits inductionHypothesis => exact readsBack_object sorted inductionHypothesis

end Value
end Json
end BlockFeed
