import BlockFeed.Json.Value
import Mathlib.Data.List.Nodup
import Mathlib.Data.String.Basic

/-!
# Members in their places

A member is put in its place by its key, and an equal key keeps the last value. So the order
in which members with different keys are put in place makes no difference, and members that
are sorted already stay as they are. Whoever takes members with different keys one by one finds
the same under each key in any order.
-/

namespace BlockFeed
namespace Json
namespace Members

section insert

variable {key other present : String} (value otherValue old : Value) (rest : Members)

theorem insert_of_lt (before : key < present) :
    insert key value ((present, old) :: rest) = (key, value) :: (present, old) :: rest := by
  rw [insert, if_pos before]

theorem insert_same :
    insert key value ((key, old) :: rest) = (key, value) :: rest := by
  rw [insert, if_neg (lt_irrefl key), if_pos (beq_self_eq_true key)]

theorem insert_of_gt (behind : present < key) :
    insert key value ((present, old) :: rest) = (present, old) :: insert key value rest := by
  have different : ¬(key == present) = true := by simpa using behind.ne'
  rw [insert, if_neg behind.not_gt, if_neg different]

/-- A member that is put in place twice keeps its last value. -/
theorem insert_insert (members : Members) :
    insert key value (insert key old members) = insert key value members := by
  induction members with
  | nil => exact insert_same value old []
  | cons member rest inductionHypothesis =>
      obtain ⟨present, held⟩ := member
      rcases lt_trichotomy key present with before | rfl | behind
      · rw [insert_of_lt old held rest before, insert_same, insert_of_lt value held rest before]
      · rw [insert_same, insert_same, insert_same]
      · rw [insert_of_gt old held rest behind, insert_of_gt value held _ behind,
          insert_of_gt value held rest behind, inductionHypothesis]

/-- Members with different keys may be put in place in either order. -/
theorem insert_comm (different : key ≠ other) (members : Members) :
    insert key value (insert other otherValue members) =
      insert other otherValue (insert key value members) := by
  -- Either order of the two keys is the other one with the sides exchanged.
  wlog less : key < other generalizing key other value otherValue with ofLess
  · have greater : other < key := lt_of_le_of_ne (not_lt.mp less) different.symm
    exact (ofLess otherValue value different.symm greater).symm
  induction members with
  | nil =>
      rw [insert_nil, insert_nil, insert_of_lt value otherValue [] less,
        insert_of_gt otherValue value [] less, insert_nil]
  | cons member rest inductionHypothesis =>
      obtain ⟨present, held⟩ := member
      rcases lt_trichotomy key present with before | rfl | behind
      · rw [insert_of_lt value held rest before, insert_of_gt otherValue value _ less]
        rcases lt_trichotomy other present with otherBefore | rfl | otherBehind
        · rw [insert_of_lt otherValue held rest otherBefore, insert_of_lt value _ _ less]
        · rw [insert_same, insert_of_lt value _ _ less]
        · rw [insert_of_gt otherValue held rest otherBehind, insert_of_lt value _ _ before]
      · rw [insert_same, insert_of_gt otherValue held rest less, insert_same,
          insert_of_gt otherValue value rest less]
      · have otherBehind : present < other := behind.trans less
        rw [insert_of_gt otherValue held rest otherBehind, insert_of_gt value held _ behind,
          insert_of_gt value held rest behind, insert_of_gt otherValue held _ otherBehind,
          inductionHypothesis]

end insert

/-- Sorting puts the first of some members in its place among the others, if none of
them has its key. -/
theorem sorted_cons
    {key : String} {value : Value} {rest : Members}
    (fresh : ∀ member ∈ rest, member.1 ≠ key) :
    sorted ((key, value) :: rest) = insert key value (sorted rest) := by
  -- The members behind it are put in place one by one, and each may be put in place before it.
  have swapped : ∀ members : Members,
      rest.foldl (fun result member => insert member.1 member.2 result)
          (insert key value members) =
        insert key value
          (rest.foldl (fun result member => insert member.1 member.2 result) members) := by
    induction rest with
    | nil => exact fun _ => rfl
    | cons member rest inductionHypothesis =>
        intro members
        have different : member.1 ≠ key := fresh member (List.mem_cons_self ..)
        rw [List.foldl_cons, List.foldl_cons, insert_comm _ _ different]
        exact inductionHypothesis (fun later mem => fresh later (List.mem_cons_of_mem _ mem)) _
  exact swapped []

/-- Sorting puts the last of some members in its place among the others. -/
theorem sorted_concat (members : Members) (key : String) (value : Value) :
    sorted (members ++ [(key, value)]) = insert key value (sorted members) :=
  List.foldl_append ..

/-! ## Sorted members -/

/-- Members are sorted by key, and no key is repeated. -/
def IsSorted (members : Members) : Prop :=
  members.Pairwise fun before behind => before.1 < behind.1

instance (members : Members) : Decidable members.IsSorted :=
  inferInstanceAs (Decidable (members.Pairwise fun before behind => before.1 < behind.1))

/-- A member whose key is greater than all others is put behind them. -/
theorem insert_last
    {key : String} {known : Members}
    (greatest : ∀ member ∈ known, member.1 < key)
    (value : Value) :
    insert key value known = known ++ [(key, value)] := by
  induction known with
  | nil => rfl
  | cons member rest inductionHypothesis =>
      obtain ⟨present, held⟩ := member
      rw [insert_of_gt value held rest (greatest _ (List.mem_cons_self ..)),
        inductionHypothesis fun other mem => greatest other (List.mem_cons_of_mem _ mem)]
      rfl

/-- Sorted members are put in place one behind the other. -/
theorem foldl_insert {known members : Members} (sorted : IsSorted (known ++ members)) :
    members.foldl (fun result member => insert member.1 member.2 result) known =
      known ++ members := by
  induction members generalizing known with
  | nil => simp
  | cons member rest inductionHypothesis =>
      have greatest : ∀ other ∈ known, other.1 < member.1 := fun other mem =>
        (List.pairwise_append.mp sorted).2.2 other mem member (List.mem_cons_self ..)
      rw [List.foldl_cons, insert_last greatest, inductionHypothesis]
      · simp
      · simpa using sorted

theorem sorted_of_isSorted {members : Members} (isSorted : members.IsSorted) :
    sorted members = members :=
  foldl_insert isSorted

/-- What is put in place is added to the members that were there. -/
theorem mem_of_mem_insert
    {key : String} {value : Value} {members : Members} {member : String × Value}
    (mem : member ∈ insert key value members) :
    member = (key, value) ∨ member ∈ members := by
  induction members with
  | nil => exact .inl (List.mem_singleton.mp mem)
  | cons first rest inductionHypothesis =>
      obtain ⟨present, held⟩ := first
      rw [insert] at mem
      split at mem
      · exact List.mem_cons.mp mem
      · split at mem
        · exact (List.mem_cons.mp mem).imp_right (List.mem_cons_of_mem _)
        · rcases List.mem_cons.mp mem with rfl | mem
          · exact .inr (List.mem_cons_self ..)
          · exact (inductionHypothesis mem).imp_right (List.mem_cons_of_mem _)

/-- Sorting adds nothing. -/
theorem mem_of_mem_sorted {members : Members} {member : String × Value}
    (mem : member ∈ sorted members) :
    member ∈ members := by
  have onlyThese : ∀ other ∈ sorted members, other ∈ members :=
    List.foldlRecOn (motive := fun known : Members => ∀ other ∈ known, other ∈ members) members _
      (fun _ mem => absurd mem List.not_mem_nil)
      fun known areKnown held isHeld other mem => by
        rcases mem_of_mem_insert mem with rfl | isKnown
        · exact isHeld
        · exact areKnown other isKnown
  exact onlyThese member mem

theorem IsSorted.insert {members : Members} (isSorted : members.IsSorted)
    (key : String) (value : Value) :
    (insert key value members).IsSorted := by
  induction members with
  | nil => exact List.pairwise_singleton _ _
  | cons member rest inductionHypothesis =>
      obtain ⟨present, held⟩ := member
      obtain ⟨behind, restSorted⟩ := List.pairwise_cons.mp isSorted
      rcases lt_trichotomy key present with before | rfl | after
      · rw [insert_of_lt value held rest before]
        refine List.pairwise_cons.mpr ⟨fun other mem => ?_, isSorted⟩
        rcases List.mem_cons.mp mem with rfl | mem
        · exact before
        · exact before.trans (behind other mem)
      · rw [insert_same]
        exact List.pairwise_cons.mpr ⟨behind, restSorted⟩
      · rw [insert_of_gt value held rest after]
        refine List.pairwise_cons.mpr ⟨fun other mem => ?_, inductionHypothesis restSorted⟩
        rcases mem_of_mem_insert mem with rfl | mem
        · exact after
        · exact behind other mem

theorem isSorted_sorted (members : Members) : (sorted members).IsSorted :=
  List.foldlRecOn (motive := IsSorted) members _ List.Pairwise.nil
    fun _ isSorted held _ => isSorted.insert held.1 held.2

theorem IsSorted.nodup_keys {members : Members} (isSorted : members.IsSorted) :
    members.keys.Nodup :=
  List.pairwise_map.mpr (isSorted.imp fun before => before.ne)

/-! ## Members with different keys -/

theorem mem_keys_of_mem {key : String} {value : Value} {members : Members}
    (mem : (key, value) ∈ members) :
    key ∈ members.keys :=
  List.mem_map_of_mem mem

theorem notMem_keys {key : String} {members : Members}
    (fresh : ∀ member ∈ members, member.1 ≠ key) :
    key ∉ members.keys := by
  intro mem
  obtain ⟨member, isThere, same⟩ := List.mem_map.mp mem
  exact fresh member isThere same

theorem insert_perm {key : String} {members : Members} (fresh : key ∉ members.keys)
    (value : Value) :
    (insert key value members).Perm ((key, value) :: members) := by
  induction members with
  | nil => exact .refl _
  | cons member rest inductionHypothesis =>
      obtain ⟨present, held⟩ := member
      obtain ⟨different, fresh⟩ := not_or.mp (List.mem_cons.not.mp fresh)
      rcases lt_or_gt_of_ne different with before | after
      · rw [insert_of_lt value held rest before]
      · rw [insert_of_gt value held rest after]
        exact ((inductionHypothesis fresh).cons _).trans (.swap _ _ _)

/-- Sorting keeps all members whose keys are different. -/
theorem sorted_perm {members : Members} (distinct : members.keys.Nodup) :
    (sorted members).Perm members := by
  induction members with
  | nil => exact .refl _
  | cons member rest inductionHypothesis =>
      obtain ⟨fresh, distinct⟩ := List.nodup_cons.mp distinct
      have perm := inductionHypothesis distinct
      have stillFresh : member.1 ∉ (sorted rest).keys := fun mem =>
        fresh ((perm.map Prod.fst).mem_iff.mp mem)
      have others : ∀ other ∈ rest, other.1 ≠ member.1 := fun other mem same =>
        fresh (List.mem_map.mpr ⟨other, mem, same⟩)
      rw [sorted_cons others]
      exact (insert_perm stillFresh member.2).trans (perm.cons member)

/-! ## Looking a member up -/

theorem get?_cons_self (key : String) (value : Value) (rest : Members) :
    get? key ((key, value) :: rest) = some value := by
  rw [get?, if_pos (beq_self_eq_true key)]

theorem get?_cons_of_ne {key present : String} (different : key ≠ present) (old : Value)
    (rest : Members) :
    get? key ((present, old) :: rest) = get? key rest := by
  rw [get?, if_neg (by simpa using different)]

theorem get?_insert_self (key : String) (value : Value) (members : Members) :
    get? key (insert key value members) = some value := by
  induction members with
  | nil => exact get?_cons_self key value []
  | cons member rest inductionHypothesis =>
      obtain ⟨present, held⟩ := member
      rcases lt_trichotomy key present with before | rfl | behind
      · rw [insert_of_lt value held rest before, get?_cons_self]
      · rw [insert_same, get?_cons_self]
      · rw [insert_of_gt value held rest behind, get?_cons_of_ne behind.ne', inductionHypothesis]

theorem get?_insert_of_ne {key other : String} (different : other ≠ key) (value : Value)
    (members : Members) :
    get? other (insert key value members) = get? other members := by
  induction members with
  | nil => exact get?_cons_of_ne different value []
  | cons member rest inductionHypothesis =>
      obtain ⟨present, held⟩ := member
      rcases lt_trichotomy key present with before | rfl | behind
      · rw [insert_of_lt value held rest before, get?_cons_of_ne different]
      · rw [insert_same, get?_cons_of_ne different, get?_cons_of_ne different]
      · rw [insert_of_gt value held rest behind, get?, get?, inductionHypothesis]

theorem get?_eq_none {key : String} {members : Members}
    (fresh : ∀ member ∈ members, member.1 ≠ key) :
    get? key members = none := by
  induction members with
  | nil => rfl
  | cons member rest inductionHypothesis =>
      rw [get?_cons_of_ne (fresh member (List.mem_cons_self ..)).symm]
      exact inductionHypothesis fun other mem => fresh other (List.mem_cons_of_mem _ mem)

/-- Put a member in its place if there is one. -/
def insert? (key : String) : Option Value -> Members -> Members
  | some value, members => insert key value members
  | none, members => members

/-- Members with different keys may be put in place in either order, if there are any. -/
theorem insert_insert? {key other : String} (different : key ≠ other) (value : Value)
    (otherValue : Option Value) (members : Members) :
    insert key value (insert? other otherValue members) =
      insert? other otherValue (insert key value members) := by
  cases otherValue with
  | none => rfl
  | some otherValue => exact insert_comm value otherValue different members

/-! ## Taking members one by one -/

/-- What has been found under a key is what some members hold there. -/
def Finds (known : Members) (key : String) (stored : α -> Value) (found : Option α) : Prop :=
  ∀ value, found = some value ↔ (key, stored value) ∈ known

namespace Finds

variable {known : Members} {key other : String} {stored : α -> Value} {found : Option α}

theorem nothing (key : String) (stored : α -> Value) : Finds [] key stored none := by
  simp [Finds]

/-- A member under another key makes no difference. -/
theorem cons_of_ne (finds : known.Finds key stored found) (different : key ≠ other)
    (held : Value) :
    Finds ((other, held) :: known) key stored found := by
  intro value
  rw [finds value, List.mem_cons]
  simp [different]

/-- Under a key that has not been met the next member is found. -/
theorem cons_of_fresh (fresh : key ∉ known.keys) (injective : Function.Injective stored)
    (held : α) :
    Finds ((key, stored held) :: known) key stored (some held) := by
  intro value
  rw [List.mem_cons, Prod.mk.injEq, Option.some.injEq]
  constructor
  · rintro rfl
    exact .inl ⟨rfl, rfl⟩
  · rintro (⟨-, same⟩ | mem)
    · exact (injective same).symm
    · exact absurd (mem_keys_of_mem mem) fresh

theorem isSome_eq_false (finds : known.Finds key stored found) (fresh : key ∉ known.keys) :
    found.isSome = false := by
  cases found with
  | none => rfl
  | some value => exact absurd (mem_keys_of_mem ((finds value).mp rfl)) fresh

/-- The same is found in the same members in another order. -/
theorem perm (finds : known.Finds key stored found) {others : Members}
    (perm : known.Perm others) :
    others.Finds key stored found :=
  fun value => (finds value).trans perm.mem_iff

/-- What is written unless it is the default is what is found, or the default. -/
theorem getD_eq (finds : known.Finds key stored found) {default actual : α}
    (written : ∀ value, (key, stored value) ∈ known ↔ actual ≠ default ∧ value = actual) :
    found.getD default = actual := by
  cases isFound : found with
  | none =>
      by_contra different
      have isThere := (finds actual).mpr ((written actual).mpr ⟨Ne.symm different, rfl⟩)
      rw [isFound] at isThere
      cases isThere
  | some value => exact ((written value).mp ((finds value).mp isFound)).2

end Finds

/-- Members with different keys are taken in any order, if each of them is taken wherever its
key has not been met yet.

`Takes` says how members lead from a state to another one, and `Reads` what a state tells of
the members that have been met. -/
theorem exists_taken
    (Takes : σ -> Members -> σ -> Prop) {Reads : Members -> σ -> Prop} {members written : Members}
    {state : σ}
    (done : ∀ state, Takes state [] state)
    (next : ∀ held ∈ members, ∀ known state, held.1 ∉ keys known -> Reads known state ->
      ∃ middle, Reads (held :: known) middle ∧
        ∀ rest final, Takes middle rest final -> Takes state (held :: rest) final)
    (distinct : members.keys.Nodup)
    (perm : written.Perm members)
    (reads : Reads [] state) :
    ∃ final, Takes state written final ∧ ∃ known, known.Perm members ∧ Reads known final := by
  have behind : ∀ rest known state, (∀ held ∈ rest, held ∈ members) ->
      (keys rest ++ keys known).Nodup -> Reads known state ->
      ∃ final, Takes state rest final ∧ Reads (rest.reverse ++ known) final := by
    intro rest
    induction rest with
    | nil => exact fun known state _ _ reads => ⟨state, done state, reads⟩
    | cons held rest inductionHypothesis =>
        intro known state areThere distinct reads
        obtain ⟨fresh, others⟩ := List.nodup_cons.mp distinct
        have isNew : held.1 ∉ keys known := fun mem => fresh (List.mem_append_right _ mem)
        obtain ⟨middle, readsHeld, taken⟩ :=
          next held (areThere held (List.mem_cons_self ..)) known state isNew reads
        obtain ⟨final, takes, readsAll⟩ := inductionHypothesis (held :: known) middle
          (fun other mem => areThere other (List.mem_cons_of_mem _ mem))
          (List.nodup_middle.mpr distinct) readsHeld
        refine ⟨final, taken rest final takes, ?_⟩
        rwa [List.reverse_cons, List.append_assoc]
  have allDistinct : (keys written ++ keys []).Nodup := by
    simpa [keys] using (perm.map Prod.fst).nodup_iff.mpr distinct
  obtain ⟨final, takes, readsAll⟩ :=
    behind written [] state (fun _ mem => perm.mem_iff.mp mem) allDistinct reads
  rw [List.append_nil] at readsAll
  exact ⟨final, takes, written.reverse, (List.reverse_perm written).trans perm, readsAll⟩

/-- Members with different keys are folded in any order. -/
theorem exists_folded
    {step : σ -> String × Value -> Except ε σ} {Reads : Members -> σ -> Prop}
    {members written : Members} {state : σ}
    (next : ∀ held ∈ members, ∀ known state, held.1 ∉ keys known -> Reads known state ->
      ∃ middle, step state held = .ok middle ∧ Reads (held :: known) middle)
    (distinct : members.keys.Nodup)
    (perm : written.Perm members)
    (reads : Reads [] state) :
    ∃ final, written.foldlM step state = .ok final ∧
      ∃ known, known.Perm members ∧ Reads known final := by
  refine exists_taken (fun state rest final => rest.foldlM step state = .ok final) (fun _ => rfl)
    (fun held mem known state fresh reads => ?_) distinct perm reads
  obtain ⟨middle, isNext, readsHeld⟩ := next held mem known state fresh reads
  refine ⟨middle, readsHeld, fun rest final folded => ?_⟩
  rw [List.foldlM_cons, isNext]
  exact folded

end Members
end Json
end BlockFeed
