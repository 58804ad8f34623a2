import Mathlib.Data.List.Forall2
import Mathlib.Data.Rat.Cast.Order
import Workflow.Proofs.Containment

/-!
# Comparing values

Two atoms are equal if they are the same or denote the same number, whichever kinds of number they
are.  Equality of atoms is therefore an equivalence wherever it holds at all, and as the keys of a
dictionary differ from each other, equality of all values is symmetric.  Asking whether a map has an
equal value of the same kind is not, because an integer is taken where a double is asked for.
-/

namespace Workflow

namespace Binary64

/-- The number that a finite double denotes. -/
def number? : Binary64 → Option ℚ
  | finite negative significand exponent =>
    some ((if negative then -1 else 1) * significand * 2 ^ exponent)
  | _ => none

theorem twoTo_toNat {exponent : Int} (nonneg : 0 ≤ exponent) :
    (twoTo exponent.toNat : ℚ) = 2 ^ exponent := by
  obtain ⟨power, rfl⟩ := Int.eq_ofNat_of_zero_le nonneg
  simp [twoTo]

theorem inUnits_mul {exponent unit : Int} (finer : unit ≤ exponent) (negative : Bool)
    (significand : Nat) :
    (inUnits negative significand exponent unit : ℚ) * 2 ^ unit =
      (if negative then -1 else 1) * significand * 2 ^ exponent := by
  have scaled : (twoTo (exponent - unit).toNat : ℚ) * 2 ^ unit = 2 ^ exponent := by
    rw [twoTo_toNat (Int.sub_nonneg.mpr finer), ← zpow_add₀ two_ne_zero, Int.sub_add_cancel]
  cases negative <;> simp [inUnits, mul_assoc, scaled]

theorem equal_finite_iff {left right : Bool} {significand significand' : Nat}
    {exponent exponent' : Int} :
    (finite left significand exponent).equal (finite right significand' exponent') = true ↔
      (finite left significand exponent).number? =
        (finite right significand' exponent').number? := by
  have first := inUnits_mul (min_le_left exponent exponent') left significand
  have second := inUnits_mul (min_le_right exponent exponent') right significand'
  have positive : (2 : ℚ) ^ min exponent exponent' ≠ 0 := zpow_ne_zero _ two_ne_zero
  simp only [equal, number?, beq_iff_eq, Option.some.injEq]
  rw [← first, ← second, mul_left_inj' positive, Int.cast_inj]

/-- A double equals an integer exactly if it denotes it. -/
theorem equalInt_iff {double : Binary64} {number : Int} :
    double.equalInt number = true ↔ double.number? = some (number : ℚ) := by
  cases double with
  | finite negative significand exponent =>
      have first := inUnits_mul (min_le_left exponent 0) negative significand
      have whole : (twoTo (-min exponent 0).toNat : ℚ) * 2 ^ min exponent 0 = 1 := by
        rw [twoTo_toNat (Int.neg_nonneg.mpr (min_le_right exponent 0)),
          ← zpow_add₀ two_ne_zero, Int.add_left_neg, zpow_zero]
      have positive : (2 : ℚ) ^ min exponent 0 ≠ 0 := zpow_ne_zero _ two_ne_zero
      simp only [equalInt, number?, beq_iff_eq, Option.some.injEq]
      rw [← first, ← Int.cast_inj (α := ℚ), ← mul_left_inj' positive]
      push_cast
      rw [mul_assoc (number : ℚ), whole, mul_one]
  | _ => simp [equalInt, number?]

theorem equal_iff {left right : Binary64} : left.equal right = true ↔
    (∃ negative, left = infinite negative ∧ right = infinite negative) ∨
      ∃ number, left.number? = some number ∧ right.number? = some number := by
  cases left with
  | nan => simp [equal, number?]
  | infinite sign =>
      cases right with
      | infinite other =>
          simp only [equal, beq_iff_eq, infinite.injEq, exists_eq_left']
          simp [number?, eq_comm]
      | _ => simp [equal, number?]
  | finite sign significand exponent =>
      cases right with
      | finite sign' significand' exponent' =>
          rw [equal_finite_iff]
          simp only [number?, Option.some.injEq, reduceCtorEq, false_and, exists_false, false_or,
            exists_eq_left']
          exact eq_comm
      | _ => simp [equal, number?]

end Binary64

namespace Value

/-- The number that a value denotes; a truth value counts as zero or one. -/
def number? : Value → Option ℚ
  | float double => double.number?
  | value => value.asInt?.map fun (number : Int) => (number : ℚ)

/-- Whether a value holds no others. -/
def isAtom : Value → Bool
  | list _ => false
  | tuple _ => false
  | dict _ => false
  | _ => true

/-- Two atoms that are the same, or that denote the same number. -/
inductive SameAtom : Value → Value → Prop where
  | null : SameAtom null null
  | text (string : String) : SameAtom (text string) (text string)
  | bytes (octets : List UInt8) : SameAtom (bytes octets) (bytes octets)
  | infinite (negative : Bool) :
      SameAtom (float (.infinite negative)) (float (.infinite negative))
  | number {left right : Value} {number : ℚ} (denoted : left.number? = some number)
      (same : right.number? = some number) : SameAtom left right

namespace SameAtom

variable {left middle right : Value}

theorem symm (same : SameAtom left right) : SameAtom right left := by
  cases same with
  | number denoted same => exact .number same denoted
  | _ => constructor

theorem trans (first : SameAtom left middle) (second : SameAtom middle right) :
    SameAtom left right := by
  cases first with
  | number denoted same =>
      cases second with
      | number again other => exact .number denoted (by rw [other, ← again, same])
      | _ => cases same
  | _ =>
      cases second with
      | number again other => cases again
      | _ => constructor

theorem isAtom_of_number {value : Value} {number : ℚ} (denoted : value.number? = some number) :
    value.isAtom = true := by
  cases value <;> first | rfl | cases denoted

theorem isAtom (same : SameAtom left right) : left.isAtom = true ∧ right.isAtom = true := by
  cases same with
  | number denoted same => exact ⟨isAtom_of_number denoted, isAtom_of_number same⟩
  | _ => exact ⟨rfl, rfl⟩

end SameAtom

theorem sameAtom_iff_of_number {left right : Value} {number : ℚ}
    (denoted : left.number? = some number) :
    SameAtom left right ↔ right.number? = some number := by
  constructor
  · intro same
    cases same with
    | number again same => rw [same, ← again, denoted]
    | _ => cases denoted
  · exact fun same => .number denoted same

theorem equalAtoms_int (number : Int) (right : Value) :
    equalAtoms (int number) right = true ↔ right.number? = some (number : ℚ) := by
  cases right with
  | float double => exact Binary64.equalInt_iff
  | int other =>
      simp only [equalAtoms, asInt?, beq_iff_eq, number?, Option.map_some, Option.some.injEq,
        Int.cast_inj]
      exact eq_comm
  | bool truth =>
      simp only [equalAtoms, asInt?, beq_iff_eq, number?, Option.map_some, Option.some.injEq,
        Int.cast_inj]
      exact eq_comm
  | _ => simp [equalAtoms, asInt?, number?]

theorem equalAtoms_float (double : Binary64) (right : Value) :
    equalAtoms (float double) right = true ↔ SameAtom (float double) right := by
  have integral (number : Int) (shown : right.number? = some (number : ℚ))
      (compared : equalAtoms (float double) right = double.equalInt number) :
      equalAtoms (float double) right = true ↔ SameAtom (float double) right := by
    rw [compared, Binary64.equalInt_iff]
    constructor
    · exact fun denoted => .number denoted shown
    · exact fun same => (sameAtom_iff_of_number shown).mp same.symm
  cases right with
  | float other =>
      simp only [equalAtoms, Binary64.equal_iff]
      constructor
      · rintro (⟨negative, rfl, rfl⟩ | ⟨number, denoted, same⟩)
        · exact .infinite negative
        · exact .number denoted same
      · intro same
        cases same with
        | infinite negative => exact .inl ⟨negative, rfl, rfl⟩
        | number denoted same => exact .inr ⟨_, denoted, same⟩
  | int number => exact integral number rfl rfl
  | bool truth => exact integral _ rfl rfl
  | _ =>
      simp only [equalAtoms, asInt?, Option.map_none, Option.getD_none, Bool.false_eq_true,
        false_iff]
      intro same
      cases same with
      | number denoted same => cases same

/-- A value that denotes no number differs from all values of other kinds. -/
theorem equalAtoms_iff_of_kind_ne {left right : Value} (numberless : left.number? = none)
    (different : left.kind ≠ right.kind) (unequal : equalAtoms left right = false) :
    equalAtoms left right = true ↔ SameAtom left right := by
  rw [unequal]
  refine ⟨nofun, fun same => ?_⟩
  cases same with
  | number denoted same => cases numberless.symm.trans denoted
  | _ => exact absurd rfl different

/-- Comparing atoms is comparing what they are, or the numbers that they denote. -/
theorem equalAtoms_iff {left right : Value} :
    equalAtoms left right = true ↔ SameAtom left right := by
  have compound {value : Value} (holds : value.isAtom = false)
      (unequal : equalAtoms value right = false) :
      equalAtoms value right = true ↔ SameAtom value right := by
    rw [unequal]
    exact ⟨nofun, fun same => absurd same.isAtom.1 (by rw [holds]; decide)⟩
  cases left with
  | float double => exact equalAtoms_float double right
  | int number =>
      rw [equalAtoms_int]
      exact (sameAtom_iff_of_number rfl).symm
  | bool truth =>
      have counted : equalAtoms (bool truth) right =
          equalAtoms (int (if truth then 1 else 0)) right := by
        cases right <;> rfl
      rw [counted, equalAtoms_int]
      exact (sameAtom_iff_of_number rfl).symm
  | null =>
      cases right with
      | null => exact ⟨fun _ => .null, fun _ => rfl⟩
      | _ => exact equalAtoms_iff_of_kind_ne rfl nofun rfl
  | text string =>
      cases right with
      | text other =>
          simp only [equalAtoms, beq_iff_eq]
          constructor
          · rintro rfl
            exact .text string
          · intro same
            cases same with
            | text => rfl
            | number denoted => cases denoted
      | _ => exact equalAtoms_iff_of_kind_ne rfl nofun rfl
  | bytes octets =>
      cases right with
      | bytes other =>
          simp only [equalAtoms, beq_iff_eq]
          constructor
          · rintro rfl
            exact .bytes octets
          · intro same
            cases same with
            | bytes => rfl
            | number denoted => cases denoted
      | _ => exact equalAtoms_iff_of_kind_ne rfl nofun rfl
  | list items => exact compound rfl (by cases right <;> rfl)
  | tuple items => exact compound rfl (by cases right <;> rfl)
  | dict entries => exact compound rfl (by cases right <;> rfl)

theorem equal_of_isAtom {left right : Value} (single : left.isAtom = true ∨ right.isAtom = true) :
    equal left right = equalAtoms left right := by
  apply equal.eq_4
  all_goals
    rintro _ _ rfl rfl
    rcases single with single | single <;> cases single

/-! ## Symmetry -/

/-- Values as they can be: the keys of a dictionary can be hashed and differ from each other. -/
inductive WF : Value → Prop where
  | atom {value : Value} (single : value.isAtom = true) : WF value
  | list {items : List Value} (within : ∀ item ∈ items, WF item) : WF (list items)
  | tuple {items : List Value} (within : ∀ item ∈ items, WF item) : WF (tuple items)
  | dict {entries : List (Value × Value)}
      (hashable : ∀ entry ∈ entries, entry.1.isHashable = true)
      (distinct : entries.Pairwise fun earlier later => equal earlier.1 later.1 = false)
      (keys : ∀ entry ∈ entries, WF entry.1) (values : ∀ entry ∈ entries, WF entry.2) :
      WF (dict entries)

theorem equalItems_iff {lefts rights : List Value} : equalItems lefts rights = true ↔
    List.Forall₂ (fun left right => equal left right = true) lefts rights := by
  induction lefts generalizing rights with
  | nil => cases rights <;> simp [equalItems]
  | cons left lefts ih => cases rights <;> simp [equalItems, ih]

theorem equal_list_iff {items : List Value} {right : Value} : equal (list items) right = true ↔
    ∃ others, right = list others ∧
      List.Forall₂ (fun left right => equal left right = true) items others := by
  cases right <;> simp [equal, equalAtoms, asInt?, equalItems_iff]

theorem equal_tuple_iff {items : List Value} {right : Value} : equal (tuple items) right = true ↔
    ∃ others, right = tuple others ∧
      List.Forall₂ (fun left right => equal left right = true) items others := by
  cases right <;> simp [equal, equalAtoms, asInt?, equalItems_iff]

theorem equal_dict_iff {entries : List (Value × Value)} {right : Value} :
    equal (dict entries) right = true ↔ ∃ others, right = dict others ∧
      entries.length = others.length ∧ entriesWithin entries others = true := by
  cases right <;> simp [equal, equalAtoms, asInt?]

theorem equal_atom_iff {left right : Value} (single : left.isAtom = true ∨ right.isAtom = true) :
    equal left right = true ↔ SameAtom left right := by
  rw [equal_of_isAtom single, equalAtoms_iff]

theorem entriesWithin_iff {left right : List (Value × Value)} :
    entriesWithin left right = true ↔ ∀ entry ∈ left, ∃ other ∈ right,
      equal entry.1 other.1 = true ∧ equal entry.2 other.2 = true := by
  induction left with
  | nil => simp [entriesWithin]
  | cons entry rest ih =>
      obtain ⟨key, value⟩ := entry
      simp only [entriesWithin, Bool.and_eq_true, List.any_eq_true, List.forall_mem_cons, ih]

/-- What a hashable value equals is equal to everything else that it equals. -/
theorem equal_of_equal {middle : Value} (hashable : middle.isHashable = true) :
    ∀ left right, equal middle left = true → equal middle right = true →
      equal left right = true := by
  revert hashable
  refine isHashable.induct
    (fun middle => middle.isHashable = true → ∀ left right, equal middle left = true →
      equal middle right = true → equal left right = true)
    (fun middles => areHashable middles = true → ∀ lefts rights,
      List.Forall₂ (fun middle left => equal middle left = true) middles lefts →
      List.Forall₂ (fun middle right => equal middle right = true) middles rights →
      List.Forall₂ (fun left right => equal left right = true) lefts rights)
    ?list ?dict ?tuple ?atom ?nil ?cons middle
  case list => exact fun items hashable => nomatch hashable
  case dict => exact fun entries hashable => nomatch hashable
  case tuple =>
    intro items ih hashable left right first second
    obtain ⟨lefts, rfl, ones⟩ := equal_tuple_iff.mp first
    obtain ⟨rights, rfl, others⟩ := equal_tuple_iff.mp second
    exact equal_tuple_iff.mpr ⟨rights, rfl, ih hashable lefts rights ones others⟩
  case atom =>
    intro middle noList noDict noTuple _ left right first second
    have single : middle.isAtom = true := by
      cases middle with
      | list items => exact (noList items rfl).elim
      | tuple items => exact (noTuple items rfl).elim
      | dict entries => exact (noDict entries rfl).elim
      | _ => rfl
    have one := (equal_atom_iff (.inl single)).mp first
    have other := (equal_atom_iff (.inl single)).mp second
    exact (equal_atom_iff (.inl one.isAtom.2)).mpr (one.symm.trans other)
  case nil =>
    intro _ lefts rights first second
    cases first
    cases second
    exact .nil
  case cons =>
    intro item items ih ihs hashable lefts rights first second
    simp only [areHashable, Bool.and_eq_true] at hashable
    cases first with
    | cons same others =>
        cases second with
        | cons also further =>
            exact .cons (ih hashable.1 _ _ same also) (ihs hashable.2 _ _ others further)

/-- Items that are related to as many others as there are, no two of them to the same one, leave
out none of the others. -/
theorem exists_related {α β : Type} {related : α → β → Prop} {left : List α} {right : List β}
    (counted : left.length = right.length)
    (apart : left.Pairwise fun one two => ∀ other ∈ right, related one other → ¬ related two other)
    (within : ∀ one ∈ left, ∃ other ∈ right, related one other) :
    ∀ other ∈ right, ∃ one ∈ left, related one other := by
  induction left generalizing right with
  | nil =>
      rw [List.length_nil] at counted
      rw [List.length_eq_zero_iff.mp counted.symm]
      nofun
  | cons first rest ih =>
      obtain ⟨alone, apart⟩ := List.pairwise_cons.mp apart
      obtain ⟨⟨taken, there, takes⟩, within⟩ := List.forall_mem_cons.mp within
      obtain ⟨before, behind, rfl⟩ := List.append_of_mem there
      have parted (other : β) : other ∈ before ++ taken :: behind ↔
          other = taken ∨ other ∈ before ++ behind := by
        simp only [List.mem_append, List.mem_cons]
        exact or_left_comm
      have fewer : rest.length = (before ++ behind).length := by
        simp only [List.length_cons, List.length_append] at counted ⊢
        omega
      have left_over : ∀ other ∈ before ++ behind, ∃ one ∈ rest, related one other := by
        apply ih fewer
        · refine apart.imp fun separate other member => ?_
          exact separate other ((parted other).mpr (.inr member))
        · intro one member
          obtain ⟨other, present, relates⟩ := within one member
          rcases (parted other).mp present with rfl | remains
          · exact absurd relates (alone one member other there takes)
          · exact ⟨other, remains, relates⟩
      intro other member
      rcases (parted other).mp member with rfl | remains
      · exact ⟨first, List.mem_cons_self, takes⟩
      · obtain ⟨one, present, relates⟩ := left_over other remains
        exact ⟨one, List.mem_cons_of_mem _ present, relates⟩

theorem forall₂_symm {lefts rights : List Value}
    (symm : ∀ left ∈ lefts, ∀ right, right.WF → equal left right = true → equal right left = true)
    (formed : ∀ right ∈ rights, right.WF)
    (same : List.Forall₂ (fun left right => equal left right = true) lefts rights) :
    List.Forall₂ (fun right left => equal right left = true) rights lefts := by
  induction same with
  | nil => exact .nil
  | cons same others ih =>
      obtain ⟨first, symm⟩ := List.forall_mem_cons.mp symm
      obtain ⟨firstFormed, formed⟩ := List.forall_mem_cons.mp formed
      exact .cons (first _ firstFormed same) (ih symm formed)

/-- Equality of values is symmetric. -/
theorem equal_symm {left right : Value} (leftFormed : left.WF) (rightFormed : right.WF)
    (same : equal left right = true) : equal right left = true := by
  induction leftFormed generalizing right with
  | atom single =>
      have alike := (equal_atom_iff (.inl single)).mp same
      exact (equal_atom_iff (.inr single)).mpr alike.symm
  | @list items within ih =>
      obtain ⟨others, rfl, pairs⟩ := equal_list_iff.mp same
      cases rightFormed with
      | atom single => cases single
      | list formed =>
          refine equal_list_iff.mpr ⟨items, rfl, forall₂_symm ?_ formed pairs⟩
          exact fun item member right rightFormed => ih item member rightFormed
  | @tuple items within ih =>
      obtain ⟨others, rfl, pairs⟩ := equal_tuple_iff.mp same
      cases rightFormed with
      | atom single => cases single
      | tuple formed =>
          refine equal_tuple_iff.mpr ⟨items, rfl, forall₂_symm ?_ formed pairs⟩
          exact fun item member right rightFormed => ih item member rightFormed
  | @dict entries hashable distinct keys values keysIH valuesIH =>
      obtain ⟨others, rfl, counted, within⟩ := equal_dict_iff.mp same
      cases rightFormed with
      | atom single => cases single
      | dict hashable' distinct' keys' values' =>
          have back {entry other : Value × Value} (member : entry ∈ entries)
              (there : other ∈ others) (alike : equal entry.1 other.1 = true) :
              equal other.1 entry.1 = true :=
            keysIH entry member (keys' other there) alike
          -- Two keys that equal the same key of the other dictionary would equal each other.
          have apart : entries.Pairwise fun one two => ∀ other ∈ others,
              (equal one.1 other.1 = true ∧ equal one.2 other.2 = true) →
                ¬ (equal two.1 other.1 = true ∧ equal two.2 other.2 = true) := by
            refine distinct.imp_of_mem ?_
            intro one two first second differ other there alike also
            have equals := equal_of_equal (hashable' other there) _ _
              (back first there alike.1) (back second there also.1)
            rw [differ] at equals
            cases equals
          have covered := exists_related counted apart (entriesWithin_iff.mp within)
          refine equal_dict_iff.mpr ⟨entries, rfl, counted.symm, entriesWithin_iff.mpr ?_⟩
          intro other there
          obtain ⟨entry, member, alike, valued⟩ := covered other there
          exact ⟨entry, member, back member there alike,
            valuesIH entry member (values' other there) valued⟩

theorem equal_comm {left right : Value} (leftFormed : left.WF) (rightFormed : right.WF) :
    equal left right = equal right left := by
  rw [Bool.eq_iff_iff]
  exact ⟨equal_symm leftFormed rightFormed, equal_symm rightFormed leftFormed⟩

theorem int_equal_float {number : Int} {double : Binary64} :
    equal (int number) (float double) = true ↔ double.number? = some (number : ℚ) := by
  rw [equal_of_isAtom (.inl rfl)]
  exact Binary64.equalInt_iff

end Value

/-! ## Asking for a value -/

namespace ValueMap

/-- There is an equal value of the same kind under the key. -/
def Holds (map : ValueMap) (key : String) (value : Value) : Prop :=
  ∃ stored, map.get? key = some stored ∧ stored.kind = value.kind ∧ (stored == value) = true

/-- There is an integer under the key where a double is asked for that denotes it. -/
def HoldsWhole (map : ValueMap) (key : String) (value : Value) : Prop :=
  ∃ number double, map.get? key = some (.int number) ∧ value = .float double ∧
    double.number? = some (number : ℚ)

variable {map other : ValueMap} {key : String} {stored value : Value}

theorem Holds.not_holdsWhole (holds : map.Holds key value) : ¬ map.HoldsWhole key value := by
  rintro ⟨number, double, found, rfl, -⟩
  obtain ⟨stored, there, sameKind, -⟩ := holds
  cases there.symm.trans found
  cases sameKind

theorem checkEquals_of_get? (found : map.get? key = some stored) (value : Value) :
    map.checkEquals (.text key) value = .ok (stored.isA value.kind && stored == value) := by
  simp only [checkEquals, find?, keyText?, Except.map, Option.bind_some, found]
  rfl

theorem checkEquals_eq_true_iff : map.checkEquals (.text key) value = .ok true ↔
    map.Holds key value ∨ map.HoldsWhole key value := by
  cases found : map.get? key with
  | none =>
      have absent : map.checkEquals (.text key) value = .ok false := by
        simp only [checkEquals, find?, keyText?, Except.map, Option.bind_some, found]
        rfl
      simp [absent, Holds, HoldsWhole, found]
  | some stored =>
      rw [checkEquals_of_get? found]
      constructor
      · intro equal
        simp only [Value.isA, Except.ok.injEq, Bool.and_eq_true, Bool.or_eq_true, beq_iff_eq]
          at equal
        obtain ⟨sameKind | ⟨double, whole⟩, equal⟩ := equal
        · exact .inl ⟨stored, found, sameKind, equal⟩
        · cases stored <;> cases whole
          cases value <;> cases double
          exact .inr ⟨_, _, found, rfl, Value.int_equal_float.mp equal⟩
      · rintro (⟨stored, there, sameKind, equal⟩ | ⟨number, double, there, rfl, denoted⟩)
        · cases found.symm.trans there
          simp [Value.isA, sameKind, equal]
        · cases found.symm.trans there
          exact congrArg Except.ok (Value.int_equal_float.mpr denoted)

/-- Asking for an equal value always has an answer.  It is affirmative where an equal value of the
same kind is stored, and where an integer is stored and an equal double asked for.  These are two
different things, and the second one depends on which value is stored and which one asked for:
exchanging the two changes the answer exactly if one is an integer and the other an equal double. -/
theorem checkEquals_widens (map : ValueMap) (key : String) (value : Value) :
    (∃ answer, map.checkEquals (.text key) value = .ok answer) ∧
      (map.checkEquals (.text key) value = .ok true ↔
        map.Holds key value ∨ map.HoldsWhole key value) ∧
      ¬ (map.Holds key value ∧ map.HoldsWhole key value) ∧
      ∀ (other : ValueMap) (stored : Value), map.get? key = some stored →
        other.get? key = some value → stored.WF → value.WF →
        (map.checkEquals (.text key) value ≠ other.checkEquals (.text key) stored ↔
          map.HoldsWhole key value ∨ other.HoldsWhole key stored) := by
  refine ⟨Engine.checkEquals_text map key value, checkEquals_eq_true_iff,
    fun both => both.1.not_holdsWhole both.2, ?_⟩
  intro other stored found there storedFormed valueFormed
  have turned : map.Holds key value ↔ other.Holds key stored := by
    simp only [Holds, found, there, Option.some.injEq, exists_eq_left']
    rw [show (stored == value) = (value == stored) from
      Value.equal_comm storedFormed valueFormed, eq_comm (a := stored.kind)]
  obtain ⟨answer, answers⟩ := Engine.checkEquals_text map key value
  obtain ⟨reply, replies⟩ := Engine.checkEquals_text other key stored
  have one : answer = true ↔ map.Holds key value ∨ map.HoldsWhole key value := by
    rw [← checkEquals_eq_true_iff, answers, Except.ok.injEq]
  have two : reply = true ↔ other.Holds key stored ∨ other.HoldsWhole key stored := by
    rw [← checkEquals_eq_true_iff, replies, Except.ok.injEq]
  have apart : map.HoldsWhole key value → ¬ other.HoldsWhole key stored := by
    rintro ⟨number, double, -, rfl, -⟩ ⟨_, _, again, -, -⟩
    cases there.symm.trans again
  rw [answers, replies, ne_eq, Except.ok.injEq, Bool.eq_iff_iff, one, two, turned]
  constructor
  · intro differ
    by_contra neither
    obtain ⟨notHere, notThere⟩ := not_or.mp neither
    exact differ (by simp only [notHere, notThere])
  · rintro (here | there) same
    · rcases same.mp (.inr here) with holds | there
      · exact (turned.mpr holds).not_holdsWhole here
      · exact apart here there
    · rcases same.mpr (.inr there) with holds | here
      · exact holds.not_holdsWhole there
      · exact apart here there

end ValueMap

/-! ## Fares

A fare is stored as an integer and as a double.  What is known of two passengers is written down in
another order, with a seat whose number is an integer once and a double once. -/

namespace Fares

def three : Value := .float (.ofFraction false 3 1)

def whole : ValueMap := ⟨[("fare", .int 3)]⟩

def fractional : ValueMap := ⟨[("fare", three)]⟩

def passenger : Value :=
  .dict [(.int 3, .list [.text "aisle", .bool true]), (.tuple [.null], .dict [])]

def again : Value := .dict [(.tuple [.null], .dict []), (three, .list [.text "aisle", .int 1])]

theorem wf_list {items : List Value} (single : ∀ item ∈ items, item.isAtom = true) :
    (Value.list items).WF :=
  .list fun item member => .atom (single item member)

theorem wf_key : (Value.tuple [.null]).WF :=
  .tuple (List.forall_mem_singleton.mpr (.atom rfl))

theorem wf_nothing : (Value.dict []).WF :=
  .dict nofun .nil nofun nofun

theorem wf_passenger : passenger.WF :=
  .dict (by decide) (by decide)
    (List.forall_mem_cons.mpr ⟨.atom rfl, List.forall_mem_singleton.mpr wf_key⟩)
    (List.forall_mem_cons.mpr ⟨wf_list (by decide), List.forall_mem_singleton.mpr wf_nothing⟩)

theorem wf_again : again.WF :=
  .dict (by decide +kernel) (by decide +kernel)
    (List.forall_mem_cons.mpr ⟨wf_key, List.forall_mem_singleton.mpr (.atom rfl)⟩)
    (List.forall_mem_cons.mpr ⟨wf_nothing, List.forall_mem_singleton.mpr (wf_list (by decide))⟩)

theorem denoted : (Binary64.ofFraction false 3 1).number? = some ((3 : Int) : ℚ) :=
  Binary64.equalInt_iff.mp (by decide +kernel)

/-- The integer is taken for the double and the double not for the integer; the passengers are the
same either way. -/
theorem checkEquals_widens_fares :
    whole.checkEquals (.text "fare") three ≠ fractional.checkEquals (.text "fare") (.int 3) ∧
      (⟨[("seat", passenger)]⟩ : ValueMap).checkEquals (.text "seat") again =
        (⟨[("seat", again)]⟩ : ValueMap).checkEquals (.text "seat") passenger := by
  obtain ⟨-, -, -, fares⟩ := ValueMap.checkEquals_widens whole "fare" three
  obtain ⟨-, -, -, seats⟩ := ValueMap.checkEquals_widens ⟨[("seat", passenger)]⟩ "seat" again
  constructor
  · exact (fares fractional (.int 3) rfl rfl (.atom rfl) (.atom rfl)).mpr
      (.inl ⟨3, _, rfl, rfl, denoted⟩)
  · refine not_not.mp (mt (seats ⟨[("seat", again)]⟩ passenger rfl rfl wf_passenger wf_again).mp ?_)
    rintro (⟨_, _, found, -⟩ | ⟨_, _, found, -⟩) <;> cases found

/-- An integer is stored, and the answer about the double of another kind is affirmative; it is not
once the two are exchanged. -/
theorem holdsWhole_fares : whole.checkEquals (.text "fare") three = .ok true ∧
    ¬ whole.Holds "fare" three ∧ fractional.checkEquals (.text "fare") (.int 3) = .ok false := by
  refine ⟨congrArg Except.ok (by decide +kernel), ?_, congrArg Except.ok (by decide +kernel)⟩
  rintro ⟨stored, found, sameKind, -⟩
  cases found
  cases sameKind

end Fares

end Workflow
