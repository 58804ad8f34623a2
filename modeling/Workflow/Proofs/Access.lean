import Workflow.Proofs.Rounding

/-!
# Values of one kind

A map can be asked for a text, a truth value, an integer or a double.  It answers with the stored
value if that is of this kind, and takes an integer for the double nearest to it; a truth value is
no number.  Where no value is stored, or one that is not taken, it says so.  There is one more way
to fail: a stored integer may lie beyond the range of doubles.
-/

namespace Workflow

/-- What a map can be asked for. -/
inductive Accessor where
  | text
  | truth
  | integer
  | double
  deriving DecidableEq, Repr

namespace Accessor

variable {accessor : Accessor} {map : ValueMap} {key : String} {stored answer : Value}
  {fault : ValueFault}

/-- The kind of the values that are asked for. -/
def kind : Accessor → Kind
  | text => .text
  | truth => .bool
  | integer => .int
  | double => .float

/-- Asks a map for the value under a key. -/
def read (map : ValueMap) (key : Value) : Accessor → Except ValueFault Value
  | double => map.getFloat key
  | accessor => map.getA accessor.kind key

/-- The stored values that are taken: those of the kind that is asked for, and integers where a
double is. -/
inductive Takes : Accessor → Value → Prop where
  | text (string : String) : Takes .text (.text string)
  | truth (truth : Bool) : Takes .truth (.bool truth)
  | integer (number : Int) : Takes .integer (.int number)
  | double (number : Binary64) : Takes .double (.float number)
  | converted (number : Int) : Takes .double (.int number)

/-- A double is asked for, and the stored integer lies half a unit or more beyond the largest
one. -/
inductive Exceeded : Accessor → Value → Prop where
  | integer {number : Int} (beyond : Binary64.overflowBound ≤ number.natAbs) :
      Exceeded .double (.int number)

/-- What is answered with: the stored value, or the double nearest to a stored integer. -/
inductive Yields : Accessor → Value → Value → Prop where
  | stored {accessor : Accessor} {value : Value} (own : value.kind = accessor.kind) :
      Yields accessor value value
  | converted {number : Int} {double : Binary64} (nearest : double.Nearest number) :
      Yields .double (.int number) (.float double)

theorem exceeded_iff {number : Int} :
    Exceeded .double (.int number) ↔ Binary64.overflowBound ≤ number.natAbs :=
  ⟨fun ⟨beyond⟩ => beyond, .integer⟩

theorem Yields.kind_eq (yields : accessor.Yields stored answer) : answer.kind = accessor.kind := by
  cases yields with
  | stored own => exact own
  | converted nearest => rfl

theorem takes_iff : accessor.Takes stored ↔ stored.isA accessor.kind = true := by
  constructor
  · intro takes
    cases takes <;> rfl
  · intro suits
    cases accessor <;> cases stored <;> first | constructor | cases suits

theorem getA_of_get?_eq_none (absent : map.get? key = none) (kind : Kind) :
    map.getA kind (.text key) = .error (.unknownReference (.text key)) := by
  simp only [ValueMap.getA, ValueMap.require, ValueMap.find?, ValueMap.keyText?, Except.map,
    Option.bind_some, absent]
  rfl

theorem getA_of_get?_eq_some (found : map.get? key = some stored) (kind : Kind) :
    map.getA kind (.text key) =
      if stored.isA kind then .ok stored else .error (.mismatch key stored.kind kind) := by
  simp only [ValueMap.getA, ValueMap.require, ValueMap.find?, ValueMap.keyText?, Except.map,
    Option.bind_some, found, bind, Except.bind, pure, Except.pure]
  rfl

theorem read_missing (absent : map.get? key = none) (accessor : Accessor) :
    accessor.read map (.text key) = .error (.unknownReference (.text key)) := by
  cases accessor with
  | double =>
      simp only [read, ValueMap.getFloat, getA_of_get?_eq_none absent]
      rfl
  | _ => exact getA_of_get?_eq_none absent _

theorem read_mismatched (found : map.get? key = some stored) (untaken : ¬ accessor.Takes stored) :
    accessor.read map (.text key) = .error (.mismatch key stored.kind accessor.kind) := by
  have refused : map.getA accessor.kind (.text key) =
      .error (.mismatch key stored.kind accessor.kind) := by
    rw [getA_of_get?_eq_some found, if_neg (mt takes_iff.mpr untaken)]
  cases accessor with
  | double =>
      rw [kind] at refused
      simp only [read, ValueMap.getFloat, refused]
      rfl
  | _ => exact refused

/-- A stored value that is taken is answered with, unless it is an integer that has no double. -/
theorem read_taken (found : map.get? key = some stored) (taken : accessor.Takes stored) :
    (accessor.Exceeded stored ∧ accessor.read map (.text key) = .error .outOfRange) ∨
      (¬ accessor.Exceeded stored ∧
        ∃ answer, accessor.read map (.text key) = .ok answer ∧ accessor.Yields stored answer) := by
  have kept : map.getA accessor.kind (.text key) = .ok stored := by
    rw [getA_of_get?_eq_some found, if_pos (takes_iff.mp taken)]
  cases taken with
  | converted number =>
      rw [kind] at kept
      simp only [read, ValueMap.getFloat, kept, bind, Except.bind]
      rcases Binary64.ofInt?_cases number with ⟨beyond, none⟩ | ⟨within, double, converted, nearest⟩
      · rw [none]
        exact .inl ⟨.integer beyond, rfl⟩
      · rw [converted]
        exact .inr ⟨mt exceeded_iff.mp (Nat.not_le.mpr within), _, rfl, .converted nearest⟩
  | double number =>
      rw [kind] at kept
      simp only [read, ValueMap.getFloat, kept, bind, Except.bind]
      exact .inr ⟨nofun, _, rfl, .stored rfl⟩
  | _ => exact .inr ⟨nofun, _, kept, .stored rfl⟩

/-- Asking for a value of one kind fails in three ways and no others: nothing is stored under the
key, the stored value is not taken, or it is an integer beyond the range of doubles where a double
is asked for.  In every other case the answer is of the kind that was asked for, and is the stored
value or the double nearest to it. -/
theorem read_overflows (map : ValueMap) (key : String) (accessor : Accessor) :
    (∀ fault, accessor.read map (.text key) = .error fault ↔
      (map.get? key = none ∧ fault = .unknownReference (.text key)) ∨
        ∃ stored, map.get? key = some stored ∧
          ((¬ accessor.Takes stored ∧ fault = .mismatch key stored.kind accessor.kind) ∨
            (accessor.Exceeded stored ∧ fault = .outOfRange))) ∧
      ∀ stored, map.get? key = some stored → accessor.Takes stored → ¬ accessor.Exceeded stored →
        ∃ answer, accessor.read map (.text key) = .ok answer ∧ answer.kind = accessor.kind ∧
          accessor.Yields stored answer := by
  constructor
  · intro fault
    cases found : map.get? key with
    | none =>
        rw [read_missing found]
        simp [eq_comm]
    | some stored =>
        simp only [reduceCtorEq, false_and, false_or, Option.some.injEq, exists_eq_left']
        by_cases taken : accessor.Takes stored
        · rcases read_taken found taken with ⟨exceeded, failed⟩ | ⟨within, answer, answered, -⟩
          · simp [failed, taken, exceeded, eq_comm]
          · simp [answered, taken, within]
        · have within : ¬ accessor.Exceeded stored := by
            rintro ⟨-⟩
            exact taken (.converted _)
          simp [read_mismatched found taken, taken, within, eq_comm]
  · intro stored found taken within
    rcases read_taken found taken with ⟨exceeded, -⟩ | ⟨-, answer, answered, yields⟩
    · exact absurd exceeded within
    · exact ⟨answer, answered, yields.kind_eq, yields⟩

end Accessor

/-! ## A ransom

The coins of a ransom are counted.  The most that has a double nearest to it is one coin less than
the first number beyond the range. -/

namespace Ransom

def coins : Int := Binary64.overflowBound - 1

def demanded : ValueMap := ⟨[("coins", .int coins), ("paid", .bool true)]⟩

def raised : ValueMap := ⟨[("coins", .int (coins + 1))]⟩

/-- The ransom is told as a double until it is raised by a coin. -/
theorem read_overflows_ransom :
    (∃ answer, Accessor.double.read demanded (.text "coins") = .ok answer ∧ answer.kind = .float ∧
        Accessor.double.Yields (.int coins) answer) ∧
      Accessor.double.read raised (.text "coins") = .error .outOfRange ∧
      Accessor.integer.read demanded (.text "paid") = .error (.mismatch "paid" .bool .int) ∧
      Accessor.text.read raised (.text "paid") = .error (.unknownReference (.text "paid")) := by
  have within : ¬ Accessor.double.Exceeded (.int coins) :=
    mt Accessor.exceeded_iff.mp (by decide +kernel)
  have beyond : Accessor.double.Exceeded (.int (coins + 1)) :=
    Accessor.exceeded_iff.mpr (by decide +kernel)
  refine ⟨?_, ?_, ?_, ?_⟩
  · exact (Accessor.read_overflows demanded "coins" .double).2 _ rfl (.converted coins) within
  · exact ((Accessor.read_overflows raised "coins" .double).1 _).mpr
      (.inr ⟨_, rfl, .inr ⟨beyond, rfl⟩⟩)
  · exact ((Accessor.read_overflows demanded "paid" .integer).1 _).mpr
      (.inr ⟨_, rfl, .inl ⟨nofun, rfl⟩⟩)
  · exact ((Accessor.read_overflows raised "paid" .text).1 _).mpr (.inl ⟨rfl, rfl⟩)

/-- An integer is taken where a double is asked for, and yet there is no answer. -/
theorem unanswered_ransom : raised.get? "coins" = some (.int (coins + 1)) ∧
    Accessor.double.Takes (.int (coins + 1)) ∧
    ∀ answer, Accessor.double.read raised (.text "coins") ≠ .ok answer := by
  refine ⟨rfl, .converted _, fun answer answered => ?_⟩
  have failed : (Accessor.double.read raised (.text "coins")).isOk = false := by decide +kernel
  rw [answered] at failed
  cases failed

end Ransom

end Workflow
