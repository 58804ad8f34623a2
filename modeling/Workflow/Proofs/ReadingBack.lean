import Workflow.Proofs.Numerals
import Workflow.Proofs.Supply
import Workflow.Text.LowerCase
import Workflow.Value.Reading

/-!
# Values that are read back

A truth value or an integer that is printed and typed in again is what it was, with any blank space
around it that may stand around a number.  A text stays as it is typed exactly if it is no word for
a truth value and spells neither an integer nor a double.
-/

namespace Workflow

namespace Text

variable {c letter : Char} {text word passed : List Char}

/-! ## Truth values in any case -/

/-- The letters of the words for truth values. -/
def truthLetters : List Char := ['t', 'r', 'u', 'e', 'f', 'a', 'l', 's']

theorem isLower_truthLetter (member : letter ∈ truthLetters) : letter.isLower = true :=
  List.all_eq_true.mp (by decide : truthLetters.all Char.isLower = true) letter member

theorem toLower_eq_truthLetter_iff (member : letter ∈ truthLetters) :
    c.toLower = letter ↔ c = letter ∨ c.toNat + 32 = letter.toNat :=
  toLower_eq_iff (isLower_truthLetter member)

theorem ofNat_eq_truthLetter_iff (member : letter ∈ truthLetters) {code : Nat} :
    Char.ofNat code = letter ↔ code = letter.toNat := by
  have bounds := isLower_bounds (isLower_truthLetter member)
  refine ⟨fun same => ?_, fun same => same ▸ Char.ofNat_toNat letter⟩
  by_cases valid : code.isValidChar
  · have coded : (Char.ofNat code).toNat = code := congrArg Char.toNat (dif_pos valid)
    rw [← coded, same]
  · have coded : (Char.ofNat code).toNat = 0 := congrArg Char.toNat (dif_neg valid)
    rw [same] at coded
    omega

/-- Only the capitals of the alphabet have one of these letters as their lower case. -/
theorem caseRuns_apart : ∀ run ∈ caseRuns.tail, 122 < run.first ∧
    ∀ code ∈ truthLetters.map Char.toNat,
      (code : Int) < run.first + run.shift ∨ run.last + run.shift < code := by
  decide +kernel

theorem lowerChar_truthLetter (member : letter ∈ truthLetters) (plain : c.toNat ≠ 0x130) :
    ∃ lowered, lowerChar c = [lowered] ∧ (lowered = letter ↔ c.toLower = letter) := by
  have bounds := isLower_bounds (isLower_truthLetter member)
  rw [toLower_eq_truthLetter_iff member, lowerChar, if_neg plain]
  cases found : caseRuns.find? (·.covers c.toNat) with
  | none =>
      refine ⟨c, rfl, ⟨.inl, fun same => same.resolve_right fun shifted => ?_⟩⟩
      have uncovered := List.find?_eq_none.mp found ⟨0x41, 0x5A, 1, 32⟩ List.mem_cons_self
      simp only [CaseRun.covers, decide_eq_true_eq] at uncovered
      omega
  | some run =>
      refine ⟨_, rfl, ?_⟩
      rw [ofNat_eq_truthLetter_iff member]
      have covered := List.find?_some found
      simp only [CaseRun.covers, decide_eq_true_eq] at covered
      rcases List.mem_cons.mp (List.mem_of_find?_eq_some found) with rfl | other
      · simp only at covered ⊢
        have apart : c ≠ letter := by rintro rfl; omega
        simp only [apart, false_or]
        omega
      · obtain ⟨outside, apart⟩ := caseRuns_apart run other
        have missed := apart _ (List.mem_map_of_mem member)
        have other : c ≠ letter := by rintro rfl; omega
        simp only [other, false_or]
        omega

theorem lowerAfter_cons_ne_nil (passed rest : List Char) (c : Char) :
    lowerAfter passed (c :: rest) ≠ [] := by
  refine List.append_ne_nil_of_left_ne_nil ?_ _
  rw [lowerChar]
  cases caseRuns.find? (·.covers c.toNat) <;> split_ifs <;> exact List.cons_ne_nil _ _

theorem lowerAfter_cons_eq_iff (member : letter ∈ truthLetters) {rest : List Char} :
    lowerAfter passed (c :: rest) = letter :: word ↔
      c.toLower = letter ∧ lowerAfter (c :: passed) rest = word := by
  have bounds := isLower_bounds (isLower_truthLetter member)
  have lower := toLower_eq_truthLetter_iff (c := c) member
  rw [lowerAfter]
  by_cases sigma : c.toNat = 0x3A3
  · have apart : c.toLower ≠ letter := by
      rw [ne_eq, lower]
      rintro (rfl | shifted) <;> omega
    have final : Char.ofNat 0x3C2 ≠ letter ∧ Char.ofNat 0x3C3 ≠ letter := by
      simp only [ne_eq, ofNat_eq_truthLetter_iff member]
      omega
    simp only [sigma, ↓reduceIte, apart, false_and, iff_false]
    split <;> simp [final]
  · by_cases dotted : c.toNat = 0x130
    · have apart : c.toLower ≠ letter := by
        rw [ne_eq, lower]
        rintro (rfl | shifted) <;> omega
      have other : 'i' ≠ letter := by
        rintro rfl
        exact absurd member (by decide)
      simp [lowerChar, dotted, apart, other]
    · obtain ⟨lowered, same, iff⟩ := lowerChar_truthLetter member dotted
      simp [sigma, same, iff]

/-- A word for a truth value is told by the lower case of the alphabet alone: whatever else has a
lower case does not get near these letters. -/
theorem lowerAfter_eq_iff (letters : word ⊆ truthLetters) :
    lowerAfter passed text = word ↔ text.map Char.toLower = word := by
  induction text generalizing passed word with
  | nil => rfl
  | cons c rest ih =>
      cases word with
      | nil => exact iff_of_false (lowerAfter_cons_ne_nil passed rest c) (List.cons_ne_nil _ _)
      | cons letter word =>
          obtain ⟨member, others⟩ := List.cons_subset.mp letters
          rw [lowerAfter_cons_eq_iff member, List.map_cons, List.cons.injEq, ih others]

theorem lower_eq_iff (letters : word ⊆ truthLetters) :
    lower text = word ↔ text.map Char.toLower = word :=
  lowerAfter_eq_iff letters

end Text

namespace Value

variable {text : List Char} {truth : Bool}

/-- The word for a truth value. -/
def truthWord : Bool → List Char
  | true => "true".toList
  | false => "false".toList

theorem truthWord_subset (truth : Bool) : truthWord truth ⊆ Text.truthLetters := by
  cases truth <;> decide

/-- A text names a truth value exactly if it is the word for it in lower case, without the blank
space around it. -/
theorem truthOf?_eq_some_iff :
    truthOf? text = some truth ↔ Text.lower (Text.trim text) = truthWord truth := by
  rw [Text.lower_eq_iff (truthWord_subset truth)]
  have apart : truthWord true ≠ truthWord false := by decide
  change (if (_ == truthWord true) = true then some true
    else if (_ == truthWord false) = true then some false else none) = some truth ↔ _
  generalize (Text.trim text).map Char.toLower = word
  simp only [beq_iff_eq]
  cases truth with
  | true =>
      by_cases first : word = truthWord true
      · simp [first]
      · simp only [first, ↓reduceIte, iff_false]
        split <;> simp
  | false =>
      by_cases first : word = truthWord true
      · simp [first, apart]
      · simp [first]

theorem truthOf?_eq_none_iff :
    truthOf? text = none ↔ ∀ truth, Text.lower (Text.trim text) ≠ truthWord truth := by
  simp only [ne_eq, ← truthOf?_eq_some_iff]
  cases truthOf? text <;> simp

/-! ## Reading back -/

/-- Truth values, and integers with no more digits than can be read. -/
inductive Brief : Value → Prop where
  | bool (truth : Bool) : Brief (.bool truth)
  | int {number : Int} (few : number.natAbs < tenTo Numeral.maxDigits) : Brief (.int number)

theorem Brief.isWritable {stored : Value} (brief : stored.Brief) : stored.isWritable = true := by
  cases brief with
  | bool truth => rfl
  | int few => exact Numeral.isWritable_iff.mpr few

theorem truthOf?_ofInt {number : Int} {text : List Char}
    (padded : Text.PaddedBy Text.isNumberBlank (Numeral.ofInt number) text) :
    truthOf? text = none := by
  rw [truthOf?_eq_none_iff]
  intro truth named
  rw [Text.lower_eq_iff (truthWord_subset truth), padded.padded.trim] at named
  -- Every word for a truth value has this letter.
  have letter : 'e' ∈ truthWord truth := by cases truth <;> decide
  rw [← named] at letter
  obtain ⟨c, member, lower⟩ := List.mem_map.mp letter
  have digit := Numeral.lt_of_mem_ofInt (Text.mem_of_mem_trim member)
  rcases (Text.toLower_eq_truthLetter_iff (by decide)).mp lower with rfl | shifted
  · exact absurd digit (by decide)
  · rw [show 'e'.toNat = 101 from rfl] at shifted
    omega

theorem ofText_eq_text_iff {typed : String} : ofText typed = .text typed ↔
    (∀ truth, Text.lower (Text.trim typed.toList) ≠ truthWord truth) ∧
      (¬ ∃ number, Numeral.SpellsInt typed.toList number) ∧
        ¬ Numeral.SpellsDouble typed.toList := by
  rw [← truthOf?_eq_none_iff, ← Numeral.readInt?_eq_none_iff, ← Numeral.readDouble?_eq_none_iff]
  simp only [ofText]
  cases truthOf? typed.toList with
  | some truth => simp
  | none =>
      cases Numeral.readInt? typed.toList with
      | some number => simp
      | none => cases Numeral.readDouble? typed.toList <;> simp

/-- What is brief is read back from its text. -/
theorem Brief.ofText {stored : Value} (brief : stored.Brief) {before after : String}
    (blankBefore : before.toList.all Text.isNumberBlank = true)
    (blankAfter : after.toList.all Text.isNumberBlank = true) :
    Value.ofText (before ++ stored.toText ++ after) = stored := by
  have padded : Text.PaddedBy Text.isNumberBlank stored.toText.toList
      (before ++ stored.toText ++ after).toList :=
    ⟨before.toList, after.toList, blankBefore, blankAfter, by simp⟩
  cases brief with
  | bool truth =>
      have named : truthOf? (before ++ (Value.bool truth).toText ++ after).toList = some truth := by
        rw [truthOf?_eq_some_iff, padded.padded.trim]
        cases truth <;> decide +kernel
      rw [Value.ofText, named]
  | @int number few =>
      have written : (Value.int number).toText.toList = Numeral.ofInt number :=
        String.toList_ofList
      rw [written] at padded
      rw [Value.ofText, truthOf?_ofInt padded,
        Numeral.readInt?_eq_some_iff.mpr (Numeral.spellsInt_ofInt few padded)]

/-- A truth value or an integer of a map is read back from its text, whatever blank space is put
around it.  A text stays what it is exactly if it is no word for a truth value and no numeral. -/
theorem ofText_text :
    (∀ (map : ValueMap) (key : String) (stored : Value), map.get? key = some stored →
      stored.Brief → ∃ text, map.text (.text key) = .ok text ∧
        ∀ before after : String, before.toList.all Text.isNumberBlank = true →
          after.toList.all Text.isNumberBlank = true →
            ofText (before ++ text ++ after) = stored) ∧
    ∀ typed : String, ofText typed = .text typed ↔
      (∀ truth, Text.lower (Text.trim typed.toList) ≠ truthWord truth) ∧
        (¬ ∃ number, Numeral.SpellsInt typed.toList number) ∧
          ¬ Numeral.SpellsDouble typed.toList := by
  refine ⟨fun map key stored found brief => ?_, fun typed => ofText_eq_text_iff⟩
  refine ⟨stored.toText, ?_, fun before after => brief.ofText⟩
  exact ValueMap.text_eq_ok_iff.mpr ⟨stored, found, brief.isWritable, rfl⟩

/-! ## Debts

A debt and whether it is paid are accumulated. -/

namespace Debts

def map : ValueMap := ⟨[("paid", .bool false), ("debt", .int (-42))]⟩

/-- Both are read back with blank space around them.  A file separator in front of a number is none
of that kind, and the number stays a text. -/
theorem ofText_text_debts :
    (∃ text, map.text (.text "debt") = .ok text ∧ ofText ("\n" ++ text ++ "\t ") = .int (-42)) ∧
      (∃ text, map.text (.text "paid") = .ok text ∧
        ofText ("\u3000" ++ text ++ "\n") = .bool false) ∧
      ofText "\x1c42" = .text "\x1c42" := by
  obtain ⟨reads, stays⟩ := ofText_text
  have short (bound : Nat) (two : 2 ≤ bound) : (-42 : Int).natAbs < tenTo bound :=
    Nat.lt_of_lt_of_le (by decide : _ < tenTo 2) (Nat.pow_le_pow_right (by decide) two)
  have brief : (Value.int (-42)).Brief := .int (short Numeral.maxDigits (by decide))
  obtain ⟨debt, printedDebt, readDebt⟩ := reads map "debt" (.int (-42)) rfl brief
  obtain ⟨paid, printedPaid, readPaid⟩ := reads map "paid" (.bool false) rfl (.bool false)
  refine ⟨⟨debt, printedDebt, readDebt _ _ (by decide) (by decide)⟩,
    ⟨paid, printedPaid, readPaid _ _ (by decide) (by decide)⟩, (stays _).mpr ⟨?_, ?_, ?_⟩⟩
  · intro truth
    cases truth <;> decide +kernel
  · exact Numeral.readInt?_eq_none_iff.mp (by decide +kernel)
  · exact Numeral.readDouble?_eq_none_iff.mp (by rfl)

end Debts

end Value

end Workflow
