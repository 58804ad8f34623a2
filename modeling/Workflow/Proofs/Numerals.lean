import Workflow.Proofs.Reading
import Workflow.Number.Numeral

/-!
# The shape of numerals

A text is read as an integer or as a double exactly if it is written as one: with digits of any
script, a single underscore between two of them at most, a sign or none in front, and blank space
around the whole.  A double may also have a point and an exponent, or be one of the names of the
numbers without digits.  What is printed for an integer is one of the texts that spell it.
-/

namespace Workflow

namespace Text

variable {c letter : Char}

theorem isLower_bounds (lower : letter.isLower = true) :
    97 ≤ letter.toNat ∧ letter.toNat ≤ 122 := by
  have both : (letter.val ≥ 'a'.val && letter.val ≤ 'z'.val) = true := lower
  simpa [UInt32.le_iff_toNat_le] using both

theorem isDigit_bounds (isDigit : c.isDigit = true) : 48 ≤ c.toNat ∧ c.toNat ≤ 57 := by
  simpa [Char.isDigit, UInt32.le_iff_toNat_le] using isDigit

/-- A character has a small letter of the alphabet as its lower case if it is the letter itself or
the capital of it. -/
theorem toLower_eq_iff (lower : letter.isLower = true) :
    c.toLower = letter ↔ c = letter ∨ c.toNat + 32 = letter.toNat := by
  have bounds := isLower_bounds lower
  have code : c.val.toNat = c.toNat := rfl
  have letterCode : letter.val.toNat = letter.toNat := rfl
  by_cases upper : c.val ≥ 'A'.val ∧ c.val ≤ 'Z'.val
  · have lowered : c.toLower.val = c.val + 32 := congrArg Char.val (dif_pos upper)
    simp only [ge_iff_le, UInt32.le_iff_toNat_le, Char.reduceVal, UInt32.reduceToNat] at upper
    rw [Char.ext_iff, lowered, ← Char.toNat_inj, ← UInt32.toNat_inj, UInt32.toNat_add,
      show (32 : UInt32).toNat = 32 from rfl]
    omega
  · have lowered : c.toLower = c := dif_neg upper
    simp only [ge_iff_le, UInt32.le_iff_toNat_le, Char.reduceVal, UInt32.reduceToNat] at upper
    rw [lowered]
    refine ⟨.inl, fun same => same.resolve_right ?_⟩
    omega

end Text

namespace Numeral

/-! ## Digits -/

/-- Digits of any script with at most one underscore between two of them, and their values. -/
inductive Spells : List Char → List Nat → Prop where
  | last {c : Char} {digit : Nat} (value : Text.digitValue? c = some digit) : Spells [c] [digit]
  | next {c : Char} {digit : Nat} {text : List Char} {digits : List Nat}
      (value : Text.digitValue? c = some digit) (behind : Spells text digits) :
      Spells (c :: text) (digit :: digits)
  | apart {c : Char} {digit : Nat} {text : List Char} {digits : List Nat}
      (value : Text.digitValue? c = some digit) (behind : Spells text digits) :
      Spells (c :: '_' :: text) (digit :: digits)

variable {text run rest later body core : List Char} {digits others : List Nat} {c : Char}
  {digit : Nat} {negative after : Bool}

theorem Spells.ne_nil (spells : Spells text digits) : digits ≠ [] := by
  cases spells <;> exact List.cons_ne_nil _ _

theorem Spells.startsWithDigit (spells : Spells text digits) (rest : List Char) :
    startsWithDigit (text ++ rest) = true := by
  cases spells with
  | last value | next value | apart value =>
      simp only [List.cons_append, Numeral.startsWithDigit, value, Option.isSome_some]

/-- A digit goes in front of nothing, of digits, or of an underscore and digits. -/
theorem Spells.cons (value : Text.digitValue? c = some digit)
    (behind : run = [] ∧ digits = [] ∨ Spells run digits ∨
      ∃ later, run = '_' :: later ∧ Spells later digits) : Spells (c :: run) (digit :: digits) := by
  rcases behind with ⟨rfl, rfl⟩ | spells | ⟨later, rfl, spells⟩
  · exact .last value
  · exact .next value spells
  · exact .apart value spells

/-- What is read as digits are digits, up to a character that is none. -/
theorem readDigitsFrom_sound (read : readDigitsFrom after text = some (digits, rest)) :
    ∃ run, text = run ++ rest ∧ startsWithDigit rest = false ∧
      (run = [] ∧ digits = [] ∨ Spells run digits ∨
        after = true ∧ ∃ later, run = '_' :: later ∧ Spells later digits) := by
  induction text generalizing after digits with
  | nil =>
      cases read
      exact ⟨[], rfl, rfl, .inl ⟨rfl, rfl⟩⟩
  | cons c text ih =>
      rw [readDigitsFrom] at read
      cases value : Text.digitValue? c with
      | some digit =>
          simp only [value, Option.map_eq_some_iff, Prod.exists, Prod.mk.injEq] at read
          obtain ⟨others, left, further, rfl, rfl⟩ := read
          obtain ⟨run, rfl, ends, shape⟩ := ih further
          exact ⟨c :: run, rfl, ends, .inr (.inl (.cons value (shape.imp_right
            (Or.imp_right And.right))))⟩
      | none =>
          simp only [value] at read
          split at read
          · next underscore =>
            split at read
            · next starts =>
              obtain ⟨run, rfl, ends, shape⟩ := ih read
              obtain ⟨rfl, afterDigit⟩ := underscore
              rcases shape with ⟨rfl, rfl⟩ | spells | ⟨impossible, -⟩
              · rw [List.nil_append, ends] at starts
                cases starts
              · exact ⟨'_' :: run, rfl, ends, .inr (.inr ⟨afterDigit, run, rfl, spells⟩)⟩
              · cases impossible
            · cases read
          · cases read
            refine ⟨[], rfl, ?_, .inl ⟨rfl, rfl⟩⟩
            simp [startsWithDigit, value]

/-- A text whose start goes on no digits. -/
def Ends (rest : List Char) : Prop :=
  startsWithDigit rest = false ∧ rest.head? ≠ some '_'

theorem readDigits_of_ends (ends : startsWithDigit rest = false) :
    readDigits rest = some ([], rest) := by
  cases rest with
  | nil => rfl
  | cons c rest =>
      have value : Text.digitValue? c = none := by simpa [startsWithDigit] using ends
      simp [readDigits, readDigitsFrom, value]

theorem readDigitsFrom_of_ends (ends : Ends rest) :
    readDigitsFrom after rest = some ([], rest) := by
  cases rest with
  | nil => rfl
  | cons c rest =>
      have value : Text.digitValue? c = none := by simpa [startsWithDigit] using ends.1
      have other : c ≠ '_' := by simpa using ends.2
      simp [readDigitsFrom, value, other]

theorem Spells.readDigitsFrom (spells : Spells run digits) (ends : Ends rest) :
    readDigitsFrom after (run ++ rest) = some (digits, rest) := by
  induction spells generalizing after with
  | last value =>
      simp only [List.cons_append, List.nil_append, Numeral.readDigitsFrom, value,
        readDigitsFrom_of_ends ends, Option.map_some]
  | next value behind ih =>
      simp only [List.cons_append, Numeral.readDigitsFrom, value, ih, Option.map_some]
  | apart value behind ih =>
      have underscore : Text.digitValue? '_' = none := by decide
      simp only [List.cons_append, Numeral.readDigitsFrom, value, underscore, and_self, ↓reduceIte,
        behind.startsWithDigit, ih, Option.map_some]

theorem Spells.readDigits (spells : Spells run digits) (ends : Ends rest) :
    readDigits (run ++ rest) = some (digits, rest) :=
  spells.readDigitsFrom ends

theorem readDigits_sound (read : readDigits text = some (digits, rest)) :
    ∃ run, text = run ++ rest ∧ startsWithDigit rest = false ∧
      (run = [] ∧ digits = [] ∨ Spells run digits) := by
  obtain ⟨run, parted, ends, shape⟩ := readDigitsFrom_sound read
  exact ⟨run, parted, ends, shape.imp_right fun behind => behind.resolve_right (by simp)⟩

/-- A whole text is read as digits if there are some and nothing else. -/
theorem readDigits_eq_nil_iff :
    readDigits text = some (digits, []) ∧ digits.isEmpty = false ↔ Spells text digits := by
  constructor
  · rintro ⟨read, nonempty⟩
    obtain ⟨run, parted, -, ⟨-, rfl⟩ | spells⟩ := readDigits_sound read
    · cases nonempty
    · rwa [parted, List.append_nil]
  · intro spells
    have read := spells.readDigits (⟨rfl, nofun⟩ : Ends [])
    rw [List.append_nil] at read
    exact ⟨read, by simpa using spells.ne_nil⟩

/-! ## Characters of numerals -/

/-- No script has its digits where there are blank characters. -/
theorem zeroDigits_apart : ∀ origin ∈ Text.zeroDigits, ∀ range ∈ Text.blankRanges,
    range.2 < origin ∨ origin + 9 < range.1 := by
  decide +kernel

theorem not_blank_of_bounds {first last : Nat} (bounds : first ≤ c.toNat ∧ c.toNat ≤ last)
    (outside : ∀ range ∈ Text.blankRanges, range.2 < first ∨ last < range.1) :
    Text.isNumberBlank c = false := by
  rw [Text.isNumberBlank, Bool.and_eq_false_iff]
  left
  rw [Text.isBlank, Text.CodeRange.covers, List.any_eq_false]
  intro range member blank
  have := outside range member
  simp only [decide_eq_true_eq] at blank
  omega

theorem not_blank_of_digit (value : Text.digitValue? c = some digit) :
    Text.isNumberBlank c = false := by
  simp only [Text.digitValue?, Option.map_eq_some_iff] at value
  obtain ⟨origin, found, -⟩ := value
  have within := List.find?_some found
  simp only [decide_eq_true_eq] at within
  have bounds : origin ≤ c.toNat ∧ c.toNat ≤ origin + 9 := by omega
  exact not_blank_of_bounds bounds
    (zeroDigits_apart origin (List.mem_of_find?_eq_some found))

theorem Spells.not_blank (spells : Spells run digits) :
    ∀ c ∈ run, Text.isNumberBlank c = false := by
  have underscore : Text.isNumberBlank '_' = false := by decide
  induction spells with
  | last value => exact List.forall_mem_singleton.mpr (not_blank_of_digit value)
  | next value behind ih => exact List.forall_mem_cons.mpr ⟨not_blank_of_digit value, ih⟩
  | apart value behind ih =>
      exact List.forall_mem_cons.mpr
        ⟨not_blank_of_digit value, List.forall_mem_cons.mpr ⟨underscore, ih⟩⟩

/-! ## Signs -/

/-- A sign or none in front of the rest of a numeral. -/
inductive Signed : Bool → List Char → List Char → Prop where
  | bare (body : List Char) : Signed false body body
  | plus (body : List Char) : Signed false body ('+' :: body)
  | minus (body : List Char) : Signed true body ('-' :: body)

theorem signed_readSign (text : List Char) :
    Signed (readSign text).1 (readSign text).2 text := by
  unfold readSign
  split
  · exact .plus _
  · exact .minus _
  · exact .bare _

theorem Signed.readSign (signed : Signed negative body core)
    (plain : body.head? ∉ [some '+', some '-']) : readSign core = (negative, body) := by
  cases signed with
  | plus => rfl
  | minus => rfl
  | bare =>
      unfold Numeral.readSign
      split
      · simp at plain
      · simp at plain
      · rfl

theorem Signed.not_blank (signed : Signed negative body core)
    (inked : ∀ c ∈ body, Text.isNumberBlank c = false) :
    ∀ c ∈ core, Text.isNumberBlank c = false := by
  cases signed with
  | bare => exact inked
  | plus => exact List.forall_mem_cons.mpr ⟨by decide, inked⟩
  | minus => exact List.forall_mem_cons.mpr ⟨by decide, inked⟩

/-- A numeral is found again behind its sign in a text with blank space around it. -/
theorem Signed.readSign_trimBy (signed : Signed negative body core)
    (padded : Text.PaddedBy Text.isNumberBlank core text)
    (inked : ∀ c ∈ body, Text.isNumberBlank c = false)
    (plain : body.head? ∉ [some '+', some '-']) :
    Numeral.readSign (Text.trimBy Text.isNumberBlank text) = (negative, body) := by
  rw [padded.trimBy, Text.trimBy_of_forall (signed.not_blank inked), signed.readSign plain]

theorem Spells.head?_not_mem (spells : Spells run digits) (rest : List Char) :
    (run ++ rest).head? ∉ [some '+', some '-'] := by
  intro sign
  cases run with
  | nil => cases spells
  | cons c run =>
      have starts := spells.startsWithDigit rest
      have plus : (Text.digitValue? '+').isSome = false := by decide
      have minus : (Text.digitValue? '-').isSome = false := by decide
      simp only [List.cons_append, List.head?_cons, List.mem_cons, Option.some.injEq,
        List.not_mem_nil, or_false] at sign
      rcases sign with rfl | rfl
      · exact absurd (plus.symm.trans starts) (by decide)
      · exact absurd (minus.symm.trans starts) (by decide)

theorem Spells.plain (spells : Spells run digits) : run.head? ∉ [some '+', some '-'] := by
  simpa only [List.append_nil] using spells.head?_not_mem []

/-! ## Integers -/

/-- A text that is written as an integer, with no more digits than there may be. -/
def SpellsInt (text : List Char) (number : Int) : Prop :=
  ∃ negative body core digits, Text.PaddedBy Text.isNumberBlank core text ∧
    Signed negative body core ∧ Spells body digits ∧ digits.length ≤ maxDigits ∧
      number = if negative then -(ofDigits digits : Int) else ofDigits digits

/-- An integer is read from a text exactly if the text spells it. -/
theorem readInt?_eq_some_iff {number : Int} :
    readInt? text = some number ↔ SpellsInt text number := by
  constructor
  · intro read
    simp only [readInt?] at read
    split at read
    · next digits found =>
      split at read
      · cases read
      · next few =>
        simp only [not_or, Bool.not_eq_true, not_lt] at few
        exact ⟨_, _, _, digits, Text.paddedBy_trimBy _ text, signed_readSign _,
          readDigits_eq_nil_iff.mp ⟨found, few.1⟩, few.2, (Option.some.inj read).symm⟩
    · cases read
  · rintro ⟨negative, body, core, digits, padded, signed, spells, few, rfl⟩
    obtain ⟨found, nonempty⟩ := readDigits_eq_nil_iff.mpr spells
    have parted := signed.readSign_trimBy padded spells.not_blank spells.plain
    simp only [readInt?, parted, found, nonempty, Bool.false_eq_true, Nat.not_lt.mpr few, or_self,
      ↓reduceIte]

theorem readInt?_eq_none_iff : readInt? text = none ↔ ¬ ∃ number, SpellsInt text number := by
  simp only [← readInt?_eq_some_iff, ← Option.isSome_iff_exists, Bool.not_eq_true,
    Option.isSome_eq_false_iff, Option.isNone_iff_eq_none]

/-! ## Printed integers -/

theorem digitValue?_of_isDigit {c : Char} (isDigit : c.isDigit = true) :
    Text.digitValue? c = some (c.toNat - 48) := by
  have bounds := Text.isDigit_bounds isDigit
  have first : 0x30 ≤ c.toNat ∧ c.toNat < 0x30 + 10 := by omega
  rw [Text.digitValue?, Text.zeroDigits, List.find?_cons_of_pos (by simpa using first),
    Option.map_some]

theorem spells_of_isDigit (nonempty : text ≠ []) (digits : ∀ c ∈ text, c.isDigit = true) :
    Spells text (text.map fun c => c.toNat - 48) := by
  induction text with
  | nil => exact absurd rfl nonempty
  | cons c rest ih =>
      obtain ⟨first, others⟩ := List.forall_mem_cons.mp digits
      have value := digitValue?_of_isDigit first
      cases rest with
      | nil => exact .last value
      | cons next further => exact .next value (ih (List.cons_ne_nil _ _) others)

theorem ofDigits_eq_ofDigitChars :
    ofDigits (text.map fun c => c.toNat - 48) = Nat.ofDigitChars 10 text 0 := by
  rw [ofDigits, List.foldl_map, Nat.ofDigitChars_eq_foldl]
  rfl

theorem length_toDigits_le_iff {number bound : Nat} (positive : 0 < bound) :
    (Nat.toDigits 10 number).length ≤ bound ↔ number < tenTo bound :=
  Nat.length_toDigits_le_iff (by decide) positive

/-- An integer can be written exactly if it is not too long. -/
theorem isWritable_iff {number : Int} :
    isWritable number = true ↔ number.natAbs < tenTo maxDigits := by
  rw [isWritable, decide_eq_true_iff]
  exact length_toDigits_le_iff (by decide)

/-- The text of an integer spells it, if it is not too long. -/
theorem spellsInt_ofInt {number : Int} (few : number.natAbs < tenTo maxDigits)
    (padded : Text.PaddedBy Text.isNumberBlank (ofInt number) text) : SpellsInt text number := by
  have isDigit : ∀ c ∈ Nat.toDigits 10 number.natAbs, c.isDigit = true := fun c member =>
    Nat.isDigit_of_mem_toDigits (by decide) (by decide) member
  have spells := spells_of_isDigit Nat.toDigits_ne_nil isDigit
  have magnitude : (ofDigits ((Nat.toDigits 10 number.natAbs).map fun c => c.toNat - 48) : Int) =
      number.natAbs := by
    rw [ofDigits_eq_ofDigitChars, Nat.ofDigitChars_ten_toDigits]
  have short : ((Nat.toDigits 10 number.natAbs).map fun c => c.toNat - 48).length ≤ maxDigits := by
    rw [List.length_map]
    exact (length_toDigits_le_iff (by decide)).mpr few
  by_cases negative : number < 0
  · rw [ofInt, if_pos negative] at padded
    refine ⟨true, _, _, _, padded, .minus _, spells, short, ?_⟩
    rw [magnitude, if_pos rfl]
    omega
  · rw [ofInt, if_neg negative] at padded
    refine ⟨false, _, _, _, padded, .bare _, spells, short, ?_⟩
    rw [magnitude, if_neg Bool.false_ne_true]
    omega

/-- No integer is written with a letter of the alphabet. -/
theorem lt_of_mem_ofInt {number : Int} {c : Char} (member : c ∈ ofInt number) : c.toNat < 65 := by
  have digit (member : c ∈ Nat.toDigits 10 number.natAbs) : c.toNat < 65 := by
    have isDigit := Nat.isDigit_of_mem_toDigits (by decide) (by decide) member
    have bounds := Text.isDigit_bounds isDigit
    omega
  rw [ofInt] at member
  split at member
  · rcases List.mem_cons.mp member with rfl | member
    · decide
    · exact digit member
  · exact digit member

/-! ## Doubles -/

/-- Digits with a point anywhere among them or none. -/
inductive Mantissa : List Char → Prop where
  | whole {run : List Char} {digits : List Nat} (spells : Spells run digits) : Mantissa run
  | pointed {run : List Char} {digits : List Nat} (spells : Spells run digits) :
      Mantissa (run ++ ['.'])
  | fraction {run : List Char} {digits : List Nat} (spells : Spells run digits) :
      Mantissa ('.' :: run)
  | mixed {run behind : List Char} {digits others : List Nat} (spells : Spells run digits)
      (further : Spells behind others) : Mantissa (run ++ '.' :: behind)

/-- An exponent or none. -/
inductive Exponent : List Char → Prop where
  | absent : Exponent []
  | marked {mark : Char} {negative : Bool} {body core : List Char} {digits : List Nat}
      (marks : mark = 'e' ∨ mark = 'E') (signed : Signed negative body core)
      (spells : Spells body digits) : Exponent (mark :: core)

/-- The name of a number without digits, in any case. -/
def Named (body : List Char) : Prop :=
  isWord "inf" body = true ∨ isWord "infinity" body = true ∨ isWord "nan" body = true

/-- A text that is written as a double. -/
def SpellsDouble (text : List Char) : Prop :=
  ∃ negative body core, Text.PaddedBy Text.isNumberBlank core text ∧ Signed negative body core ∧
    (Named body ∨ ∃ mantissa exponent, body = mantissa ++ exponent ∧ Mantissa mantissa ∧
      Exponent exponent)

theorem readExponent?_sound {exponent : Int} (read : readExponent? text = some exponent) :
    Exponent text := by
  cases text with
  | nil => exact .absent
  | cons mark rest =>
      simp only [readExponent?] at read
      split at read
      · next marked =>
        split at read
        · next digits found =>
          split at read
          · cases read
          · next nonempty =>
            exact .marked marked (signed_readSign rest)
              (readDigits_eq_nil_iff.mp ⟨found, by simpa using nonempty⟩)
        · cases read
      · cases read

theorem Exponent.exists_readExponent? (exponent : Exponent text) :
    ∃ number, readExponent? text = some number := by
  cases exponent with
  | absent => exact ⟨0, rfl⟩
  | marked marks signed spells =>
      obtain ⟨found, nonempty⟩ := readDigits_eq_nil_iff.mpr spells
      simp [readExponent?, marks, signed.readSign spells.plain, found, nonempty]

theorem Exponent.ends (exponent : Exponent text) : Ends text := by
  cases exponent with
  | absent => exact ⟨rfl, nofun⟩
  | marked marks signed spells =>
      have lower : (Text.digitValue? 'e').isSome = false := by decide
      have upper : (Text.digitValue? 'E').isSome = false := by decide
      rcases marks with rfl | rfl
      · exact ⟨by simp [startsWithDigit, lower], by simp⟩
      · exact ⟨by simp [startsWithDigit, upper], by simp⟩

theorem ends_point (rest : List Char) : Ends ('.' :: rest) := by
  have point : (Text.digitValue? '.').isSome = false := by decide
  exact ⟨point, by simp⟩

theorem readFraction?_sound (read : readFraction? text = some (digits, rest)) :
    text = rest ∧ digits = [] ∨
      ∃ run, text = '.' :: run ++ rest ∧ (run = [] ∧ digits = [] ∨ Spells run digits) := by
  unfold readFraction? at read
  split at read
  · obtain ⟨run, rfl, -, shape⟩ := readDigits_sound read
    exact .inr ⟨run, rfl, shape⟩
  · cases read
    exact .inl ⟨rfl, rfl⟩

theorem Exponent.readFraction? (exponent : Exponent text) :
    readFraction? text = some ([], text) := by
  cases exponent with
  | absent => rfl
  | marked marks signed spells => rcases marks with rfl | rfl <;> rfl

/-- What is read as a decimal has digits, before a point or behind it. -/
theorem readDecimal?_sound {number : Binary64} (read : readDecimal? negative text = some number) :
    ∃ mantissa exponent, text = mantissa ++ exponent ∧ Mantissa mantissa ∧ Exponent exponent := by
  simp only [readDecimal?, Option.bind_eq_bind, Option.bind_eq_some_iff, Prod.exists,
    Option.ite_none_left_eq_some, Bool.and_eq_true, List.isEmpty_iff, not_and] at read
  obtain ⟨whole, afterWhole, first, fraction, rest, second, exponent, last, some, -⟩ := read
  have further := readExponent?_sound last
  obtain ⟨run, rfl, -, shape⟩ := readDigits_sound first
  rcases readFraction?_sound second with ⟨rfl, rfl⟩ | ⟨behind, rfl, others⟩
  · rcases shape with ⟨rfl, rfl⟩ | spells
    · exact absurd rfl (some rfl)
    · exact ⟨run, afterWhole, rfl, .whole spells, further⟩
  · rcases shape with ⟨rfl, rfl⟩ | spells
    · rcases others with ⟨rfl, rfl⟩ | others
      · exact absurd rfl (some rfl)
      · exact ⟨'.' :: behind, rest, rfl, .fraction others, further⟩
    · rcases others with ⟨rfl, rfl⟩ | others
      · exact ⟨run ++ ['.'], rest, by simp, .pointed spells, further⟩
      · exact ⟨run ++ '.' :: behind, rest, by simp, .mixed spells others, further⟩

theorem exists_readDecimal? (first : readDigits text = some (digits, later))
    (second : readFraction? later = some (others, rest)) (exponent : Exponent rest)
    (nonempty : digits = [] → others ≠ []) :
    ∃ number, readDecimal? negative text = some number := by
  obtain ⟨number, last⟩ := exponent.exists_readExponent?
  simpa [readDecimal?, first, second, last] using nonempty

theorem Mantissa.exists_readDecimal? (mantissa : Mantissa text) (exponent : Exponent rest) :
    ∃ number, readDecimal? negative (text ++ rest) = some number := by
  have skipped := readDigits_of_ends exponent.ends.1
  cases mantissa with
  | whole spells =>
      exact Numeral.exists_readDecimal? (spells.readDigits exponent.ends) exponent.readFraction?
        exponent (by simp [spells.ne_nil])
  | pointed spells =>
      rw [List.append_assoc, List.singleton_append]
      exact Numeral.exists_readDecimal? (spells.readDigits (ends_point rest)) skipped exponent
        (by simp [spells.ne_nil])
  | fraction spells =>
      rw [List.cons_append]
      exact Numeral.exists_readDecimal? (readDigits_of_ends (ends_point _).1)
        (spells.readDigits exponent.ends) exponent (by simp [spells.ne_nil])
  | mixed spells further =>
      rw [List.append_assoc, List.cons_append]
      exact Numeral.exists_readDecimal? (spells.readDigits (ends_point _))
        (further.readDigits exponent.ends) exponent (by simp [spells.ne_nil])

theorem Mantissa.not_blank (mantissa : Mantissa text) :
    ∀ c ∈ text, Text.isNumberBlank c = false := by
  have point : Text.isNumberBlank '.' = false := by decide
  cases mantissa with
  | whole spells => exact spells.not_blank
  | pointed spells =>
      exact List.forall_mem_append.mpr ⟨spells.not_blank, List.forall_mem_singleton.mpr point⟩
  | fraction spells => exact List.forall_mem_cons.mpr ⟨point, spells.not_blank⟩
  | mixed spells further =>
      exact List.forall_mem_append.mpr
        ⟨spells.not_blank, List.forall_mem_cons.mpr ⟨point, further.not_blank⟩⟩

theorem Exponent.not_blank (exponent : Exponent text) :
    ∀ c ∈ text, Text.isNumberBlank c = false := by
  cases exponent with
  | absent => exact fun c member => absurd member List.not_mem_nil
  | marked marks signed spells =>
      refine List.forall_mem_cons.mpr ⟨?_, signed.not_blank spells.not_blank⟩
      rcases marks with rfl | rfl <;> decide

theorem Mantissa.head?_not_mem (mantissa : Mantissa text) (rest : List Char) :
    (text ++ rest).head? ∉ [some '+', some '-'] := by
  cases mantissa with
  | whole spells => exact spells.head?_not_mem rest
  | pointed spells | mixed spells further =>
      rw [List.append_assoc]
      exact spells.head?_not_mem _
  | fraction spells => simp

/-- The letters of which the names consist. -/
def nameLetters : List Char := ['i', 'n', 'f', 't', 'y', 'a']

theorem Named.letters (named : Named body) : ∀ c ∈ body, c.toLower ∈ nameLetters := by
  intro c member
  have spelled {word : String} (same : isWord word body = true) : c.toLower ∈ word.toList := by
    rw [← eq_of_beq same]
    exact List.mem_map_of_mem member
  rcases named with infinite | infinite | nan
  · exact (by decide : "inf".toList ⊆ nameLetters) (spelled infinite)
  · exact (by decide : "infinity".toList ⊆ nameLetters) (spelled infinite)
  · exact (by decide : "nan".toList ⊆ nameLetters) (spelled nan)

theorem letter_bounds (letter : c.toLower ∈ nameLetters) :
    65 ≤ c.toNat ∧ c.toNat ≤ 122 := by
  have small : nameLetters.all Char.isLower = true := by decide
  have lower := List.all_eq_true.mp small _ letter
  have bounds := Text.isLower_bounds lower
  rcases (Text.toLower_eq_iff lower).mp rfl with same | shifted
  · rw [← same] at bounds
    omega
  · omega

theorem Named.not_blank (named : Named body) : ∀ c ∈ body, Text.isNumberBlank c = false :=
  fun c member => not_blank_of_bounds (letter_bounds (named.letters c member)) (by decide)

theorem Named.head?_not_mem (named : Named body) : body.head? ∉ [some '+', some '-'] := by
  intro sign
  simp only [List.mem_cons, List.head?_eq_some_iff, List.not_mem_nil, or_false] at sign
  rcases sign with ⟨rest, rfl⟩ | ⟨rest, rfl⟩
  · exact absurd (named.letters _ List.mem_cons_self) (by decide)
  · exact absurd (named.letters _ List.mem_cons_self) (by decide)

/-- A double is read from a text exactly if the text spells one. -/
theorem exists_readDouble?_iff :
    (∃ number, readDouble? text = some number) ↔ SpellsDouble text := by
  constructor
  · rintro ⟨number, read⟩
    simp only [readDouble?] at read
    refine ⟨_, _, _, Text.paddedBy_trimBy _ text, signed_readSign _, ?_⟩
    split at read
    · next infinite =>
      rw [Bool.or_eq_true] at infinite
      exact .inl (infinite.imp_right .inl)
    · split at read
      · next nan => exact .inl (.inr (.inr nan))
      · exact .inr (readDecimal?_sound read)
  · rintro ⟨negative, body, core, padded, signed, named | ⟨mantissa, exponent, rfl, digits, power⟩⟩
    · simp only [readDouble?, signed.readSign_trimBy padded named.not_blank named.head?_not_mem]
      rcases named with infinite | infinite | nan
      · rw [infinite, Bool.true_or, if_pos rfl]
        exact ⟨_, rfl⟩
      · rw [infinite, Bool.or_true, if_pos rfl]
        exact ⟨_, rfl⟩
      · rw [if_pos nan]
        split <;> exact ⟨_, rfl⟩
    · have inked := List.forall_mem_append.mpr ⟨digits.not_blank, power.not_blank⟩
      simp only [readDouble?, signed.readSign_trimBy padded inked (digits.head?_not_mem exponent)]
      split
      · exact ⟨_, rfl⟩
      · split
        · exact ⟨_, rfl⟩
        · exact digits.exists_readDecimal? power

theorem readDouble?_eq_none_iff : readDouble? text = none ↔ ¬ SpellsDouble text := by
  rw [← exists_readDouble?_iff, ← Option.isSome_iff_exists, Bool.not_eq_true,
    Option.isSome_eq_false_iff, Option.isNone_iff_eq_none]

end Numeral

end Workflow
