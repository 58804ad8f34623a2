import Mathlib.Data.List.DropRight
import Mathlib.Data.List.Forall2
import Workflow.Call

/-!
# Laws of reading text

Trimming takes away the blank space that was put around a text and nothing else.  Taking a text
apart at a separator undoes putting parts together with it, as long as no part holds the separator
itself.  A text has the shape of a call if it is written as one, with any blank space around it.
-/

namespace Workflow.Text

variable {text core before after name body part : List Char}
variable {parts cores : List (List Char)}
variable {separator c : Char}

/-! ## Trimming -/

/-- A text without blank space at either end. -/
def Trimmed (text : List Char) : Prop :=
  trim text = text

instance (text : List Char) : Decidable (Trimmed text) :=
  inferInstanceAs (Decidable (trim text = text))

/-- A text with any amount of blank space put around it. -/
def Padded (core text : List Char) : Prop :=
  ∃ before after, isBlankText before = true ∧ isBlankText after = true ∧
    text = before ++ core ++ after

theorem isBlankText_iff : isBlankText text = true ↔ ∀ c ∈ text, isBlank c = true :=
  List.all_eq_true

theorem Padded.refl (core : List Char) : Padded core core :=
  ⟨[], [], rfl, rfl, by rw [List.nil_append, List.append_nil]⟩

/-- A text with any amount of characters of a class put around it. -/
def PaddedBy (skip : Char → Bool) (core text : List Char) : Prop :=
  ∃ before after, before.all skip = true ∧ after.all skip = true ∧ text = before ++ core ++ after

section

variable {skip : Char → Bool}

theorem trimBy_skipped_append (skipped : before.all skip = true) (text : List Char) :
    trimBy skip (before ++ text) = trimBy skip text := by
  simp only [trimBy, dropStart]
  rw [List.dropWhile_append_of_pos (List.all_eq_true.mp skipped)]

theorem trimBy_append_skipped (text : List Char) (skipped : after.all skip = true) :
    trimBy skip (text ++ after) = trimBy skip text := by
  have each := List.all_eq_true.mp skipped
  simp only [trimBy, dropStart, dropEnd, List.dropWhile_append]
  split
  · next empty =>
    rw [List.isEmpty_iff.mp empty, List.dropWhile_eq_nil_iff.mpr each]
  · rw [List.reverse_append, List.dropWhile_append_of_pos]
    intro c member
    exact each c (List.mem_reverse.mp member)

/-- Trimming takes away what was put around a text. -/
theorem PaddedBy.trimBy (padded : PaddedBy skip core text) :
    trimBy skip text = Text.trimBy skip core := by
  obtain ⟨before, after, skippedBefore, skippedAfter, rfl⟩ := padded
  rw [trimBy_append_skipped _ skippedAfter, trimBy_skipped_append skippedBefore]

/-- What trimming takes away was put around what it leaves. -/
theorem paddedBy_trimBy (skip : Char → Bool) (text : List Char) :
    PaddedBy skip (trimBy skip text) text := by
  refine ⟨text.takeWhile skip, (text.dropWhile skip).rtakeWhile skip, ?_, ?_, ?_⟩
  · rw [List.all_eq_true]
    intro c member
    exact List.mem_takeWhile_imp member
  · rw [List.all_eq_true]
    intro c member
    exact List.mem_rtakeWhile_imp member
  · have apart : trimBy skip text ++ (text.dropWhile skip).rtakeWhile skip =
        text.dropWhile skip := List.rdropWhile_append_rtakeWhile
    rw [List.append_assoc, apart, List.takeWhile_append_dropWhile]

/-- Nothing is taken away from a text without any character of the class. -/
theorem trimBy_of_forall (kept : ∀ c ∈ text, skip c = false) : trimBy skip text = text := by
  have stays (text : List Char) (kept : ∀ c ∈ text, skip c = false) :
      text.dropWhile skip = text := by
    cases text with
    | nil => rfl
    | cons c rest => rw [List.dropWhile_cons_of_neg (by simp [kept c List.mem_cons_self])]
  rw [trimBy, dropStart, stays text kept, dropEnd, stays text.reverse, List.reverse_reverse]
  intro c member
  exact kept c (List.mem_reverse.mp member)

end

theorem trim_blank_append (blank : isBlankText before = true) (text : List Char) :
    trim (before ++ text) = trim text :=
  trimBy_skipped_append blank text

theorem trim_append_blank (text : List Char) (blank : isBlankText after = true) :
    trim (text ++ after) = trim text :=
  trimBy_append_skipped text blank

/-- Trimming takes away what was put around a text. -/
theorem Padded.trim (padded : Padded core text) : trim text = trim core :=
  PaddedBy.trimBy padded

/-- What trimming takes away is blank space around what it leaves. -/
theorem padded_trim (text : List Char) : Padded (Text.trim text) text :=
  paddedBy_trimBy isBlank text

/-- The blank space around a number is blank space. -/
theorem PaddedBy.padded (padded : PaddedBy isNumberBlank core text) : Padded core text := by
  obtain ⟨before, after, blankBefore, blankAfter, rfl⟩ := padded
  have blank {text : List Char} (blank : text.all isNumberBlank = true) :
      isBlankText text = true := by
    simp only [List.all_eq_true, isNumberBlank, Bool.and_eq_true, isBlankText] at blank ⊢
    exact fun c member => (blank c member).1
  exact ⟨before, after, blank blankBefore, blank blankAfter, rfl⟩

@[simp] theorem trimmed_trim (text : List Char) : Trimmed (trim text) :=
  (padded_trim text).trim.symm

theorem Padded.trimmed (padded : Padded core text) (trimmed : Trimmed core) :
    Text.trim text = core :=
  padded.trim.trans trimmed

/-- Nothing is left of blank texts only. -/
theorem trim_eq_nil_iff : trim text = [] ↔ isBlankText text = true := by
  constructor
  · intro empty
    obtain ⟨before, after, blankBefore, blankAfter, same⟩ := padded_trim text
    rw [same, empty, List.append_nil, isBlankText, List.all_append, Bool.and_eq_true]
    exact ⟨blankBefore, blankAfter⟩
  · intro blank
    exact trim_append_blank [] blank

theorem Padded.isBlankText_eq (padded : Padded core text) :
    isBlankText text = isBlankText core := by
  rw [Bool.eq_iff_iff, ← trim_eq_nil_iff, ← trim_eq_nil_iff, padded.trim]

theorem mem_of_mem_trim (member : c ∈ trim text) : c ∈ text := by
  obtain ⟨before, after, -, -, same⟩ := padded_trim text
  rw [same]
  exact List.mem_append_left after (List.mem_append_right before member)

/-- A character that is not blank is put around no text. -/
theorem Padded.not_mem (padded : Padded core text) (inked : isBlank c = false) (absent : c ∉ core) :
    c ∉ text := by
  obtain ⟨before, after, blankBefore, blankAfter, rfl⟩ := padded
  have outside {blank : List Char} (isBlank : isBlankText blank = true) : c ∉ blank := by
    intro member
    have blank := isBlankText_iff.mp isBlank c member
    rw [inked] at blank
    cases blank
  simp only [List.mem_append, not_or]
  exact ⟨⟨outside blankBefore, absent⟩, outside blankAfter⟩

/-! ## Parts -/

theorem splitAt_of_not_mem (absent : separator ∉ text) : splitAt separator text = [text] := by
  induction text with
  | nil => rfl
  | cons c rest ih =>
      simp only [List.mem_cons, not_or] at absent
      rw [splitAt, if_neg (Ne.symm absent.1), ih absent.2]

/-- A separator parts the parts before it from those behind it. -/
theorem splitAt_append_cons (separator : Char) (before after : List Char) :
    splitAt separator (before ++ separator :: after) =
      splitAt separator before ++ splitAt separator after := by
  induction before with
  | nil => simp [splitAt]
  | cons c rest ih =>
      rw [List.cons_append, splitAt, splitAt]
      by_cases same : c = separator
      · rw [if_pos same, if_pos same, ih, List.cons_append]
      · rw [if_neg same, if_neg same, ih]
        cases parts : splitAt separator rest with
        | nil => exact absurd parts (splitAt_ne_nil separator rest)
        | cons part others => rfl

theorem joinWith_cons_cons (separator part next : List Char) (parts : List (List Char)) :
    joinWith separator (part :: next :: parts) =
      part ++ separator ++ joinWith separator (next :: parts) := rfl

/-- Parts that do not hold the separator are found again. -/
theorem splitAt_joinWith (nonempty : parts ≠ []) (absent : ∀ part ∈ parts, separator ∉ part) :
    splitAt separator (joinWith [separator] parts) = parts := by
  induction parts with
  | nil => exact absurd rfl nonempty
  | cons part rest ih =>
      obtain ⟨first, others⟩ := List.forall_mem_cons.mp absent
      cases rest with
      | nil => exact splitAt_of_not_mem first
      | cons next further =>
          rw [joinWith_cons_cons, List.append_assoc, List.singleton_append, splitAt_append_cons,
            splitAt_of_not_mem first, ih (List.cons_ne_nil _ _) others, List.singleton_append]

theorem mem_joinWith (separator : List Char) (there : part ∈ parts) (member : c ∈ part) :
    c ∈ joinWith separator parts := by
  induction parts with
  | nil => exact absurd there List.not_mem_nil
  | cons first rest ih =>
      cases rest with
      | nil =>
          rw [List.mem_singleton.mp there] at member
          exact member
      | cons next further =>
          rw [joinWith_cons_cons, List.mem_append]
          rcases List.mem_cons.mp there with same | later
          · rw [same] at member
            exact .inl (List.mem_append_left separator member)
          · exact .inr (ih later)

theorem mem_of_mem_splitAt (there : part ∈ splitAt separator text) (member : c ∈ part) :
    c ∈ text := by
  rw [← joinWith_splitAt separator text]
  exact mem_joinWith [separator] there member

theorem mem_or_of_mem_joinWith {separator : List Char} (member : c ∈ joinWith separator parts) :
    c ∈ separator ∨ ∃ part ∈ parts, c ∈ part := by
  induction parts with
  | nil => exact absurd member List.not_mem_nil
  | cons first rest ih =>
      cases rest with
      | nil => exact .inr ⟨first, List.mem_cons_self, member⟩
      | cons next further =>
          rw [joinWith_cons_cons, List.mem_append, List.mem_append] at member
          rcases member with (here | between) | behind
          · exact .inr ⟨first, List.mem_cons_self, here⟩
          · exact .inl between
          · refine (ih behind).imp_right ?_
            rintro ⟨part, there, inPart⟩
            exact ⟨part, List.mem_cons_of_mem first there, inPart⟩

/-- No part holds the separator. -/
theorem not_mem_of_mem_splitAt (there : part ∈ splitAt separator text) : separator ∉ part := by
  induction text generalizing part with
  | nil =>
      rw [List.mem_singleton.mp there]
      exact List.not_mem_nil
  | cons c rest ih =>
      rw [splitAt] at there
      split at there
      · rcases List.mem_cons.mp there with same | later
        · rw [same]
          exact List.not_mem_nil
        · exact ih later
      · next different =>
        cases parts : splitAt separator rest with
        | nil => exact absurd parts (splitAt_ne_nil separator rest)
        | cons first others =>
            rw [parts] at there ih
            rcases List.mem_cons.mp there with same | later
            · rw [same, List.mem_cons, not_or]
              exact ⟨Ne.symm different, ih List.mem_cons_self⟩
            · exact ih (List.mem_cons_of_mem first later)

/-- A separator that is followed by further characters is a separator alone, before parts that
start with those characters. -/
theorem joinWith_cons_eq (separator : Char) (further part : List Char)
    (parts : List (List Char)) :
    joinWith (separator :: further) (part :: parts) =
      joinWith [separator] (part :: parts.map (further ++ ·)) := by
  induction parts generalizing part with
  | nil => rfl
  | cons next rest ih =>
      rw [joinWith_cons_cons, ih, List.map_cons, joinWith_cons_cons]
      cases rest <;> simp [joinWith]

theorem joinWith_eq_intercalate (separator : List Char) (parts : List (List Char)) :
    joinWith separator parts = separator.intercalate parts := by
  induction parts with
  | nil => rfl
  | cons part rest ih =>
      cases rest with
      | nil => simp [joinWith, List.intercalate]
      | cons next further => rw [List.intercalate_cons_cons, joinWith_cons_cons, ih]

theorem toList_intercalate (separator : String) (parts : List String) :
    (separator.intercalate parts).toList =
      joinWith separator.toList (parts.map String.toList) := by
  rw [String.toList_intercalate, joinWith_eq_intercalate]

/-- Blank space that is put around parts holds no separator. -/
theorem not_mem_of_padded (padded : List.Forall₂ Padded cores parts) (inked : isBlank c = false)
    (absent : ∀ core ∈ cores, c ∉ core) : ∀ part ∈ parts, c ∉ part := by
  induction padded with
  | nil => exact fun part member => absurd member List.not_mem_nil
  | cons first others ih =>
      obtain ⟨here, behind⟩ := List.forall_mem_cons.mp absent
      exact List.forall_mem_cons.mpr ⟨first.not_mem inked here, ih behind⟩

theorem splitAt_joinWith_padded (padded : List.Forall₂ Padded cores parts) (nonempty : cores ≠ [])
    (inked : isBlank separator = false) (absent : ∀ core ∈ cores, separator ∉ core) :
    splitAt separator (joinWith [separator] parts) = parts := by
  apply splitAt_joinWith _ (not_mem_of_padded padded inked absent)
  rintro rfl
  exact nonempty (List.forall₂_nil_right_iff.mp padded)

theorem map_trim_padded (padded : List.Forall₂ Padded cores parts)
    (trimmed : ∀ core ∈ cores, Trimmed core) : parts.map trim = cores := by
  induction padded with
  | nil => rfl
  | cons first others ih =>
      obtain ⟨here, behind⟩ := List.forall_mem_cons.mp trimmed
      rw [List.map_cons, first.trimmed here, ih behind]

/-- A space behind each separator is blank space around the parts. -/
theorem exists_padded_of_spaced (separator : Char) (cores : List (List Char)) :
    ∃ parts, List.Forall₂ Padded cores parts ∧
      joinWith [separator, ' '] cores = joinWith [separator] parts := by
  cases cores with
  | nil => exact ⟨[], .nil, rfl⟩
  | cons core rest =>
      refine ⟨core :: rest.map ([' '] ++ ·), .cons (.refl core) ?_, joinWith_cons_eq ..⟩
      rw [List.forall₂_map_right_iff, List.forall₂_same]
      intro other _
      exact ⟨[' '], [], by decide, rfl, (List.append_nil _).symm⟩

/-! ## Cuts -/

theorem cut_append_cons (absent : separator ∉ before) (after : List Char) :
    cut separator (before ++ separator :: after) = some (before, after) := by
  induction before with
  | nil => simp [cut]
  | cons c rest ih =>
      simp only [List.mem_cons, not_or] at absent
      rw [List.cons_append, cut, if_neg (Ne.symm absent.1), ih absent.2]
      rfl

theorem cut_of_not_mem (absent : separator ∉ text) : cut separator text = none := by
  induction text with
  | nil => rfl
  | cons c rest ih =>
      simp only [List.mem_cons, not_or] at absent
      rw [cut, if_neg (Ne.symm absent.1), ih absent.2]
      rfl

/-- A cut is made at the first separator. -/
theorem cut_eq_some_iff :
    cut separator text = some (before, after) ↔
      separator ∉ before ∧ text = before ++ separator :: after := by
  constructor
  · intro made
    by_cases there : separator ∈ text
    · obtain ⟨first, later, rfl, absent⟩ := List.eq_append_cons_of_mem there
      rw [cut_append_cons absent, Option.some.injEq, Prod.mk.injEq] at made
      rw [← made.1, ← made.2]
      exact ⟨absent, rfl⟩
    · rw [cut_of_not_mem there] at made
      cases made
  · rintro ⟨absent, rfl⟩
    exact cut_append_cons absent after

/-! ## Calls -/

theorem dropLast?_eq_some_iff :
    dropLast? c text = some before ↔ text = before ++ [c] := by
  rw [dropLast?]
  constructor
  · intro dropped
    split at dropped
    · next last =>
      cases dropped
      exact (List.dropLast_append_getLast? c last).symm
    · cases dropped
  · rintro rfl
    rw [List.getLast?_concat, if_pos rfl, List.dropLast_concat]

theorem call?_eq_some_iff :
    call? text = some (name, body) ↔
      ∃ before, '(' ∉ before ∧ name = trim before ∧ text = before ++ '(' :: (body ++ [')']) := by
  simp only [call?, Option.bind_eq_bind, Option.bind_eq_some_iff, Option.some.injEq,
    Option.pure_def, dropLast?_eq_some_iff, Prod.exists, cut_eq_some_iff, Prod.mk.injEq]
  constructor
  · rintro ⟨init, rfl, before, rest, ⟨absent, rfl⟩, rfl, rfl⟩
    exact ⟨before, absent, rfl, by simp⟩
  · rintro ⟨before, absent, rfl, rfl⟩
    exact ⟨before ++ '(' :: body, by simp, before, body, ⟨absent, rfl⟩, rfl, rfl⟩

/-- A text with a closing parenthesis at its end has the shape of a call if an opening one is
there. -/
theorem call?_eq_none_iff :
    call? text = none ↔ ¬ (text.getLast? = some ')' ∧ '(' ∈ text) := by
  rw [Option.eq_none_iff_forall_ne_some]
  constructor
  · rintro none ⟨last, opened⟩
    obtain ⟨init, rfl⟩ := List.getLast?_eq_some_iff.mp last
    have there : '(' ∈ init := by simpa using opened
    obtain ⟨before, body, rfl, absent⟩ := List.eq_append_cons_of_mem there
    exact none (trim before, body) (call?_eq_some_iff.mpr ⟨before, absent, rfl, by simp⟩)
  · rintro shapeless ⟨name, body⟩ called
    obtain ⟨before, -, -, rfl⟩ := call?_eq_some_iff.mp called
    apply shapeless
    constructor
    · have same : before ++ '(' :: (body ++ [')']) = (before ++ '(' :: body) ++ [')'] := by simp
      rw [same, List.getLast?_concat]
    · exact List.mem_append_right before List.mem_cons_self

/-- Trimming a call takes nothing away but the blank space before its name. -/
theorem trim_call (before body : List Char) :
    trim (before ++ '(' :: (body ++ [')'])) =
      dropStart isBlank before ++ '(' :: (body ++ [')']) := by
  have start : dropStart isBlank (before ++ '(' :: (body ++ [')'])) =
      dropStart isBlank before ++ '(' :: (body ++ [')']) := by
    have opening : isBlank '(' = false := by decide
    simp only [dropStart, List.dropWhile_append]
    split
    · next empty =>
      rw [List.isEmpty_iff.mp empty]
      simp [opening]
    · rfl
  have closing : ¬ isBlank ')' = true := by decide
  rw [trim, trimBy, start]
  have last :=
    List.rdropWhile_concat_neg isBlank (dropStart isBlank before ++ '(' :: body) ')' closing
  simp only [List.append_assoc, List.cons_append] at last
  exact last

/-- A text is a call if it is written as one, with any blank space around the name and behind the
closing parenthesis. -/
theorem call?_trim_eq_some_iff :
    call? (trim text) = some (name, body) ↔
      ∃ before after, '(' ∉ before ∧ isBlankText after = true ∧ name = trim before ∧
        text = before ++ '(' :: (body ++ ')' :: after) := by
  rw [call?_eq_some_iff]
  constructor
  · rintro ⟨before, absent, rfl, shape⟩
    obtain ⟨start, after, blankStart, blankAfter, same⟩ := padded_trim text
    refine ⟨start ++ before, after, ?_, blankAfter, ?_, ?_⟩
    · have padded : Padded before (start ++ before) :=
        ⟨start, [], blankStart, rfl, (List.append_nil _).symm⟩
      exact padded.not_mem (by decide) absent
    · exact (trim_blank_append blankStart before).symm
    · rw [same, shape]
      simp
  · rintro ⟨before, after, absent, blankAfter, rfl, rfl⟩
    refine ⟨dropStart isBlank before, ?_, ?_, ?_⟩
    · intro member
      exact absent ((List.dropWhile_sublist isBlank).mem member)
    · rw [trim, trim, trimBy, trimBy, dropStart, dropStart, List.dropWhile_idempotent]
    · have shape : before ++ '(' :: (body ++ ')' :: after) =
          before ++ '(' :: (body ++ [')']) ++ after := by simp
      rw [shape, trim_append_blank _ blankAfter, trim_call]

end Workflow.Text
