import Workflow.Invocation
import Workflow.Proofs.Placing
import Workflow.Proofs.Reading

/-!
# Invocations that can be read back

There is no escaping, so not every invocation is found again where it is written: blank space at
the ends is lost, and a comma, an equals sign or a parenthesis may be taken for the one that
separates.  The invocations that are read back are those that no such character stands in the way
of, and reading makes no others.
-/

namespace Workflow

namespace Bindings

open Text

variable {bindings bound : Bindings} {binding : String × String} {key value : String}
variable {part : List Char}

/-- A key and a value that are found again where they are written. -/
structure LegiblePair (key value : String) : Prop where
  key_nonempty : key ≠ ""
  key_trimmed : Trimmed key.toList
  key_comma : ',' ∉ key.toList
  key_equals : '=' ∉ key.toList
  value_trimmed : Trimmed value.toList
  value_comma : ',' ∉ value.toList

/-- Bindings of which each is found again. -/
def Legible (bindings : Bindings) : Prop :=
  ∀ binding ∈ bindings, LegiblePair binding.1 binding.2

/-- The written form of a binding. -/
def written (binding : String × String) : List Char :=
  binding.1.toList ++ '=' :: binding.2.toList

/-- A binding is read at the first equals sign, and has a key before it. -/
theorem parsePair_eq_ok_iff :
    parsePair part = .ok (key, value) ↔
      ∃ before after, '=' ∉ before ∧ part = before ++ '=' :: after ∧
        trim before ≠ [] ∧ key.toList = trim before ∧ value.toList = trim after := by
  constructor
  · intro read
    rw [parsePair] at read
    cases parted : cut '=' part with
    | none =>
        rw [parted] at read
        cases read
    | some sides =>
        obtain ⟨absent, shape⟩ := cut_eq_some_iff.mp parted
        rw [parted] at read
        simp only [List.isEmpty_iff] at read
        split at read
        · cases read
        · next named =>
          cases read
          exact ⟨sides.1, sides.2, absent, shape, named, String.toList_ofList,
            String.toList_ofList⟩
  · rintro ⟨before, after, absent, rfl, named, keyed, valued⟩
    have kept : (trim before).isEmpty = false := List.isEmpty_eq_false_iff.mpr named
    simp only [parsePair, cut_append_cons absent, kept, Bool.false_eq_true, ↓reduceIte]
    rw [← keyed, ← valued, String.ofList_toList, String.ofList_toList]

/-- Whatever part of a list a binding is read from, it is found again where it is written. -/
theorem legiblePair_of_parsePair (plain : ',' ∉ part) (read : parsePair part = .ok (key, value)) :
    LegiblePair key value := by
  obtain ⟨before, after, absent, rfl, named, keyed, valued⟩ := parsePair_eq_ok_iff.mp read
  simp only [List.mem_append, List.mem_cons, not_or] at plain
  exact {
    key_nonempty := by
      rintro rfl
      exact named keyed.symm
    key_trimmed := by
      rw [keyed]
      exact trimmed_trim before
    key_comma := by
      rw [keyed]
      exact fun member => plain.1 (mem_of_mem_trim member)
    key_equals := by
      rw [keyed]
      exact fun member => absent (mem_of_mem_trim member)
    value_trimmed := by
      rw [valued]
      exact trimmed_trim after
    value_comma := by
      rw [valued]
      exact fun member => plain.2.2 (mem_of_mem_trim member) }

/-- A binding is read wherever it is written, with any blank space around it. -/
theorem LegiblePair.parsePair (legible : LegiblePair binding.1 binding.2)
    (padded : Padded (written binding) part) : parsePair part = .ok binding := by
  obtain ⟨before, after, blankBefore, blankAfter, rfl⟩ := padded
  have keyed : Padded binding.1.toList (before ++ binding.1.toList) :=
    ⟨before, [], blankBefore, rfl, (List.append_nil _).symm⟩
  have valued : Padded binding.2.toList (binding.2.toList ++ after) :=
    ⟨[], after, rfl, blankAfter, rfl⟩
  apply parsePair_eq_ok_iff.mpr
  refine ⟨before ++ binding.1.toList, binding.2.toList ++ after, ?_, ?_, ?_, ?_, ?_⟩
  · exact keyed.not_mem (by decide) legible.key_equals
  · simp [written]
  · rw [keyed.trimmed legible.key_trimmed]
    intro empty
    exact legible.key_nonempty (String.toList_inj.mp empty)
  · exact (keyed.trimmed legible.key_trimmed).symm
  · exact (valued.trimmed legible.value_trimmed).symm

theorem isBlankText_of_padded (padded : Padded (written binding) part) :
    isBlankText part = false := by
  have equals : isBlank '=' = false := by decide
  rw [padded.isBlankText_eq, Bool.eq_false_iff, Ne, isBlankText_iff]
  intro blank
  have blankEquals := blank '=' (List.mem_append_right _ List.mem_cons_self)
  rw [equals] at blankEquals
  cases blankEquals

theorem LegiblePair.comma_not_mem (legible : LegiblePair binding.1 binding.2) :
    ',' ∉ written binding := by
  simp only [written, List.mem_append, List.mem_cons, not_or]
  exact ⟨legible.key_comma, by decide, legible.value_comma⟩

/-- The parts of a list are read in their order. -/
theorem parseParts_padded {parts : List (List Char)} (legible : Legible bindings)
    (padded : List.Forall₂ Padded (bindings.map written) parts) (bound : Bindings) :
    parseParts bound parts = .ok (Entries.putAll bound bindings) := by
  induction bindings generalizing bound parts with
  | nil =>
      cases padded
      rfl
  | cons binding rest ih =>
      obtain ⟨pair, others⟩ := List.forall_mem_cons.mp legible
      cases padded with
      | cons first further =>
          rw [parseParts, isBlankText_of_padded first, pair.parsePair first]
          exact ih others further _

/-- Bindings under distinct keys are read back where each of them can be. -/
theorem parse_render (legible : Legible bindings) (distinct : Entries.WF bindings) :
    parse bindings.render.toList = .ok bindings := by
  have spelled : bindings.render.toList = joinWith [',', ' '] (bindings.map written) := by
    rw [render, toList_intercalate, List.map_map]
    congr 1
    apply List.map_congr_left
    intro binding _
    simp [written, toString]
  obtain ⟨parts, padded, same⟩ := exists_padded_of_spaced ',' (bindings.map written)
  rw [spelled, same, parse]
  cases bindings with
  | nil =>
      cases padded
      rfl
  | cons binding rest =>
      have plain : ∀ core ∈ (binding :: rest).map written, ',' ∉ core := by
        intro core member
        obtain ⟨other, there, rfl⟩ := List.mem_map.mp member
        exact (legible other there).comma_not_mem
      rw [splitAt_joinWith_padded padded (by simp) (by decide) plain,
        parseParts_padded legible padded]
      exact congrArg Except.ok (Entries.ofPairs_of_wf distinct)

/-- What is read from parts without commas joins what was bound before. -/
theorem legible_of_parseParts {parts : List (List Char)} (plain : ∀ part ∈ parts, ',' ∉ part)
    (legible : Legible bound) (distinct : Entries.WF bound)
    (read : parseParts bound parts = .ok bindings) : Legible bindings ∧ Entries.WF bindings := by
  induction parts generalizing bound with
  | nil =>
      cases read
      exact ⟨legible, distinct⟩
  | cons part rest ih =>
      obtain ⟨here, behind⟩ := List.forall_mem_cons.mp plain
      rw [parseParts] at read
      split at read
      · exact ih behind legible distinct read
      · cases pair : parsePair part with
        | error fault =>
            rw [pair] at read
            cases read
        | ok binding =>
            rw [pair] at read
            apply ih behind _ (distinct.put binding.1 binding.2) read
            intro other member
            rcases (Entries.placed_iff.mpr rfl).mem member with old | rfl
            · exact legible other old
            · exact legiblePair_of_parsePair here pair

/-- All bindings that are read are found again, and no key is read twice. -/
theorem legible_of_parse {text : List Char} (read : parse text = .ok bindings) :
    Legible bindings ∧ Entries.WF bindings := by
  apply legible_of_parseParts _ _ List.Pairwise.nil read
  · intro part member
    exact not_mem_of_mem_splitAt member
  · intro binding member
    exact absurd member List.not_mem_nil

end Bindings

namespace Invocation

open Text

variable {invocation : Invocation} {text : String}

/-- An invocation whose written form names it: its name is trimmed and does not look like a call of
its own, and its bindings are found again. -/
def Legible (invocation : Invocation) : Prop :=
  Trimmed invocation.name.toList ∧
    match invocation.arguments with
    | none => ¬ (invocation.name.toList.getLast? = some ')' ∧ '(' ∈ invocation.name.toList)
    | some bindings => '(' ∉ invocation.name.toList ∧ bindings.Legible

/-- No key is bound twice. -/
def Distinct (invocation : Invocation) : Prop :=
  ∀ bindings, invocation.arguments = some bindings → Entries.WF bindings

/-- A legible invocation is read back. -/
theorem Legible.parse_render (legible : invocation.Legible) (distinct : invocation.Distinct) :
    parse invocation.render = .ok invocation := by
  obtain ⟨name, arguments⟩ := invocation
  obtain ⟨trimmed, shape⟩ := legible
  cases arguments with
  | none =>
      have same : trim name.toList = name.toList := trimmed
      have shapeless : call? (trim name.toList) = none := by
        rw [same]
        exact call?_eq_none_iff.mpr shape
      simp only [render, parse, shapeless]
      rw [same, String.ofList_toList]
  | some bindings =>
      have spelled : (render ⟨name, some bindings⟩).toList =
          name.toList ++ '(' :: (bindings.render.toList ++ ')' :: []) := by
        simp [render, toString]
      have called : call? (trim (render ⟨name, some bindings⟩).toList) =
          some (name.toList, bindings.render.toList) :=
        call?_trim_eq_some_iff.mpr ⟨name.toList, [], shape.1, rfl, trimmed.symm, spelled⟩
      have read := Bindings.parse_render shape.2 (distinct bindings rfl)
      simp only [parse, called, read, String.ofList_toList]
      rfl

/-- Whatever is read from a text is legible. -/
theorem legible_of_parse (read : parse text = .ok invocation) :
    invocation.Legible ∧ invocation.Distinct := by
  rw [parse] at read
  cases called : call? (trim text.toList) with
  | none =>
      simp only [called] at read
      cases read
      rw [call?_eq_none_iff] at called
      constructor
      · simp only [Legible, String.toList_ofList]
        exact ⟨trimmed_trim _, called⟩
      · exact nofun
  | some call =>
      simp only [called] at read
      obtain ⟨before, after, absent, -, named, -⟩ := call?_trim_eq_some_iff.mp called
      cases bound : Bindings.parse call.2 with
      | error fault =>
          rw [bound] at read
          cases read
      | ok bindings =>
          rw [bound] at read
          cases read
          obtain ⟨legible, distinct⟩ := Bindings.legible_of_parse bound
          constructor
          · simp only [Legible, String.toList_ofList, named]
            refine ⟨trimmed_trim before, ?_, legible⟩
            exact fun member => absent (mem_of_mem_trim member)
          · rintro others same
            cases same
            exact distinct

/-- An invocation is read back exactly if it is legible, and only legible invocations are read, so
that reading what was read changes nothing. -/
theorem parse_render_iff :
    (∀ invocation : Invocation, invocation.Distinct →
      (parse invocation.render = .ok invocation ↔ invocation.Legible)) ∧
    ∀ (text : String) (invocation : Invocation), parse text = .ok invocation →
      invocation.Distinct ∧ invocation.Legible ∧ parse invocation.render = .ok invocation := by
  constructor
  · intro invocation distinct
    constructor
    · intro read
      exact (legible_of_parse read).1
    · intro legible
      exact legible.parse_render distinct
  · intro text invocation read
    obtain ⟨legible, distinct⟩ := legible_of_parse read
    exact ⟨distinct, legible, legible.parse_render distinct⟩

/-- An invocation with parentheses in its name and in a value, an equals sign in a value and a value
that is empty. -/
def fare : Invocation :=
  ⟨"Fare)", some [("to", "a=b (c))"), ("via", "")]⟩

/-- No such character stands in the way, wherever there is blank space. -/
theorem parse_render_iff_fare :
    parse " Fare) ( to= a=b (c)) ,, via =)" = .ok fare ∧ fare.Distinct ∧ fare.Legible ∧
      parse fare.render = .ok fare := by
  have read : parse " Fare) ( to= a=b (c)) ,, via =)" = .ok fare := by rfl
  obtain ⟨distinct, legible, -⟩ := parse_render_iff.2 _ fare read
  exact ⟨read, distinct, legible, (parse_render_iff.1 fare distinct).mpr legible⟩

/-- An invocation without bindings whose name looks like a call is read as this call. -/
example : parse (render ⟨"Fare(to=a)", none⟩) = .ok ⟨"Fare", some [("to", "a")]⟩ := by rfl

end Invocation

end Workflow
