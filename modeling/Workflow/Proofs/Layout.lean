import Workflow.Plan
import Workflow.Proofs.Reading

/-!
# Layouts of a plan

A plan can be written in many ways: blank space may stand around names, tokens, parentheses and
separators, and blank parts may stand anywhere between the stages.  A text is a layout of the plan
that is read from it, and no text is a layout of another plan that is read from a text, so all
layouts of a plan are read as this plan.
-/

namespace Workflow

open Text

namespace StagePlan

variable {stage : StagePlan} {tokens : List String} {text body : List Char}

/-- The text between the parentheses of a stage: blank space if it has no arguments, and otherwise
their tokens with commas between them and any blank space around each. -/
inductive Lists : List String → List Char → Prop where
  | blank {body : List Char} (blank : isBlankText body = true) : Lists [] body
  | tokens {tokens : List String} {parts : List (List Char)} (nonempty : tokens ≠ [])
      (padded : List.Forall₂ Padded (tokens.map String.toList) parts) :
      Lists tokens (joinWith [','] parts)

/-- A text that spells out a stage: its name alone, or with the tokens of its arguments in
parentheses, and any blank space around them. -/
inductive LaidOut : StagePlan → List Char → Prop where
  | bare {name : String} {text : List Char} (named : Padded name.toList text) :
      LaidOut ⟨name, none⟩ text
  | call {name : String} {tokens : List String} {before body after : List Char}
      (named : Padded name.toList before) (lists : Lists tokens body)
      (blank : isBlankText after = true) :
      LaidOut ⟨name, some tokens⟩ (before ++ '(' :: (body ++ ')' :: after))

/-- Tokens that are found again between parentheses.  A single empty one is not: where it is
written, no arguments are. -/
structure LegibleTokens (tokens : List String) : Prop where
  trimmed : ∀ token ∈ tokens, Trimmed token.toList
  comma : ∀ token ∈ tokens, ',' ∉ token.toList
  semicolon : ∀ token ∈ tokens, ';' ∉ token.toList
  not_blank : tokens ≠ [""]

/-- A stage that is found again where it is written. -/
def Legible (stage : StagePlan) : Prop :=
  Trimmed stage.name.toList ∧ ';' ∉ stage.name.toList ∧
    match stage.tokens with
    | none =>
      stage.name ≠ "" ∧ ¬ (stage.name.toList.getLast? = some ')' ∧ '(' ∈ stage.name.toList)
    | some tokens => '(' ∉ stage.name.toList ∧ LegibleTokens tokens

/-! ## Tokens -/

/-- Whatever stands between parentheses, it lists the tokens that are read from it. -/
theorem lists_parseTokens (body : List Char) : Lists (parseTokens body) body := by
  rw [parseTokens]
  split
  · next blank => exact .blank blank
  · have nonempty : ((splitAt ',' body).map fun token => String.ofList (trim token)) ≠ [] := by
      rw [Ne, List.map_eq_nil_iff]
      exact splitAt_ne_nil ',' body
    have padded : List.Forall₂ Padded
        (((splitAt ',' body).map fun token => String.ofList (trim token)).map String.toList)
        (splitAt ',' body) := by
      rw [List.map_map, List.forall₂_map_left_iff, List.forall₂_same]
      intro part _
      rw [Function.comp_apply, String.toList_ofList]
      exact padded_trim part
    have lists := Lists.tokens nonempty padded
    rwa [joinWith_splitAt] at lists

theorem legibleTokens_parseTokens (plain : ';' ∉ body) : LegibleTokens (parseTokens body) := by
  by_cases blank : isBlankText body = true
  · rw [parseTokens, if_pos blank]
    exact ⟨by simp, by simp, by simp, by simp⟩
  · have read : parseTokens body =
        (splitAt ',' body).map fun token => String.ofList (trim token) := if_neg blank
    have part_of {token : String} (member : token ∈ parseTokens body) :
        ∃ part ∈ splitAt ',' body, token.toList = trim part := by
      rw [read] at member
      obtain ⟨part, there, rfl⟩ := List.mem_map.mp member
      exact ⟨part, there, String.toList_ofList⟩
    constructor
    · intro token member
      obtain ⟨part, -, same⟩ := part_of member
      rw [same]
      exact trimmed_trim part
    · intro token member comma
      obtain ⟨part, there, same⟩ := part_of member
      rw [same] at comma
      exact not_mem_of_mem_splitAt there (mem_of_mem_trim comma)
    · intro token member semicolon
      obtain ⟨part, there, same⟩ := part_of member
      rw [same] at semicolon
      exact plain (mem_of_mem_splitAt there (mem_of_mem_trim semicolon))
    · intro single
      rw [read] at single
      obtain ⟨part, rest, parts, empty, none⟩ := List.map_eq_cons_iff.mp single
      rw [List.map_eq_nil_iff] at none
      -- a single part is the whole text
      have whole := joinWith_splitAt ',' body
      rw [parts, none] at whole
      change part = body at whole
      apply blank
      rw [← whole, ← trim_eq_nil_iff]
      exact String.ofList_injective empty

/-- Legible tokens are found again wherever they are listed. -/
theorem Lists.parseTokens_eq (lists : Lists tokens body) (legible : LegibleTokens tokens) :
    parseTokens body = tokens := by
  cases lists with
  | blank blank => exact if_pos blank
  | @tokens _ parts nonempty padded =>
      have parted : splitAt ',' (joinWith [','] parts) = parts := by
        apply splitAt_joinWith_padded padded _ (by decide)
        · intro core member
          obtain ⟨token, there, rfl⟩ := List.mem_map.mp member
          exact legible.comma token there
        · rw [Ne, List.map_eq_nil_iff]
          exact nonempty
      have trimmed : parts.map trim = tokens.map String.toList := by
        apply map_trim_padded padded
        intro core member
        obtain ⟨token, there, rfl⟩ := List.mem_map.mp member
        exact legible.trimmed token there
      have inked : ¬ isBlankText (joinWith [','] parts) = true := by
        intro blank
        -- blank text is a single part, whose token would be empty
        have comma : ',' ∉ joinWith [','] parts := by
          intro member
          exact absurd (isBlankText_iff.mp blank _ member) (by decide)
        have single : parts = [joinWith [','] parts] := parted.symm.trans (splitAt_of_not_mem comma)
        rw [single, List.map_singleton, trim_eq_nil_iff.mpr blank] at trimmed
        obtain ⟨token, rest, rfl, empty, none⟩ := List.map_eq_cons_iff.mp trimmed.symm
        rw [List.map_eq_nil_iff] at none
        apply legible.not_blank
        rw [none, String.toList_eq_nil_iff.mp empty]
      rw [parseTokens, if_neg inked, parted]
      have texts : (parts.map fun token => String.ofList (trim token)) =
          (parts.map trim).map String.ofList := by rw [List.map_map]; rfl
      rw [texts, trimmed, List.map_map]
      simp [Function.comp_def]

/-! ## Stages -/

/-- A text is a layout of the stage that is read from it. -/
theorem laidOut_parse (text : List Char) : (parse text).LaidOut text := by
  rw [parse]
  cases called : call? (trim text) with
  | none =>
      apply LaidOut.bare
      rw [String.toList_ofList]
      exact padded_trim text
  | some call =>
      obtain ⟨before, after, -, blank, named, same⟩ := call?_trim_eq_some_iff.mp called
      rw [same]
      apply LaidOut.call _ (lists_parseTokens call.2) blank
      rw [String.toList_ofList, named]
      exact padded_trim before

/-- A text without semicolons that is not blank is read as a legible stage. -/
theorem legible_parse (plain : ';' ∉ text) (inked : isBlankText text = false) :
    (parse text).Legible := by
  rw [parse]
  cases called : call? (trim text) with
  | none =>
      simp only [Legible, String.toList_ofList]
      refine ⟨trimmed_trim text, ?_, ?_, call?_eq_none_iff.mp called⟩
      · exact fun member => plain (mem_of_mem_trim member)
      · intro empty
        have blank : isBlankText text = true := trim_eq_nil_iff.mp (String.ofList_injective empty)
        rw [inked] at blank
        cases blank
  | some call =>
      obtain ⟨before, after, absent, -, named, same⟩ := call?_trim_eq_some_iff.mp called
      rw [same] at plain
      simp only [List.mem_append, List.mem_cons, not_or] at plain
      simp only [Legible, String.toList_ofList, named]
      refine ⟨trimmed_trim before, ?_, ?_, legibleTokens_parseTokens plain.2.2.1⟩
      · exact fun member => plain.1 (mem_of_mem_trim member)
      · exact fun member => absent (mem_of_mem_trim member)

/-- A legible stage is read from each of its layouts. -/
theorem LaidOut.parse_eq (laid : stage.LaidOut text) (legible : stage.Legible) :
    parse text = stage := by
  obtain ⟨trimmed, -, shape⟩ := legible
  cases laid with
  | bare named =>
      rw [parse, named.trimmed trimmed, call?_eq_none_iff.mpr shape.2]
      exact congrArg (StagePlan.mk · none) String.ofList_toList
  | @call name tokens before body after named lists blank =>
      have absent : '(' ∉ before := named.not_mem (by decide) shape.1
      have called : call? (trim (before ++ '(' :: (body ++ ')' :: after))) =
          some (name.toList, body) :=
        call?_trim_eq_some_iff.mpr ⟨before, after, absent, blank, (named.trimmed trimmed).symm, rfl⟩
      rw [parse, called]
      simp only [String.ofList_toList, lists.parseTokens_eq shape.2]

theorem Lists.semicolon_not_mem (lists : Lists tokens body) (legible : LegibleTokens tokens) :
    ';' ∉ body := by
  intro member
  cases lists with
  | blank blank => exact absurd (isBlankText_iff.mp blank _ member) (by decide)
  | @tokens _ parts nonempty padded =>
      have plain : ∀ core ∈ tokens.map String.toList, ';' ∉ core := by
        intro core there
        obtain ⟨token, named, rfl⟩ := List.mem_map.mp there
        exact legible.semicolon token named
      rcases mem_or_of_mem_joinWith member with comma | ⟨part, there, inPart⟩
      · exact absurd (List.mem_singleton.mp comma) (by decide)
      · exact not_mem_of_padded padded (by decide) plain part there inPart

/-- No layout of a legible stage is blank or holds a semicolon, so it is a part of its own in a
definition text. -/
theorem LaidOut.stands_alone (laid : stage.LaidOut text) (legible : stage.Legible) :
    isBlankText text = false ∧ ';' ∉ text := by
  obtain ⟨trimmed, plain, shape⟩ := legible
  cases laid with
  | bare named =>
      refine ⟨?_, named.not_mem (by decide) plain⟩
      rw [Bool.eq_false_iff, Ne, ← trim_eq_nil_iff, named.trimmed trimmed]
      exact fun empty => shape.1 (String.toList_eq_nil_iff.mp empty)
  | call named lists blank =>
      constructor
      · rw [Bool.eq_false_iff, Ne, isBlankText_iff]
        intro blank
        exact absurd (blank '(' (List.mem_append_right _ List.mem_cons_self)) (by decide)
      · simp only [List.mem_append, List.mem_cons, not_or]
        refine ⟨named.not_mem (by decide) plain, by decide, lists.semicolon_not_mem shape.2,
          by decide, ?_⟩
        intro member
        exact absurd (isBlankText_iff.mp blank _ member) (by decide)

/-- The form in which a stage is written is one of its layouts. -/
theorem laidOut_render (stage : StagePlan) : stage.LaidOut stage.render.toList := by
  obtain ⟨name, tokens⟩ := stage
  cases tokens with
  | none =>
      apply LaidOut.bare
      simp only [render, renderTokens, String.append_empty]
      exact Padded.refl name.toList
  | some tokens =>
      have spelled : (render ⟨name, some tokens⟩).toList =
          name.toList ++ '(' :: (joinWith [',', ' '] (tokens.map String.toList) ++ ')' :: []) := by
        simp [render, renderTokens, joinWith_eq_intercalate]
      obtain ⟨parts, padded, same⟩ := exists_padded_of_spaced ',' (tokens.map String.toList)
      rw [spelled, same]
      apply LaidOut.call (.refl name.toList) _ rfl
      cases tokens with
      | nil =>
          cases padded
          exact .blank rfl
      | cons token rest => exact .tokens (List.cons_ne_nil token rest) padded

end StagePlan

namespace Plan

variable {plan : Plan} {parts : List (List Char)}

/-- Parts of a text that spell out a plan: the layouts of its stages in their order, with any blank
parts before, between and behind them. -/
inductive Spelled : Plan → List (List Char) → Prop where
  | done : Spelled [] []
  | blank {plan : Plan} {part : List Char} {parts : List (List Char)}
      (blank : isBlankText part = true) (rest : Spelled plan parts) : Spelled plan (part :: parts)
  | stage {stage : StagePlan} {plan : Plan} {part : List Char} {parts : List (List Char)}
      (laid : stage.LaidOut part) (rest : Spelled plan parts) :
      Spelled (stage :: plan) (part :: parts)

/-- A text that spells out a plan in parts between semicolons. -/
def LaidOut (plan : Plan) (text : String) : Prop :=
  ∃ parts, plan.Spelled parts ∧ text.toList = joinWith [';'] parts

/-- A plan of which each stage is found again where it is written. -/
def Legible (plan : Plan) : Prop :=
  ∀ stage ∈ plan, stage.Legible

/-- The stages that parts of a text are read as. -/
def ofParts (parts : List (List Char)) : Plan :=
  (parts.filter fun part => !isBlankText part).map StagePlan.parse

theorem ofParts_blank {part : List Char} (blank : isBlankText part = true) :
    ofParts (part :: parts) = ofParts parts := by
  rw [ofParts, List.filter_cons, blank]
  rfl

theorem ofParts_inked {part : List Char} (inked : isBlankText part = false) :
    ofParts (part :: parts) = StagePlan.parse part :: ofParts parts := by
  rw [ofParts, List.filter_cons, inked]
  rfl

/-- Parts spell out the stages that they are read as. -/
theorem spelled_ofParts (parts : List (List Char)) : (ofParts parts).Spelled parts := by
  induction parts with
  | nil => exact .done
  | cons part rest ih =>
      cases inked : isBlankText part with
      | true =>
          rw [ofParts_blank inked]
          exact .blank inked ih
      | false =>
          rw [ofParts_inked inked]
          exact .stage (StagePlan.laidOut_parse part) ih

/-- A legible plan is read from each of its spellings, and no part of it holds a semicolon. -/
theorem Spelled.ofParts_eq (spelled : plan.Spelled parts) (legible : plan.Legible) :
    ofParts parts = plan ∧ ∀ part ∈ parts, ';' ∉ part := by
  induction spelled with
  | done => exact ⟨rfl, fun part member => absurd member List.not_mem_nil⟩
  | blank blank rest ih =>
      obtain ⟨read, plain⟩ := ih legible
      refine ⟨(ofParts_blank blank).trans read, List.forall_mem_cons.mpr ⟨?_, plain⟩⟩
      intro member
      exact absurd (isBlankText_iff.mp blank _ member) (by decide)
  | stage laid rest ih =>
      obtain ⟨first, others⟩ := List.forall_mem_cons.mp legible
      obtain ⟨read, plain⟩ := ih others
      obtain ⟨inked, alone⟩ := laid.stands_alone first
      refine ⟨?_, List.forall_mem_cons.mpr ⟨alone, plain⟩⟩
      rw [ofParts_inked inked, laid.parse_eq first, read]

/-- Every text is a layout of the plan that is read from it. -/
theorem laidOut_parse (text : String) : (parse text).LaidOut text :=
  ⟨splitAt ';' text.toList, spelled_ofParts _, (joinWith_splitAt ';' text.toList).symm⟩

/-- Only legible plans are read from texts. -/
theorem legible_parse (text : String) : (parse text).Legible := by
  intro stage member
  obtain ⟨part, there, rfl⟩ := List.mem_map.mp member
  obtain ⟨inParts, inked⟩ := List.mem_filter.mp there
  apply StagePlan.legible_parse (not_mem_of_mem_splitAt inParts)
  simpa using inked

/-- A legible plan is read from each of its layouts. -/
theorem LaidOut.parse_eq {text : String} (laid : plan.LaidOut text) (legible : plan.Legible) :
    parse text = plan := by
  obtain ⟨parts, spelled, same⟩ := laid
  obtain ⟨read, plain⟩ := spelled.ofParts_eq legible
  have parse_eq : parse text = ofParts (splitAt ';' text.toList) := rfl
  rw [parse_eq, same]
  cases parts with
  | nil =>
      cases spelled
      rfl
  | cons part rest => rw [splitAt_joinWith (List.cons_ne_nil part rest) plain, read]

/-- The form in which a plan is written is one of its layouts. -/
theorem laidOut_render (plan : Plan) : plan.LaidOut plan.render := by
  refine ⟨plan.map fun stage => stage.render.toList, ?_, ?_⟩
  · induction plan with
    | nil => exact .done
    | cons stage rest ih => exact .stage stage.laidOut_render ih
  · rw [render, toList_intercalate, List.map_map]
    rfl

/-- The legible plans are those that are read from texts. -/
theorem legible_iff : plan.Legible ↔ ∃ text, parse text = plan := by
  constructor
  · intro legible
    exact ⟨plan.render, plan.laidOut_render.parse_eq legible⟩
  · rintro ⟨text, rfl⟩
    exact legible_parse text

/-- The layouts of the plan that is read from a text are the texts from which the same plan is
read, and the form in which it is written is one of them. -/
theorem laidOut_iff_parse_eq (text other : String) :
    ((parse text).LaidOut other ↔ parse other = parse text) ∧
      (parse text).LaidOut (parse text).render := by
  refine ⟨⟨?_, ?_⟩, (parse text).laidOut_render⟩
  · intro laid
    exact laid.parse_eq (legible_parse text)
  · intro same
    rw [← same]
    exact laidOut_parse other

/-- Empty tokens, an empty name and parentheses within tokens are kept, blank parts are not. -/
example : parse " Intro\t; ;\n(a( b) ) ;Pick ( ,) ; Done( )" =
    [⟨"Intro", none⟩, ⟨"", some ["a( b)"]⟩, ⟨"Pick", some ["", ""]⟩, ⟨"Done", some []⟩] := by rfl

end Plan

end Workflow
