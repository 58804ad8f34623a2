import Workflow.Proofs.Traversal
import Workflow.Proofs.Layout
import Workflow.Proofs.Legible

/-!
# Texts that are put together

Bindings and stages are written in parts with a separator between them, and each part is read for
itself.  So what is read from two texts with a separator between them is what is read from the
first, and then what is read from the second: stages are added behind the stages before, and
bindings overwrite the bindings before.
-/

namespace Workflow

open Text

namespace Bindings

variable {part : List Char} {binding : String × String} {fault : BindingFault}

/-- The parts of a list of bindings that are not blank. -/
def chunks (text : List Char) : List (List Char) :=
  (splitAt ',' text).filter fun part => !isBlankText part

/-- A part that binds a value to a key: there is an equals sign with something else than blank space
before it, and the first one separates the two. -/
def Binds (part : List Char) (binding : String × String) : Prop :=
  ∃ before after, part = before ++ '=' :: after ∧ '=' ∉ before ∧ isBlankText before = false ∧
    binding.1.toList = trim before ∧ binding.2.toList = trim after

/-- What is wrong with a part that binds nothing. -/
inductive Offends : List Char → BindingFault → Prop where
  | noEquals {part : List Char} (absent : '=' ∉ part) :
      Offends part (.noEquals (String.ofList (trim part)))
  | noKey {before after : List Char} (blank : isBlankText before = true) :
      Offends (before ++ '=' :: after) (.noKey (String.ofList (trim (before ++ '=' :: after))))

theorem parsePair_eq_ok : parsePair part = .ok binding ↔ Binds part binding := by
  have named (before : List Char) : trim before ≠ [] ↔ isBlankText before = false := by
    rw [Ne, trim_eq_nil_iff, Bool.not_eq_true]
  obtain ⟨key, value⟩ := binding
  simp only [parsePair_eq_ok_iff, Binds, named]
  constructor
  · rintro ⟨before, after, absent, shape, keyed⟩
    exact ⟨before, after, shape, absent, keyed⟩
  · rintro ⟨before, after, shape, absent, keyed⟩
    exact ⟨before, after, absent, shape, keyed⟩

theorem parsePair_eq_error : parsePair part = .error fault ↔ Offends part fault := by
  constructor
  · intro refused
    rw [parsePair] at refused
    cases parted : cut '=' part with
    | none =>
        rw [parted] at refused
        cases refused
        apply Offends.noEquals
        intro there
        obtain ⟨before, after, rfl, absent⟩ := List.eq_append_cons_of_mem there
        rw [cut_append_cons absent] at parted
        cases parted
    | some sides =>
        obtain ⟨-, rfl⟩ := cut_eq_some_iff.mp parted
        rw [parted] at refused
        simp only [List.isEmpty_iff] at refused
        split at refused
        · next empty =>
          cases refused
          exact .noKey (trim_eq_nil_iff.mp empty)
        · cases refused
  · intro offends
    cases offends with
    | noEquals absent => rw [parsePair, cut_of_not_mem absent]
    | @noKey before after blank =>
        have absent : '=' ∉ before := by
          intro member
          exact absurd (isBlankText_iff.mp blank _ member) (by decide)
        simp only [parsePair, cut_append_cons absent, trim_eq_nil_iff.mpr blank,
          List.isEmpty_nil, if_true]

/-- The parts that are not blank are read in their order, and what they bind is written behind what
was bound before. -/
theorem parseParts_eq (bound : Bindings) (parts : List (List Char)) :
    parseParts bound parts =
      ((parts.filter fun part => !isBlankText part).mapM parsePair).map
        (Entries.putAll bound) := by
  induction parts generalizing bound with
  | nil => rfl
  | cons part rest ih =>
      rw [parseParts, List.filter_cons]
      cases blank : isBlankText part with
      | true => exact ih bound
      | false =>
          simp only [Bool.false_eq_true, Bool.not_false, if_false, if_true, List.mapM_cons]
          cases parsePair part with
          | error fault => rfl
          | ok binding =>
              simp only [ih, bind, Except.bind]
              cases (rest.filter fun part => !isBlankText part).mapM parsePair <;> rfl

theorem parse_eq (text : List Char) :
    parse text = ((chunks text).mapM parsePair).map Entries.ofPairs :=
  parseParts_eq [] (splitAt ',' text)

theorem parse_eq_ok {text : List Char} {bindings : Bindings} :
    parse text = .ok bindings ↔
      ∃ pairs, List.Forall₂ Binds (chunks text) pairs ∧ Entries.Gathers bindings pairs := by
  have read (pairs : List (String × String)) :
      (chunks text).mapM parsePair = .ok pairs ↔ List.Forall₂ Binds (chunks text) pairs := by
    simp only [Traversal.mapM_eq_ok_iff, parsePair_eq_ok]
  rw [parse_eq]
  simp only [← read, Entries.gathers_iff]
  cases (chunks text).mapM parsePair <;> simp [Except.map, eq_comm]

theorem parse_eq_error {text : List Char} :
    parse text = .error fault ↔
      Traversal.Stops (fun part => ∃ binding, Binds part binding) (Offends · fault)
        (chunks text) := by
  simp only [← parsePair_eq_ok, ← parsePair_eq_error, ← Traversal.mapM_eq_error_iff, parse_eq]
  cases (chunks text).mapM parsePair <;> simp [Except.map]

theorem exists_binds_iff :
    (∃ binding, Binds part binding) ↔
      ∃ before after, part = before ++ '=' :: after ∧ '=' ∉ before ∧
        isBlankText before = false := by
  constructor
  · rintro ⟨binding, before, after, shape, absent, named, -⟩
    exact ⟨before, after, shape, absent, named⟩
  · rintro ⟨before, after, shape, absent, named⟩
    exact ⟨(String.ofList (trim before), String.ofList (trim after)), before, after, shape, absent,
      named, String.toList_ofList, String.toList_ofList⟩

theorem exists_parse_eq_ok {text : List Char} :
    (∃ bindings, parse text = .ok bindings) ↔
      ∀ part ∈ splitAt ',' text, isBlankText part = false →
        ∃ before after, part = before ++ '=' :: after ∧ '=' ∉ before ∧
          isBlankText before = false := by
  have read : (∃ bindings, parse text = .ok bindings) ↔
      ∃ pairs, (chunks text).mapM parsePair = .ok pairs := by
    rw [parse_eq]
    cases (chunks text).mapM parsePair <;> simp [Except.map]
  rw [read, Traversal.exists_mapM_eq_ok_iff]
  simp only [chunks, List.mem_filter, Bool.not_eq_true', and_imp, parsePair_eq_ok,
    exists_binds_iff]

theorem chunks_append_comma (text other : List Char) :
    chunks (text ++ ',' :: other) = chunks text ++ chunks other := by
  rw [chunks, splitAt_append_cons, List.filter_append]
  rfl

/-- What is read from two lists with a comma between them is read from the first and then from the
second, whose bindings overwrite those of the first. -/
theorem parse_append_comma (text other : List Char) :
    parse (text ++ ',' :: other) =
      (do
        let bindings ← parse text
        let further ← parse other
        return Entries.putAll bindings further) := by
  rw [parse_eq, parse_eq, parse_eq, chunks_append_comma, List.mapM_append]
  cases (chunks text).mapM parsePair with
  | error fault => rfl
  | ok pairs =>
      cases (chunks other).mapM parsePair with
      | error fault => rfl
      | ok others =>
          have gathered : Entries.ofPairs (pairs ++ others) =
              Entries.putAll (Entries.ofPairs pairs) (Entries.ofPairs others) := by
            rw [Entries.ofPairs, Entries.putAll_append, Entries.putAll_ofPairs]
            rfl
          exact congrArg Except.ok gathered

theorem parse_append_comma_eq_error {text other : List Char} :
    parse (text ++ ',' :: other) = .error fault ↔
      parse text = .error fault ∨
        (∃ bindings, parse text = .ok bindings) ∧ parse other = .error fault := by
  rw [parse_append_comma]
  cases parse text with
  | error first => simp [bind, Except.bind]
  | ok bindings => cases parse other <;> simp [bind, Except.bind, pure, Except.pure]

theorem parse_append_comma_eq_ok {text other : List Char} {bindings : Bindings} :
    parse (text ++ ',' :: other) = .ok bindings ↔
      ∃ earlier later, parse text = .ok earlier ∧ parse other = .ok later ∧
        Entries.Gathers bindings (earlier ++ later) := by
  rw [parse_append_comma]
  cases read : parse text with
  | error fault => simp [bind, Except.bind]
  | ok earlier =>
      have gathered (later : Bindings) :
          Entries.ofPairs (earlier ++ later) = Entries.putAll earlier later :=
        Entries.ofPairs_append (legible_of_parse read).2 later
      simp only [Entries.gathers_iff]
      cases parse other with
      | error fault => simp [bind, Except.bind]
      | ok later => simp [bind, Except.bind, pure, Except.pure, gathered, eq_comm]

/-- A list of bindings is read if each part that is not blank has a key before its first equals
sign.  Every key stands where it first came up, and what stands behind the first equals sign of the
part that named it last is its value.  Otherwise the first part that binds nothing is to blame.  So
two lists with a comma between them are at fault as the first is, or else as the second is, and
amount to the bindings of both. -/
theorem parse_by_parts (text other : List Char) :
    ((∃ bindings, parse text = .ok bindings) ↔
      ∀ part ∈ splitAt ',' text, isBlankText part = false →
        ∃ before after, part = before ++ '=' :: after ∧ '=' ∉ before ∧
          isBlankText before = false) ∧
      (∀ bindings, parse text = .ok bindings ↔
        ∃ pairs, List.Forall₂ Binds (chunks text) pairs ∧ Entries.Gathers bindings pairs) ∧
      (∀ fault, parse text = .error fault ↔
        Traversal.Stops (fun part => ∃ binding, Binds part binding) (Offends · fault)
          (chunks text)) ∧
      (∀ fault, parse (text ++ ',' :: other) = .error fault ↔
        parse text = .error fault ∨
          (∃ bindings, parse text = .ok bindings) ∧ parse other = .error fault) ∧
      ∀ bindings, parse (text ++ ',' :: other) = .ok bindings ↔
        ∃ earlier later, parse text = .ok earlier ∧ parse other = .ok later ∧
          Entries.Gathers bindings (earlier ++ later) := by
  refine ⟨exists_parse_eq_ok, ?_, ?_, ?_, ?_⟩
  · exact fun bindings => parse_eq_ok
  · exact fun fault => parse_eq_error
  · exact fun fault => parse_append_comma_eq_error
  · exact fun bindings => parse_append_comma_eq_ok

/-- A destination that is bound three times, with a further equals sign and with nothing, and a
stop that is bound to nothing. -/
theorem parse_by_parts_fare :
    let text := " to = Rome,, via=\t,to=Oslo=1".toList
    let other := "class = 2,to=".toList
    parse text = .ok [("to", "Oslo=1"), ("via", "")] ∧
      parse (text ++ ',' :: other) = .ok [("to", ""), ("via", ""), ("class", "2")] ∧
      parse (text ++ ',' :: " = x".toList) = .error (.noKey "= x") := by
  intro text other
  have first : parse text = .ok [("to", "Oslo=1"), ("via", "")] := by rfl
  have second : parse other = .ok [("class", "2"), ("to", "")] := by rfl
  have unnamed : parse " = x".toList = .error (.noKey "= x") := by rfl
  obtain ⟨-, -, -, -, gathered⟩ := parse_by_parts text other
  obtain ⟨-, -, -, refused, -⟩ := parse_by_parts text " = x".toList
  refine ⟨first, (gathered _).mpr ⟨_, _, first, second, ?_⟩, (refused _).mpr ?_⟩
  · exact Entries.gathers_iff.mpr rfl
  · exact .inr ⟨⟨_, first⟩, unnamed⟩

end Bindings

namespace Plan

/-- The two lists in which the stages of a text are collected: their names, and the tokens of
each. -/
structure Columns where
  names : List String
  tokens : List (Option (List String))

namespace Columns

/-- One more part: its stage goes to the ends of both lists, unless the part is blank. -/
def collect (columns : Columns) (part : List Char) : Columns :=
  if isBlankText part then columns
  else
    let stage := StagePlan.parse part
    ⟨columns.names ++ [stage.name], columns.tokens ++ [stage.tokens]⟩

/-- All parts of a text, one after the other. -/
def ofText (text : String) : Columns :=
  (splitAt ';' text.toList).foldl collect ⟨[], []⟩

theorem foldl_collect (columns : Columns) (parts : List (List Char)) :
    parts.foldl collect columns =
      ⟨columns.names ++ (ofParts parts).names, columns.tokens ++ (ofParts parts).tokens⟩ := by
  induction parts generalizing columns with
  | nil => simp [ofParts, Plan.names, Plan.tokens]
  | cons part rest ih =>
      rw [List.foldl_cons, ih]
      cases inked : isBlankText part with
      | true => rw [collect, if_pos inked, ofParts_blank inked]
      | false =>
          rw [collect, if_neg (Bool.eq_false_iff.mp inked), ofParts_inked inked]
          simp [Plan.names, Plan.tokens]

/-- Both lists grow in step, whatever the parts hold. -/
theorem ofText_eq (text : String) : ofText text = ⟨(parse text).names, (parse text).tokens⟩ := by
  rw [ofText, foldl_collect]
  rfl

end Columns

theorem parse_append_semicolon (text other : String) :
    parse (text ++ ";" ++ other) = parse text ++ parse other := by
  have parted : chunks (text ++ ";" ++ other).toList =
      chunks text.toList ++ chunks other.toList := by
    have spelled : (text ++ ";" ++ other).toList = text.toList ++ ';' :: other.toList := by simp
    rw [spelled, chunks, splitAt_append_cons, List.filter_append]
    rfl
  rw [parse, parted, List.map_append]
  rfl

/-- A part that is not blank is a text with one stage. -/
theorem parse_of_part {part : List Char} (plain : ';' ∉ part) (inked : isBlankText part = false) :
    parse (String.ofList part) = [StagePlan.parse part] := by
  rw [parse, String.toList_ofList, chunks, splitAt_of_not_mem plain]
  simp [inked]

/-- What two texts say with a semicolon between them is what the first says and then what the second
says: the names follow the names and the tokens follow the tokens.  The two lists always grow
together, by one stage for each part that is not blank, and each stage is the one that its part is
read as when it stands alone, whatever the other parts hold. -/
theorem parse_by_chunks (text other : String) :
    (parse (text ++ ";" ++ other)).names = (parse text).names ++ (parse other).names ∧
      (parse (text ++ ";" ++ other)).tokens = (parse text).tokens ++ (parse other).tokens ∧
      Columns.ofText text = ⟨(parse text).names, (parse text).tokens⟩ ∧
      (parse text).names.length = (parse text).tokens.length ∧
      (parse text).names.length =
        (splitAt ';' text.toList).countP (fun part => !isBlankText part) ∧
      (parse text).map (fun stage => [stage]) =
        (chunks text.toList).map fun chunk => parse (String.ofList chunk) := by
  refine ⟨?_, ?_, Columns.ofText_eq text, length_names _, ?_, ?_⟩
  · rw [parse_append_semicolon, names, List.map_append]
    rfl
  · rw [parse_append_semicolon, tokens, List.map_append]
    rfl
  · rw [names, List.length_map, length_parse, chunks, List.countP_eq_length_filter]
  · rw [parse, List.map_map]
    apply List.map_congr_left
    intro chunk member
    obtain ⟨there, inked⟩ := List.mem_filter.mp member
    symm
    apply parse_of_part (not_mem_of_mem_splitAt there)
    simpa using inked

/-- A parenthesis that is opened in one part and closed in another belongs to no call. -/
example : parse "Go(a;b,c);;)Ride(,d" =
    [⟨"Go(a", none⟩, ⟨"b,c)", none⟩, ⟨")Ride(,d", none⟩] := by rfl

end Plan

end Workflow
