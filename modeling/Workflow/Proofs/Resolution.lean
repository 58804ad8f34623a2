import Workflow.Proofs.Supply
import Workflow.Proofs.Traversal

/-!
# What arguments depend on

Every token of a stage stands for its argument alone.  Resolving a list of them gives what each of
them stands for, or fails at the first reference to a value that is not there or has no text.  It
reads nothing of an instance but the values and the bindings that the tokens mention.
-/

namespace Workflow

open Traversal (Stops)

/-- What a name was bound to when the instance was invoked. -/
def Instance.binding? (inst : Instance) (name : String) : Option String :=
  inst.arguments.bind fun bindings => Entries.lookup bindings name

/-- There is a value under a key, and it can be written down. -/
def ValueMap.Shows (map : ValueMap) (key : String) : Prop :=
  ∃ value, map.get? key = some value ∧ value.isWritable = true

theorem ValueMap.shows_or_withholds (map : ValueMap) (key : String) :
    map.Shows key ∨ ∃ fault, map.Withholds key fault := by
  cases found : map.get? key with
  | none => exact .inr ⟨_, .missing found⟩
  | some value =>
      cases writable : value.isWritable with
      | true => exact .inl ⟨value, found, writable⟩
      | false => exact .inr ⟨_, .unwritable found writable⟩

theorem ValueMap.Withholds.not_shows {map : ValueMap} {key : String} {fault : ValueFault}
    (withholds : map.Withholds key fault) : ¬ map.Shows key := by
  rintro ⟨value, found, writable⟩
  rcases withholds with absent | ⟨also, long⟩
  · cases absent.symm.trans found
  · cases also.symm.trans found
    cases long.symm.trans writable

namespace Token

/-- A token without a mark in front, which names a binding as a whole. -/
def Unmarked (token : String) : Prop :=
  ∀ text, token ≠ ":" ++ text ∧ token ≠ "!" ++ text

/-- What a token stands for in an instance, told from how it is written. -/
inductive Stands {α : Type} (inst : Instance) (ofText : String → α) (default : α) :
    String → α → Prop where
  | literal (text : String) : Stands inst ofText default (":" ++ text) (ofText text)
  | text {key string : String} (found : inst.values.get? key = some (.text string)) :
      Stands inst ofText default ("!" ++ key) (ofText string)
  | written {key : String} {stored : Value} (found : inst.values.get? key = some stored)
      (other : stored.kind ≠ .text) (writable : stored.isWritable = true) :
      Stands inst ofText default ("!" ++ key) (ofText stored.write)
  | bound {name text : String} (unmarked : Unmarked name) (found : inst.binding? name = some text) :
      Stands inst ofText default name (ofText text)
  | unbound {name : String} (unmarked : Unmarked name) (missing : inst.binding? name = none) :
      Stands inst ofText default name default

theorem classify_colon (text : String) : classify (":" ++ text) = .literal text := by
  simp [classify]

theorem classify_bang (key : String) : classify ("!" ++ key) = .value key := by
  simp [classify]

/-- A token is marked by its first character, also if nothing or another mark comes next. -/
theorem marked_cases (token : String) :
    (∃ text, token = ":" ++ text) ∨ (∃ key, token = "!" ++ key) ∨
      Unmarked token ∧ classify token = .parameter token := by
  unfold classify
  split
  · next text written =>
    exact .inl ⟨String.ofList text, String.toList_injective (by simp [written])⟩
  · next key written =>
    exact .inr (.inl ⟨String.ofList key, String.toList_injective (by simp [written])⟩)
  · next colon bang =>
    refine .inr (.inr ⟨fun text => ⟨?_, ?_⟩, rfl⟩)
    · rintro rfl
      exact colon text.toList (by simp)
    · rintro rfl
      exact bang text.toList (by simp)

theorem unmarked_iff {token : String} :
    Unmarked token ↔ token.toList.head? ∉ [some ':', some '!'] := by
  constructor
  · intro unmarked marked
    simp only [List.mem_cons, List.head?_eq_some_iff, List.not_mem_nil, or_false] at marked
    rcases marked with ⟨text, written⟩ | ⟨key, written⟩
    · exact (unmarked (String.ofList text)).1 (String.toList_injective (by simp [written]))
    · exact (unmarked (String.ofList key)).2 (String.toList_injective (by simp [written]))
  · intro plain text
    constructor <;>
      · rintro rfl
        simp at plain

instance : DecidablePred Unmarked := fun _ => decidable_of_iff' _ unmarked_iff

theorem classify_unmarked {token : String} (unmarked : Unmarked token) :
    classify token = .parameter token := by
  rcases marked_cases token with ⟨text, rfl⟩ | ⟨key, rfl⟩ | ⟨-, named⟩
  · exact absurd rfl (unmarked text).1
  · exact absurd rfl (unmarked key).2
  · exact named

section

variable {α : Type} (inst : Instance) (ofText : String → α) (default : α)

theorem resolve_colon (text : String) :
    (classify (":" ++ text)).resolve inst ofText default = .ok (ofText text) := by
  rw [classify_colon, resolve]

theorem resolve_bang (key : String) :
    (classify ("!" ++ key)).resolve inst ofText default =
      (inst.values.text (.text key)).map ofText := by
  rw [classify_bang, resolve]

theorem resolve_unmarked {name : String} (unmarked : Unmarked name) :
    (classify name).resolve inst ofText default =
      .ok (((inst.binding? name).map ofText).getD default) := by
  rw [classify_unmarked unmarked, resolve, Instance.binding?]

end

section

variable {α : Type} {inst other : Instance} {ofText : String → α} {default argument : α}
  {token : String} {tokens : List String} {fault : ValueFault}

theorem Stands.of_stored {key : String} {stored : Value}
    (found : inst.values.get? key = some stored) (writable : stored.isWritable = true) :
    Stands inst ofText default ("!" ++ key) (ofText stored.toText) := by
  cases stored with
  | text string => exact .text found
  | _ => exact .written found (by simp [Value.kind]) writable

theorem Stands.resolve (stands : Stands inst ofText default token argument) :
    (classify token).resolve inst ofText default = .ok argument := by
  cases stands with
  | literal text => exact resolve_colon inst ofText default text
  | text found => rw [resolve_bang, ValueMap.text_eq_ok_iff.mpr ⟨_, found, rfl, rfl⟩]; rfl
  | @written key stored found other writable =>
      rw [resolve_bang, ValueMap.text_eq_ok_iff.mpr ⟨stored, found, writable, rfl⟩]
      cases stored with
      | text string => exact absurd rfl other
      | _ => rfl
  | bound unmarked found => rw [resolve_unmarked inst ofText default unmarked, found]; rfl
  | unbound unmarked missing => rw [resolve_unmarked inst ofText default unmarked, missing]; rfl

theorem resolve_eq_ok_iff : (classify token).resolve inst ofText default = .ok argument ↔
    Stands inst ofText default token argument := by
  refine ⟨fun resolved => ?_, Stands.resolve⟩
  rcases marked_cases token with ⟨text, rfl⟩ | ⟨key, rfl⟩ | ⟨unmarked, -⟩
  · rw [resolve_colon] at resolved
    cases resolved
    exact .literal text
  · rw [resolve_bang] at resolved
    cases shown : inst.values.text (.text key) with
    | error fault => simp [shown, Except.map] at resolved
    | ok text =>
        obtain ⟨stored, found, writable, rfl⟩ := ValueMap.text_eq_ok_iff.mp shown
        simp only [shown, Except.map, Except.ok.injEq] at resolved
        exact resolved ▸ .of_stored found writable
  · rw [resolve_unmarked inst ofText default unmarked] at resolved
    cases found : inst.binding? token with
    | none =>
        simp only [found, Option.map_none, Option.getD_none, Except.ok.injEq] at resolved
        exact resolved ▸ .unbound unmarked found
    | some text =>
        simp only [found, Option.map_some, Option.getD_some, Except.ok.injEq] at resolved
        exact resolved ▸ .bound unmarked found

/-- A token cannot be resolved only if it refers to a value of which there is no text. -/
theorem resolve_eq_error_iff : (classify token).resolve inst ofText default = .error fault ↔
    ∃ key, token = "!" ++ key ∧ inst.values.Withholds key fault := by
  constructor
  · intro failed
    rcases marked_cases token with ⟨text, rfl⟩ | ⟨key, rfl⟩ | ⟨unmarked, -⟩
    · rw [resolve_colon] at failed
      cases failed
    · obtain ⟨other, named, withholds⟩ := resolve_error failed
      rw [classify_bang] at named
      cases named
      exact ⟨key, rfl, withholds⟩
    · rw [resolve_unmarked inst ofText default unmarked] at failed
      cases failed
  · rintro ⟨key, rfl, withholds⟩
    rw [resolve_bang, ValueMap.text_eq_error_iff.mpr withholds]
    rfl

theorem exists_resolve_iff : (∃ argument, (classify token).resolve inst ofText default =
    .ok argument) ↔ ∀ key, token = "!" ++ key → inst.values.Shows key := by
  cases resolved : (classify token).resolve inst ofText default with
  | ok argument =>
      refine iff_of_true ⟨argument, rfl⟩ ?_
      rintro key rfl
      rcases inst.values.shows_or_withholds key with shows | ⟨fault, withholds⟩
      · exact shows
      · cases resolved.symm.trans (resolve_eq_error_iff.mpr ⟨key, rfl, withholds⟩)
  | error fault =>
      obtain ⟨key, named, withholds⟩ := resolve_eq_error_iff.mp resolved
      exact iff_of_false (by simp) fun shows => withholds.not_shows (shows key named)

theorem resolveList_eq_mapM : resolveList inst ofText default tokens =
    tokens.mapM fun token => (classify token).resolve inst ofText default := by
  induction tokens with
  | nil => rfl
  | cons token rest ih => rw [resolveList, ih, List.mapM_cons]

/-- A token is resolved in the same way where what it mentions is the same. -/
theorem resolve_congr
    (values : ∀ key, token = "!" ++ key → inst.values.get? key = other.values.get? key)
    (bindings : Unmarked token → inst.binding? token = other.binding? token) :
    (classify token).resolve inst ofText default =
      (classify token).resolve other ofText default := by
  rcases marked_cases token with ⟨text, rfl⟩ | ⟨key, rfl⟩ | ⟨unmarked, -⟩
  · rw [resolve_colon, resolve_colon]
  · rw [resolve_bang, resolve_bang, ValueMap.text_text, ValueMap.text_text, values key rfl]
  · rw [resolve_unmarked inst ofText default unmarked,
      resolve_unmarked other ofText default unmarked, bindings unmarked]

theorem resolveList_congr
    (values : ∀ key, "!" ++ key ∈ tokens → inst.values.get? key = other.values.get? key)
    (bindings : ∀ name ∈ tokens, Unmarked name → inst.binding? name = other.binding? name) :
    resolveList inst ofText default tokens = resolveList other ofText default tokens := by
  induction tokens with
  | nil => rfl
  | cons token rest ih =>
      obtain ⟨here, behind⟩ := List.forall_mem_cons.mp bindings
      have first : (classify token).resolve inst ofText default =
          (classify token).resolve other ofText default :=
        resolve_congr (fun key named => values key (named ▸ List.mem_cons_self)) here
      have others := ih (fun key member => values key (List.mem_cons_of_mem _ member)) behind
      rw [resolveList, resolveList, first, others]

theorem resolveList_eq_ok_iff {arguments : List α} :
    resolveList inst ofText default tokens = .ok arguments ↔
      List.Forall₂ (Stands inst ofText default) tokens arguments := by
  rw [resolveList_eq_mapM, Traversal.mapM_eq_ok_iff]
  simp only [resolve_eq_ok_iff]

theorem resolveList_eq_error_iff : resolveList inst ofText default tokens = .error fault ↔
    Stops (fun token => ∀ key, token = "!" ++ key → inst.values.Shows key)
      (fun token => ∃ key, token = "!" ++ key ∧ inst.values.Withholds key fault) tokens := by
  rw [resolveList_eq_mapM, Traversal.mapM_eq_error_iff]
  simp only [resolve_eq_error_iff, exists_resolve_iff]

theorem resolveAll_some_eq_ok_iff {result : Option (List α)} :
    resolveAll inst ofText default (some tokens) = .ok result ↔
      ∃ arguments, result = some arguments ∧
        resolveList inst ofText default tokens = .ok arguments := by
  simp only [resolveAll]
  cases resolveList inst ofText default tokens <;> simp [Except.map, eq_comm]

theorem resolveAll_some_eq_error_iff :
    resolveAll inst ofText default (some tokens) = .error fault ↔
      resolveList inst ofText default tokens = .error fault := by
  simp only [resolveAll]
  cases resolveList inst ofText default tokens <;> simp [Except.map]

/-- A list fails at its first token that refers to a value of which there is no text. -/
theorem resolveList_eq_error_iff_first : resolveList inst ofText default tokens = .error fault ↔
    ∃ earlier key later, tokens = earlier ++ ("!" ++ key) :: later ∧
      (∀ present, "!" ++ present ∈ earlier → inst.values.Shows present) ∧
      inst.values.Withholds key fault := by
  rw [resolveList_eq_error_iff]
  constructor
  · rintro ⟨earlier, _, later, parted, present, key, rfl, withholds⟩
    exact ⟨earlier, key, later, parted, fun key member => present _ member key rfl, withholds⟩
  · rintro ⟨earlier, key, later, parted, present, withholds⟩
    refine ⟨earlier, "!" ++ key, later, parted, ?_, key, rfl, withholds⟩
    rintro token member key rfl
    exact present key member

theorem exists_resolveList_error_iff :
    (∃ fault, resolveList inst ofText default tokens = .error fault) ↔
      ∃ key, "!" ++ key ∈ tokens ∧ ¬ inst.values.Shows key := by
  constructor
  · rintro ⟨fault, failed⟩
    obtain ⟨earlier, key, later, rfl, -, withholds⟩ := resolveList_eq_error_iff_first.mp failed
    exact ⟨key, List.mem_append_right _ List.mem_cons_self, withholds.not_shows⟩
  · rintro ⟨key, member, silent⟩
    cases resolved : resolveList inst ofText default tokens with
    | error fault => exact ⟨fault, rfl⟩
    | ok arguments =>
        rw [resolveList_eq_mapM] at resolved
        have each := Traversal.exists_mapM_eq_ok_iff.mp ⟨arguments, resolved⟩ _ member
        exact absurd (exists_resolve_iff.mp each key rfl) silent

end

/-- Where all values have a text, only a value that is missing is withheld. -/
theorem shows_iff_of_writable {tokens : List String} {inst : Instance}
    (writable : ∀ key stored, "!" ++ key ∈ tokens → inst.values.get? key = some stored →
      stored.isWritable = true) {key : String} (member : "!" ++ key ∈ tokens) :
    inst.values.Shows key ↔ inst.values.get? key ≠ none := by
  constructor
  · rintro ⟨stored, found, -⟩ absent
    cases absent.symm.trans found
  · intro present
    obtain ⟨stored, found⟩ := Option.ne_none_iff_exists'.mp present
    exact ⟨stored, found, writable key stored member found⟩

theorem withholds_iff_of_writable {tokens : List String} {inst : Instance}
    (writable : ∀ key stored, "!" ++ key ∈ tokens → inst.values.get? key = some stored →
      stored.isWritable = true) {key : String} (member : "!" ++ key ∈ tokens) {fault : ValueFault} :
    inst.values.Withholds key fault ↔
      inst.values.get? key = none ∧ fault = .unknownReference (.text key) := by
  constructor
  · rintro (absent | ⟨found, long⟩)
    · exact ⟨absent, rfl⟩
    · cases long.symm.trans (writable key _ member found)
  · rintro ⟨absent, rfl⟩
    exact .missing absent

/-- Arguments are resolved token by token.  They fail if a token refers to a value that is not
there or has no text, with the first such reference, and otherwise are what the tokens stand for.
Where all values have a text, they fail only for a value that is missing, and name it.  An instance
in which the mentioned values and bindings are the same yields the same, whatever else is in it. -/
theorem resolveAll_pointwise {α : Type} (inst : Instance) (ofText : String → α) (default : α)
    (tokens : List String) :
    let resolved := resolveAll inst ofText default (some tokens)
    (∀ fault, resolved = .error fault ↔
      ∃ earlier key later, tokens = earlier ++ ("!" ++ key) :: later ∧
        (∀ present, "!" ++ present ∈ earlier → inst.values.Shows present) ∧
        inst.values.Withholds key fault) ∧
    ((∃ fault, resolved = .error fault) ↔
      ∃ key, "!" ++ key ∈ tokens ∧ ¬ inst.values.Shows key) ∧
    ((∀ key stored, "!" ++ key ∈ tokens → inst.values.get? key = some stored →
        stored.isWritable = true) →
      (∀ fault, resolved = .error fault ↔
        ∃ earlier key later, tokens = earlier ++ ("!" ++ key) :: later ∧
          (∀ present, "!" ++ present ∈ earlier → inst.values.get? present ≠ none) ∧
          inst.values.get? key = none ∧ fault = .unknownReference (.text key)) ∧
      ((∃ fault, resolved = .error fault) ↔
        ∃ key, "!" ++ key ∈ tokens ∧ inst.values.get? key = none)) ∧
    (∀ result, resolved = .ok result ↔
      ∃ arguments, result = some arguments ∧
        List.Forall₂ (Stands inst ofText default) tokens arguments) ∧
    ∀ other : Instance,
      (∀ key, "!" ++ key ∈ tokens → other.values.get? key = inst.values.get? key) →
      (∀ name ∈ tokens, Unmarked name → other.binding? name = inst.binding? name) →
        resolveAll other ofText default (some tokens) = resolved := by
  refine ⟨fun fault => ?_, ?_, fun writable => ⟨fun fault => ?_, ?_⟩, fun result => ?_,
    fun other values bindings => ?_⟩
  · rw [resolveAll_some_eq_error_iff, resolveList_eq_error_iff_first]
  · simp only [resolveAll_some_eq_error_iff, exists_resolveList_error_iff]
  · rw [resolveAll_some_eq_error_iff, resolveList_eq_error_iff_first]
    refine exists_congr fun earlier => exists_congr fun key => exists_congr fun later => ?_
    refine and_congr_right fun parted => ?_
    have among {token : String} (member : token ∈ earlier) : token ∈ tokens :=
      parted ▸ List.mem_append_left _ member
    have here : "!" ++ key ∈ tokens := parted ▸ List.mem_append_right _ List.mem_cons_self
    refine and_congr ?_ (withholds_iff_of_writable writable here)
    exact forall₂_congr fun present member => shows_iff_of_writable writable (among member)
  · simp only [resolveAll_some_eq_error_iff, exists_resolveList_error_iff]
    refine exists_congr fun key => and_congr_right fun member => ?_
    rw [shows_iff_of_writable writable member, not_not]
  · simp only [resolveAll_some_eq_ok_iff, resolveList_eq_ok_iff]
  · rw [resolveAll, resolveList_congr values bindings]
    rfl

/-! ## Greetings

A name and the number of greetings are accumulated; one binding has an empty name. -/

namespace Greeting

def first : Instance where
  name := "Greeting"
  arguments := some [("", "blank"), ("who", "Ann")]
  values := ⟨[("", .int 7), ("name", .text "Ada")]⟩

/-- A finished instance of another workflow that lacks a binding and has a value in addition. -/
def later : Instance where
  name := "Parting"
  stage := 3
  state := .finished
  arguments := some [("", "blank")]
  values := ⟨[("name", .text "Ada"), ("again", .bool true), ("", .int 7)]⟩

def phrase : List String := ["::x", ":", "!", "!name", "", "name"]

theorem stands_first : List.Forall₂ (Stands first id "-") phrase
    [":x", "", "7", "Ada", "blank", "-"] := by
  have count : Stands first id "-" "!" "7" := @Stands.written _ _ _ _ "" (.int 7) rfl (by decide)
    (by decide +kernel)
  have name : Stands first id "-" "!name" "Ada" := @Stands.text _ _ _ _ "name" "Ada" rfl
  exact .cons (Stands.literal ":x") (.cons (Stands.literal "") (.cons count (.cons name
    (.cons (Stands.bound (by decide) rfl) (.cons (Stands.unbound (by decide) rfl) .nil)))))

theorem mentioned {key : String} (member : "!" ++ key ∈ phrase) : key = "" ∨ key = "name" := by
  have named : Token.value key ∈ phrase.map classify :=
    List.mem_map.mpr ⟨_, member, classify_bang key⟩
  have classified : phrase.map classify = [.literal ":x", .literal "", .value "", .value "name",
    .parameter "", .parameter "name"] := by decide
  simpa [classified] using named

/-- Both instances yield the same arguments, and the first of two missing values is named. -/
theorem resolveAll_pointwise_greeting :
    resolveAll later id "-" (some phrase) = .ok (some [":x", "", "7", "Ada", "blank", "-"]) ∧
      resolveAll first id "-" (some ["!name", "!who", "!gone"]) =
        .error (.unknownReference (.text "who")) := by
  obtain ⟨-, -, -, resolves, reads⟩ := resolveAll_pointwise first id "-" phrase
  obtain ⟨fails, -⟩ := resolveAll_pointwise first id "-" ["!name", "!who", "!gone"]
  constructor
  · rw [reads later ?_ (by decide), resolves]
    · exact ⟨_, rfl, stands_first⟩
    · intro key member
      rcases mentioned member with rfl | rfl <;> rfl
  · refine (fails _).mpr ⟨["!name"], "who", ["!gone"], rfl, ?_, .missing (by decide)⟩
    intro present member
    have named := congrArg classify (List.mem_singleton.mp member)
    rw [classify_bang, show classify "!name" = .value "name" by decide] at named
    cases named
    exact ⟨.text "Ada", rfl, rfl⟩

end Greeting

end Token

end Workflow
