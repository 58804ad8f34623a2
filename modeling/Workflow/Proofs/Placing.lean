import Workflow.Entries

/-!
# Where entries are placed

Writing under a key touches one entry: the one that stands under the key, which stays where it is,
or a new one at the end.  Writing several entries leaves every key where it first came up, with the
value that came last, so it does not matter whether entries are written one after the other or
gathered before.
-/

namespace Workflow.Entries

variable {κ α : Type} {entries written : Entries κ α} {key : κ} {value : α}

/-- A value takes the place of the one under its key, or stands at the end if there was none. -/
inductive Placed (entries : Entries κ α) (key : κ) (value : α) : Entries κ α → Prop where
  | replaced {earlier later : Entries κ α} {old : α}
      (there : entries = earlier ++ (key, old) :: later) (first : key ∉ earlier.keys) :
      Placed entries key value (earlier ++ (key, value) :: later)
  | appended (absent : key ∉ entries.keys) : Placed entries key value (entries ++ [(key, value)])

theorem Placed.mem (placed : Placed entries key value written) {entry : κ × α}
    (member : entry ∈ written) : entry ∈ entries ∨ entry = (key, value) := by
  cases placed with
  | @replaced earlier later old there first =>
      rw [there]
      simp only [List.mem_append, List.mem_cons] at member ⊢
      rcases member with before | same | behind
      · exact .inl (.inl before)
      · exact .inr same
      · exact .inl (.inr (.inr behind))
  | appended absent =>
      rw [List.mem_append, List.mem_singleton] at member
      exact member

section Equality

variable [BEq κ]

theorem putAll_cons (entries : Entries κ α) (addition : κ × α) (rest : Entries κ α) :
    putAll entries (addition :: rest) = putAll (put entries addition.1 addition.2) rest := rfl

theorem putAll_append (entries earlier later : Entries κ α) :
    putAll entries (earlier ++ later) = putAll (putAll entries earlier) later :=
  List.foldl_append

theorem lookup_append (earlier later : Entries κ α) (key : κ) :
    lookup (earlier ++ later) key = (lookup earlier key).or (lookup later key) := by
  simp [lookup, List.find?_append, Option.map_or]

end Equality

section Lawful

variable [BEq κ] [LawfulBEq κ]

theorem put_append_cons {earlier : Entries κ α} (first : key ∉ earlier.keys) (old value : α)
    (later : Entries κ α) :
    put (earlier ++ (key, old) :: later) key value = earlier ++ (key, value) :: later := by
  induction earlier with
  | nil => simp [put]
  | cons entry rest ih =>
      simp only [keys, List.map_cons, List.mem_cons, not_or] at first
      have different : (entry.1 == key) = false := beq_eq_false_iff_ne.mpr (Ne.symm first.1)
      rw [List.cons_append, put, different, ih first.2]
      rfl

theorem put_of_not_mem (absent : key ∉ entries.keys) (value : α) :
    put entries key value = entries ++ [(key, value)] := by
  induction entries with
  | nil => rfl
  | cons entry rest ih =>
      simp only [keys, List.map_cons, List.mem_cons, not_or] at absent
      have different : (entry.1 == key) = false := beq_eq_false_iff_ne.mpr (Ne.symm absent.1)
      rw [put, different, ih absent.2]
      rfl

/-- There is one place for a value, and this is where it is written. -/
theorem placed_iff : Placed entries key value written ↔ written = put entries key value := by
  constructor
  · intro placed
    cases placed with
    | replaced there first => rw [there, put_append_cons first]
    | appended absent => rw [put_of_not_mem absent]
  · rintro rfl
    by_cases there : key ∈ entries.keys
    · obtain ⟨before, behind, apart, first⟩ := List.eq_append_cons_of_mem there
      obtain ⟨earlier, rest, rfl, rfl, rest_keys⟩ := List.map_eq_append_iff.mp apart
      obtain ⟨⟨same, old⟩, later, rfl, rfl, -⟩ := List.map_eq_cons_iff.mp rest_keys
      rw [put_append_cons first]
      exact .replaced rfl first
    · rw [put_of_not_mem there]
      exact .appended there

/-- Entries under distinct keys that are written one after the other stand one after the other. -/
theorem putAll_eq_append {additions : Entries κ α} (distinct : WF (entries ++ additions)) :
    putAll entries additions = entries ++ additions := by
  induction additions generalizing entries with
  | nil => exact (List.append_nil entries).symm
  | cons addition rest ih =>
      have reordered : entries ++ addition :: rest = entries ++ [addition] ++ rest := by simp
      have absent : addition.1 ∉ entries.keys := by
        rw [wf_iff_nodup_keys, keys, List.map_append, List.map_cons, List.nodup_append] at distinct
        intro member
        exact distinct.2.2 _ member _ List.mem_cons_self rfl
      have first : putAll entries (addition :: rest) =
          putAll (put entries addition.1 addition.2) rest := rfl
      rw [reordered] at distinct ⊢
      rw [first, put_of_not_mem absent]
      exact ih distinct

theorem ofPairs_of_wf (distinct : WF entries) : ofPairs entries = entries :=
  putAll_eq_append distinct

/-! ## Written twice -/

variable {additions : Entries κ α} {other : κ}

theorem has_put (key : κ) (value : α) (present : has entries other = true) :
    has (put entries key value) other = true := by
  rw [has_eq_isSome_lookup] at present ⊢
  by_cases same : key = other
  · subst same
    rw [lookup_put_self]
    rfl
  · rw [lookup_put_of_ne entries value same]
    exact present

theorem put_put_self (entries : Entries κ α) (key : κ) (first second : α) :
    put (put entries key first) key second = put entries key second := by
  induction entries with
  | nil => simp [put]
  | cons entry rest ih =>
      obtain ⟨name, old⟩ := entry
      by_cases same : name == key
      · simp [put, same]
      · simp [put, same, ih]

/-- Writing to a key that is there does not interfere with writing to another key. -/
theorem put_comm (present : has entries key = true) (different : key ≠ other) (value : α)
    (addition : α) :
    put (put entries other addition) key value = put (put entries key value) other addition := by
  induction entries with
  | nil => cases present
  | cons entry rest ih =>
      obtain ⟨name, old⟩ := entry
      by_cases same : name = key
      · subst same
        simp [put, different]
      · have later : has rest key = true := by simpa [has, same] using present
        by_cases found : name = other
        · subst found
          simp [put, same]
        · simp [put, same, found, ih later]

/-- A key that is there may be written to before or after entries under other keys. -/
theorem put_putAll (present : has entries key = true) (absent : key ∉ keys additions) (value : α) :
    put (putAll entries additions) key value = putAll (put entries key value) additions := by
  induction additions generalizing entries with
  | nil => rfl
  | cons addition rest ih =>
      simp only [keys, List.map_cons, List.mem_cons, not_or] at absent
      obtain ⟨different, absent⟩ := absent
      have written := ih (has_put addition.1 addition.2 present) absent
      rw [put_comm present different] at written
      exact written

/-- An entry that is added to the additions is written after all of them, wherever its place is. -/
theorem putAll_put (wellFormed : WF additions) (entries : Entries κ α) (key : κ) (value : α) :
    putAll entries (put additions key value) = put (putAll entries additions) key value := by
  induction additions generalizing entries with
  | nil => rfl
  | cons addition rest ih =>
      obtain ⟨name, old⟩ := addition
      obtain ⟨distinct, wellFormed⟩ := List.pairwise_cons.mp wellFormed
      by_cases same : name = key
      · subst same
        have absent : name ∉ keys rest := by
          intro member
          obtain ⟨entry, there, rfl⟩ := List.mem_map.mp member
          simpa using distinct entry there
        have present : has (put entries name old) name = true := by
          rw [has_eq_isSome_lookup, lookup_put_self]
          rfl
        have last := put_putAll present absent value
        rw [put_put_self] at last
        simp only [put, beq_self_eq_true, ↓reduceIte]
        exact last.symm
      · simp only [put, beq_iff_eq, same, ↓reduceIte]
        exact ih wellFormed (put entries name old)

/-- Writing what was written together is writing one after the other. -/
theorem putAll_putAll (wellFormed : WF additions) (entries further : Entries κ α) :
    putAll entries (putAll additions further) = putAll (putAll entries additions) further := by
  induction further generalizing additions with
  | nil => rfl
  | cons addition rest ih =>
      have first := putAll_put wellFormed entries addition.1 addition.2
      refine (ih (wellFormed.put addition.1 addition.2)).trans ?_
      rw [first]
      rfl

/-- What pairs amount to is written as the pairs are, one after the other. -/
theorem putAll_ofPairs (entries : Entries κ α) (pairs : List (κ × α)) :
    putAll entries (ofPairs pairs) = putAll entries pairs :=
  putAll_putAll List.Pairwise.nil entries pairs

/-! ## Order and values -/

theorem has_iff_mem_keys : has entries key = true ↔ key ∈ keys entries := by
  simp [has, keys]

/-- Keys that are there keep their places, and behind them stand the new ones in the order in which
they first come up. -/
theorem keys_putAll (entries additions : Entries κ α) :
    keys (putAll entries additions) =
      keys entries ++ ((keys additions).removeAll (keys entries)).eraseDups := by
  induction additions generalizing entries with
  | nil => exact (List.append_nil _).symm
  | cons addition rest ih =>
      have listed : keys (addition :: rest) = addition.1 :: keys rest := rfl
      rw [putAll_cons, ih, keys_put, listed]
      by_cases there : addition.1 ∈ keys entries
      · rw [if_pos (has_iff_mem_keys.mpr there)]
        simp [List.removeAll, there]
      · rw [if_neg (mt has_iff_mem_keys.mp there)]
        have narrowed : (keys rest).removeAll (keys entries ++ [addition.1]) =
            ((keys rest).removeAll (keys entries)).filter fun name => !name == addition.1 := by
          rw [List.removeAll, List.removeAll, List.filter_filter]
          congr 1
          funext name
          simp only [List.elem_eq_contains, List.contains_append, List.contains_cons,
            List.contains_nil, Bool.or_false, Bool.not_or, Bool.and_comm]
        simp [narrowed, List.cons_removeAll, there, List.eraseDups_cons]

/-- The value under a key is the one that was written last, or else the one that was there. -/
theorem lookup_putAll (entries additions : Entries κ α) (key : κ) :
    lookup (putAll entries additions) key =
      (lookup additions.reverse key).or (lookup entries key) := by
  induction additions generalizing entries with
  | nil => rfl
  | cons addition rest ih =>
      have first : lookup (put entries addition.1 addition.2) key =
          (lookup [addition] key).or (lookup entries key) := by
        by_cases same : addition.1 = key
        · subst same
          rw [lookup_put_self]
          simp [lookup]
        · rw [lookup_put_of_ne entries addition.2 same]
          simp [lookup, same]
      rw [putAll_cons, ih, first, List.reverse_cons, lookup_append, Option.or_assoc]

theorem lookup_eq_none_iff : lookup entries key = none ↔ key ∉ keys entries := by
  rw [← has_iff_mem_keys, has_eq_isSome_lookup, Option.not_isSome_iff_eq_none]

/-- Entries under distinct keys are told apart by the order of their keys and by their values. -/
theorem eq_of_lookup_eq {left right : Entries κ α} (distinct : WF left)
    (ordered : keys left = keys right) (same : ∀ key, lookup left key = lookup right key) :
    left = right := by
  induction left generalizing right with
  | nil => exact (List.map_eq_nil_iff.mp ordered.symm).symm
  | cons entry rest ih =>
      obtain ⟨⟨name, value⟩, others, rfl, rfl, later⟩ := List.map_eq_cons_iff.mp ordered.symm
      obtain ⟨alone, distinct⟩ := List.pairwise_cons.mp distinct
      have valued : entry.2 = value := by simpa [lookup] using same entry.1
      have absent : entry.1 ∉ keys rest := by
        intro member
        obtain ⟨twin, there, named⟩ := List.mem_map.mp member
        simpa [named] using alone twin there
      have others_eq : rest = others := by
        apply ih distinct later.symm
        intro key
        by_cases first : entry.1 = key
        · subst first
          have missing : entry.1 ∉ keys others := by
            rw [keys, later]
            exact absent
          rw [lookup_eq_none_iff.mpr absent, lookup_eq_none_iff.mpr missing]
        · simpa [lookup, first] using same key
      rw [← valued, others_eq]

/-- What pairs amount to: every key stands where it first came up and has the value that came
last. -/
structure Gathers (entries : Entries κ α) (pairs : List (κ × α)) : Prop where
  ordered : keys entries = (keys pairs).eraseDups
  valued : ∀ key, lookup entries key = lookup pairs.reverse key

theorem gathers_ofPairs (pairs : List (κ × α)) : Gathers (ofPairs pairs) pairs := by
  constructor
  · rw [ofPairs, keys_putAll]
    exact congrArg List.eraseDups List.removeAll_nil
  · intro key
    rw [ofPairs, lookup_putAll]
    exact Option.or_none

theorem gathers_iff {pairs : List (κ × α)} : Gathers entries pairs ↔ entries = ofPairs pairs := by
  constructor
  · intro gathers
    have gathered := gathers_ofPairs pairs
    symm
    apply eq_of_lookup_eq (wf_ofPairs pairs)
    · rw [gathered.ordered, gathers.ordered]
    · intro key
      rw [gathered.valued, gathers.valued]
  · rintro rfl
    exact gathers_ofPairs pairs

/-- Behind entries under distinct keys, pairs are gathered by writing them. -/
theorem ofPairs_append (distinct : WF entries) (later : Entries κ α) :
    ofPairs (entries ++ later) = putAll entries later := by
  rw [ofPairs, putAll_append]
  exact congrArg (putAll · later) (ofPairs_of_wf distinct)

theorem lookup_reverse (distinct : WF entries) (key : κ) :
    lookup entries.reverse key = lookup entries key :=
  ((gathers_iff.mpr (ofPairs_of_wf distinct).symm).valued key).symm

/-- Writing entries that are there already changes nothing. -/
theorem putAll_self (distinct : WF entries) : putAll entries entries = entries := by
  symm
  apply eq_of_lookup_eq distinct
  · have none : (keys entries).removeAll (keys entries) = [] := by
      simp [List.removeAll, List.filter_eq_nil_iff]
    rw [keys_putAll, none]
    exact (List.append_nil _).symm
  · intro key
    rw [lookup_putAll, lookup_reverse distinct, Option.or_self]

end Lawful

end Workflow.Entries
