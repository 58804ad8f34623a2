import Mathlib.Data.List.Forall2

/-!
# Trying items in their order

What is tried with items one after the other comes to its end exactly if it succeeds with each of
them.  Otherwise it fails as it does with the first that it fails with, and the items behind this
one are not looked at.
-/

namespace Workflow.Traversal

variable {α β ε : Type} {attempt : α → Except ε β}

/-- An item is wrong and all before it are fine. -/
def Stops (fine wrong : α → Prop) (items : List α) : Prop :=
  ∃ earlier item later, items = earlier ++ item :: later ∧
    (∀ other ∈ earlier, fine other) ∧ wrong item

theorem not_stops_nil {fine wrong : α → Prop} : ¬ Stops fine wrong [] := by
  rintro ⟨earlier, item, later, parted, -⟩
  cases earlier <;> cases parted

/-- The first item is wrong, or it is fine and the wrong one is behind it. -/
theorem stops_cons_iff {fine wrong : α → Prop} {item : α} {rest : List α} :
    Stops fine wrong (item :: rest) ↔ wrong item ∨ fine item ∧ Stops fine wrong rest := by
  constructor
  · rintro ⟨earlier, other, later, parted, before, here⟩
    cases earlier with
    | nil =>
        cases parted
        exact .inl here
    | cons first others =>
        cases parted
        obtain ⟨passes, between⟩ := List.forall_mem_cons.mp before
        exact .inr ⟨passes, others, other, later, rfl, between, here⟩
  · rintro (here | ⟨passes, earlier, other, later, rfl, before, here⟩)
    · exact ⟨[], item, rest, rfl, fun _ member => absurd member List.not_mem_nil, here⟩
    · exact ⟨item :: earlier, other, later, rfl, List.forall_mem_cons.mpr ⟨passes, before⟩, here⟩

theorem mapM_eq_ok_iff {items : List α} {answers : List β} :
    items.mapM attempt = .ok answers ↔
      List.Forall₂ (fun item answer => attempt item = .ok answer) items answers := by
  induction items generalizing answers with
  | nil => cases answers <;> simp [pure, Except.pure]
  | cons item rest ih =>
      rw [List.mapM_cons, List.forall₂_cons_left_iff]
      cases tried : attempt item with
      | error failure => simp [bind, Except.bind]
      | ok answer =>
          cases others : rest.mapM attempt with
          | error failure => simp [bind, Except.bind, ← ih, others]
          | ok found => simp [bind, Except.bind, pure, Except.pure, ← ih, others, eq_comm]

theorem mapM_eq_error_iff {items : List α} {failure : ε} :
    items.mapM attempt = .error failure ↔
      Stops (fun item => ∃ answer, attempt item = .ok answer)
        (fun item => attempt item = .error failure) items := by
  induction items with
  | nil => simp [not_stops_nil, pure, Except.pure]
  | cons item rest ih =>
      rw [List.mapM_cons, stops_cons_iff, ← ih]
      cases tried : attempt item with
      | error other => simp [bind, Except.bind]
      | ok answer => cases rest.mapM attempt <;> simp [bind, Except.bind, pure, Except.pure]

/-- What is tried of all items succeeds if it does for each of them. -/
theorem exists_mapM_eq_ok_iff {items : List α} :
    (∃ answers, items.mapM attempt = .ok answers) ↔
      ∀ item ∈ items, ∃ answer, attempt item = .ok answer := by
  induction items with
  | nil => simp [pure, Except.pure]
  | cons item rest ih =>
      rw [List.mapM_cons, List.forall_mem_cons, ← ih]
      cases attempt item with
      | error failure => simp [bind, Except.bind]
      | ok answer => cases rest.mapM attempt <;> simp [bind, Except.bind, pure, Except.pure]

end Workflow.Traversal
