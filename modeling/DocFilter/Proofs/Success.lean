import Mathlib.Data.List.Forall2

/-!
# What a success says

If a computation that may fail succeeded, each of its steps did.
-/

namespace DocFilter

variable {ε ε' α β : Type}

theorem exists_of_isOk {x : Except ε α} (succeeded : x.isOk = true) :
    ∃ value, x = .ok value := by
  cases x with
  | error halt => cases succeeded
  | ok value => exact ⟨value, rfl⟩

theorem exists_of_bind_eq_ok {x : Except ε α} {next : α → Except ε β} {result : β}
    (followed : x >>= next = .ok result) :
    ∃ value, x = .ok value ∧ next value = .ok result := by
  cases x with
  | error halt => cases followed
  | ok value => exact ⟨value, rfl, followed⟩

theorem exists_of_map_eq_ok {x : Except ε α} {f : α → β} {result : β}
    (mapped : x.map f = .ok result) : ∃ value, x = .ok value ∧ f value = result := by
  cases x with
  | error halt => cases mapped
  | ok value =>
      cases mapped
      exact ⟨value, rfl, rfl⟩

theorem eq_ok_of_mapError_eq_ok {x : Except ε α} {f : ε → ε'} {result : α}
    (mapped : x.mapError f = .ok result) : x = .ok result := by
  cases x with
  | error halt => cases mapped
  | ok value =>
      cases mapped
      rfl

/-- Items come from those in the same places. -/
theorem forall₂_of_mapM {f : α → Except ε β} {xs : List α} {ys : List β}
    (result : xs.mapM f = .ok ys) : List.Forall₂ (fun x y => f x = .ok y) xs ys := by
  induction xs generalizing ys with
  | nil =>
      cases result
      exact .nil
  | cons x rest ih =>
      rw [List.mapM_cons] at result
      obtain ⟨y, head, result⟩ := exists_of_bind_eq_ok result
      obtain ⟨zs, tail, result⟩ := exists_of_bind_eq_ok result
      cases result
      exact .cons head (ih tail)

/-- What holds of the second of two related elements holds of all elements of a list. -/
theorem forall_of_forall₂ {related : α → β → Prop} {holds : β → Prop}
    (follows : ∀ a b, related a b → holds b) {xs : List α} {ys : List β}
    (each : List.Forall₂ related xs ys) : ∀ y ∈ ys, holds y := by
  induction each with
  | nil => exact List.forall_mem_nil holds
  | cons first _ ih => exact List.forall_mem_cons.mpr ⟨follows _ _ first, ih⟩

/-- The second of two related lists has nothing that is not related to an element of the
first. -/
theorem exists_of_forall₂ {related : α → β → Prop} {xs : List α} {ys : List β}
    (each : List.Forall₂ related xs ys) {y : β} (member : y ∈ ys) : ∃ x ∈ xs, related x y := by
  induction each with
  | nil => cases member
  | cons first _ ih =>
      rcases List.mem_cons.mp member with rfl | later
      · exact ⟨_, List.mem_cons_self, first⟩
      · obtain ⟨x, listed, same⟩ := ih later
        exact ⟨x, List.mem_cons_of_mem _ listed, same⟩

end DocFilter
