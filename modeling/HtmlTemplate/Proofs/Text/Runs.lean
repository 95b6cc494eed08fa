import Mathlib.Data.List.TakeWhile

/-!
# Runs at the front of a list

The run of elements of a class that a list begins with, and what follows it: a run is taken as a
whole if what stands behind it does not go on with the class, and a list splits in front of the
first element outside of it.
-/

set_option autoImplicit false

namespace HtmlTemplate

variable {α : Type} {p : α → Bool} {front rest : List α}

/-- A run that what follows it does not extend is taken as a whole. -/
theorem takeWhile_append_of_stop (members : ∀ a ∈ front, p a = true)
    (stop : ∀ a ∈ rest.head?, p a = false) : (front ++ rest).takeWhile p = front := by
  rw [List.takeWhile_append_of_pos members]
  cases rest with
  | nil => simp
  | cons a rest => simp [stop a (by simp)]

theorem dropWhile_append_of_stop (members : ∀ a ∈ front, p a = true)
    (stop : ∀ a ∈ rest.head?, p a = false) : (front ++ rest).dropWhile p = rest := by
  rw [List.dropWhile_append_of_pos members]
  cases rest with
  | nil => rfl
  | cons a rest => simp [stop a (by simp)]

theorem prefix_takeWhile_append (members : ∀ a ∈ front, p a = true) :
    front <+: (front ++ rest).takeWhile p := by
  rw [List.takeWhile_append_of_pos members]
  exact List.prefix_append _ _

theorem head?_dropWhile_eq_false {xs : List α} {a : α} (first : a ∈ (xs.dropWhile p).head?) :
    p a = false := by
  have stop := List.head?_dropWhile_not p xs
  rw [Option.mem_def.mp first] at stop
  exact stop

/-- A list splits in front of its first element outside a class. -/
theorem eq_append_of_dropWhile_cons {xs : List α} {a : α} (stop : xs.dropWhile p = a :: rest) :
    xs = xs.takeWhile p ++ a :: rest ∧ p a = false := by
  constructor
  · rw [← stop, List.takeWhile_append_dropWhile]
  · have first : a ∈ (xs.dropWhile p).head? := by
      rw [stop]
      rfl
    exact head?_dropWhile_eq_false first

end HtmlTemplate
