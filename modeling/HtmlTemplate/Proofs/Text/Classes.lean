import HtmlTemplate.Text.Character

/-!
# Classes of characters that exclude one another

The classes are tables, so most facts about them are checked member by member: white space has few
members, and none of them may stand in a name. The signs that delimit tokens and markup may not
either. Everything that relies on names being harmless rests on these two facts.
-/

set_option autoImplicit false

namespace HtmlTemplate.Text

/-- The members of a class that is not open at the end. -/
def members : List Nat → List Nat
  | first :: stop :: rest => List.range' first (stop - first) ++ members rest
  | _ => []

theorem mem_members {code : Nat} :
    ∀ boundaries : List Nat, boundaries.length % 2 = 0 → inClass boundaries code = true →
      code ∈ members boundaries
  | [], _, inside => by simp [inClass] at inside
  | [_], closed, _ => by simp at closed
  | first :: stop :: rest, closed, inside => by
    simp only [inClass, Bool.and_eq_true, Bool.or_eq_true, decide_eq_true_eq] at inside
    simp only [members, List.mem_append, List.mem_range'_1]
    obtain ⟨lower, upper | later⟩ := inside
    · exact Or.inl ⟨lower, by omega⟩
    · have closed' : rest.length % 2 = 0 := by
        simp only [List.length_cons] at closed
        omega
      exact Or.inr (mem_members rest closed' later)

theorem isNameTail_of_isNameHead {c : Char} (head : isNameHead c = true) :
    isNameTail c = true := by
  simp [isNameTail, head]

/-- No white space stands in a name. -/
theorem isNameTail_of_isWhiteSpace {c : Char} (white : isWhiteSpace c = true) :
    isNameTail c = false := by
  have member := mem_members _ (by decide) white
  have checked : ∀ code ∈ members
      [0x9, 0xe, 0x20, 0x21, 0x85, 0x86, 0xa0, 0xa1, 0x1680, 0x1681, 0x2000, 0x200b,
       0x2028, 0x202a, 0x202f, 0x2030, 0x205f, 0x2060, 0x3000, 0x3001],
      isNameTail (Char.ofNat code) = false := by
    decide +kernel
  simpa using checked c.toNat member

theorem isNameHead_of_isWhiteSpace {c : Char} (white : isWhiteSpace c = true) :
    isNameHead c = false := by
  have tail := isNameTail_of_isWhiteSpace white
  cases head : isNameHead c with
  | false => rfl
  | true => simp [isNameTail_of_isNameHead head] at tail

/-- Every line end is white space. -/
theorem isWhiteSpace_of_isLineEnd {c : Char} (line : isLineEnd c = true) :
    isWhiteSpace c = true := by
  simp only [isLineEnd, Bool.or_eq_true, decide_eq_true_eq] at line
  rcases line with (((rfl | rfl) | rfl) | rfl) | rfl <;> decide

theorem isLineEnd_of_isNameTail {c : Char} (tail : isNameTail c = true) :
    isLineEnd c = false := by
  cases line : isLineEnd c with
  | false => rfl
  | true =>
    rw [isNameTail_of_isWhiteSpace (isWhiteSpace_of_isLineEnd line)] at tail
    cases tail

/-- The characters that delimit literals, or names and values in markup. -/
def delimiters : List Char :=
  ['<', '>', '"', '\'', '&', '=', '/', '|', '@', ',', '(', ')', '[', ']', '{', '}', '+']

/-- No delimiter stands in a name. -/
theorem isNameTail_of_mem_delimiters : ∀ c ∈ delimiters, isNameTail c = false := by
  have each : delimiters.all (fun c => !isNameTail c) = true := by decide +kernel
  simpa using each

theorem isNameHead_of_mem_delimiters : ∀ c ∈ delimiters, isNameHead c = false := by
  have each : delimiters.all (fun c => !isNameHead c) = true := by decide +kernel
  simpa using each

theorem isWhiteSpace_of_mem_delimiters : ∀ c ∈ delimiters, isWhiteSpace c = false := by
  have each : delimiters.all (fun c => !isWhiteSpace c) = true := by decide +kernel
  simpa using each

end HtmlTemplate.Text
