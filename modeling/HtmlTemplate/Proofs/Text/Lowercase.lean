import HtmlTemplate.Proofs.Text.Classes
import HtmlTemplate.Text.Lowercase

/-!
# Lower case of names

Names are written into markup without being escaped, and elements are named in lower case. No
letter has a partner that is white space or a sign of markup, so a name stays harmless when it is
lowered.
-/

set_option autoImplicit false

namespace HtmlTemplate.Text

/-- The signs that end a name, a key or a value in markup. -/
def markupSigns : List Char :=
  ['<', '>', '"', '\'', '&', '=', '/']

/-- The character can be part of a name in markup. -/
def IsUnmarked (c : Char) : Prop :=
  c ∉ markupSigns ∧ isWhiteSpace c = false

theorem IsUnmarked.of_isNameTail {c : Char} (tail : isNameTail c = true) : IsUnmarked c := by
  constructor
  · intro member
    have delimiter : c ∈ delimiters := by
      have included : markupSigns ⊆ delimiters := by simp [markupSigns, delimiters]
      exact included member
    rw [isNameTail_of_mem_delimiters c delimiter] at tail
    cases tail
  · cases white : isWhiteSpace c with
    | false => rfl
    | true =>
      rw [isNameTail_of_isWhiteSpace white] at tail
      cases tail

/-- The codes of signs of markup and of white space. -/
def markedCodes : List Nat :=
  markupSigns.map Char.toNat ++ members
    [0x9, 0xe, 0x20, 0x21, 0x85, 0x86, 0xa0, 0xa1, 0x1680, 0x1681, 0x2000, 0x200b,
     0x2028, 0x202a, 0x202f, 0x2030, 0x205f, 0x2060, 0x3000, 0x3001]

theorem isUnmarked_of_toNat {c : Char} (other : c.toNat ∉ markedCodes) : IsUnmarked c := by
  simp only [markedCodes, List.mem_append, not_or] at other
  constructor
  · exact fun member => other.1 (List.mem_map_of_mem member)
  · cases white : isWhiteSpace c with
    | false => rfl
    | true => exact (other.2 (mem_members _ (by decide) white)).elim

/-- The partners of letters are no signs of markup and no white space. -/
theorem lower?_not_mem_markedCodes {run : CaseData.Run} {code lower : Nat}
    (member : run ∈ CaseData.runs) (lowered : run.lower? code = some lower) :
    lower ∉ markedCodes := by
  have apart : CaseData.runs.all (fun run => markedCodes.all fun marked =>
      marked < run.lower || run.lower + (run.last - run.first) < marked) = true := by
    decide +kernel
  intro marked
  have apart' := List.all_eq_true.mp (List.all_eq_true.mp apart run member) lower marked
  simp only [Bool.or_eq_true, decide_eq_true_eq] at apart'
  simp only [CaseData.Run.lower?, Option.ite_none_right_eq_some, Option.some.injEq] at lowered
  omega

/-- A number that is no code of a character becomes the first character of all. -/
theorem toNat_ofNat_cases (n : Nat) : (Char.ofNat n).toNat = n ∨ (Char.ofNat n).toNat = 0 := by
  by_cases valid : n.isValidChar
  · rw [Char.ofNat, dif_pos valid]
    exact Or.inl rfl
  · rw [Char.ofNat, dif_neg valid]
    exact Or.inr rfl

theorem isUnmarked_lowerChar {c : Char} (unmarked : IsUnmarked c) :
    ∀ d ∈ lowerChar c, IsUnmarked d := by
  unfold lowerChar
  split
  · have each : ['i', '\u0307'].all (fun d => !markedCodes.contains d.toNat) = true := by
      decide +kernel
    intro d member
    have other := List.all_eq_true.mp each d member
    exact isUnmarked_of_toNat (by simpa using other)
  · split
    · next code found =>
      intro d member
      obtain rfl := List.mem_singleton.mp member
      obtain ⟨run, inside, lowered⟩ := List.exists_of_findSome?_eq_some found
      apply isUnmarked_of_toNat
      rcases toNat_ofNat_cases code with same | zero
      · rw [same]
        exact lower?_not_mem_markedCodes inside lowered
      · rw [zero]
        decide
    · intro d member
      exact List.mem_singleton.mp member ▸ unmarked

theorem isUnmarked_lowerChars {cs : List Char} (before : List Char)
    (unmarked : ∀ c ∈ cs, IsUnmarked c) : ∀ c ∈ lowerChars before cs, IsUnmarked c := by
  induction cs generalizing before with
  | nil => simp [lowerChars]
  | cons c cs ih =>
    obtain ⟨here, later⟩ := List.forall_mem_cons.mp unmarked
    rw [lowerChars]
    refine List.forall_mem_append.mpr ⟨?_, ih _ later⟩
    have sigma : IsUnmarked '\u03c3' ∧ IsUnmarked '\u03c2' :=
      ⟨isUnmarked_of_toNat (by decide), isUnmarked_of_toNat (by decide)⟩
    split
    · split
      · simpa using sigma.2
      · simpa using sigma.1
    · exact isUnmarked_lowerChar here

/-- A name in markup is one in lower case too. -/
theorem isUnmarked_lowercase {s : String} (unmarked : ∀ c ∈ s.toList, IsUnmarked c) :
    ∀ c ∈ (lowercase s).toList, IsUnmarked c := by
  rw [lowercase, String.toList_ofList]
  exact isUnmarked_lowerChars [] unmarked

end HtmlTemplate.Text
