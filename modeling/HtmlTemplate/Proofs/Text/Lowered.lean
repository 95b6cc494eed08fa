import HtmlTemplate.Proofs.Text.Lowercase

/-!
# Lower case of lower case

A text in lower case stays as it is when it is lowered again (`lowercase_lowercase`). No letter has
a partner that has a partner itself, both forms of a small sigma are small, and the two characters
that capital I with a dot becomes have no partners. So a letter in lower case is the same wherever
it stands, and it does not matter that the form of a sigma depends on the characters around it.
-/

set_option autoImplicit false

namespace HtmlTemplate.Text

/-- The character is its own lower-case form, whatever stands around it. -/
def IsLowered (c : Char) : Prop :=
  c ≠ '\u03a3' ∧ lowerChar c = [c]

/-- No partner of a letter in a run is a letter in any run. Where partners and letters lie in one
range they take turns, so there they are at odd distances. -/
theorem lower?_lower? {run other : CaseData.Run} {code lower : Nat} (member : run ∈ CaseData.runs)
    (member' : other ∈ CaseData.runs) (lowered : run.lower? code = some lower) :
    other.lower? lower = none := by
  -- There are many pairs of runs, so the comparisons are those that reduce in one step.
  have apart : CaseData.runs.all (fun run => CaseData.runs.all fun other =>
      Nat.blt (run.lower + (run.last - run.first)) other.first || Nat.blt other.last run.lower ||
        other.step == 2 && (run.step == 2 || run.first == run.last) &&
          (run.lower + other.first) % 2 == 1) = true := by
    decide +kernel
  have apart' := List.all_eq_true.mp (List.all_eq_true.mp apart run member) other member'
  simp only [Bool.or_eq_true, Bool.and_eq_true, Nat.blt_eq, beq_iff_eq] at apart'
  simp only [CaseData.Run.lower?, Option.ite_none_right_eq_some, Option.some.injEq] at lowered
  obtain ⟨⟨first, last, step⟩, rfl⟩ := lowered
  refine if_neg fun letter => ?_
  rcases apart' with (below | above) | ⟨⟨step', single⟩, odd⟩
  · omega
  · omega
  · rw [step'] at letter
    rcases single with double | single
    · rw [double] at step
      omega
    · omega

/-- The partner of a letter is neither of the capitals that are not lowered by their code alone. -/
theorem lower?_ne_special {run : CaseData.Run} {code lower : Nat} (member : run ∈ CaseData.runs)
    (lowered : run.lower? code = some lower) : lower ≠ 0x130 ∧ lower ≠ 0x3a3 := by
  have apart : CaseData.runs.all (fun run => [0x130, 0x3a3].all fun special =>
      special < run.lower || run.lower + (run.last - run.first) < special) = true := by
    decide +kernel
  have apart' := List.all_eq_true.mp apart run member
  simp only [List.all_cons, List.all_nil, Bool.and_true, Bool.and_eq_true, Bool.or_eq_true,
    decide_eq_true_eq] at apart'
  simp only [CaseData.Run.lower?, Option.ite_none_right_eq_some, Option.some.injEq] at lowered
  omega

theorem isLowered_of_lower?_eq_none {c : Char} (notSigma : c ≠ '\u03a3') (notDotted : c ≠ '\u0130')
    (single : ∀ run ∈ CaseData.runs, run.lower? c.toNat = none) : IsLowered c := by
  have none : (CaseData.runs.findSome? fun run => run.lower? c.toNat) = none :=
    List.findSome?_eq_none_iff.mpr single
  exact ⟨notSigma, by rw [lowerChar, if_neg notDotted, none]⟩

theorem isLowered_of_partner {run : CaseData.Run} {code lower : Nat} (member : run ∈ CaseData.runs)
    (lowered : run.lower? code = some lower) (same : (Char.ofNat lower).toNat = lower) :
    IsLowered (Char.ofNat lower) := by
  obtain ⟨dotted, sigma⟩ := lower?_ne_special member lowered
  refine isLowered_of_lower?_eq_none (fun equal => ?_) (fun equal => ?_) fun other member' => ?_
  · rw [equal] at same
    exact sigma same.symm
  · rw [equal] at same
    exact dotted same.symm
  · rw [same]
    exact lower?_lower? member member' lowered

/-- The first character of all, the two that capital I with a dot becomes and the two forms of a
small sigma. -/
def smallCodes : List Nat :=
  [0x0, 0x69, 0x307, 0x3c2, 0x3c3]

theorem isLowered_of_mem_smallCodes {c : Char} (small : c.toNat ∈ smallCodes) : IsLowered c := by
  have apart : CaseData.runs.all (fun run => smallCodes.all fun code =>
      (run.lower? code).isNone) = true := by
    decide +kernel
  refine isLowered_of_lower?_eq_none ?_ ?_ fun run member => ?_
  · rintro rfl
    exact absurd small (by decide)
  · rintro rfl
    exact absurd small (by decide)
  · exact Option.isNone_iff_eq_none.mp
      (List.all_eq_true.mp (List.all_eq_true.mp apart run member) _ small)

theorem isLowered_lowerChar {c : Char} (notSigma : c ≠ '\u03a3') :
    ∀ d ∈ lowerChar c, IsLowered d := by
  unfold lowerChar
  split
  · exact List.forall_mem_cons.mpr ⟨isLowered_of_mem_smallCodes (by decide),
      List.forall_mem_singleton.mpr (isLowered_of_mem_smallCodes (by decide))⟩
  · next notDotted =>
    split
    · next code found =>
      obtain ⟨run, inside, lowered⟩ := List.exists_of_findSome?_eq_some found
      refine List.forall_mem_singleton.mpr ?_
      rcases toNat_ofNat_cases code with same | zero
      · exact isLowered_of_partner inside lowered same
      · exact isLowered_of_mem_smallCodes (zero ▸ List.mem_cons_self)
    · next none =>
      refine List.forall_mem_singleton.mpr ⟨notSigma, ?_⟩
      rw [lowerChar, if_neg notDotted, none]

theorem isLowered_lowerChars (before cs : List Char) : ∀ c ∈ lowerChars before cs, IsLowered c := by
  induction cs generalizing before with
  | nil => simp [lowerChars]
  | cons c cs ih =>
    rw [lowerChars]
    refine List.forall_mem_append.mpr ⟨?_, ih _⟩
    split
    · split
      · exact List.forall_mem_singleton.mpr (isLowered_of_mem_smallCodes (by decide))
      · exact List.forall_mem_singleton.mpr (isLowered_of_mem_smallCodes (by decide))
    · next notSigma => exact isLowered_lowerChar notSigma

theorem lowerChars_of_isLowered {cs : List Char} (before : List Char)
    (lowered : ∀ c ∈ cs, IsLowered c) : lowerChars before cs = cs := by
  induction cs generalizing before with
  | nil => rfl
  | cons c cs ih =>
    obtain ⟨⟨other, here⟩, later⟩ := List.forall_mem_cons.mp lowered
    rw [lowerChars, if_neg other, here, ih _ later, List.singleton_append]

theorem lowercase_lowercase (s : String) : lowercase (lowercase s) = lowercase s := by
  have lowered : ∀ c ∈ (lowercase s).toList, IsLowered c := by
    rw [lowercase, String.toList_ofList]
    exact isLowered_lowerChars [] s.toList
  rw [lowercase, lowerChars_of_isLowered [] lowered, String.ofList_toList]

end HtmlTemplate.Text
