import HtmlTemplate.Proofs.Text.Lowercase

/-!
# Full lower case and the case of ASCII letters

Renderers are looked up under names in full lower case, and a statement is asked for its name
ignoring the case of ASCII letters only. The two ways agree on every word of small ASCII letters
other than `k`, which is the partner of the Kelvin sign too (`lowercase_eq_iff`). Capital I with a
dot is no exception: it brings the dot along.
-/

set_option autoImplicit false

namespace HtmlTemplate.Text

/-- The small ASCII letters that are the partner of no other letter than their own capital. -/
def plainLetters : List Char :=
  "abcdefghijlmnopqrstuvwxyz".toList

/-- The run of the ASCII capitals. -/
def capitals : CaseData.Run :=
  ⟨0x41, 0x5a, 1, 0x61⟩

theorem toLower_of_mem_plainLetters {d : Char} (plain : d ∈ plainLetters) : d.toLower = d := by
  have each : plainLetters.all (fun d => d.toLower == d) = true := by decide
  simpa using List.all_eq_true.mp each d plain

/-- Every character but the ASCII capitals is left as it is. -/
theorem toLower_eq_self_or (c : Char) :
    c.toLower = c ∨ c.toNat ∈ List.range' 65 26 := by
  unfold Char.toLower
  split
  · next capital =>
    right
    simp only [ge_iff_le, UInt32.le_iff_toNat_le] at capital
    change 65 ≤ c.toNat ∧ c.toNat ≤ 90 at capital
    rw [List.mem_range'_1]
    omega
  · exact Or.inl rfl

theorem lowerChar_of_capital {c : Char} (capital : c.toNat ∈ List.range' 65 26) :
    c ≠ '\u03a3' ∧ lowerChar c = [c.toLower] := by
  have each : (List.range' 65 26).all (fun code => Char.ofNat code ≠ '\u03a3' &&
      lowerChar (Char.ofNat code) == [(Char.ofNat code).toLower]) = true := by
    decide
  have here := List.all_eq_true.mp each c.toNat capital
  simpa using here

theorem lowerChar_of_mem_plainLetters {c : Char} (plain : c ∈ plainLetters) :
    c ≠ '\u03a3' ∧ lowerChar c = [c.toLower] := by
  have each : plainLetters.all (fun c => c ≠ '\u03a3' && lowerChar c == [c.toLower]) = true := by
    decide
  simpa using List.all_eq_true.mp each c plain

/-- Where ignoring the case of an ASCII letter gives a plain letter, lower case gives it too. -/
theorem lowerChar_of_toLower {c : Char} (plain : c.toLower ∈ plainLetters) :
    c ≠ '\u03a3' ∧ lowerChar c = [c.toLower] := by
  rcases toLower_eq_self_or c with same | capital
  · exact lowerChar_of_mem_plainLetters (same ▸ plain)
  · exact lowerChar_of_capital capital

/-- Only the ASCII capitals have partners among the plain letters. -/
theorem run_eq_capitals {run : CaseData.Run} {code lower : Nat} (member : run ∈ CaseData.runs)
    (lowered : run.lower? code = some lower) {d : Char} (plain : d ∈ plainLetters)
    (same : d.toNat = lower) : run = capitals := by
  have apart : CaseData.runs.all (fun run => run = capitals || plainLetters.all fun d =>
      d.toNat < run.lower || run.lower + (run.last - run.first) < d.toNat) = true := by
    decide
  have here := List.all_eq_true.mp apart run member
  simp only [Bool.or_eq_true, decide_eq_true_eq, List.all_eq_true] at here
  rcases here with here | here
  · exact here
  · have outside := here d plain
    simp only [CaseData.Run.lower?, Option.ite_none_right_eq_some, Option.some.injEq] at lowered
    omega

/-- Where lower case gives plain letters only, ignoring the case of ASCII letters gives them too. -/
theorem lowerChar_eq_of_plain {c : Char} (plain : ∀ d ∈ lowerChar c, d ∈ plainLetters) :
    lowerChar c = [c.toLower] := by
  rw [lowerChar] at plain ⊢
  split at plain
  · have dot : '\u0307' ∉ plainLetters := by decide
    exact (dot (plain _ (by simp))).elim
  · next notDotted =>
    rw [if_neg notDotted]
    split at plain
    · next code found =>
      have letter := plain (Char.ofNat code) (by simp)
      obtain ⟨run, inside, lowered⟩ := List.exists_of_findSome?_eq_some found
      have each : plainLetters.all (fun d => d.toNat != 0) = true := by decide
      have nonzero : (Char.ofNat code).toNat ≠ 0 := by
        simpa using List.all_eq_true.mp each _ letter
      have same : (Char.ofNat code).toNat = code :=
        (toNat_ofNat_cases code).resolve_right nonzero
      have run_eq := run_eq_capitals inside lowered letter same
      have capital : c.toNat ∈ List.range' 65 26 := by
        simp only [CaseData.Run.lower?, Option.ite_none_right_eq_some] at lowered
        obtain ⟨⟨lower, upper, -⟩, -⟩ := lowered
        rw [run_eq] at lower upper
        exact List.mem_range'_1.mpr ⟨lower, Nat.lt_succ_of_le upper⟩
      have partner := (lowerChar_of_capital capital).2
      rw [lowerChar, if_neg notDotted, found] at partner
      exact partner
    · next none =>
      have letter := plain c (by simp)
      simp [toLower_of_mem_plainLetters letter]

theorem lowerChars_eq_iff {word : List Char} (plain : ∀ d ∈ word, d ∈ plainLetters)
    (before cs : List Char) : lowerChars before cs = word ↔ cs.map Char.toLower = word := by
  induction cs generalizing before word with
  | nil => simp [lowerChars]
  | cons c cs ih =>
    rw [lowerChars, List.map_cons]
    constructor
    · intro lowered
      obtain ⟨front, rest⟩ := List.forall_mem_append.mp (lowered ▸ plain)
      have sigmas : '\u03c2' ∉ plainLetters ∧ '\u03c3' ∉ plainLetters := by decide
      split at front
      · split at front
        · exact (sigmas.1 (front _ (by simp))).elim
        · exact (sigmas.2 (front _ (by simp))).elim
      · next other =>
        rw [if_neg other, lowerChar_eq_of_plain front, List.singleton_append] at lowered
        rw [← lowered, (ih rest (c :: before)).mp rfl]
    · rintro rfl
      obtain ⟨first, later⟩ := List.forall_mem_cons.mp plain
      obtain ⟨other, lowered⟩ := lowerChar_of_toLower first
      rw [if_neg other, lowered, List.singleton_append, (ih later (c :: before)).mpr rfl]

/-- A text is a word of plain letters in lower case exactly if it is the word up to the case of
ASCII letters. -/
theorem lowercase_eq_iff {s word : String} (plain : ∀ d ∈ word.toList, d ∈ plainLetters) :
    lowercase s = word ↔ sameIgnoringAsciiCase s word = true := by
  have small : word.toList.map Char.toLower = word.toList := by
    have each : word.toList.map Char.toLower = word.toList.map id :=
      List.map_congr_left fun d member => toLower_of_mem_plainLetters (plain d member)
    rw [each, List.map_id]
  rw [lowercase, sameIgnoringAsciiCase, small, beq_iff_eq, ← lowerChars_eq_iff plain [] s.toList,
    ← String.toList_inj, String.toList_ofList]

end HtmlTemplate.Text
