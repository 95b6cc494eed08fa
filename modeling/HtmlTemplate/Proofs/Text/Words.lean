import HtmlTemplate.Text.Character
import Mathlib.Data.List.DropRight
import Mathlib.Data.List.Induction

/-!
# The words of a text

A text falls into words at its white space. White space at either end belongs to no word, so a text
has the words that it has when it is trimmed, and a text made of several with blanks between them
has the words of each in turn. Only a text that is nothing but white space has no words.
-/

set_option autoImplicit false

namespace HtmlTemplate.Text

/-- The parts between white space that are not empty. -/
def wordsOf (cs : List Char) : List (List Char) :=
  (cs.splitOnP isWhiteSpace).filter fun part => !part.isEmpty

def words (s : String) : List String :=
  (wordsOf s.toList).map String.ofList

@[simp] theorem wordsOf_nil : wordsOf [] = [] := by
  simp [wordsOf, List.splitOnP_nil]

variable {c : Char} {cs : List Char}

theorem wordsOf_append_cons (white : isWhiteSpace c = true) (before behind : List Char) :
    wordsOf (before ++ c :: behind) = wordsOf before ++ wordsOf behind := by
  rw [wordsOf, List.splitOnP_append_cons before behind white, List.filter_append]
  rfl

theorem wordsOf_cons_of_white (white : isWhiteSpace c = true) (cs : List Char) :
    wordsOf (c :: cs) = wordsOf cs :=
  wordsOf_append_cons white [] cs

theorem wordsOf_append_of_white (white : isWhiteSpace c = true) (cs : List Char) :
    wordsOf (cs ++ [c]) = wordsOf cs := by
  rw [wordsOf_append_cons white, wordsOf_nil, List.append_nil]

theorem wordsOf_of_plain (some : cs ≠ []) (plain : ∀ c ∈ cs, isWhiteSpace c = false) :
    wordsOf cs = [cs] := by
  rw [wordsOf, List.splitOnP_eq_singleton plain]
  simpa using some

theorem wordsOf_cons_ne_nil (other : isWhiteSpace c = false) (cs : List Char) :
    wordsOf (c :: cs) ≠ [] := by
  obtain ⟨part, rest, parts⟩ := List.exists_cons_of_ne_nil (List.splitOnP_ne_nil isWhiteSpace cs)
  rw [wordsOf, List.splitOnP_cons_eq_if_modifyHead, if_neg (Bool.eq_false_iff.mp other), parts,
    List.modifyHead_cons]
  simp

theorem wordsOf_eq_nil_iff : wordsOf cs = [] ↔ ∀ c ∈ cs, isWhiteSpace c = true := by
  induction cs with
  | nil => simp
  | cons c cs ih =>
    cases white : isWhiteSpace c with
    | true => simp [wordsOf_cons_of_white white, ih, white]
    | false => simp [wordsOf_cons_ne_nil white, white]

/-! ## Trimming -/

theorem wordsOf_dropWhile (cs : List Char) : wordsOf (cs.dropWhile isWhiteSpace) = wordsOf cs := by
  induction cs with
  | nil => rfl
  | cons c cs ih =>
    cases white : isWhiteSpace c with
    | true => rw [List.dropWhile_cons_of_pos white, ih, wordsOf_cons_of_white white]
    | false => rw [List.dropWhile_cons_of_neg (Bool.eq_false_iff.mp white)]

theorem wordsOf_trimEnd (cs : List Char) : wordsOf (trimEnd cs) = wordsOf cs := by
  induction cs using List.reverseRecOn with
  | nil => rfl
  | append_singleton cs c ih =>
    rw [trimEnd, List.reverse_append, List.reverse_singleton, List.singleton_append]
    cases white : isWhiteSpace c with
    | true =>
      rw [List.dropWhile_cons_of_pos white, ← trimEnd, ih, wordsOf_append_of_white white]
    | false =>
      rw [List.dropWhile_cons_of_neg (Bool.eq_false_iff.mp white), List.reverse_cons,
        List.reverse_reverse]

theorem words_trim (s : String) : words (trim s) = words s := by
  rw [words, words, trim, String.toList_ofList, wordsOf_trimEnd, wordsOf_dropWhile]

/-- A text without words is nothing but white space. -/
theorem words_eq_nil_iff {s : String} : words s = [] ↔ ∀ c ∈ s.toList, isWhiteSpace c = true := by
  rw [words, List.map_eq_nil_iff, wordsOf_eq_nil_iff]

/-- What is left of a text by trimming is empty exactly if the text has no words. -/
theorem isEmpty_trim_iff {s : String} : (trim s).isEmpty = true ↔ words s = [] := by
  constructor
  · intro empty
    rw [← words_trim, String.isEmpty_iff.mp empty]
    rfl
  · intro none
    have white := words_eq_nil_iff.mp none
    rw [trim, List.dropWhile_eq_nil_iff.mpr white]
    rfl

/-! ## Several texts -/

theorem words_append_blank (before behind : String) :
    words (before ++ " " ++ behind) = words before ++ words behind := by
  have blank : isWhiteSpace ' ' = true := by decide
  have whole : (before ++ " " ++ behind).toList = before.toList ++ ' ' :: behind.toList := by simp
  rw [words, whole, wordsOf_append_cons blank, List.map_append]
  rfl

theorem words_intercalate (texts : List String) :
    words (" ".intercalate texts) = texts.flatMap words := by
  induction texts with
  | nil => rfl
  | cons first rest ih =>
    cases rest with
    | nil => simp
    | cons second rest =>
      rw [String.intercalate_cons_cons, words_append_blank, ih, ← List.flatMap_cons]

theorem words_of_plain {s : String} (some : s ≠ "")
    (plain : ∀ c ∈ s.toList, isWhiteSpace c = false) : words s = [s] := by
  have some' : s.toList ≠ [] := by simpa using some
  rw [words, wordsOf_of_plain some' plain, List.map_singleton, String.ofList_toList]

end HtmlTemplate.Text
