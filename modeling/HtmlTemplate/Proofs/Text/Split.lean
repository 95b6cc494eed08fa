import HtmlTemplate.Text.Split

/-!
# Parts of a text

Splitting a text and joining its parts with the separator undo each other, as long as no part has
the separator in it.
-/

set_option autoImplicit false

namespace HtmlTemplate.Text

theorem splitChars_eq_splitOnP (separator : Char) (cs : List Char) :
    splitChars separator cs = cs.splitOnP (· = separator) := by
  induction cs with
  | nil => rfl
  | cons c cs ih =>
    rw [splitChars, ih, List.splitOnP_cons_eq_if_modifyHead]
    split
    · next same => rw [if_pos (decide_eq_true same)]
    · next other =>
      obtain ⟨part, rest, parts⟩ :=
        List.exists_cons_of_ne_nil (List.splitOnP_ne_nil (· = separator) cs)
      rw [if_neg (by simpa using other), parts, List.modifyHead_cons]

/-- The parts of a text are those before a separator in it and those behind. -/
theorem splitAt_append (separator : Char) (before behind : String) :
    splitAt separator (before ++ String.singleton separator ++ behind) =
      splitAt separator before ++ splitAt separator behind := by
  simp only [splitAt, splitChars_eq_splitOnP, String.toList_append, String.toList_singleton,
    List.append_assoc, List.singleton_append]
  have sign : decide (separator = separator) = true := decide_eq_true rfl
  rw [List.splitOnP_append_cons (p := fun c => decide (c = separator)) _ _ sign, List.map_append]

theorem splitChars_ne_nil (separator : Char) (cs : List Char) : splitChars separator cs ≠ [] := by
  rw [splitChars_eq_splitOnP]
  exact List.splitOnP_ne_nil _ cs

theorem exists_splitAt_eq_cons (separator : Char) (s : String) :
    ∃ first rest, splitAt separator s = first :: rest := by
  refine List.exists_cons_of_ne_nil fun none => ?_
  exact splitChars_ne_nil separator s.toList (List.map_eq_nil_iff.mp none)

theorem splitChars_of_not_mem {separator : Char} {cs : List Char} (plain : separator ∉ cs) :
    splitChars separator cs = [cs] := by
  rw [splitChars_eq_splitOnP]
  refine List.splitOnP_eq_singleton fun c member => ?_
  simpa using fun same : c = separator => plain (same ▸ member)

theorem splitAt_of_not_mem {separator : Char} {s : String} (plain : separator ∉ s.toList) :
    splitAt separator s = [s] := by
  rw [splitAt, splitChars_of_not_mem plain, List.map_singleton, String.ofList_toList]

theorem splitAt_intercalate {separator : Char} {parts : List String} (some : parts ≠ [])
    (plain : ∀ part ∈ parts, separator ∉ part.toList) :
    splitAt separator ((String.singleton separator).intercalate parts) = parts := by
  induction parts with
  | nil => exact (some rfl).elim
  | cons first rest ih =>
    obtain ⟨here, later⟩ := List.forall_mem_cons.mp plain
    cases rest with
    | nil => rw [String.intercalate_singleton, splitAt_of_not_mem here]
    | cons second rest =>
      rw [String.intercalate_cons_cons, splitAt_append, splitAt_of_not_mem here,
        ih (by simp) later, List.singleton_append]

theorem intercalate_splitAt (separator : Char) (s : String) :
    (String.singleton separator).intercalate (splitAt separator s) = s := by
  rw [← String.toList_inj, String.toList_intercalate, splitAt, List.map_map,
    splitChars_eq_splitOnP, String.toList_singleton]
  have texts : String.toList ∘ String.ofList = id := funext fun cs => String.toList_ofList
  rw [texts, List.map_id]
  exact List.intercalate_splitOn separator

theorem splitAt_eq_singleton {separator : Char} {s part : String}
    (single : splitAt separator s = [part]) : s = part := by
  rw [← intercalate_splitAt separator s, single, String.intercalate_singleton]

theorem not_mem_of_mem_splitChars {separator : Char} {cs part : List Char}
    (member : part ∈ splitChars separator cs) : separator ∉ part := by
  induction cs generalizing part with
  | nil =>
    obtain rfl := List.mem_singleton.mp member
    exact List.not_mem_nil
  | cons c cs ih =>
    rw [splitChars] at member
    split at member
    · rcases List.mem_cons.mp member with rfl | later
      · exact List.not_mem_nil
      · exact ih later
    · next other =>
      have other' : separator ≠ c := fun same => other same.symm
      split at member
      · obtain rfl := List.mem_singleton.mp member
        simpa using other'
      · next first rest parts =>
        rcases List.mem_cons.mp member with rfl | later
        · have plain := ih (parts ▸ List.mem_cons_self)
          simp [other', plain]
        · exact ih (parts ▸ List.mem_cons_of_mem _ later)

theorem not_mem_of_mem_splitAt {separator : Char} {s part : String}
    (member : part ∈ splitAt separator s) : separator ∉ part.toList := by
  obtain ⟨part', inside, rfl⟩ := List.mem_map.mp member
  rw [String.toList_ofList]
  exact not_mem_of_mem_splitChars inside

/-- A text begins with the separator exactly if its first part is empty and not the only one. -/
theorem head?_eq_separator_iff {separator : Char} {s first : String} {rest : List String}
    (split : splitAt separator s = first :: rest) :
    s.toList.head? = some separator ↔ first = "" ∧ rest ≠ [] := by
  unfold splitAt at split
  cases text : s.toList with
  | nil =>
    rw [text] at split
    obtain ⟨rfl, rfl⟩ := List.cons.inj split
    simp
  | cons c cs =>
    rw [text, splitChars] at split
    by_cases same : c = separator
    · rw [if_pos same] at split
      obtain ⟨rfl, rfl⟩ := List.cons.inj split
      simp [same, splitChars_ne_nil]
    · obtain ⟨part, parts, rest'⟩ := List.exists_cons_of_ne_nil (splitChars_ne_nil separator cs)
      rw [if_neg same, rest'] at split
      obtain ⟨rfl, -⟩ := List.cons.inj split
      simp [same]

theorem exists_splitChars_append (separator : Char) (front : List Char) :
    ∃ parts last, ∀ behind, separator ∉ behind →
      splitChars separator (front ++ behind) = parts ++ [last ++ behind] := by
  induction front with
  | nil => exact ⟨[], [], fun behind plain => splitChars_of_not_mem plain⟩
  | cons c cs ih =>
    obtain ⟨parts, last, split⟩ := ih
    by_cases same : c = separator
    · refine ⟨[] :: parts, last, fun behind plain => ?_⟩
      rw [List.cons_append, splitChars, if_pos same, split behind plain, List.cons_append]
    · cases parts with
      | nil =>
        refine ⟨[], c :: last, fun behind plain => ?_⟩
        rw [List.cons_append, splitChars, if_neg same, split behind plain]
        rfl
      | cons first rest =>
        refine ⟨(c :: first) :: rest, last, fun behind plain => ?_⟩
        rw [List.cons_append, splitChars, if_neg same, split behind plain]
        rfl

/-- What is put behind a text without a separator in it goes on with the last part. -/
theorem exists_splitAt_append (separator : Char) (front : String) :
    ∃ parts last, ∀ behind, separator ∉ behind.toList →
      splitAt separator (front ++ behind) = parts ++ [last ++ behind] := by
  obtain ⟨parts, last, split⟩ := exists_splitChars_append separator front.toList
  refine ⟨parts.map String.ofList, .ofList last, fun behind plain => ?_⟩
  rw [splitAt, String.toList_append, split _ plain, List.map_append, List.map_singleton,
    String.ofList_append, String.ofList_toList]

end HtmlTemplate.Text
