import HtmlTemplate.Entries
import Mathlib.Data.List.Nodup

/-!
# Looking entries up

What is found under a key after the entries have been altered under some key, and which keys there
are then: no key ever stands twice.
-/

set_option autoImplicit false

namespace HtmlTemplate.Entries

variable {α : Type} {entries : Entries α}

@[simp] theorem find?_nil (key : String) : find? ([] : Entries α) key = none :=
  rfl

theorem find?_cons (entry : String × α) (rest : Entries α) (key : String) :
    find? (entry :: rest) key = if key = entry.1 then some entry.2 else find? rest key := by
  obtain ⟨k, value⟩ := entry
  rw [find?, List.lookup_cons]
  by_cases same : key = k
  · simp [same]
  · simp [find?, same, beq_false_of_ne same]

/-- Altering the entry of a key changes what is found under this key only. -/
theorem find?_alter (key : String) (update : Option α → α) (entries : Entries α) (other : String) :
    find? (alter key update entries) other =
      if other = key then some (update (find? entries key)) else find? entries other := by
  induction entries with
  | nil => simp [alter, find?_cons]
  | cons entry rest ih =>
    obtain ⟨k, value⟩ := entry
    rw [alter]
    by_cases here : k = key
    · subst here
      by_cases same : other = k <;> simp [find?_cons, same]
    · have here' : key ≠ k := fun h => here h.symm
      rw [if_neg here]
      simp only [find?_cons, ih, if_neg here']
      by_cases same : other = key
      · subst same
        simp [here']
      · simp [same]

theorem find?_insert (entries : Entries α) (key : String) (value : α) (other : String) :
    find? (insert entries key value) other =
      if other = key then some value else find? entries other :=
  find?_alter key _ entries other

/-- A key that is altered stays where it is, or comes last. -/
theorem keys_alter (key : String) (update : Option α → α) (entries : Entries α) :
    keys (alter key update entries) =
      if key ∈ keys entries then keys entries else keys entries ++ [key] := by
  induction entries with
  | nil => simp [alter, keys]
  | cons entry rest ih =>
    obtain ⟨k, value⟩ := entry
    rw [alter]
    by_cases here : k = key
    · simp [keys, here]
    · have here' : key ≠ k := fun same => here same.symm
      rw [if_neg here]
      simp only [keys, List.map_cons, List.mem_cons, here', false_or] at ih ⊢
      by_cases later : key ∈ rest.map (·.1) <;> simp [ih, later]

theorem mem_keys_alter {key other : String} {update : Option α → α} :
    other ∈ keys (alter key update entries) ↔ other = key ∨ other ∈ keys entries := by
  rw [keys_alter]
  split
  · next member => exact ⟨Or.inr, fun either => either.elim (fun same => same ▸ member) id⟩
  · rw [List.mem_append, List.mem_singleton, or_comm]

theorem nodup_keys_alter {key : String} {update : Option α → α} (nodup : (keys entries).Nodup) :
    (keys (alter key update entries)).Nodup := by
  rw [keys_alter]
  split
  · exact nodup
  · next missing => exact List.concat_eq_append ▸ nodup.concat missing

theorem find?_eq_none_iff {key : String} : find? entries key = none ↔ key ∉ keys entries := by
  induction entries with
  | nil => simp [keys]
  | cons entry rest ih =>
    have keys_cons : keys (entry :: rest) = entry.1 :: keys rest := rfl
    rw [find?_cons, keys_cons, List.mem_cons, not_or, ← ih]
    split
    · next here => simp [here]
    · next other => simp [other]

theorem mem_of_find? {key : String} {value : α} (found : find? entries key = some value) :
    (key, value) ∈ entries := by
  induction entries with
  | nil => cases found
  | cons entry rest ih =>
    rw [find?_cons] at found
    split at found
    · next here =>
      obtain rfl := Option.some.inj found
      rw [here]
      exact List.mem_cons_self
    · exact List.mem_cons_of_mem _ (ih found)

/-- Where no key stands twice, every entry is found under its key. -/
theorem find?_of_mem {entry : String × α} (nodup : (keys entries).Nodup)
    (member : entry ∈ entries) : find? entries entry.1 = some entry.2 := by
  induction entries with
  | nil => cases member
  | cons first rest ih =>
    obtain ⟨missing, nodup'⟩ := List.nodup_cons.mp nodup
    rw [find?_cons]
    rcases List.mem_cons.mp member with rfl | member
    · exact if_pos rfl
    · have other : entry.1 ≠ first.1 := by
        intro same
        have listed : first.1 ∈ keys rest := same ▸ List.mem_map_of_mem member
        exact missing listed
      rw [if_neg other, ih nodup' member]

theorem find?_map {β : Type} (f : α → β) (key : String) :
    find? (entries.map fun entry => (entry.1, f entry.2)) key = (find? entries key).map f := by
  induction entries with
  | nil => rfl
  | cons entry rest ih =>
    simp only [List.map_cons, find?_cons, ih]
    split <;> rfl

theorem mem_of_mem_insert {entry : String × α} {key : String} {value : α}
    (member : entry ∈ insert entries key value) : entry = (key, value) ∨ entry ∈ entries := by
  induction entries with
  | nil => exact Or.inl (List.mem_singleton.mp member)
  | cons first rest ih =>
    obtain ⟨k, v⟩ := first
    rw [insert, alter] at member
    split at member
    · next here =>
      rcases List.mem_cons.mp member with rfl | later
      · exact Or.inl (by rw [here])
      · exact Or.inr (List.mem_cons_of_mem _ later)
    · rcases List.mem_cons.mp member with rfl | later
      · exact Or.inr List.mem_cons_self
      · exact (ih later).imp_right (List.mem_cons_of_mem _)

/-! ## Entries made of pairs -/

theorem nodup_keys_ofPairs (pairs : List (String × α)) : (keys (ofPairs pairs)).Nodup := by
  have inserted (entries : Entries α) (nodup : (keys entries).Nodup) :
      (keys (pairs.foldl (fun entries pair => insert entries pair.1 pair.2) entries)).Nodup := by
    induction pairs generalizing entries with
    | nil => exact nodup
    | cons pair rest ih => exact ih _ (nodup_keys_alter nodup)
  exact inserted [] List.nodup_nil

theorem mem_of_mem_ofPairs {pairs : List (String × α)} {entry : String × α} :
    entry ∈ ofPairs pairs → entry ∈ pairs := by
  have inserted (entries : Entries α) :
      entry ∈ pairs.foldl (fun entries pair => insert entries pair.1 pair.2) entries →
        entry ∈ entries ∨ entry ∈ pairs := by
    induction pairs generalizing entries with
    | nil => exact Or.inl
    | cons pair rest ih =>
      intro member
      rcases ih _ member with here | later
      · rcases mem_of_mem_insert here with rfl | before
        · exact Or.inr List.mem_cons_self
        · exact Or.inl before
      · exact Or.inr (List.mem_cons_of_mem _ later)
  exact fun member => (inserted [] member).resolve_left List.not_mem_nil

end HtmlTemplate.Entries
