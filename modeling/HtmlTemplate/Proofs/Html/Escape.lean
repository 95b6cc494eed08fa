import HtmlTemplate.Html.Escape

/-!
# Escaped text

What a reader of HTML makes of text between tags or quotes: five entities stand for five characters
and every other character for itself. Escaped text has none of the characters that would end it,
and reading it gives back the text that was escaped. The texts that nothing breaks, with an entity
at every ampersand, are those that escaping can give, and each is the escaping of what it reads as.
-/

set_option autoImplicit false

namespace HtmlTemplate.Html

/-- Reads text from left to right, an entity as the character that it stands for. -/
def decodeChars : List Char → List Char
  | '&' :: 'a' :: 'm' :: 'p' :: ';' :: rest => '&' :: decodeChars rest
  | '&' :: 'l' :: 't' :: ';' :: rest => '<' :: decodeChars rest
  | '&' :: 'g' :: 't' :: ';' :: rest => '>' :: decodeChars rest
  | '&' :: 'q' :: 'u' :: 'o' :: 't' :: ';' :: rest => '"' :: decodeChars rest
  | '&' :: '#' :: '3' :: '9' :: ';' :: rest => '\'' :: decodeChars rest
  | c :: rest => c :: decodeChars rest
  | [] => []

def decode (s : String) : String :=
  .ofList (decodeChars s.toList)

/-- The characters that begin or end tags and quoted values. -/
def breaks : List Char :=
  ['<', '>', '"', '\'']

def entities : List (List Char) :=
  [['&', 'a', 'm', 'p', ';'], ['&', 'l', 't', ';'], ['&', 'g', 't', ';'],
   ['&', 'q', 'u', 'o', 't', ';'], ['&', '#', '3', '9', ';']]

/-- The text breaks nothing, and every ampersand in it begins an entity. -/
structure IsEscaped (cs : List Char) : Prop where
  unbroken : ∀ c ∈ cs, c ∉ breaks
  ampersands : ∀ before rest, cs = before ++ '&' :: rest →
    ∃ entity ∈ entities, entity <+: '&' :: rest

theorem isEscaped_nil : IsEscaped [] where
  unbroken := by simp
  ampersands := by simp

theorem IsEscaped.cons {c : Char} {cs : List Char} (escaped : IsEscaped cs) (plain : c ∉ breaks)
    (begins : c = '&' → ∃ entity ∈ entities, entity <+: c :: cs) : IsEscaped (c :: cs) where
  unbroken := List.forall_mem_cons.mpr ⟨plain, escaped.unbroken⟩
  ampersands := by
    intro before rest whole
    cases before with
    | nil =>
      obtain ⟨rfl, rfl⟩ := List.cons.inj whole
      exact begins rfl
    | cons d before =>
      obtain ⟨rfl, rfl⟩ := List.cons.inj whole
      exact escaped.ampersands before rest rfl

/-- Characters other than ampersands may stand in front of escaped text. -/
theorem IsEscaped.append {front cs : List Char} (escaped : IsEscaped cs)
    (plain : ∀ c ∈ front, c ∉ breaks ∧ c ≠ '&') : IsEscaped (front ++ cs) := by
  induction front with
  | nil => exact escaped
  | cons c front ih =>
    obtain ⟨here, later⟩ := List.forall_mem_cons.mp plain
    exact (ih later).cons here.1 fun ampersand => (here.2 ampersand).elim

/-- An entity may stand in front of escaped text. -/
theorem IsEscaped.entity {cs : List Char} (escaped : IsEscaped cs) (name : List Char)
    (member : '&' :: name ∈ entities) (plain : ∀ c ∈ name, c ∉ breaks ∧ c ≠ '&') :
    IsEscaped (('&' :: name) ++ cs) :=
  (escaped.append plain).cons (by decide) fun _ => ⟨_, member, List.prefix_append _ _⟩

/-- A character is written as an entity, or as itself if it may stand in escaped text. -/
theorem escapeChar_cases (c : Char) :
    (∃ name, escapeChar c = '&' :: name ∧ '&' :: name ∈ entities ∧
      ∀ d ∈ name, d ∉ breaks ∧ d ≠ '&') ∨
    (escapeChar c = [c] ∧ c ∉ breaks ∧ c ≠ '&') := by
  unfold escapeChar
  split
  case h_6 ampersand less greater double single =>
    have plain : c ∉ breaks := by
      simp only [breaks, List.mem_cons, List.not_mem_nil, or_false, not_or]
      exact ⟨less, greater, double, single⟩
    exact Or.inr ⟨rfl, plain, ampersand⟩
  all_goals exact Or.inl ⟨_, rfl, by decide, by simp [breaks]⟩

theorem escapeChars_cons (c : Char) (cs : List Char) :
    escapeChars (c :: cs) = escapeChar c ++ escapeChars cs :=
  List.flatMap_cons

theorem isEscaped_escapeChars (cs : List Char) : IsEscaped (escapeChars cs) := by
  induction cs with
  | nil => exact isEscaped_nil
  | cons c cs ih =>
    rw [escapeChars_cons]
    rcases escapeChar_cases c with ⟨name, entity, member, plain⟩ | ⟨same, plain, other⟩
    · rw [entity]
      exact ih.entity name member plain
    · rw [same]
      exact ih.append (by simp [plain, other])

theorem decodeChars_cons {c : Char} (cs : List Char) (other : c ≠ '&') :
    decodeChars (c :: cs) = c :: decodeChars cs := by
  rw [decodeChars] <;> exact fun _ ampersand => (other ampersand).elim

/-- A character that has been written is read again, whatever follows it. -/
theorem decodeChars_escapeChar_append (c : Char) (rest : List Char) :
    decodeChars (escapeChar c ++ rest) = c :: decodeChars rest := by
  unfold escapeChar
  split
  case h_6 ampersand less greater double single =>
    rw [List.singleton_append, decodeChars_cons _ ampersand]
  all_goals simp only [List.cons_append, List.nil_append, decodeChars]

theorem decodeChars_escapeChars (cs : List Char) : decodeChars (escapeChars cs) = cs := by
  induction cs with
  | nil => rfl
  | cons c cs ih => rw [escapeChars_cons, decodeChars_escapeChar_append, ih]

theorem isEscaped_escape (s : String) : IsEscaped (escape s).toList := by
  rw [escape, String.toList_ofList]
  exact isEscaped_escapeChars _

/-- Reading an escaped text gives the text. -/
theorem decode_escape (s : String) : decode (escape s) = s := by
  rw [decode, escape, String.toList_ofList, decodeChars_escapeChars, String.ofList_toList]

/-! ## What escaping can give -/

theorem IsEscaped.of_append {front rest : List Char} (escaped : IsEscaped (front ++ rest)) :
    IsEscaped rest where
  unbroken c member := escaped.unbroken c (List.mem_append_right front member)
  ampersands before after whole :=
    escaped.ampersands (front ++ before) after (by rw [whole, List.append_assoc])

theorem exists_escapeChar_of_mem_entities {entity : List Char} (member : entity ∈ entities) :
    ∃ c, escapeChar c = entity := by
  simp only [entities, List.mem_cons, List.not_mem_nil, or_false] at member
  rcases member with rfl | rfl | rfl | rfl | rfl
  · exact ⟨'&', rfl⟩
  · exact ⟨'<', rfl⟩
  · exact ⟨'>', rfl⟩
  · exact ⟨'"', rfl⟩
  · exact ⟨'\'', rfl⟩

theorem escapeChar_eq_self {c : Char} (plain : c ∉ breaks) (other : c ≠ '&') :
    escapeChar c = [c] := by
  simp only [breaks, List.mem_cons, List.not_mem_nil, or_false, not_or] at plain
  obtain ⟨less, greater, double, single⟩ := plain
  rw [escapeChar] <;> assumption

/-- In front of escaped text stands a character as it is written. -/
theorem IsEscaped.exists_escapeChar_append {c : Char} {cs : List Char}
    (escaped : IsEscaped (c :: cs)) : ∃ d rest, c :: cs = escapeChar d ++ rest := by
  by_cases ampersand : c = '&'
  · subst ampersand
    obtain ⟨entity, member, rest, whole⟩ := escaped.ampersands [] cs rfl
    obtain ⟨d, rfl⟩ := exists_escapeChar_of_mem_entities member
    exact ⟨d, rest, whole.symm⟩
  · have plain := escaped.unbroken c List.mem_cons_self
    exact ⟨c, cs, by rw [escapeChar_eq_self plain ampersand, List.singleton_append]⟩

theorem escapeChar_ne_nil (c : Char) : escapeChar c ≠ [] := by
  rcases escapeChar_cases c with ⟨name, entity, -⟩ | ⟨same, -⟩
  · rw [entity]
    exact List.cons_ne_nil _ _
  · rw [same]
    exact List.cons_ne_nil _ _

theorem IsEscaped.escapeChars_decodeChars {cs : List Char} (escaped : IsEscaped cs) :
    escapeChars (decodeChars cs) = cs := by
  -- An entity takes several characters at once, so the induction is on the length.
  induction size : cs.length using Nat.strongRecOn generalizing cs with
  | _ n ih =>
    subst size
    cases cs with
    | nil => rfl
    | cons c cs =>
      obtain ⟨d, rest, whole⟩ := escaped.exists_escapeChar_append
      have shorter : rest.length < (c :: cs).length := by
        have written := List.length_pos_iff.mpr (escapeChar_ne_nil d)
        rw [whole, List.length_append]
        omega
      rw [whole] at escaped ⊢
      rw [decodeChars_escapeChar_append, escapeChars_cons,
        ih rest.length shorter escaped.of_append rfl]

theorem escape_append (s t : String) : escape (s ++ t) = escape s ++ escape t := by
  rw [escape, String.toList_append, escapeChars, List.flatMap_append, String.ofList_append]
  rfl

/-- Reading and escaping again changes exactly the texts that escaping cannot give. -/
theorem escape_decode_iff (u : String) : escape (decode u) = u ↔ IsEscaped u.toList := by
  constructor
  · intro same
    rw [← same]
    exact isEscaped_escape _
  · intro escaped
    rw [escape, decode, String.toList_ofList, escaped.escapeChars_decodeChars,
      String.ofList_toList]

/-- Texts are escaped piece by piece. What comes out has none of the characters that begin or end
tags and quoted values, and an ampersand only where an entity begins, and reading it gives back the
text, so that different texts are escaped differently. The other way round, every text with these
two properties is the escaping of what it reads as, and so they tell what escaping can give. -/
theorem escape_encodes :
    (∀ s t, escape (s ++ t) = escape s ++ escape t) ∧
      (∀ s, IsEscaped (escape s).toList ∧ decode (escape s) = s) ∧
      (∀ s t, escape s = escape t → s = t) ∧
      (∀ u, IsEscaped u.toList → escape (decode u) = u) ∧
      ∀ u, (∃ s, escape s = u) ↔ IsEscaped u.toList := by
  refine ⟨escape_append, fun s => ⟨isEscaped_escape s, decode_escape s⟩, fun s t same => ?_,
    fun u => (escape_decode_iff u).mpr, fun u => ⟨?_, fun escaped => ?_⟩⟩
  · rw [← decode_escape s, same, decode_escape]
  · rintro ⟨s, rfl⟩
    exact isEscaped_escape s
  · exact ⟨decode u, (escape_decode_iff u).mpr escaped⟩

end HtmlTemplate.Html
