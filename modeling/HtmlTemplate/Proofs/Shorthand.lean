import HtmlTemplate.Proofs.Document.WellFormed
import HtmlTemplate.Proofs.Text.Classes

/-!
# What names stand for

Every character of a tag, an identity or a class comes from the name that is expanded, and none of
them is a sign. So the tag of an identifier is a name without signs, and the attributes that an
identifier stands for can be written. A name without signs stands for itself.
-/

set_option autoImplicit false

namespace HtmlTemplate

open Text

/-! ## Splitting at signs -/

namespace Shorthand

theorem split_cons_sign {c : Char} (cs : List Char) (sign : isSign c = true) :
    split (c :: cs) = ([], (c, (split cs).1) :: (split cs).2) := by
  simp [split, sign]

theorem split_cons_other {c : Char} (cs : List Char) (other : isSign c = false) :
    split (c :: cs) = (c :: (split cs).1, (split cs).2) := by
  simp [split, other]

theorem mem_split {cs : List Char} :
    (∀ c ∈ (split cs).1, c ∈ cs ∧ isSign c = false) ∧
      ∀ part ∈ (split cs).2, ∀ c ∈ part.2, c ∈ cs ∧ isSign c = false := by
  induction cs with
  | nil => simp [split]
  | cons head cs ih =>
    obtain ⟨tag, parts⟩ := ih
    have tag' : ∀ c ∈ (split cs).1, c ∈ head :: cs ∧ isSign c = false := fun c member =>
      ⟨List.mem_cons_of_mem _ (tag c member).1, (tag c member).2⟩
    have parts' : ∀ part ∈ (split cs).2, ∀ c ∈ part.2, c ∈ head :: cs ∧ isSign c = false :=
      fun part inside c member =>
        ⟨List.mem_cons_of_mem _ (parts part inside c member).1, (parts part inside c member).2⟩
    cases sign : isSign head with
    | true =>
      rw [split_cons_sign cs sign]
      exact ⟨by simp, List.forall_mem_cons.mpr ⟨tag', parts'⟩⟩
    | false =>
      rw [split_cons_other cs sign]
      have first : head ∈ head :: cs ∧ isSign head = false := ⟨List.mem_cons_self, sign⟩
      exact ⟨List.forall_mem_cons.mpr ⟨first, tag'⟩, parts'⟩

/-- The tag begins with the first character, if there is a tag. -/
theorem split_cons_tag {head first : Char} {cs tag : List Char}
    (whole : (split (head :: cs)).1 = first :: tag) : first = head ∧ isSign head = false := by
  cases sign : isSign head with
  | true =>
    rw [split_cons_sign cs sign] at whole
    cases whole
  | false =>
    rw [split_cons_other cs sign] at whole
    exact ⟨(List.cons.inj whole).1.symm, rfl⟩

theorem split_of_unsigned {cs : List Char} (unsigned : ∀ c ∈ cs, isSign c = false) :
    split cs = (cs, []) := by
  induction cs with
  | nil => rfl
  | cons c cs ih =>
    obtain ⟨here, later⟩ := List.forall_mem_cons.mp unsigned
    rw [split_cons_other cs here, ih later]

/-- Identities and classes are texts behind a sign. -/
theorem mem_partsAfter {sign : Char} {cs : List Char} {text : String}
    (member : text ∈ partsAfter sign (split cs).2) :
    ∀ c ∈ text.toList, c ∈ cs ∧ isSign c = false := by
  simp only [partsAfter, List.mem_map, List.mem_filter] at member
  obtain ⟨part, ⟨inside, -⟩, rfl⟩ := member
  rw [String.toList_ofList]
  exact mem_split.2 part inside

theorem ne_empty_of_mem_partsAfter {sign : Char} {parts : List (Char × List Char)} {text : String}
    (member : text ∈ partsAfter sign parts) : text ≠ "" := by
  simp only [partsAfter, List.mem_map, List.mem_filter, Bool.and_eq_true] at member
  obtain ⟨part, ⟨-, -, some⟩, rfl⟩ := member
  simpa using some

theorem kind_of_mem_attributes {s : Shorthand} {a : Attribute} (member : a ∈ s.attributes) :
    a.kind = .quoted := by
  rcases List.mem_append.mp member with identity | classes
  · obtain ⟨id, -, rfl⟩ := List.mem_map.mp identity
    rfl
  · split at classes
    · cases classes
    · rw [List.mem_singleton.mp classes]

end Shorthand

/-! ## Identifiers and what they stand for -/

theorem mem_intercalate {α : Type} {separator : List α} {a : α} {parts : List (List α)}
    (member : a ∈ separator.intercalate parts) : a ∈ separator ∨ ∃ part ∈ parts, a ∈ part := by
  induction parts with
  | nil => simp at member
  | cons first rest ih =>
    cases rest with
    | nil => exact Or.inr ⟨first, List.mem_cons_self, by simpa using member⟩
    | cons second rest =>
      simp only [List.intercalate_cons_cons, List.append_assoc, List.mem_append] at member
      rcases member with here | between | later
      · exact Or.inr ⟨first, List.mem_cons_self, here⟩
      · exact Or.inl between
      · rcases ih later with between | ⟨part, inside, holds⟩
        · exact Or.inl between
        · exact Or.inr ⟨part, List.mem_cons_of_mem _ inside, holds⟩

theorem IsIdentifier.isNameTail {text : String} (identifier : IsIdentifier text) :
    ∀ c ∈ text.toList, isNameTail c = true := by
  obtain ⟨head, tail, whole, starts, continues⟩ := identifier
  rw [whole]
  exact List.forall_mem_cons.mpr ⟨isNameTail_of_isNameHead starts, continues⟩

/-- Texts of such characters can be written in quotes. -/
theorem allows_quoted_of_plain {text : String}
    (plain : ∀ c ∈ text.toList, isNameTail c = true ∨ c = ' ') :
    ValueKind.quoted.Allows text := by
  have quote : ∀ q ∈ delimiters, q ≠ ' ' → q ∉ text.toList := by
    intro q delimiter other member
    rcases plain q member with tail | rfl
    · rw [isNameTail_of_mem_delimiters q delimiter] at tail
      cases tail
    · exact other rfl
  constructor
  · intro c member
    rcases plain c member with tail | rfl
    · exact isLineEnd_of_isNameTail tail
    · decide
  · exact fun both => quote '"' (by decide) (by decide) both.1

theorem isTagName_defaultTag : IsTagName Shorthand.defaultTag where
  starts := ⟨'d', ['i', 'v'], rfl, Or.inl (by decide +kernel)⟩
  continues := by
    have each : "div".toList.all isNameTail = true := by decide +kernel
    exact List.all_eq_true.mp each
  unsigned := by decide

namespace Shorthand

theorem isTagName_of_split {text : String} {first : Char} {tag : List Char}
    (identifier : IsIdentifier text) (whole : (split text.toList).1 = first :: tag) :
    IsTagName (.ofList (first :: tag)) := by
  have inside : ∀ c ∈ first :: tag, c ∈ text.toList ∧ isSign c = false := whole ▸ mem_split.1
  have continues := identifier.isNameTail
  obtain ⟨head, tail, front, starts, -⟩ := identifier
  rw [front] at whole
  obtain ⟨rfl, sign⟩ := split_cons_tag whole
  have starts' : isAlphabetic first = true ∨ first = '_' := by
    simp only [isSign, Bool.or_eq_false_iff, decide_eq_false_iff_not] at sign
    simpa [isNameHead, sign] using starts
  constructor
  · exact ⟨first, tag, String.toList_ofList, starts'⟩
  · rw [String.toList_ofList]
    exact fun c member => continues c (inside c member).1
  · rw [String.toList_ofList]
    constructor <;> exact fun member => by simpa [isSign] using (inside _ member).2

/-- The attributes that an identifier stands for can be written. -/
theorem attributes_wellFormed {text : String} (identifier : IsIdentifier text) (tag : String)
    (id : Option String) (classes : List String)
    (ids : ∀ i ∈ id, i ∈ partsAfter '#' (split text.toList).2)
    (parts : classes = partsAfter '.' (split text.toList).2) :
    ∀ a ∈ attributes ⟨tag, id, classes⟩, a.WellFormed := by
  have behind : ∀ (sign : Char) (part : String), part ∈ partsAfter sign (split text.toList).2 →
      ∀ c ∈ part.toList, isNameTail c = true := fun sign part member c inside =>
    identifier.isNameTail c (mem_partsAfter member c inside).1
  intro a member
  rcases List.mem_append.mp member with member | member
  · simp only [List.mem_map, Option.mem_toList] at member
    obtain ⟨i, some, rfl⟩ := member
    have key : IsIdentifier "id" := by decide +kernel
    refine ⟨key, ?_⟩
    exact allows_quoted_of_plain fun c inside => Or.inl (behind '#' i (ids i some) c inside)
  · split at member
    · cases member
    · obtain rfl := List.mem_singleton.mp member
      have key : IsIdentifier "class" := by decide +kernel
      refine ⟨key, allows_quoted_of_plain fun c inside => ?_⟩
      rw [String.toList_intercalate] at inside
      rcases mem_intercalate inside with space | ⟨part, member, inside⟩
      · exact Or.inr (List.mem_singleton.mp space)
      · obtain ⟨text, listed, rfl⟩ := List.mem_map.mp member
        exact Or.inl (behind '.' text (parts ▸ listed) c inside)

/-- An identifier that can be expanded stands for a name and attributes that can be written. -/
theorem wellFormed_of_expand {text : String} {s : Shorthand} (identifier : IsIdentifier text)
    (expanded : expand text = .ok s) : IsTagName s.tag ∧ ∀ a ∈ s.attributes, a.WellFormed := by
  have tagged : IsTagName
      (if (split text.toList).1.isEmpty then defaultTag else .ofList (split text.toList).1) := by
    cases whole : (split text.toList).1 with
    | nil => exact isTagName_defaultTag
    | cons first tag => exact isTagName_of_split identifier whole
  simp only [expand] at expanded
  split at expanded
  · cases expanded
  · next id only =>
    obtain rfl := Except.ok.inj expanded
    refine ⟨tagged, attributes_wellFormed identifier _ _ _ ?_ rfl⟩
    intro i same
    cases same
    simp [only]
  · split at expanded
    · cases expanded
    · obtain rfl := Except.ok.inj expanded
      exact ⟨tagged, attributes_wellFormed identifier _ _ _ (by simp) rfl⟩

/-- A name without signs stands for itself. -/
theorem expand_of_isTagName {text : String} (name : IsTagName text) :
    expand text = .ok ⟨text, none, []⟩ := by
  have unsigned : ∀ c ∈ text.toList, isSign c = false := by
    intro c member
    simp only [isSign, Bool.or_eq_false_iff, decide_eq_false_iff_not]
    exact ⟨fun sign => name.unsigned.1 (sign ▸ member), fun sign => name.unsigned.2 (sign ▸ member)⟩
  obtain ⟨head, tail, whole, -⟩ := name.starts
  have nonempty : text.toList.isEmpty = false := by
    rw [whole]
    rfl
  simp [expand, split_of_unsigned unsigned, partsAfter, nonempty]

end Shorthand

end HtmlTemplate
