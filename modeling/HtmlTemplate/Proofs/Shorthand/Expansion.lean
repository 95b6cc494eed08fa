import HtmlTemplate.Proofs.Lexing
import HtmlTemplate.Proofs.Shorthand

/-!
# What expanding a name gives

Every name is divided at its signs, and in one way only (`Shorthand.Divides`). The division alone
says what the expansion is: the text in front of the first sign is the tag, and the texts behind
signs that are not empty are identities and classes. The canonical text of an expansion (`text`)
writes the tag, the identity and the classes, and expanding it gives the expansion back.

Texts are held as bytes, and their parts are cut out at byte offsets. No part can be cut out where
an offset lies within a character, so reading a name by offsets (`expandByOffsets?`) may come to
nothing. It never does, whatever the name: every cut is made at a sign, behind one or at the end.
-/

set_option autoImplicit false

namespace HtmlTemplate.Shorthand

/-! ## Divisions -/

/-- The text is its front and the parts behind, each with its sign. There are no other signs. -/
structure Divides (text front : List Char) (parts : List (Char × List Char)) : Prop where
  whole : text = front ++ parts.flatMap fun part => part.1 :: part.2
  front : ∀ c ∈ front, isSign c = false
  signs : ∀ part ∈ parts, isSign part.1 = true
  parts : ∀ part ∈ parts, ∀ c ∈ part.2, isSign c = false

theorem divides_split (cs : List Char) : Divides cs (split cs).1 (split cs).2 := by
  induction cs with
  | nil => exact ⟨rfl, by simp [split], by simp [split], by simp [split]⟩
  | cons c cs ih =>
    cases sign : isSign c with
    | true =>
      rw [split_cons_sign cs sign]
      refine ⟨?_, by simp, List.forall_mem_cons.mpr ⟨sign, ih.signs⟩,
        List.forall_mem_cons.mpr ⟨ih.front, ih.parts⟩⟩
      rw [List.flatMap_cons, List.cons_append, ← ih.whole, List.nil_append]
    | false =>
      rw [split_cons_other cs sign]
      refine ⟨?_, List.forall_mem_cons.mpr ⟨sign, ih.front⟩, ih.signs, ih.parts⟩
      rw [List.cons_append, ← ih.whole]

theorem split_append {front rest : List Char} (unsigned : ∀ c ∈ front, isSign c = false)
    (starts : (split rest).1 = []) : split (front ++ rest) = (front, (split rest).2) := by
  induction front with
  | nil => rw [List.nil_append, ← starts]
  | cons c front ih =>
    obtain ⟨here, later⟩ := List.forall_mem_cons.mp unsigned
    rw [List.cons_append, split_cons_other _ here, ih later]

theorem split_flatMap {parts : List (Char × List Char)}
    (signs : ∀ part ∈ parts, isSign part.1 = true)
    (unsigned : ∀ part ∈ parts, ∀ c ∈ part.2, isSign c = false) :
    split (parts.flatMap fun part => part.1 :: part.2) = ([], parts) := by
  induction parts with
  | nil => rfl
  | cons part parts ih =>
    obtain ⟨sign, signs⟩ := List.forall_mem_cons.mp signs
    obtain ⟨here, later⟩ := List.forall_mem_cons.mp unsigned
    have rest := ih signs later
    rw [List.flatMap_cons, List.cons_append, split_cons_sign _ sign,
      split_append here (congrArg Prod.fst rest), rest]

/-- There is no other division than the one that splitting gives. -/
theorem Divides.split_eq {text front : List Char} {parts : List (Char × List Char)}
    (divides : Divides text front parts) : split text = (front, parts) := by
  have rest := split_flatMap divides.signs divides.parts
  rw [divides.whole, split_append divides.front (congrArg Prod.fst rest), rest]

theorem isSign_iff {c : Char} : isSign c = true ↔ c = '#' ∨ c = '.' := by
  simp [isSign]

theorem partsAfter_cons (sign mark : Char) (text : List Char) (parts : List (Char × List Char)) :
    partsAfter sign ((mark, text) :: parts) =
      (if mark = sign ∧ text ≠ [] then [.ofList text] else []) ++ partsAfter sign parts := by
  by_cases counts : mark = sign ∧ text ≠ []
  · simp [partsAfter, counts]
  · have ignored : (decide (mark = sign) && !text.isEmpty) = false := by
      simpa using counts
    simp [partsAfter, counts, ignored]

/-- No part is an identity or a class exactly if nothing stands behind any sign. -/
theorem partsAfter_eq_nil_iff {parts : List (Char × List Char)}
    (signs : ∀ part ∈ parts, isSign part.1 = true) :
    partsAfter '#' parts = [] ∧ partsAfter '.' parts = [] ↔ ∀ part ∈ parts, part.2 = [] := by
  induction parts with
  | nil => simp [partsAfter]
  | cons part parts ih =>
    obtain ⟨mark, text⟩ := part
    obtain ⟨sign, later⟩ := List.forall_mem_cons.mp signs
    simp only [partsAfter_cons, List.append_eq_nil_iff, List.forall_mem_cons, ← ih later]
    rcases isSign_iff.mp sign with rfl | rfl <;> by_cases empty : text = [] <;> simp [empty]

theorem forall_isSign_iff_of_unsigned {cs : List Char} (unsigned : ∀ c ∈ cs, isSign c = false) :
    (∀ c ∈ cs, isSign c = true) ↔ cs = [] := by
  cases cs with
  | nil => simp
  | cons c cs =>
    have first := unsigned c List.mem_cons_self
    simp [first]

/-- A text has nothing but signs exactly if its division has no texts. -/
theorem Divides.forall_isSign_iff {text front : List Char} {parts : List (Char × List Char)}
    (divides : Divides text front parts) :
    (∀ c ∈ text, isSign c = true) ↔ front = [] ∧ ∀ part ∈ parts, part.2 = [] := by
  have part_iff : ∀ part ∈ parts, (∀ c ∈ part.1 :: part.2, isSign c = true) ↔ part.2 = [] := by
    intro part member
    rw [List.forall_mem_cons, forall_isSign_iff_of_unsigned (divides.parts part member)]
    simp [divides.signs part member]
  rw [divides.whole, List.forall_mem_append, forall_isSign_iff_of_unsigned divides.front,
    List.forall_mem_flatMap]
  exact and_congr_right fun _ => forall₂_congr part_iff

/-! ## Expansions of divided names -/

section

variable {name : String} {front : List Char} {parts : List (Char × List Char)}

theorem Divides.expand_eq_empty_iff (divides : Divides name.toList front parts) :
    expand name = .error .empty ↔ ∀ c ∈ name.toList, c = '#' ∨ c = '.' := by
  have signs : (∀ c ∈ name.toList, c = '#' ∨ c = '.') ↔
      front = [] ∧ partsAfter '#' parts = [] ∧ partsAfter '.' parts = [] := by
    rw [partsAfter_eq_nil_iff divides.signs, ← divides.forall_isSign_iff]
    simp [isSign]
  rw [signs, expand, divides.split_eq]
  dsimp only
  split
  · next ids => simp [ids]
  · next ids => simp [ids]
  · next ids => simp [ids]

theorem Divides.expand_eq_repeatedId_iff (divides : Divides name.toList front parts) :
    expand name = .error .repeatedId ↔ 2 ≤ (partsAfter '#' parts).length := by
  rw [expand, divides.split_eq]
  dsimp only
  split
  · next ids => simp [ids]
  · next ids => simp [ids]
  · next ids =>
    rw [ids]
    split <;> simp

theorem Divides.expand_eq_ok (divides : Divides name.toList front parts)
    (some : ¬∀ c ∈ name.toList, c = '#' ∨ c = '.') (single : (partsAfter '#' parts).length < 2) :
    expand name = .ok ⟨if front = [] then defaultTag else .ofList front,
      (partsAfter '#' parts).head?, partsAfter '.' parts⟩ := by
  rw [← divides.expand_eq_empty_iff, expand, divides.split_eq] at some
  rw [expand, divides.split_eq]
  dsimp only at some ⊢
  split
  · next ids =>
    rw [ids, List.length_cons, List.length_cons] at single
    omega
  · next ids => simp [ids]
  · next ids =>
    split
    · next nothing => simp [ids, nothing] at some
    · simp [ids]

end

/-! ## Reading by byte offsets -/

/-- The text up to a byte offset and the text from there on, unless the offset is within a
character or beyond the end. -/
def cutAt? (offset : Nat) : List Char → Option (List Char × List Char)
  | [] => if offset = 0 then some ([], []) else none
  | c :: cs =>
    if offset = 0 then some ([], c :: cs)
    else if c.utf8Size ≤ offset then
      (cutAt? (offset - c.utf8Size) cs).map fun (front, rest) => (c :: front, rest)
    else none

theorem cutAt?_append (front rest : List Char) :
    cutAt? (Piece.size front) (front ++ rest) = some (front, rest) := by
  induction front with
  | nil => cases rest <;> rfl
  | cons c front ih =>
    have some : Piece.size (c :: front) ≠ 0 := (Piece.size_pos (by simp)).ne'
    have fits : c.utf8Size ≤ Piece.size (c :: front) := by simp
    have left : Piece.size (c :: front) - c.utf8Size = Piece.size front := by simp
    rw [List.cons_append, cutAt?, if_neg some, if_pos fits, left, ih]
    rfl

/-- A text is cut exactly where a front of it ends. -/
theorem cutAt?_eq_some_iff {offset : Nat} {cs front rest : List Char} :
    cutAt? offset cs = some (front, rest) ↔ cs = front ++ rest ∧ Piece.size front = offset := by
  constructor
  · intro cut
    induction cs generalizing offset front with
    | nil =>
      simp only [cutAt?, Option.ite_none_right_eq_some, Option.some.injEq] at cut
      obtain ⟨rfl, rfl, rfl⟩ := cut
      exact ⟨rfl, rfl⟩
    | cons c cs ih =>
      rw [cutAt?] at cut
      split at cut
      · next start =>
        obtain ⟨rfl, rfl⟩ := Prod.mk.inj (Option.some.inj cut)
        exact ⟨rfl, start.symm⟩
      · split at cut
        · next fits =>
          obtain ⟨⟨front', rest'⟩, cut', same⟩ := Option.map_eq_some_iff.mp cut
          obtain ⟨rfl, rfl⟩ := Prod.mk.inj same
          obtain ⟨rfl, size⟩ := ih cut'
          refine ⟨rfl, ?_⟩
          rw [Piece.size_cons]
          omega
        · cases cut
  · rintro ⟨rfl, rfl⟩
    exact cutAt?_append front rest

/-- Cuts a text in front of its first sign, or at its end if there is no sign. -/
def cutAtSign? (cs : List Char) : Option (List Char × List Char) :=
  cutAt? (Piece.size (cs.takeWhile fun c => !isSign c)) cs

/-- The text behind a sign and what follows the text. A sign is a single byte. -/
def cutPart? (cs : List Char) : Option (List Char × List Char) :=
  (cutAt? 1 cs).bind fun (_, body) => cutAtSign? body

theorem length_cutPart?_lt {cs part rest : List Char} (cut : cutPart? cs = some (part, rest)) :
    rest.length < cs.length := by
  obtain ⟨⟨sign, body⟩, cut', cut''⟩ := Option.bind_eq_some_iff.mp cut
  obtain ⟨rfl, size⟩ := cutAt?_eq_some_iff.mp cut'
  obtain ⟨rfl, -⟩ := cutAt?_eq_some_iff.mp cut''
  have some : sign ≠ [] := by
    rintro rfl
    cases size
  have := List.length_pos_iff.mpr some
  simp only [List.length_append]
  omega

/-- Takes the parts of a name one after the other, where an identity and classes have been found
already. -/
def readParts? (id : Option String) (classes : List String) (rest : List Char) :
    Option (Except ShorthandError (Option String × List String)) :=
  match rest with
  | [] => some (.ok (id, classes))
  | sign :: cs =>
    match cut : cutPart? (sign :: cs) with
    | none => none
    | some (part, rest) =>
      if part.isEmpty then readParts? id classes rest
      else if sign = '#' then
        if id.isSome then some (.error .repeatedId)
        else readParts? (some (.ofList part)) classes rest
      else readParts? id (classes ++ [.ofList part]) rest
termination_by rest.length
decreasing_by all_goals exact length_cutPart?_lt cut

/-- Expands a name by cutting it at byte offsets. Nothing comes of it if an offset is within a
character. -/
def expandByOffsets? (name : String) : Option (Except ShorthandError Shorthand) := do
  let (tag, rest) ← cutAtSign? name.toList
  match ← readParts? none [] rest with
  | .error reason => some (.error reason)
  | .ok (id, classes) =>
    if tag.isEmpty && id.isNone && classes.isEmpty then some (.error .empty)
    else some (.ok ⟨if tag.isEmpty then defaultTag else .ofList tag, id, classes⟩)

/-- What the parts of a name come to behind an identity and classes that have been found already. -/
def gather (id : Option String) (classes : List String) (parts : List (Char × List Char)) :
    Except ShorthandError (Option String × List String) :=
  match id.toList ++ partsAfter '#' parts with
  | _ :: _ :: _ => .error .repeatedId
  | ids => .ok (ids.head?, classes ++ partsAfter '.' parts)

theorem gather_cons {sign : Char} (isSign : isSign sign = true) (id : Option String)
    (classes : List String) (text : List Char) (parts : List (Char × List Char)) :
    gather id classes ((sign, text) :: parts) =
      if text.isEmpty then gather id classes parts
      else if sign = '#' then
        if id.isSome then .error .repeatedId else gather (some (.ofList text)) classes parts
      else gather id (classes ++ [.ofList text]) parts := by
  cases text with
  | nil => simp [gather, partsAfter_cons]
  | cons c text =>
    rcases isSign_iff.mp isSign with rfl | rfl
    · cases id <;> simp [gather, partsAfter_cons]
    · simp [gather, partsAfter_cons]

theorem cutAtSign?_append {front rest : List Char} (unsigned : ∀ c ∈ front, isSign c = false)
    (starts : ∀ c ∈ rest.head?, isSign c = true) :
    cutAtSign? (front ++ rest) = some (front, rest) := by
  have taken : (front ++ rest).takeWhile (fun c => !isSign c) = front :=
    takeWhile_append_of_stop (by simpa using unsigned) (by simpa using starts)
  rw [cutAtSign?, taken, cutAt?_append]

/-- Behind a front without signs there is a sign or nothing. -/
theorem head?_flatMap {parts : List (Char × List Char)}
    (signs : ∀ part ∈ parts, isSign part.1 = true) :
    ∀ c ∈ (parts.flatMap fun part => part.1 :: part.2).head?, isSign c = true := by
  cases parts with
  | nil => simp
  | cons part parts => simpa using signs part List.mem_cons_self

theorem cutPart?_cons {sign : Char} {text rest : List Char} (isSign : isSign sign = true)
    (unsigned : ∀ c ∈ text, Shorthand.isSign c = false)
    (starts : ∀ c ∈ rest.head?, Shorthand.isSign c = true) :
    cutPart? (sign :: (text ++ rest)) = some (text, rest) := by
  have size : Piece.size [sign] = 1 := by
    rcases isSign_iff.mp isSign with rfl | rfl <;> rfl
  have cut : cutAt? 1 (sign :: (text ++ rest)) = some ([sign], text ++ rest) :=
    size ▸ cutAt?_append [sign] (text ++ rest)
  rw [cutPart?, cut]
  exact cutAtSign?_append unsigned starts

/-- No cut fails where the parts of a name are read. -/
theorem readParts?_flatMap {parts : List (Char × List Char)}
    (signs : ∀ part ∈ parts, isSign part.1 = true)
    (unsigned : ∀ part ∈ parts, ∀ c ∈ part.2, isSign c = false)
    (id : Option String) (classes : List String) :
    readParts? id classes (parts.flatMap fun part => part.1 :: part.2) =
      some (gather id classes parts) := by
  induction parts generalizing id classes with
  | nil =>
    rw [List.flatMap_nil, readParts?]
    cases id <;> simp [gather, partsAfter]
  | cons part parts ih =>
    obtain ⟨sign, text⟩ := part
    obtain ⟨isSign, signs⟩ := List.forall_mem_cons.mp signs
    obtain ⟨here, later⟩ := List.forall_mem_cons.mp unsigned
    have cut := cutPart?_cons isSign here (head?_flatMap signs)
    rw [List.flatMap_cons, List.cons_append, readParts?]
    split
    · next failed =>
      rw [cut] at failed
      cases failed
    · next part rest cut' =>
      rw [cut] at cut'
      obtain ⟨rfl, rfl⟩ := Prod.mk.inj (Option.some.inj cut')
      rw [gather_cons isSign]
      simp only [ih signs later]
      split_ifs <;> rfl

/-- Every cut that expanding a name makes is between two characters. -/
theorem expandByOffsets?_eq (name : String) : expandByOffsets? name = some (expand name) := by
  have divides := divides_split name.toList
  have cut : cutAtSign? name.toList = some ((split name.toList).1,
      (split name.toList).2.flatMap fun part => part.1 :: part.2) := by
    conv => lhs; rw [divides.whole]
    exact cutAtSign?_append divides.front (head?_flatMap divides.signs)
  rw [expandByOffsets?, cut, expand]
  simp only [Option.bind_eq_bind, Option.bind_some,
    readParts?_flatMap divides.signs divides.parts, gather, Option.toList_none, List.nil_append]
  rcases partsAfter '#' (split name.toList).2 with _ | ⟨id, _ | ⟨second, more⟩⟩
  · simp only [List.head?_nil, Option.isNone_none, Bool.and_true]
    split <;> rfl
  · simp
  · rfl

/-! ## Canonical texts -/

/-- The tag, the identity behind its sign and the classes behind theirs. -/
def text (s : Shorthand) : String :=
  s.tag ++ (s.id.elim "" ("#" ++ ·)) ++ String.join (s.classes.map ("." ++ ·))

/-- The parts of the canonical text. -/
def parts (s : Shorthand) : List (Char × List Char) :=
  (s.id.toList.map fun id => ('#', id.toList)) ++ s.classes.map fun c => ('.', c.toList)

/-- The tag, the identity and the classes are texts without signs, and none of them is empty. -/
structure Plain (s : Shorthand) : Prop where
  tag : s.tag ≠ "" ∧ ∀ c ∈ s.tag.toList, isSign c = false
  id : ∀ id ∈ s.id, id ≠ "" ∧ ∀ c ∈ id.toList, isSign c = false
  classes : ∀ name ∈ s.classes, name ≠ "" ∧ ∀ c ∈ name.toList, isSign c = false

variable {s : Shorthand}

theorem Plain.divides (plain : s.Plain) : Divides s.text.toList s.tag.toList s.parts where
  whole := by
    simp only [text, String.toList_append, parts, List.flatMap_append, List.append_assoc]
    rcases s.id with _ | id <;> simp [String.toList_join, List.flatMap_map]
  front := plain.tag.2
  signs := by
    intro part member
    rcases List.mem_append.mp member with identity | kind
    · obtain ⟨id, -, rfl⟩ := List.mem_map.mp identity
      rfl
    · obtain ⟨name, -, rfl⟩ := List.mem_map.mp kind
      rfl
  parts := by
    intro part member
    rcases List.mem_append.mp member with identity | kind
    · obtain ⟨id, inside, rfl⟩ := List.mem_map.mp identity
      exact (plain.id id (Option.mem_toList.mp inside)).2
    · obtain ⟨name, inside, rfl⟩ := List.mem_map.mp kind
      exact (plain.classes name inside).2

theorem partsAfter_append (sign : Char) (front rest : List (Char × List Char)) :
    partsAfter sign (front ++ rest) = partsAfter sign front ++ partsAfter sign rest := by
  simp [partsAfter]

theorem partsAfter_map (sign mark : Char) {texts : List String} (some : ∀ t ∈ texts, t ≠ "") :
    partsAfter sign (texts.map fun t => (mark, t.toList)) = if mark = sign then texts else [] := by
  induction texts with
  | nil => simp [partsAfter]
  | cons t texts ih =>
    obtain ⟨here, later⟩ := List.forall_mem_cons.mp some
    rw [List.map_cons, partsAfter_cons, ih later]
    split_ifs <;> simp_all

theorem Plain.partsAfter_parts (plain : s.Plain) :
    partsAfter '#' s.parts = s.id.toList ∧ partsAfter '.' s.parts = s.classes := by
  have ids : ∀ id ∈ s.id.toList, id ≠ "" := fun id inside =>
    (plain.id id (Option.mem_toList.mp inside)).1
  have classes : ∀ name ∈ s.classes, name ≠ "" := fun name inside => (plain.classes name inside).1
  simp [parts, partsAfter_append, partsAfter_map _ _ ids, partsAfter_map _ _ classes]

/-- The canonical text stands for what it is the text of. -/
theorem Plain.expand_text (plain : s.Plain) : expand s.text = .ok s := by
  obtain ⟨ids, classes⟩ := plain.partsAfter_parts
  have tag : s.tag.toList ≠ [] := by simpa using plain.tag.1
  have some : ¬∀ c ∈ s.text.toList, c = '#' ∨ c = '.' := fun all =>
    tag (plain.divides.forall_isSign_iff.mp fun c member => isSign_iff.mpr (all c member)).1
  have single : (partsAfter '#' s.parts).length < 2 := by
    rw [ids]
    cases s.id <;> simp
  rw [plain.divides.expand_eq_ok some single, if_neg tag, ids, classes, String.ofList_toList,
    Option.head?_toList]

theorem plain_of_expand {name : String} (expanded : expand name = .ok s) : s.Plain := by
  have divides := divides_split name.toList
  have some : ¬∀ c ∈ name.toList, c = '#' ∨ c = '.' := by
    rw [← divides.expand_eq_empty_iff, expanded]
    simp
  have single : (partsAfter '#' (split name.toList).2).length < 2 := by
    rw [← not_le, ← divides.expand_eq_repeatedId_iff, expanded]
    simp
  rw [divides.expand_eq_ok some single] at expanded
  obtain rfl := Except.ok.inj expanded
  have behind : ∀ {sign : Char} {part : String}, part ∈ partsAfter sign (split name.toList).2 →
      part ≠ "" ∧ ∀ c ∈ part.toList, isSign c = false := fun member =>
    ⟨ne_empty_of_mem_partsAfter member, fun c inside => (mem_partsAfter member c inside).2⟩
  refine ⟨?_, fun id first => behind (List.mem_of_mem_head? first),
    fun name member => behind member⟩
  dsimp only
  split
  · exact ⟨by decide, by simp [defaultTag, isSign]⟩
  · next tag => exact ⟨by simpa using tag, by simpa using divides.front⟩

/-- A name has one division, and it says what the expansion of the name is; the canonical text of
the expansion is expanded to the same. However the name is encoded, no cut is within a character. -/
theorem expand_of_division (name : String) :
    ∃ front parts,
      (Divides name.toList front parts ∧ ∀ front' parts', Divides name.toList front' parts' →
        front' = front ∧ parts' = parts) ∧
      (expand name = .error .empty ↔ ∀ c ∈ name.toList, c = '#' ∨ c = '.') ∧
      (expand name = .error .repeatedId ↔ 2 ≤ (partsAfter '#' parts).length) ∧
      ((¬∀ c ∈ name.toList, c = '#' ∨ c = '.') → (partsAfter '#' parts).length < 2 →
        expand name = .ok ⟨if front = [] then "div" else .ofList front,
          (partsAfter '#' parts).head?, partsAfter '.' parts⟩) ∧
      expandByOffsets? name = some (expand name) ∧
      ∀ s, expand name = .ok s → expand s.text = .ok s := by
  have divides := divides_split name.toList
  refine ⟨_, _, ⟨divides, fun front' parts' divides' => ?_⟩, divides.expand_eq_empty_iff,
    divides.expand_eq_repeatedId_iff, divides.expand_eq_ok, expandByOffsets?_eq name,
    fun s expanded => (plain_of_expand expanded).expand_text⟩
  have same := divides'.split_eq
  rw [same]
  exact ⟨rfl, rfl⟩

end HtmlTemplate.Shorthand
