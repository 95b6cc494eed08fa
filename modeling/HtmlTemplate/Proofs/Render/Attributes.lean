import HtmlTemplate.Proofs.Entries
import HtmlTemplate.Proofs.Outcome
import HtmlTemplate.Render.Element

/-!
# The attributes of a rendered element

Which text stands under a key of an element, said of each key on its own: the classes of all
attributes that are classes, with blanks between them, and for any other key the text of the last
attribute that has one. Putting attributes on an element one after the other comes to these texts.
-/

set_option autoImplicit false

namespace HtmlTemplate

namespace Attribute

def isClass (a : Attribute) : Bool :=
  Text.sameIgnoringAsciiCase a.key "class"

/-- The classes that an attribute bound to a value adds, if there are any. -/
def classText (value : Value) : Option String :=
  match value with
  | .null | .bool false => none
  | value => if (Text.trim value.text).isEmpty then none else some (Text.trim value.text)

/-- The text that an attribute bound to a value has under its own key, if it has any. -/
def ownText (a : Attribute) : Value → Option String
  | .bool true => some a.key
  | .bool false => none
  | .null => if a.kind = .keyword then none else some ""
  | value => some value.text

end Attribute

/-- The classes that bound attributes add. -/
def boundClasses (bound : List (Attribute × Value)) : List String :=
  bound.filterMap fun p => if p.1.isClass then Attribute.classText p.2 else none

/-- The texts that bound attributes have under a key that is not that of the classes. -/
def boundTexts (bound : List (Attribute × Value)) (key : String) : List String :=
  bound.filterMap fun p => if p.1.isClass = false ∧ p.1.key = key then p.1.ownText p.2 else none

/-- The text under a key of an element with bound attributes. -/
def boundText (bound : List (Attribute × Value)) (key : String) : Option String :=
  if key = "class" then
    if boundClasses bound = [] then none else some (" ".intercalate (boundClasses bound))
  else (boundTexts bound key).getLast?

/-- The attributes with the values that they are bound to. -/
structure Binders.Bound (binders : Binders) (model : Value) (attributes : List Attribute)
    (bound : List (Attribute × Value)) : Prop where
  attributes_eq : bound.map (·.1) = attributes
  values : ∀ p ∈ bound, binders.bind model p.1.kind p.1.text = .ok p.2

/-- Attributes are bound in one way only. -/
theorem Binders.Bound.unique {binders : Binders} {model : Value} {attributes : List Attribute}
    {bound bound' : List (Attribute × Value)} (binds : binders.Bound model attributes bound)
    (binds' : binders.Bound model attributes bound') : bound = bound' := by
  obtain ⟨same, values⟩ := binds
  obtain ⟨same', values'⟩ := binds'
  induction bound generalizing attributes bound' with
  | nil =>
    subst same
    exact (List.map_eq_nil_iff.mp same').symm
  | cons p bound ih =>
    subst same
    cases bound' with
    | nil => cases same'
    | cons p' bound' =>
      obtain ⟨a, value⟩ := p
      obtain ⟨a', value'⟩ := p'
      obtain ⟨first, later⟩ := List.cons.inj same'
      obtain rfl : a' = a := first
      obtain ⟨here, more⟩ := List.forall_mem_cons.mp values
      obtain ⟨here', more'⟩ := List.forall_mem_cons.mp values'
      obtain rfl := Except.ok.inj (here.symm.trans here')
      rw [ih rfl more later more']

/-- Attributes that stand behind others are bound behind them. -/
theorem Binders.Bound.append {binders : Binders} {model : Value}
    {attributes attributes' : List Attribute} {bound bound' : List (Attribute × Value)}
    (binds : binders.Bound model attributes bound)
    (binds' : binders.Bound model attributes' bound') :
    binders.Bound model (attributes ++ attributes') (bound ++ bound') where
  attributes_eq := by rw [List.map_append, binds.attributes_eq, binds'.attributes_eq]
  values := List.forall_mem_append.mpr ⟨binds.values, binds'.values⟩

/-- The entries hold what bound attributes come to. -/
structure Carries (entries : Entries String) (bound : List (Attribute × Value)) : Prop where
  once : (Entries.keys entries).Nodup
  texts : ∀ key, Entries.find? entries key = boundText bound key

theorem carries_nil : Carries [] [] where
  once := by simp [Entries.keys]
  texts := by simp [boundText, boundClasses, boundTexts]

theorem key_ne_class {key : String} (other : Text.sameIgnoringAsciiCase key "class" = false) :
    key ≠ "class" := by
  rintro rfl
  exact absurd other (by decide)

namespace Html.Tag

theorem addBoundClass_eq (tag : Tag) (value : Value) :
    tag.addBoundClass value =
      match Attribute.classText value with
      | none => tag
      | some classes =>
        { tag with attributes := tag.attributes.alter "class" (joinClasses classes) } := by
  unfold addBoundClass Attribute.classText
  split
  · rfl
  · rfl
  · simp only [addClass]
    split <;> rfl

theorem setBound_eq (tag : Tag) (a : Attribute) (value : Value) :
    tag.setBound a.key a.kind value =
      match a.ownText value with
      | none => tag
      | some text => tag.setAttribute a.key text := by
  cases value with
  | null =>
    simp only [setBound, Attribute.ownText]
    split <;> rfl
  | bool b => cases b <;> rfl
  | _ => rfl

end Html.Tag

/-! ## One attribute -/

theorem boundClasses_append (bound : List (Attribute × Value)) (a : Attribute) (value : Value) :
    boundClasses (bound ++ [(a, value)]) = boundClasses bound ++
      (if a.isClass then Attribute.classText value else none).toList := by
  rw [boundClasses, List.filterMap_append]
  cases classes : if a.isClass then Attribute.classText value else none <;>
    simp [boundClasses, classes]

theorem boundTexts_append (bound : List (Attribute × Value)) (a : Attribute) (value : Value)
    (key : String) :
    boundTexts (bound ++ [(a, value)]) key = boundTexts bound key ++
      (if a.isClass = false ∧ a.key = key then a.ownText value else none).toList := by
  rw [boundTexts, List.filterMap_append]
  cases text : if a.isClass = false ∧ a.key = key then a.ownText value else none <;>
    simp [boundTexts, text]

/-- Classes are a text without the blanks around it, and something is left of it. -/
theorem exists_trim_of_mem_boundClasses {bound : List (Attribute × Value)} {classes : String}
    (member : classes ∈ boundClasses bound) :
    ∃ text, classes = Text.trim text ∧ (Text.trim text).isEmpty = false := by
  simp only [boundClasses, List.mem_filterMap, Option.ite_none_right_eq_some] at member
  obtain ⟨⟨a, value⟩, -, -, adds⟩ := member
  unfold Attribute.classText at adds
  split at adds
  · cases adds
  · cases adds
  · split at adds
    · cases adds
    · next nonempty =>
      exact ⟨value.text, (Option.some.inj adds).symm, Bool.eq_false_iff.mpr nonempty⟩

/-- Classes are never blank. -/
theorem ne_empty_of_mem_boundClasses {bound : List (Attribute × Value)} {text : String}
    (member : text ∈ boundClasses bound) : text.isEmpty = false := by
  obtain ⟨whole, rfl, nonempty⟩ := exists_trim_of_mem_boundClasses member
  exact nonempty

theorem isEmpty_intercalate_boundClasses {bound : List (Attribute × Value)}
    (some : boundClasses bound ≠ []) : (" ".intercalate (boundClasses bound)).isEmpty = false := by
  have nonempty : ∀ text ∈ boundClasses bound, text.isEmpty = false := fun _ =>
    ne_empty_of_mem_boundClasses
  cases whole : boundClasses bound with
  | nil => exact (some whole).elim
  | cons first rest =>
    have first' := nonempty first (by simp [whole])
    cases rest with
    | nil => simpa using first'
    | cons second rest => simp [String.intercalate_cons_cons]

theorem carries_addBoundClass {bound : List (Attribute × Value)} {tag : Html.Tag}
    (carries : Carries tag.attributes bound) {a : Attribute} (isClass : a.isClass = true)
    (value : Value) :
    Carries (tag.addBoundClass value).attributes (bound ++ [(a, value)]) := by
  rw [Html.Tag.addBoundClass_eq]
  cases classes : Attribute.classText value with
  | none =>
    refine ⟨carries.once, fun key => ?_⟩
    simp [carries.texts, boundText, boundClasses_append, boundTexts_append, isClass, classes]
  | some added =>
    refine ⟨Entries.nodup_keys_alter carries.once, fun key => ?_⟩
    rw [Entries.find?_alter, carries.texts, carries.texts]
    by_cases same : key = "class"
    · simp only [boundText, same, boundClasses_append, isClass, classes, if_pos,
        Option.toList_some]
      by_cases first : boundClasses bound = []
      · simp [first, Html.Tag.joinClasses]
      · have earlier := isEmpty_intercalate_boundClasses first
        have more : ([added] : List String) ≠ [] := by simp
        simp [first, Html.Tag.joinClasses, earlier,
          String.intercalate_append_of_ne_nil first more]
    · simp [boundText, same, boundTexts_append, isClass]

theorem carries_setBound {bound : List (Attribute × Value)} {tag : Html.Tag}
    (carries : Carries tag.attributes bound) {a : Attribute} (other : a.isClass = false)
    (value : Value) :
    Carries (tag.setBound a.key a.kind value).attributes (bound ++ [(a, value)]) := by
  have key_ne : a.key ≠ "class" := key_ne_class other
  rw [Html.Tag.setBound_eq]
  cases own : a.ownText value with
  | none =>
    refine ⟨carries.once, fun key => ?_⟩
    simp [carries.texts, boundText, boundClasses_append, boundTexts_append, other, own]
  | some text =>
    refine ⟨Entries.nodup_keys_alter carries.once, fun key => ?_⟩
    simp only [Html.Tag.setAttribute, Entries.find?_insert, carries.texts]
    by_cases same : key = a.key
    · simp [boundText, same, key_ne, boundTexts_append, other, own]
    · have same' : a.key ≠ key := fun h => same h.symm
      simp [boundText, boundClasses_append, boundTexts_append, other, same, same']

/-- Putting one more bound attribute on an element. -/
theorem carries_addBound {bound : List (Attribute × Value)} {tag : Html.Tag}
    (carries : Carries tag.attributes bound) (a : Attribute) (value : Value) :
    Carries (tag.addBound a.key a.kind value).attributes (bound ++ [(a, value)]) := by
  cases isClass : a.isClass with
  | true =>
    have added : tag.addBound a.key a.kind value = tag.addBoundClass value := if_pos isClass
    rw [added]
    exact carries_addBoundClass carries isClass value
  | false =>
    have set : tag.addBound a.key a.kind value = tag.setBound a.key a.kind value :=
      if_neg (Bool.eq_false_iff.mp isClass)
    rw [set]
    exact carries_setBound carries isClass value

/-! ## All attributes -/

/-- Attributes change neither the name nor the content of an element. -/
theorem addBound_frame (tag : Html.Tag) (a : Attribute) (value : Value) :
    (tag.addBound a.key a.kind value).name = tag.name ∧
      (tag.addBound a.key a.kind value).content = tag.content := by
  unfold Html.Tag.addBound
  split
  · rw [Html.Tag.addBoundClass_eq]
    split <;> exact ⟨rfl, rfl⟩
  · rw [Html.Tag.setBound_eq]
    split <;> exact ⟨rfl, rfl⟩

/-- An element with all of its attributes, where `bound` have been put on it before. -/
theorem carries_addAttributes (binders : Binders) (model : Value) :
    ∀ (attributes : List Attribute) {tag tag' : Html.Tag} {bound : List (Attribute × Value)},
      Carries tag.attributes bound → binders.addAttributes model tag attributes = .ok tag' →
      ∃ more, binders.Bound model attributes more ∧ Carries tag'.attributes (bound ++ more) ∧
        tag'.name = tag.name ∧ tag'.content = tag.content
  | [], tag, tag', bound, carries, added => by
    obtain rfl := Except.ok.inj added
    exact ⟨[], ⟨rfl, by simp⟩, by simpa using carries, rfl, rfl⟩
  | a :: attributes, tag, tag', bound, carries, added => by
    rw [Binders.addAttributes, List.foldlM_cons, Except.bind_eq_ok_iff] at added
    obtain ⟨next, first, added'⟩ := added
    obtain ⟨value, resolved, put⟩ := Except.bind_eq_ok_iff.mp first
    obtain rfl := Except.ok.inj put
    obtain ⟨more, ⟨same, values⟩, carries', name, content⟩ :=
      carries_addAttributes binders model attributes (carries_addBound carries a value) added'
    have frame := addBound_frame tag a value
    refine ⟨(a, value) :: more, ⟨by simp [same], ?_⟩, by simpa using carries', ?_, ?_⟩
    · exact List.forall_mem_cons.mpr ⟨resolved, values⟩
    · rw [name, frame.1]
    · rw [content, frame.2]

/-- Attributes that are bound can be put on any element. -/
theorem exists_addAttributes_of_bound {binders : Binders} {model : Value}
    {attributes : List Attribute} {bound : List (Attribute × Value)}
    (binds : binders.Bound model attributes bound) (tag : Html.Tag) :
    ∃ tag', binders.addAttributes model tag attributes = .ok tag' := by
  obtain ⟨rfl, values⟩ := binds
  induction bound generalizing tag with
  | nil => exact ⟨tag, rfl⟩
  | cons p bound ih =>
    obtain ⟨here, later⟩ := List.forall_mem_cons.mp values
    obtain ⟨tag', added⟩ := ih (tag.addBound p.1.key p.1.kind p.2) later
    refine ⟨tag', ?_⟩
    rw [Binders.addAttributes, List.map_cons, List.foldlM_cons, here]
    exact added

/-- A key with a text is that of the classes, or that of an attribute that is no class. -/
theorem class_or_exists_of_boundText {bound : List (Attribute × Value)} {key : String}
    (some : boundText bound key ≠ none) :
    key = "class" ∨ ∃ p ∈ bound, p.1.isClass = false ∧ p.1.key = key := by
  obtain ⟨value, text⟩ := Option.ne_none_iff_exists'.mp some
  rw [boundText] at text
  split at text
  · next same => exact Or.inl same
  · right
    have last := List.mem_of_getLast? text
    simp only [boundTexts, List.mem_filterMap, Option.ite_none_right_eq_some] at last
    obtain ⟨p, listed, both, -⟩ := last
    exact ⟨p, listed, both⟩

/-- Every key of an element is that of the classes or of an attribute. -/
theorem Carries.mem_keys {entries : Entries String} {bound : List (Attribute × Value)}
    (carries : Carries entries bound) {key : String} (member : key ∈ Entries.keys entries) :
    key = "class" ∨ ∃ p ∈ bound, p.1.key = key := by
  have some : boundText bound key ≠ none := fun none =>
    Entries.find?_eq_none_iff.mp ((carries.texts key).trans none) member
  rcases class_or_exists_of_boundText some with same | ⟨p, listed, -, same⟩
  · exact Or.inl same
  · exact Or.inr ⟨p, listed, same⟩

end HtmlTemplate
