import HtmlTemplate.Proofs.Render.Attributes
import Mathlib.Data.List.Induction

/-!
# Attributes that are repeated

An attribute that is bound to false, or by a keyword to null, is passed over and takes nothing back.
So of several attributes with one key the last that is not passed over counts
(`Binders.attribute?_of_addAttributes`). That is the last attribute with the key, unless this one is
passed over and an earlier one is not: then the earlier one still shows
(`Binders.not_lastText_of_addAttributes`).
-/

set_option autoImplicit false

namespace HtmlTemplate

/-- The attributes with a key. -/
def withKey (bound : List (Attribute × Value)) (key : String) : List (Attribute × Value) :=
  bound.filter fun p => p.1.key = key

/-- The text of the last attribute with a key, if there is one and it is not passed over. -/
def lastText (bound : List (Attribute × Value)) (key : String) : Option String :=
  (withKey bound key).getLast?.bind fun p => p.1.ownText p.2

variable {bound : List (Attribute × Value)} {key : String}

theorem boundTexts_eq_filterMap_withKey (other : Text.sameIgnoringAsciiCase key "class" = false) :
    boundTexts bound key = (withKey bound key).filterMap fun p => p.1.ownText p.2 := by
  rw [boundTexts, withKey, List.filterMap_filter]
  refine List.filterMap_congr fun p _ => ?_
  by_cases same : p.1.key = key
  · have plain : p.1.isClass = false := by rw [Attribute.isClass, same, other]
    simp [same, plain]
  · simp [same]

/-- The last text of some elements is that of the last element, unless this one has none and there
is one before it. -/
theorem getLast?_filterMap_eq_iff {α β : Type} {text : α → Option β} {as : List α} :
    (as.filterMap text).getLast? = as.getLast?.bind text ↔
      (as.getLast?.bind text = none → as.filterMap text = []) := by
  rcases List.eq_nil_or_concat as with rfl | ⟨front, a, rfl⟩
  · simp
  · rw [List.concat_eq_append, List.filterMap_append]
    cases last : text a with
    | none => simp [last]
    | some b => simp [last]

/-- Under a key that is not that of the classes an element has the text of the last attribute with
the key that is not passed over. This is what the last attribute with the key says, exactly unless
that one is passed over and another is not. -/
theorem Binders.attribute?_of_addAttributes {binders : Binders} {model : Value} {name : String}
    {attributes : List Attribute} {tag : Html.Tag}
    (added : binders.addAttributes model (.new name) attributes = .ok tag) :
    ∃ bound, binders.Bound model attributes bound ∧
      ∀ key, Text.sameIgnoringAsciiCase key "class" = false →
        tag.attribute? key = (boundTexts bound key).getLast? ∧
        (tag.attribute? key = lastText bound key ↔
          (lastText bound key = none → boundTexts bound key = [])) := by
  obtain ⟨bound, binds, carries, -, -⟩ :=
    carries_addAttributes binders model attributes carries_nil added
  refine ⟨bound, binds, fun key other => ?_⟩
  have found : tag.attribute? key = (boundTexts bound key).getLast? := by
    rw [Html.Tag.attribute?, carries.texts, boundText, if_neg (key_ne_class other), List.nil_append]
  refine ⟨found, ?_⟩
  rw [found, boundTexts_eq_filterMap_withKey other]
  exact getLast?_filterMap_eq_iff

/-- The last title that is not passed over, and a flag that is taken back in vain. -/
theorem Binders.attribute?_of_addAttributes_flag :
    let attributes : List Attribute :=
      [⟨"title", .quoted, "a"⟩, ⟨"hidden", .keyword, "true"⟩, ⟨"title", .keyword, "null"⟩,
        ⟨"title", .quoted, "b"⟩, ⟨"hidden", .keyword, "false"⟩]
    let tag : Html.Tag := ⟨"p", [("title", "b"), ("hidden", "hidden")], ""⟩
    Binders.standard.addAttributes .null (.new "p") attributes = .ok tag ∧
      ∃ bound, Binders.standard.Bound .null attributes bound ∧
        ∀ key, Text.sameIgnoringAsciiCase key "class" = false →
          tag.attribute? key = (boundTexts bound key).getLast? ∧
          (tag.attribute? key = lastText bound key ↔
            (lastText bound key = none → boundTexts bound key = [])) := by
  intro attributes tag
  have added : Binders.standard.addAttributes .null (.new "p") attributes = .ok tag :=
    Except.toOption_eq_some_iff.mp (by decide +kernel)
  exact ⟨added, attribute?_of_addAttributes added⟩

/-- A later attribute that is false does not take back an earlier one that is true. -/
theorem Binders.not_lastText_of_addAttributes :
    ¬∀ (binders : Binders) (model : Value) (name : String) (attributes : List Attribute)
        (tag : Html.Tag), binders.addAttributes model (.new name) attributes = .ok tag →
      ∃ bound, binders.Bound model attributes bound ∧
        ∀ key, Text.sameIgnoringAsciiCase key "class" = false →
          tag.attribute? key = lastText bound key := by
  let on : Attribute := ⟨"disabled", .keyword, "true"⟩
  let off : Attribute := ⟨"disabled", .keyword, "false"⟩
  intro last
  have added : Binders.standard.addAttributes .null (.new "input") [on, off] =
      .ok ⟨"input", [("disabled", "disabled")], ""⟩ :=
    Except.toOption_eq_some_iff.mp (by decide +kernel)
  obtain ⟨bound, binds, texts⟩ := last _ _ _ _ _ added
  have first : Binders.standard.bind .null .keyword "true" = .ok (.bool true) := rfl
  have second : Binders.standard.bind .null .keyword "false" = .ok (.bool false) := rfl
  have expected : Binders.standard.Bound .null [on, off] [(on, .bool true), (off, .bool false)] :=
    ⟨rfl, List.forall_mem_cons.mpr ⟨first, List.forall_mem_singleton.mpr second⟩⟩
  have text := texts "disabled" (by decide)
  rw [binds.unique expected] at text
  cases text

end HtmlTemplate
