import HtmlTemplate.Html.Tag
import HtmlTemplate.Proofs.Entries
import HtmlTemplate.Proofs.Html.Escape
import HtmlTemplate.Proofs.Text.Lowercase

/-!
# The pieces of a page

A page as a forest of pieces, written one after the other: text, document types, elements without
content, and elements whose content is again such a forest between two tags of one name. Texts and
values stand in a piece as they are written, so whether one can break out of its place is a property
of the piece (`Item.Safe`).
-/

set_option autoImplicit false

namespace HtmlTemplate.Html

inductive Item
  | text (written : String)
  | doctype (kind : String)
  | void (name : String) (attributes : Entries String)
  | element (name : String) (attributes : Entries String) (inner : List Item)

/-- Attributes as they stand in a tag, with values as they are written. -/
def writtenAttributes : Entries String → String
  | [] => ""
  | (key, value) :: rest => " " ++ key ++ "=\"" ++ value ++ "\"" ++ writtenAttributes rest

namespace Item

mutual

def html : Item → String
  | text written => written
  | doctype kind => "<!DOCTYPE " ++ kind ++ ">"
  | void name attributes => "<" ++ name ++ writtenAttributes attributes ++ " />"
  | element name attributes inner =>
    "<" ++ name ++ writtenAttributes attributes ++ ">" ++ htmlAll inner ++ "</" ++ name ++ ">"

/-- The pieces written one after the other. -/
def htmlAll : List Item → String
  | [] => ""
  | item :: rest => item.html ++ htmlAll rest

end

end Item

/-- The text can be a name or a key in a tag: nothing in it ends one. -/
def IsMarkupName (text : String) : Prop :=
  ∀ c ∈ text.toList, Text.IsUnmarked c

def SafeAttributes (attributes : Entries String) : Prop :=
  ∀ entry ∈ attributes, IsMarkupName entry.1 ∧ IsEscaped entry.2.toList

namespace Item

mutual

/-- No text, key or value in the piece breaks out of its place. -/
def Safe : Item → Prop
  | text written => IsEscaped written.toList
  | doctype _ => True
  | void name attributes => IsMarkupName name ∧ SafeAttributes attributes
  | element name attributes inner =>
    IsMarkupName name ∧ SafeAttributes attributes ∧ AllSafe inner

def AllSafe : List Item → Prop
  | [] => True
  | item :: rest => item.Safe ∧ AllSafe rest

end

theorem htmlAll_append (first second : List Item) :
    htmlAll (first ++ second) = htmlAll first ++ htmlAll second := by
  induction first with
  | nil => simp [htmlAll]
  | cons item rest ih => simp only [List.cons_append, htmlAll, ih, String.append_assoc]

theorem allSafe_append {first second : List Item} :
    AllSafe (first ++ second) ↔ AllSafe first ∧ AllSafe second := by
  induction first with
  | nil => simp [AllSafe]
  | cons item rest ih => simp only [List.cons_append, AllSafe, ih, and_assoc]

end Item

/-! ## What elements are written as -/

/-- Attributes with their values escaped. -/
def escapedAttributes (entries : Entries String) : Entries String :=
  entries.map fun entry => (entry.1, escape entry.2)

theorem attributesText_eq (entries : Entries String) :
    Tag.attributesText entries = writtenAttributes (escapedAttributes entries) := by
  induction entries with
  | nil => rfl
  | cons entry rest ih =>
    simp only [escapedAttributes, List.map_cons] at ih ⊢
    rw [Tag.attributesText, writtenAttributes, ih]

theorem Tag.renderSelfClosing_eq (tag : Tag) :
    tag.renderSelfClosing = (Item.void tag.name (escapedAttributes tag.attributes)).html := by
  rw [renderSelfClosing, opening, attributesText_eq, Item.html]

theorem Tag.render_eq {tag : Tag} {inner : List Item} (content : tag.content = Item.htmlAll inner) :
    tag.render = (Item.element tag.name (escapedAttributes tag.attributes) inner).html := by
  rw [render, opening, attributesText_eq, Item.html, content]

/-- The value written under a key is read as what was set. -/
theorem find?_escapedAttributes (entries : Entries String) (key : String) :
    (Entries.find? (escapedAttributes entries) key).map decode = Entries.find? entries key := by
  have reads : decode ∘ escape = id := funext decode_escape
  rw [escapedAttributes, Entries.find?_map, Option.map_map, reads, Option.map_id_fun, id]

theorem safe_escapedAttributes {entries : Entries String}
    (names : ∀ key ∈ Entries.keys entries, IsMarkupName key) :
    SafeAttributes (escapedAttributes entries) := by
  intro written member
  obtain ⟨entry, inside, rfl⟩ := List.mem_map.mp member
  exact ⟨names entry.1 (List.mem_map_of_mem inside), isEscaped_escape entry.2⟩

end HtmlTemplate.Html
