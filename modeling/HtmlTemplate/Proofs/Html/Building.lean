import HtmlTemplate.Html.Tag
import HtmlTemplate.Proofs.Entries
import Mathlib.Data.List.Induction

/-!
# What building an element comes to

An element is built by steps of four kinds, and every text of the element can be told from the list
of the steps alone (`Tag.ComesFrom`): its keys from the steps that first need them, a value from the
last step that sets it, the classes from the last step that sets them and those that add to them
after it, and the content from the texts in their order. Steps about attributes and steps about
content do not disturb one another.

The steps are read from the end of the list, as the last one decides.
-/

set_option autoImplicit false

namespace HtmlTemplate

/-- One more element is new among those that occur, or changes nothing. -/
theorem eraseDups_append_singleton {α : Type} [BEq α] [LawfulBEq α] (as : List α) (a : α) :
    (as ++ [a]).eraseDups = if a ∈ as then as.eraseDups else as.eraseDups ++ [a] := by
  rw [List.eraseDups_append]
  split
  · next member => simp [List.removeAll, member]
  · next new => simp [List.removeAll, new, List.eraseDups_cons]

namespace Html.Tag

/-- One step by which an element is built. -/
inductive Step
  | setAttribute (key value : String)
  | addClass (text : String)
  | appendText (text : String)
  | appendHtml (html : String)
deriving DecidableEq, Repr

namespace Step

def apply (tag : Tag) : Step → Tag
  | setAttribute key value => tag.setAttribute key value
  | addClass text => tag.addClass text
  | appendText text => tag.appendText text
  | appendHtml html => tag.appendHtml html

def isContent : Step → Bool
  | setAttribute .. | addClass _ => false
  | appendText _ | appendHtml _ => true

/-- The value that the step sets a key to. -/
def setting? (key : String) : Step → Option String
  | setAttribute k value => if k = key then some value else none
  | _ => none

/-- The classes that the step adds, without blanks around them. Blank text adds nothing. -/
def classes? : Step → Option String
  | addClass text => if (Text.trim text).isEmpty then none else some (Text.trim text)
  | _ => none

/-- The key that the element has by this step at the latest. -/
def key? : Step → Option String
  | setAttribute key _ => some key
  | step => step.classes?.map fun _ => "class"

/-- What the step adds to the content. -/
def written : Step → String
  | appendText text => escape text
  | appendHtml html => html
  | _ => ""

end Step

/-- The element that the steps build. -/
def built (name : String) (steps : List Step) : Tag :=
  steps.foldl Step.apply (.new name)

/-- The element is what the steps come to, each of its texts told from the list of the steps. -/
structure ComesFrom (tag : Tag) (name : String) (steps : List Step) : Prop where
  /-- The keys stand in the order in which the steps first need them, -/
  keys : Entries.keys tag.attributes = (steps.filterMap Step.key?).eraseDups
  /-- and none stands twice. -/
  once : (Entries.keys tag.attributes).Nodup
  /-- The last setting of a key counts. -/
  setting : ∀ key, key ≠ "class" →
    tag.attribute? key = (steps.filterMap (Step.setting? key)).getLast?
  /-- Classes that are never set are those that are added. -/
  unset : (∀ step ∈ steps, step.setting? "class" = none) →
    tag.attribute? "class" =
      if steps.filterMap Step.classes? = [] then none
      else some (" ".intercalate (steps.filterMap Step.classes?))
  /-- Where they are set last, those that are added later stand behind. -/
  set : ∀ front value back, steps = front ++ .setAttribute "class" value :: back →
    (∀ step ∈ back, step.setting? "class" = none) →
    tag.attribute? "class" = some (" ".intercalate
      ((if value.isEmpty then [] else [value]) ++ back.filterMap Step.classes?))
  content : tag.content = String.join (steps.map Step.written)
  render : tag.render = "<" ++ name ++ String.join (tag.attributes.map fun entry =>
    " " ++ entry.1 ++ "=\"" ++ escape entry.2 ++ "\"") ++ ">" ++
      String.join (steps.map Step.written) ++ "</" ++ name ++ ">"
  renderSelfClosing : tag.renderSelfClosing = "<" ++ name ++
    String.join (tag.attributes.map fun entry =>
      " " ++ entry.1 ++ "=\"" ++ escape entry.2 ++ "\"") ++ " />"
  /-- It does not matter how the steps about content stand among the others. -/
  interleaved : ∀ steps' : List Step,
    steps'.filter Step.isContent = steps.filter Step.isContent →
    (steps'.filter fun step => !step.isContent) = (steps.filter fun step => !step.isContent) →
    built name steps' = tag

/-! ## One step -/

theorem addClass_eq (tag : Tag) (text : String) :
    tag.addClass text =
      match (Step.addClass text).classes? with
      | none => tag
      | some classes =>
        { tag with attributes := tag.attributes.alter "class" (joinClasses classes) } := by
  simp only [addClass, Step.classes?]
  split <;> rfl

theorem classes?_ne_empty {step : Step} {classes : String} (adds : step.classes? = some classes) :
    classes.isEmpty = false := by
  cases step with
  | addClass text =>
    rw [Step.classes?] at adds
    split at adds
    · cases adds
    · next nonempty => simpa [← Option.some.inj adds] using nonempty
  | _ => cases adds

theorem apply_name (tag : Tag) (step : Step) : (step.apply tag).name = tag.name := by
  cases step with
  | addClass text =>
    rw [Step.apply, addClass_eq]
    split <;> rfl
  | _ => rfl

theorem apply_content (tag : Tag) (step : Step) :
    (step.apply tag).content = tag.content ++ step.written := by
  cases step with
  | addClass text =>
    rw [Step.apply, addClass_eq]
    split <;> simp [Step.written]
  | setAttribute key value => simp [Step.apply, setAttribute, Step.written]
  | appendText text => rfl
  | appendHtml html => rfl

theorem keys_apply (tag : Tag) (step : Step) :
    Entries.keys (step.apply tag).attributes =
      match step.key? with
      | none => Entries.keys tag.attributes
      | some key =>
        if key ∈ Entries.keys tag.attributes then Entries.keys tag.attributes
        else Entries.keys tag.attributes ++ [key] := by
  cases step with
  | setAttribute key value => exact Entries.keys_alter key _ _
  | addClass text =>
    have key : (Step.addClass text).key? = (Step.addClass text).classes?.map fun _ => "class" := rfl
    rw [Step.apply, addClass_eq, key]
    cases (Step.addClass text).classes? with
    | none => rfl
    | some classes => exact Entries.keys_alter "class" _ _
  | appendText text => rfl
  | appendHtml html => rfl

/-- What stands under a key after a step. -/
theorem attribute?_apply (tag : Tag) (step : Step) (key : String) :
    (step.apply tag).attribute? key =
      match step.setting? key with
      | some value => some value
      | none =>
        match step.classes? with
        | some classes =>
          if key = "class" then some (joinClasses classes (tag.attribute? key))
          else tag.attribute? key
        | none => tag.attribute? key := by
  cases step with
  | setAttribute k value =>
    simp only [Step.apply, attribute?, setAttribute, Entries.find?_insert, Step.setting?,
      Step.classes?, eq_comm (a := k)]
    split <;> rfl
  | addClass text =>
    rw [Step.apply, addClass_eq]
    cases (Step.addClass text).classes? with
    | none => rfl
    | some classes =>
      simp only [attribute?, Entries.find?_alter, Step.setting?]
      split
      · next same => rw [same]
      · rfl
  | appendText text => rfl
  | appendHtml html => rfl

/-! ## All steps -/

theorem built_append (name : String) (front back : List Step) :
    built name (front ++ back) = back.foldl Step.apply (built name front) :=
  List.foldl_append

theorem built_append_singleton (name : String) (steps : List Step) (step : Step) :
    built name (steps ++ [step]) = step.apply (built name steps) :=
  built_append name steps [step]

theorem built_name (name : String) (steps : List Step) : (built name steps).name = name := by
  induction steps using List.reverseRecOn with
  | nil => rfl
  | append_singleton steps step ih => rw [built_append_singleton, apply_name, ih]

theorem built_content (name : String) (steps : List Step) :
    (built name steps).content = String.join (steps.map Step.written) := by
  induction steps using List.reverseRecOn with
  | nil => rfl
  | append_singleton steps step ih =>
    rw [built_append_singleton, apply_content, ih, List.map_append, String.join_append]
    simp

theorem keys_built (name : String) (steps : List Step) :
    Entries.keys (built name steps).attributes = (steps.filterMap Step.key?).eraseDups := by
  induction steps using List.reverseRecOn with
  | nil => rfl
  | append_singleton steps step ih =>
    rw [built_append_singleton, keys_apply, List.filterMap_append]
    cases key : step.key? with
    | none => simp [key, ih]
    | some k => simp [key, ih, eraseDups_append_singleton]

theorem nodup_keys_built (name : String) (steps : List Step) :
    (Entries.keys (built name steps).attributes).Nodup := by
  induction steps using List.reverseRecOn with
  | nil => simp [built, new, Entries.keys]
  | append_singleton steps step ih =>
    rw [built_append_singleton, keys_apply]
    split
    · exact ih
    · split
      · exact ih
      · next key new => exact List.concat_eq_append ▸ ih.concat new

theorem attribute?_built (name : String) (steps : List Step) {key : String}
    (other : key ≠ "class") :
    (built name steps).attribute? key = (steps.filterMap (Step.setting? key)).getLast? := by
  induction steps using List.reverseRecOn with
  | nil => rfl
  | append_singleton steps step ih =>
    rw [built_append_singleton, attribute?_apply, List.filterMap_append, ih]
    cases set : step.setting? key with
    | some value => simp [set]
    | none =>
      simp only [set, other, if_false, List.filterMap_cons, List.filterMap_nil, List.append_nil]
      split <;> rfl

/-- Classes that are added one after the other to those that are there. -/
def joined (earlier : Option String) (added : List String) : Option String :=
  added.foldl (fun classes more => some (joinClasses more classes)) earlier

theorem joined_some (earlier : String) {added : List String}
    (nonempty : ∀ classes ∈ added, classes.isEmpty = false) :
    joined (some earlier) added =
      some (" ".intercalate ((if earlier.isEmpty then [] else [earlier]) ++ added)) := by
  induction added generalizing earlier with
  | nil =>
    rw [List.append_nil]
    split
    · next empty => simp [joined, String.isEmpty_iff.mp empty]
    · simp [joined]
  | cons classes added ih =>
    obtain ⟨here, later⟩ := List.forall_mem_cons.mp nonempty
    rw [joined, List.foldl_cons, ← joined, joinClasses, ih _ later]
    split
    · simp [here]
    · simp [String.intercalate_cons_append, String.intercalate_cons_cons, String.append_assoc]

theorem joined_none {added : List String}
    (nonempty : ∀ classes ∈ added, classes.isEmpty = false) :
    joined none added = if added = [] then none else some (" ".intercalate added) := by
  cases added with
  | nil => rfl
  | cons classes added =>
    obtain ⟨here, later⟩ := List.forall_mem_cons.mp nonempty
    have first : joined none (classes :: added) = joined (some classes) added := rfl
    rw [first, joined_some classes later]
    simp [here]

/-- Steps that do not set the classes add to them. -/
theorem classes_foldl_apply {steps : List Step} (tag : Tag)
    (adding : ∀ step ∈ steps, step.setting? "class" = none) :
    (steps.foldl Step.apply tag).attribute? "class" =
      joined (tag.attribute? "class") (steps.filterMap Step.classes?) := by
  induction steps generalizing tag with
  | nil => rfl
  | cons step steps ih =>
    obtain ⟨here, later⟩ := List.forall_mem_cons.mp adding
    rw [List.foldl_cons, ih _ later, attribute?_apply, here]
    cases adds : step.classes? with
    | none => simp [adds]
    | some classes => simp [adds, joined]

theorem classes_ne_empty (steps : List Step) :
    ∀ classes ∈ steps.filterMap Step.classes?, classes.isEmpty = false := by
  intro classes member
  obtain ⟨step, -, adds⟩ := List.mem_filterMap.mp member
  exact classes?_ne_empty adds

theorem classes_built_of_set (name : String) {front back : List Step} (value : String)
    (adding : ∀ step ∈ back, step.setting? "class" = none) :
    (built name (front ++ .setAttribute "class" value :: back)).attribute? "class" =
      some (" ".intercalate
        ((if value.isEmpty then [] else [value]) ++ back.filterMap Step.classes?)) := by
  rw [built_append, List.foldl_cons, classes_foldl_apply _ adding, attribute?_apply]
  exact joined_some value (classes_ne_empty back)

/-! ## Attributes and content -/

/-- Steps about content leave the attributes alone. -/
theorem apply_attributes_of_isContent {tag : Tag} {step : Step} (content : step.isContent = true) :
    (step.apply tag).attributes = tag.attributes := by
  cases step with
  | appendText text => rfl
  | appendHtml html => rfl
  | _ => cases content

theorem attributes_apply_congr {tag tag' : Tag} (same : tag.attributes = tag'.attributes)
    (step : Step) : (step.apply tag).attributes = (step.apply tag').attributes := by
  cases step with
  | setAttribute key value => simp only [Step.apply, setAttribute, same]
  | addClass text =>
    rw [Step.apply, Step.apply, addClass_eq, addClass_eq]
    split
    · exact same
    · simp only [same]
  | appendText text => exact same
  | appendHtml html => exact same

/-- Only the steps about attributes count for them. -/
theorem attributes_built (name : String) (steps : List Step) :
    (built name steps).attributes =
      (built name (steps.filter fun step => !step.isContent)).attributes := by
  induction steps using List.reverseRecOn with
  | nil => rfl
  | append_singleton steps step ih =>
    rw [built_append_singleton, List.filter_append]
    cases content : step.isContent with
    | true => simp [content, apply_attributes_of_isContent, ih]
    | false => simp [content, built_append_singleton, attributes_apply_congr ih]

/-- Only the steps about content count for it. -/
theorem join_written (steps : List Step) :
    String.join (steps.map Step.written) =
      String.join ((steps.filter Step.isContent).map Step.written) := by
  induction steps with
  | nil => rfl
  | cons step steps ih =>
    cases step <;> simp [List.filter_cons, Step.isContent, Step.written, ih]

theorem built_congr {name : String} {steps steps' : List Step}
    (content : steps'.filter Step.isContent = steps.filter Step.isContent)
    (attributes : (steps'.filter fun step => !step.isContent) =
      steps.filter fun step => !step.isContent) :
    built name steps' = built name steps := by
  have name_eq : (built name steps').name = (built name steps).name := by
    rw [built_name, built_name]
  have attributes_eq : (built name steps').attributes = (built name steps).attributes := by
    rw [attributes_built, attributes, ← attributes_built]
  have content_eq : (built name steps').content = (built name steps).content := by
    rw [built_content, built_content, join_written, content, ← join_written]
  calc built name steps'
    _ = ⟨(built name steps').name, (built name steps').attributes,
          (built name steps').content⟩ := rfl
    _ = built name steps := by rw [name_eq, attributes_eq, content_eq]

theorem attributesText_eq_join (entries : Entries String) :
    attributesText entries =
      String.join (entries.map fun entry =>
        " " ++ entry.1 ++ "=\"" ++ escape entry.2 ++ "\"") := by
  induction entries with
  | nil => rfl
  | cons entry rest ih => simp [attributesText, ih]

/-- Whatever steps build an element, it is what they come to. -/
theorem comesFrom_built (name : String) (steps : List Step) :
    (built name steps).ComesFrom name steps where
  keys := keys_built name steps
  once := nodup_keys_built name steps
  setting := fun _ => attribute?_built name steps
  unset := fun adding =>
    (classes_foldl_apply (.new name) adding).trans (joined_none (classes_ne_empty steps))
  set := by
    rintro front value back rfl adding
    exact classes_built_of_set name value adding
  content := built_content name steps
  render := by
    rw [Tag.render, opening, built_name, attributesText_eq_join, built_content]
  renderSelfClosing := by
    rw [Tag.renderSelfClosing, opening, built_name, attributesText_eq_join]
  interleaved := fun _ => built_congr

end Html.Tag

end HtmlTemplate
