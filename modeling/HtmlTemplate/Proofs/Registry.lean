import HtmlTemplate.Proofs.Text.AsciiCase
import HtmlTemplate.Registry

/-!
# What a registry holds

A registry that is built without renderers of one's own holds the three built-in renderers under
their names only, and the renderer of elements under all others (`Registry.Shipped`). Under such a
registry a renderer is never given a statement that it refuses for its name.
-/

set_option autoImplicit false

namespace HtmlTemplate

/-- The step registers the built-in renderers or elements. -/
def Registration.IsShipped : Registration → Prop
  | .renderer _ _ => False
  | .builtins | .htmlElements | .elements _ => True

instance : (step : Registration) → Decidable step.IsShipped
  | .renderer _ _ => .isFalse id
  | .builtins | .htmlElements | .elements _ => .isTrue trivial

namespace Registry

/-- The renderers for statements of one name. -/
def builtins : List (String × Renderer) :=
  [("doctype", .doctype), ("input", .input), ("partial", .inclusion)]

/-- A renderer for statements of one name stands under this name. -/
def Shipped (registry : Registry) : Prop :=
  ∀ key renderer, registry.renderers[key]? = some renderer →
    renderer = .element ∨ (key, renderer) ∈ builtins

variable {registry : Registry}

theorem shipped_empty : empty.Shipped := by
  intro key renderer found
  simp [empty] at found

theorem Shipped.setRenderer (shipped : registry.Shipped) {name : String} {renderer : Renderer}
    (listed : (Text.lowercase name, renderer) ∈ builtins) :
    (registry.setRenderer name renderer).Shipped := by
  intro key other found
  rw [Registry.setRenderer, Std.TreeMap.getElem?_insert] at found
  split at found
  · next same =>
    obtain rfl := Std.LawfulEqCmp.eq_of_compare same
    obtain rfl := Option.some.inj found
    exact Or.inr listed
  · exact shipped key other found

theorem Shipped.addElement (shipped : registry.Shipped) (name : String) :
    (registry.addElement name).Shipped := by
  intro key other found
  rw [Registry.addElement, Std.TreeMap.getElem?_insertIfNew] at found
  split at found
  · exact Or.inl (Option.some.inj found).symm
  · exact shipped key other found

theorem Shipped.addElements (shipped : registry.Shipped) (names : List String) :
    (registry.addElements names).Shipped := by
  unfold Registry.addElements
  induction names generalizing registry with
  | nil => exact shipped
  | cons name names ih => exact ih (shipped.addElement name)

theorem Shipped.addBuiltins (shipped : registry.Shipped) : registry.addBuiltins.Shipped := by
  refine ((shipped.setRenderer ?_).setRenderer ?_).setRenderer ?_ <;> decide

theorem Shipped.register (shipped : registry.Shipped) {step : Registration}
    (isShipped : step.IsShipped) : (registry.register step).Shipped := by
  cases step with
  | renderer name renderer => exact isShipped.elim
  | builtins => exact shipped.addBuiltins
  | htmlElements => exact shipped.addElements Html.elements
  | elements names => exact shipped.addElements names

theorem Shipped.foldl_register {steps : List Registration} (shipped : registry.Shipped)
    (each : ∀ step ∈ steps, step.IsShipped) : (steps.foldl Registry.register registry).Shipped := by
  induction steps generalizing registry with
  | nil => exact shipped
  | cons step steps ih =>
    obtain ⟨first, later⟩ := List.forall_mem_cons.mp each
    exact ih (shipped.register first) later

theorem shipped_ofSteps {steps : List Registration} (each : ∀ step ∈ steps, step.IsShipped) :
    (ofSteps steps).Shipped :=
  shipped_empty.foldl_register each

theorem mem_names_iff {ρ : Type} {registry : Registry ρ} {key : String} :
    key ∈ registry.names ↔ registry.renderers[key]?.isSome = true := by
  rw [names, Std.TreeMap.mem_keys, Std.TreeMap.mem_iff_isSome_getElem?]

theorem find?_eq_none_iff {name : String} :
    registry.find? name = none ↔ Text.lowercase name ∉ registry.names := by
  rw [mem_names_iff, find?, Option.not_isSome_iff_eq_none]

/-! ## The names of built-in renderers -/

theorem plain_of_mem_builtins {name : String} {renderer : Renderer}
    (listed : (name, renderer) ∈ builtins) : ∀ c ∈ name.toList, c ∈ Text.plainLetters := by
  have each : builtins.all (fun b => b.1.toList.all fun c => c ∈ Text.plainLetters) = true := by
    decide
  simpa using List.all_eq_true.mp each _ listed

/-- A statement is looked up under the name of a built-in renderer exactly if it has this name up to
the case of ASCII letters. -/
theorem lowercase_eq_builtin_iff {name builtin : String} {renderer : Renderer}
    (listed : (builtin, renderer) ∈ builtins) :
    Text.lowercase name = builtin ↔ Text.sameIgnoringAsciiCase name builtin = true :=
  Text.lowercase_eq_iff (plain_of_mem_builtins listed)

/-- Where a built-in renderer is found for a statement, the statement has its name. -/
theorem Shipped.sameIgnoringAsciiCase (shipped : registry.Shipped) {name builtin : String}
    {renderer : Renderer} (found : registry.find? name = some renderer)
    (listed : (builtin, renderer) ∈ builtins) :
    Text.sameIgnoringAsciiCase name builtin = true := by
  have determined : ∀ b ∈ builtins, b.2 ≠ .element ∧ ∀ b' ∈ builtins, b'.2 = b.2 → b' = b := by
    decide
  obtain ⟨special, unique⟩ := determined _ listed
  rcases shipped _ _ found with element | listed'
  · exact (special element).elim
  · have same := unique _ listed' rfl
    rw [← lowercase_eq_builtin_iff listed]
    exact congrArg Prod.fst same

/-- A statement with the name of a built-in renderer is rendered by it or not at all, unless the
name stands for an element. -/
theorem Shipped.find?_of_named (shipped : registry.Shipped) {name builtin : String}
    {renderer found : Renderer} (listed : (builtin, renderer) ∈ builtins)
    (special : registry.find? builtin ≠ some .element)
    (named : Text.sameIgnoringAsciiCase name builtin = true)
    (registered : registry.find? name = some found) : found = renderer := by
  have determined : ∀ b ∈ builtins, Text.lowercase b.1 = b.1 ∧
      ∀ b' ∈ builtins, b'.1 = b.1 → b'.2 = b.2 := by
    decide
  obtain ⟨lowered, unique⟩ := determined _ listed
  have same : Text.lowercase name = builtin := (lowercase_eq_builtin_iff listed).mpr named
  rw [find?, same] at registered
  rw [find?, lowered] at special
  rcases shipped _ _ registered with rfl | listed'
  · exact (special registered).elim
  · exact unique _ listed' rfl

end Registry

end HtmlTemplate
