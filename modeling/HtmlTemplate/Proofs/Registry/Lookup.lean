import HtmlTemplate.Proofs.Registry
import HtmlTemplate.Proofs.Text.Lowered

/-!
# What is found in a registry

What a registry holds under a name is told from the steps that built it: the renderer that was
assigned to the name last, or else the renderer of elements if any step lists the name, wherever
this step stands among the others. Names count as the same if they have one lower-case form, and a
registered name is its own lower-case form, so every one of them is found again.
-/

set_option autoImplicit false

namespace HtmlTemplate

variable {ρ : Type} [RendererKind ρ]

namespace Registration

/-- The renderers that a step assigns to names, whatever stood under these before. -/
def assigned : Registration ρ → List (String × ρ)
  | .renderer name chosen => [(name, chosen)]
  | .builtins =>
    Registry.builtins.map fun (name, shipped) => (name, RendererKind.ofRenderer shipped)
  | .htmlElements | .elements _ => []

/-- The names that a step lists as those of elements. -/
def listed : Registration ρ → List String
  | .renderer _ _ | .builtins => []
  | .htmlElements => Html.elements
  | .elements names => names

end Registration

namespace Registry

/-- The last renderer that is assigned to a name with the lower-case form `key`. -/
def lastFor? (key : String) (assigned : List (String × ρ)) : Option ρ :=
  (assigned.filter fun a => Text.lowercase a.1 = key).getLast?.map (·.2)

/-- The renderer of elements, if one of the names has the lower-case form `key`. -/
def elementFor? (key : String) (names : List String) : Option ρ :=
  if ∃ name ∈ names, Text.lowercase name = key then some (RendererKind.ofRenderer .element)
  else none

omit [RendererKind ρ] in
theorem lastFor?_append (key : String) (first second : List (String × ρ)) :
    lastFor? key (first ++ second) = (lastFor? key second).or (lastFor? key first) := by
  simp only [lastFor?, List.filter_append, List.getLast?_append]
  cases (second.filter fun a => Text.lowercase a.1 = key).getLast? <;> simp

theorem elementFor?_append (key : String) (first second : List String) :
    (elementFor? key (first ++ second) : Option ρ) =
      (elementFor? key first).or (elementFor? key second) := by
  simp only [elementFor?, List.mem_append, or_and_right, exists_or]
  by_cases inFirst : ∃ name ∈ first, Text.lowercase name = key <;> simp [inFirst]

/-! ## What one step does -/

variable (registry : Registry ρ) (key : String)

omit [RendererKind ρ] in
theorem getElem?_setRenderer (name : String) (renderer : ρ) :
    (registry.setRenderer name renderer).renderers[key]? =
      (lastFor? key [(name, renderer)]).or registry.renderers[key]? := by
  rw [setRenderer, Std.TreeMap.getElem?_insert]
  by_cases same : Text.lowercase name = key <;> simp [lastFor?, same]

theorem getElem?_addElement (name : String) :
    (registry.addElement name).renderers[key]? =
      registry.renderers[key]?.or (elementFor? key [name]) := by
  simp only [addElement, Std.TreeMap.getElem?_insertIfNew, Std.TreeMap.mem_iff_isSome_getElem?]
  by_cases same : Text.lowercase name = key
  · subst same
    cases registry.renderers[Text.lowercase name]? <;> simp [elementFor?]
  · simp [elementFor?, same]

omit [RendererKind ρ] in
theorem getElem?_foldl_setRenderer (assigned : List (String × ρ)) :
    (assigned.foldl (fun registry a => registry.setRenderer a.1 a.2) registry).renderers[key]? =
      (lastFor? key assigned).or registry.renderers[key]? := by
  induction assigned generalizing registry with
  | nil => rfl
  | cons a assigned ih =>
    have cut : lastFor? key (a :: assigned) = (lastFor? key assigned).or (lastFor? key [a]) :=
      lastFor?_append key [a] assigned
    rw [List.foldl_cons, ih, getElem?_setRenderer, cut, Option.or_assoc]

theorem getElem?_addElements (names : List String) :
    (registry.addElements names).renderers[key]? =
      registry.renderers[key]?.or (elementFor? key names) := by
  unfold addElements
  induction names generalizing registry with
  | nil => simp [elementFor?]
  | cons name names ih =>
    have cut : (elementFor? key (name :: names) : Option ρ) =
        (elementFor? key [name]).or (elementFor? key names) :=
      elementFor?_append key [name] names
    rw [List.foldl_cons, ih, getElem?_addElement, cut, Option.or_assoc]

/-- Every step assigns its renderers first and then lists its elements. -/
theorem getElem?_register (step : Registration ρ) :
    (registry.register step).renderers[key]? =
      ((lastFor? key step.assigned).or registry.renderers[key]?).or
        (elementFor? key step.listed) := by
  have none : (elementFor? key [] : Option ρ) = none := by simp [elementFor?]
  cases step with
  | renderer name renderer =>
    simp only [register, Registration.assigned, Registration.listed, getElem?_setRenderer, none,
      Option.or_none]
  | builtins =>
    rw [Registration.listed, none, Option.or_none]
    exact getElem?_foldl_setRenderer registry key (Registration.assigned .builtins)
  | htmlElements => exact getElem?_addElements registry key Html.elements
  | elements names => exact getElem?_addElements registry key names

/-! ## What all steps do -/

theorem getElem?_foldl_register (steps : List (Registration ρ)) :
    (steps.foldl register registry).renderers[key]? =
      ((lastFor? key (steps.flatMap Registration.assigned)).or registry.renderers[key]?).or
        (elementFor? key (steps.flatMap Registration.listed)) := by
  induction steps generalizing registry with
  | nil => simp [lastFor?, elementFor?]
  | cons step steps ih =>
    simp only [List.foldl_cons, ih, getElem?_register, List.flatMap_cons, lastFor?_append,
      elementFor?_append, Option.or_assoc]

theorem getElem?_ofSteps (steps : List (Registration ρ)) :
    (ofSteps steps).renderers[key]? =
      (lastFor? key (steps.flatMap Registration.assigned)).or
        (elementFor? key (steps.flatMap Registration.listed)) := by
  have nothing : (empty : Registry ρ).renderers[key]? = none := by simp [empty]
  rw [ofSteps, getElem?_foldl_register, nothing, Option.or_none]

/-! ## Registered names -/

variable {registry key}

omit [RendererKind ρ] in
theorem exists_of_lastFor? {assigned : List (String × ρ)} {renderer : ρ}
    (last : lastFor? key assigned = some renderer) :
    ∃ name, (name, renderer) ∈ assigned ∧ Text.lowercase name = key := by
  obtain ⟨⟨name, found⟩, last', rfl⟩ := Option.map_eq_some_iff.mp last
  obtain ⟨member, same⟩ := List.mem_filter.mp (List.mem_of_getLast? last')
  exact ⟨name, member, of_decide_eq_true same⟩

/-- A registered name is the lower-case form of a name, and so its own. -/
theorem lowercase_of_mem_names {steps : List (Registration ρ)}
    (member : key ∈ (ofSteps steps).names) : Text.lowercase key = key := by
  have lowered : ∃ name, Text.lowercase name = key := by
    rw [mem_names_iff, getElem?_ofSteps, Option.isSome_or, Bool.or_eq_true] at member
    rcases member with assigned | listed
    · obtain ⟨renderer, last⟩ := Option.isSome_iff_exists.mp assigned
      obtain ⟨name, -, same⟩ := exists_of_lastFor? last
      exact ⟨name, same⟩
    · unfold elementFor? at listed
      split at listed
      · next found =>
        obtain ⟨name, -, same⟩ := found
        exact ⟨name, same⟩
      · cases listed
  obtain ⟨name, rfl⟩ := lowered
  exact Text.lowercase_lowercase name

omit [RendererKind ρ] in
theorem pairwise_names : registry.names.Pairwise (· < ·) := by
  have ordered : registry.names.Pairwise fun a b => compare a b = .lt :=
    Std.TreeMap.ordered_keys
  exact ordered.imp fun less => compareOfLessAndEq_eq_lt.mp less

omit [RendererKind ρ] in
theorem contains_eq_isSome_find? (name : String) :
    registry.contains name = (registry.find? name).isSome :=
  Std.TreeMap.contains_eq_isSome_getElem?

/-- What stands under a name is the last renderer that was assigned to it, or else that of elements
if a step lists the name, and nothing otherwise. The names of a registry are in order, none of them
twice, and they are the lower-case forms of all names under which something stands. -/
theorem find?_of_steps (steps : List (Registration ρ)) :
    let registry := ofSteps steps
    (∀ name,
      (∀ renderer, lastFor? (Text.lowercase name) (steps.flatMap Registration.assigned) =
          some renderer → registry.find? name = some renderer) ∧
      (lastFor? (Text.lowercase name) (steps.flatMap Registration.assigned) = none →
        ((∃ listed ∈ steps.flatMap Registration.listed,
            Text.lowercase listed = Text.lowercase name) →
          registry.find? name = some (RendererKind.ofRenderer .element)) ∧
        ((¬∃ listed ∈ steps.flatMap Registration.listed,
            Text.lowercase listed = Text.lowercase name) → registry.find? name = none))) ∧
    registry.names.Pairwise (· < ·) ∧ registry.names.length = registry.size ∧
    (∀ name, (registry.contains name = true ↔ Text.lowercase name ∈ registry.names) ∧
      ((registry.find? name).isSome = true ↔ Text.lowercase name ∈ registry.names)) ∧
    ∀ name ∈ registry.names,
      registry.contains name = true ∧ (registry.find? name).isSome = true := by
  intro registry
  have found : ∀ name, ((registry.find? name).isSome = true ↔
      Text.lowercase name ∈ registry.names) := fun name => mem_names_iff.symm
  have found' : ∀ name, (registry.contains name = true ↔
      Text.lowercase name ∈ registry.names) := fun name => by
    rw [contains_eq_isSome_find?, found]
  refine ⟨fun name => ⟨fun renderer last => ?_, fun unassigned => ⟨fun listed => ?_,
    fun unlisted => ?_⟩⟩, pairwise_names, Std.TreeMap.length_keys,
    fun name => ⟨found' name, found name⟩, fun name member => ?_⟩
  · rw [find?, getElem?_ofSteps, last, Option.some_or]
  · rw [find?, getElem?_ofSteps, unassigned, Option.none_or, elementFor?, if_pos listed]
  · rw [find?, getElem?_ofSteps, unassigned, Option.none_or, elementFor?, if_neg unlisted]
  · rw [found', found, lowercase_of_mem_names member]
    exact ⟨member, member⟩

end Registry

end HtmlTemplate
