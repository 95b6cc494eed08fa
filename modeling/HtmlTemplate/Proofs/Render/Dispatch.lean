import HtmlTemplate.Proofs.Registry.Lookup
import HtmlTemplate.Proofs.Render.Inclusion

/-!
# Statements and the renderers they come to

A statement comes to a renderer by its name in full lower case, and the built-in renderers look at
the name again, ignoring the case of ASCII letters only. The two agree on the names of the built-in
renderers, so in a registry of these and of elements no statement is ever refused for its name, and
a statement with such a name comes to the renderer of the name once the built-in renderers are
registered.
-/

set_option autoImplicit false

namespace HtmlTemplate

namespace Registry

theorem mem_builtins_of_assigned {step : Registration} (shipped : step.IsShipped)
    {a : String × Renderer} (member : a ∈ step.assigned) : a ∈ builtins := by
  cases step with
  | renderer name renderer => exact shipped.elim
  | builtins =>
    obtain ⟨⟨name, renderer⟩, listed, rfl⟩ := List.mem_map.mp member
    exact listed
  | htmlElements | elements => cases member

/-- Where the built-in renderers are registered, each of them is the last one for its name. -/
theorem lastFor?_builtin {steps : List Registration} (shipped : ∀ step ∈ steps, step.IsShipped)
    (registered : .builtins ∈ steps) {builtin : String} {renderer : Renderer}
    (listed : (builtin, renderer) ∈ builtins) :
    lastFor? builtin (steps.flatMap Registration.assigned) = some renderer := by
  have determined : ∀ b ∈ builtins, Text.lowercase b.1 = b.1 ∧
      ∀ b' ∈ builtins, b'.1 = b.1 → b'.2 = b.2 := by
    decide
  obtain ⟨lowered, unique⟩ := determined _ listed
  cases last : lastFor? builtin (steps.flatMap Registration.assigned) with
  | none =>
    have assigned : (builtin, renderer) ∈ steps.flatMap Registration.assigned := by
      refine List.mem_flatMap.mpr ⟨.builtins, registered, ?_⟩
      exact List.mem_map.mpr ⟨_, listed, rfl⟩
    have missing := List.getLast?_eq_none_iff.mp (Option.map_eq_none_iff.mp last)
    have found : (builtin, renderer) ∈ (steps.flatMap Registration.assigned).filter
        fun a => Text.lowercase a.1 = builtin :=
      List.mem_filter.mpr ⟨assigned, decide_eq_true lowered⟩
    rw [missing] at found
    cases found
  | some other =>
    obtain ⟨name, assigned, same⟩ := exists_of_lastFor? last
    obtain ⟨step, inside, assigned'⟩ := List.mem_flatMap.mp assigned
    have listed' := mem_builtins_of_assigned (shipped step inside) assigned'
    rw [(determined _ listed').1] at same
    exact congrArg some (unique _ listed' same)

end Registry

namespace Environment

/-- No statement is refused for its name, in a template or in a view. -/
theorem Culprit.not_unexpected {env : Environment} (shipped : env.registry.Shipped) {count : Nat}
    {model : Value} {nodes : List Node} {expected found : String} :
    ¬env.Culprit count model nodes (.unexpectedStatement expected found) := by
  intro culprit
  cases culprit with
  | statement reaches explains => exact Explains.not_unexpected shipped explains

/-- A statement that stands alone is rendered by the renderer that is found for it. -/
theorem renderAll_singleton {env : Environment} {inclusion : Inclusion} {model : Value}
    {node : Node} {renderer : Renderer} (found : env.registry.find? node.name = some renderer) :
    env.renderAll inclusion model [node] = env.renderAs inclusion model renderer node := by
  rw [renderAll, found]
  cases rendered : env.renderAs inclusion model renderer node <;>
    simp [rendered, bind, Except.bind, pure, Except.pure]

/-- In a registry of built-in renderers and elements no statement comes to a renderer that refuses
its name, however many views are open. Full lower case gives the name of a built-in renderer only
where the renderer accepts the name, and all names that it accepts come to it once the built-in
renderers are registered. -/
theorem never_unexpected_of_shipped {steps : List Registration}
    (shipped : ∀ step ∈ steps, step.IsShipped) (binders : Binders) (views : Views)
    (model : Value) :
    let env : Environment := ⟨.ofSteps steps, binders, views⟩
    (∀ depth nodes expected found,
      env.renderFrom depth model nodes ≠ .error (.unexpectedStatement expected found)) ∧
    ∀ builtin renderer, (builtin, renderer) ∈ Registry.builtins → ∀ node : Node,
      (Text.lowercase node.name = builtin → node.isNamed builtin = true) ∧
      (node.isNamed builtin = true → .builtins ∈ steps →
        env.registry.find? node.name = some renderer ∧
        ∀ depth, env.renderFrom depth model [node] =
          env.renderAs (env.includeView (maxInclusion - depth)) model renderer node) := by
  intro env
  refine ⟨fun depth nodes expected found failed => ?_, fun builtin renderer listed node =>
    ⟨fun lowered => ?_, fun named registered => ?_⟩⟩
  · have shipped' : env.registry.Shipped := Registry.shipped_ofSteps shipped
    exact Culprit.not_unexpected shipped' (culprit_of_renderAll_includeView _ failed)
  · exact (Registry.lowercase_eq_builtin_iff listed).mp lowered
  · have lowered : Text.lowercase node.name = builtin :=
      (Registry.lowercase_eq_builtin_iff listed).mpr named
    have found : env.registry.find? node.name = some renderer := by
      rw [Registry.find?, lowered, Registry.getElem?_ofSteps,
        Registry.lastFor?_builtin shipped registered listed, Option.some_or]
    exact ⟨found, fun depth => renderAll_singleton found⟩

/-- An input written with capitals, whose name is listed as that of an element before. -/
theorem never_unexpected_of_shipped_capitals :
    let steps : List Registration := [.elements ["INPUT", "partial"], .builtins]
    let env : Environment := ⟨.ofSteps steps, .standard, .none⟩
    let node : Node := ⟨"inPUT", [], [], []⟩
    (∀ step ∈ steps, step.IsShipped) ∧
      (∀ expected found,
        env.renderFrom 0 .null [node] ≠ .error (.unexpectedStatement expected found)) ∧
      ("input", Renderer.input) ∈ Registry.builtins ∧ node.isNamed "input" = true ∧
      .builtins ∈ steps ∧ env.registry.find? node.name = some .input := by
  intro steps env node
  have shipped : ∀ step ∈ steps, step.IsShipped := by decide
  have listed : ("input", Renderer.input) ∈ Registry.builtins := by decide
  have named : node.isNamed "input" = true := by decide
  have registered : .builtins ∈ steps := by decide
  obtain ⟨accepted, agree⟩ := never_unexpected_of_shipped shipped .standard .none .null
  have found := ((agree "input" .input listed node).2 named registered).1
  exact ⟨shipped, accepted 0 [node], listed, named, registered, found⟩

end Environment

end HtmlTemplate
