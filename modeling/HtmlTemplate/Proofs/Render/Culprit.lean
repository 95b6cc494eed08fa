import HtmlTemplate.Proofs.Render.Explanation

/-!
# Why a rendering fails

Every failure of a rendering is explained by a statement that the rendering can come to from the
template by way of views (`Environment.Reaches`), or else it names the last view of a chain of
inclusions that is one longer than allowed (`Environment.Chain`). So failures come through every
layer of elements and views as they were raised.
-/

set_option autoImplicit false

namespace HtmlTemplate

/-- The statement is one of the statements or lies somewhere below one of them. -/
inductive Node.IsIn (node : Node) : List Node → Prop
  | here (rest : List Node) : IsIn node (node :: rest)
  | child {first : Node} {rest : List Node} (inside : IsIn node first.children) :
      IsIn node (first :: rest)
  | later {first : Node} {rest : List Node} (inside : IsIn node rest) : IsIn node (first :: rest)

@[simp] theorem Node.not_isIn_nil (node : Node) : ¬node.IsIn [] := by
  intro inside
  cases inside

@[simp] theorem Node.isIn_cons {node first : Node} {rest : List Node} :
    node.IsIn (first :: rest) ↔ node = first ∨ node.IsIn first.children ∨ node.IsIn rest := by
  constructor
  · intro inside
    cases inside with
    | here => exact Or.inl rfl
    | child inside => exact Or.inr (Or.inl inside)
    | later inside => exact Or.inr (Or.inr inside)
  · rintro (rfl | inside | inside)
    · exact .here rest
    · exact .child inside
    · exact .later inside

namespace Environment

/-- From statements that are rendered against a model one comes to a statement, in a template or in
a view that is included, that is rendered against a part of the model. -/
inductive Reaches (env : Environment) : Value → List Node → Value → Node → Prop
  | own {model : Value} {nodes : List Node} {node : Node} (inside : node.IsIn nodes) :
      Reaches env model nodes model node
  | view {model part reached : Value} {nodes : List Node} {includer node : Node}
      {document : Document} (inside : includer.IsIn nodes)
      (named : includer.isNamed "partial" = true)
      (includes : env.Includes model includer.parameters document part)
      (reaches : Reaches env part document.roots reached node) :
      Reaches env model nodes reached node

/-- Views that are included in turn: the first by some of the statements, each further one by the
view before it. Nothing is asked of the last one. -/
inductive Chain (env : Environment) : List Node → List String → Prop
  | last {nodes : List Node} {includer : Node} {view : String} (inside : includer.IsIn nodes)
      (includes : includer.IncludesView view) : Chain env nodes [view]
  | more {nodes : List Node} {includer : Node} {view source : String} {document : Document}
      {views : List String} (inside : includer.IsIn nodes) (includes : includer.IncludesView view)
      (found : env.views.find? view = some (.ok source))
      (parsed : Document.parse source = .ok document) (chain : Chain env document.roots views) :
      Chain env nodes (view :: views)

variable {env : Environment}

theorem Reaches.mono {model part : Value} {nodes more : List Node} {node : Node}
    (reaches : env.Reaches model nodes part node)
    (subset : ∀ {node : Node}, node.IsIn nodes → node.IsIn more) :
    env.Reaches model more part node := by
  cases reaches with
  | own inside => exact .own (subset inside)
  | view inside named includes reaches => exact .view (subset inside) named includes reaches

theorem Chain.mono {nodes more : List Node} {views : List String} (chain : env.Chain nodes views)
    (subset : ∀ {node : Node}, node.IsIn nodes → node.IsIn more) : env.Chain more views := by
  cases chain with
  | last inside includes => exact .last (subset inside) includes
  | more inside includes found parsed chain =>
    exact .more (subset inside) includes found parsed chain

/-! ## Renderings that fail -/

/-- What is to blame for a failure where only so many more views may be opened: a statement that the
rendering comes to, or a chain of one view more. -/
inductive Culprit (env : Environment) (count : Nat) (model : Value) (nodes : List Node) :
    RenderError → Prop
  | statement {part : Value} {node : Node} {reason : RenderError}
      (reaches : env.Reaches model nodes part node) (explains : env.Explains part node reason) :
      Culprit env count model nodes reason
  | chain {views : List String} {view : String} (chain : env.Chain nodes views)
      (last : views.getLast? = some view) (length : views.length = count + 1) :
      Culprit env count model nodes (.inclusionTooDeep view)

theorem Culprit.mono {count : Nat} {model : Value} {nodes more : List Node} {reason : RenderError}
    (culprit : env.Culprit count model nodes reason)
    (subset : ∀ {node : Node}, node.IsIn nodes → node.IsIn more) :
    env.Culprit count model more reason := by
  cases culprit with
  | statement reaches explains => exact .statement (reaches.mono subset) explains
  | chain chain last length => exact .chain (chain.mono subset) last length

/-- What is to blame in a view is to blame where the view is included. -/
theorem Culprit.view {count : Nat} {model part : Value} {nodes : List Node} {includer : Node}
    {view source : String} {document : Document} {reason : RenderError}
    (culprit : env.Culprit count part document.roots reason) (inside : includer.IsIn nodes)
    (asked : env.demand model includer = .ok (.view view part))
    (found : env.views.find? view = some (.ok source))
    (parsed : Document.parse source = .ok document) :
    env.Culprit (count + 1) model nodes reason := by
  obtain ⟨includesView, includes⟩ := includes_of_demand asked
  cases culprit with
  | statement reaches explains =>
    exact .statement (.view inside includesView.1 (includes found parsed) reaches) explains
  | chain chain last length =>
    refine .chain (.more inside includesView found parsed chain) ?_ (by simp [length])
    rw [List.getLast?_cons, last]
    rfl

/-- If views that cannot be included have a culprit, so have statements that cannot be rendered. -/
theorem culprit_of_renderAll {inclusion : Inclusion} {count : Nat} {model : Value}
    (views : ∀ {nodes : List Node} {includer : Node} {view : String} {part : Value}
      {reason : RenderError}, includer.IsIn nodes →
        env.demand model includer = .ok (.view view part) →
        inclusion view part = .error reason → env.Culprit count model nodes reason)
    (nodes : List Node) : ∀ {reason : RenderError},
      env.renderAll inclusion model nodes = .error reason →
        env.Culprit count model nodes reason := by
  induction nodes using Node.forest_induction with
  | nil =>
    intro reason failed
    rw [renderAll_nil] at failed
    cases failed
  | cons node rest children later =>
    intro reason failed
    have here : node.IsIn (node :: rest) := .here rest
    rw [renderAll_cons] at failed
    rcases Except.bind_eq_error_iff.mp failed with failed | ⟨html, -, failed⟩
    · rcases Except.bind_eq_error_iff.mp failed with refused | ⟨demand, asked, unmet⟩
      · exact .statement (.own here) (explains_of_demand refused)
      · cases demand with
        | page html => cases unmet
        | children element =>
          rcases Except.bind_eq_error_iff.mp unmet with failed | ⟨html, -, written⟩
          · exact (children failed).mono fun inside => .child inside
          · cases written
        | view view part => exact views here asked unmet
    · rcases Except.bind_eq_error_iff.mp failed with failed | ⟨more, -, written⟩
      · exact (later failed).mono fun inside => .later inside
      · cases written

/-- Every failure has a culprit. The induction is on the number of views that may still be
opened. -/
theorem culprit_of_renderAll_includeView : ∀ (count : Nat) {model : Value} {nodes : List Node}
    {reason : RenderError}, env.renderAll (env.includeView count) model nodes = .error reason →
      env.Culprit count model nodes reason
  | 0, model, nodes, reason, failed => by
    refine culprit_of_renderAll (fun inside asked tooDeep => ?_) nodes failed
    cases tooDeep
    exact .chain (.last inside (includes_of_demand asked).1) rfl rfl
  | count + 1, model, nodes, reason, failed => by
    refine culprit_of_renderAll (fun inside asked failed => ?_) nodes failed
    rw [includeView_succ] at failed
    rcases Except.bind_eq_error_iff.mp failed with unloaded | ⟨roots, loaded, failed⟩
    · exact .statement (.own inside) (explains_of_load (includes_of_demand asked).1 unloaded)
    · obtain ⟨source, document, found, parsed, rfl⟩ := load_eq_ok_iff.mp loaded
      exact (culprit_of_renderAll_includeView count failed).view inside asked found parsed

/-- No statement is refused for its name where every renderer stands under its own name. -/
theorem Explains.not_unexpected {model : Value} {node : Node} {expected found : String}
    (shipped : env.registry.Shipped) :
    ¬env.Explains model node (.unexpectedStatement expected found) := by
  intro explains
  obtain ⟨rfl, other, renderer, registered, listed⟩ := explains
  have named : node.isNamed expected = true := shipped.sameIgnoringAsciiCase registered listed
  rw [other] at named
  cases named

/-- No view that is held as text is unreadable. -/
theorem Explains.not_unreadable {registry : Registry} {binders : Binders}
    {sources : Entries String} {model : Value} {node : Node} {view : String} {cause : IoError} :
    ¬(⟨registry, binders, .ofTexts sources⟩ : Environment).Explains model node
      (.viewUnreadable view cause) := by
  intro explains
  obtain ⟨-, unread⟩ := explains
  obtain ⟨source, -, impossible⟩ := Option.map_eq_some_iff.mp unread
  cases impossible

/-- A rendering with a registry of built-in renderers and elements and with views held as text fails
only for a reason that a statement it comes to explains, or because a chain of inclusions is too
long. -/
theorem culprit_of_render {steps : List Registration} {binders : Binders}
    {sources : Entries String} {model : Value} {document : Document} {reason : RenderError}
    (shipped : ∀ step ∈ steps, step.IsShipped)
    (failed : (⟨.ofSteps steps, binders, .ofTexts sources⟩ : Environment).render model
      document.roots = .error reason) :
    (⟨.ofSteps steps, binders, .ofTexts sources⟩ : Environment).Culprit maxInclusion model
        document.roots reason ∧
      (∀ expected found, reason ≠ .unexpectedStatement expected found) ∧
      ∀ view cause, reason ≠ .viewUnreadable view cause := by
  have culprit := culprit_of_renderAll_includeView maxInclusion failed
  refine ⟨culprit, ?_, ?_⟩
  · rintro expected found rfl
    cases culprit with
    | statement reaches explains =>
      exact Explains.not_unexpected (Registry.shipped_ofSteps shipped) explains
  · rintro view cause rfl
    cases culprit with
    | statement reaches explains => exact Explains.not_unreadable explains

/-- A member that is missing from the part of the model that a view in an element is given. -/
theorem culprit_of_render_narrowed :
    let steps : List Registration := [.builtins, .elements ["div", "P"]]
    let env : Environment :=
      ⟨.ofSteps steps, .standard, .ofTexts [("card", "p(name.first)[title='x']")]⟩
    let model : Value := .map [("user", .map [("name", .map [("last", .string "A")])])]
    let page : Document :=
      ⟨[⟨"div", [], [], [⟨"Partial", [⟨.keyword, "card"⟩, ⟨.keyword, "user"⟩], [], []⟩]⟩]⟩
    let reason : RenderError := .binding (.memberNotFound "name.first" "first")
    (∀ step ∈ steps, step.IsShipped) ∧ env.render model page.roots = .error reason ∧
      env.Culprit maxInclusion model page.roots reason ∧
      (∀ expected found, reason ≠ .unexpectedStatement expected found) ∧
      ∀ view cause, reason ≠ .viewUnreadable view cause := by
  intro steps env model page reason
  have shipped : ∀ step ∈ steps, step.IsShipped := by decide
  have failed : env.render model page.roots = .error reason := by decide +kernel
  exact ⟨shipped, failed, culprit_of_render shipped failed⟩

end Environment

end HtmlTemplate
