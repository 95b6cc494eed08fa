import HtmlTemplate.Proofs.Render.Inclusion

/-!
# Views spliced into a template

A statement that includes a view and says nothing else can be replaced by the statements of the
view: the page stays the same (`renderAll_of_splices`). The children that such a statement may have
are not rendered, and its place is that of the statements that replace it. A view that is empty may
leave an element without children, but never one that was refused for having some, because the
rendering with the view has to succeed first.

This takes that the name of the statement does not stand for an element. A registry of elements only
may have one called `partial`, and then the statement is an element like others.
-/

set_option autoImplicit false

namespace HtmlTemplate.Environment

/-- The second statements are the first ones with some statements that include a view, and that have
no other parameter, replaced by the statements of the view, wherever they stand and also within
what has replaced others. -/
inductive Splices (env : Environment) : List Node → List Node → Prop
  | nil : Splices env [] []
  | keep {node : Node} {children rest rest' : List Node}
      (inside : Splices env node.children children) (later : Splices env rest rest') :
      Splices env (node :: rest) ({ node with children := children } :: rest')
  | splice {node : Node} {inner rest rest' : List Node} {view : Parameter} {source : String}
      {document : Document} (named : node.isNamed "partial" = true)
      (single : node.parameters = [view])
      (found : env.views.find? view.text = some (.ok source))
      (parsed : Document.parse source = .ok document)
      (inside : Splices env document.roots inner) (later : Splices env rest rest') :
      Splices env (node :: rest) (inner ++ rest')

variable {env : Environment}

theorem Splices.eq_nil {nodes : List Node} (splices : env.Splices [] nodes) : nodes = [] := by
  cases splices
  rfl

/-- What a statement asks for depends on its children only in that there may have to be none. -/
theorem demand_of_children {model : Value} {node : Node} {children : List Node} {demand : Demand}
    (empty : node.children = [] → children = [])
    (asked : env.demand model node = .ok demand) :
    env.demand model { node with children := children } = .ok demand := by
  by_cases childless : node.children = []
  · have same : children = node.children := (empty childless).trans childless.symm
    rw [same]
    exact asked
  · have refused : node.expectChildless ≠ .ok () := fun allowed =>
      childless (Node.expectChildless_eq_ok_iff.mp allowed)
    unfold Environment.demand at asked ⊢
    dsimp only
    cases found : env.registry.find? node.name with
    | none => rw [found] at asked; cases asked
    | some renderer =>
      rw [found] at asked
      cases renderer with
      | doctype => exact asked
      | inclusion => exact asked
      | input =>
        obtain ⟨html, rendered, -⟩ := Except.bind_eq_ok_iff.mp asked
        obtain ⟨_, -, rendered⟩ := Except.bind_eq_ok_iff.mp rendered
        obtain ⟨_, allowed, -⟩ := Except.bind_eq_ok_iff.mp rendered
        exact (refused allowed).elim
      | element =>
        dsimp only [demandAs, demandElement] at asked ⊢
        split at asked
        · obtain ⟨_, allowed, -⟩ := Except.bind_eq_ok_iff.mp asked
          exact (refused allowed).elim
        · next filled =>
          rw [if_neg filled]
          exact asked

/-- A statement that includes a view and says nothing else asks for the view, against the same
model. -/
theorem demand_of_single {model : Value} {node : Node} {view : Parameter} {demand : Demand}
    (shipped : env.registry.Shipped) (special : env.registry.find? "partial" ≠ some .element)
    (named : node.isNamed "partial" = true) (single : node.parameters = [view])
    (asked : env.demand model node = .ok demand) : demand = .view view.text model := by
  unfold Environment.demand at asked
  split at asked
  · cases asked
  · next renderer found =>
    obtain rfl : renderer = .inclusion :=
      shipped.find?_of_named (by decide) special named found
    obtain ⟨_, -, asked⟩ := Except.bind_eq_ok_iff.mp asked
    rw [single] at asked
    exact (Except.ok.inj asked).symm

/-- The page of a view that is included is the page of its statements where the view stands. -/
theorem renderAll_of_includeView {count : Nat} {model : Value} {view source html : String}
    {document : Document} (found : env.views.find? view = some (.ok source))
    (parsed : Document.parse source = .ok document)
    (rendered : env.includeView count view model = .ok html) :
    env.renderAll (env.includeView count) model document.roots = .ok html := by
  cases count with
  | zero => cases rendered
  | succ count =>
    rw [includeView_succ, load_eq_ok_iff.mpr ⟨source, document, found, parsed, rfl⟩] at rendered
    rcases Extends.renderAll (extends_includeView count 1) model document.roots with ⟨_, cut⟩ | same
    · exact absurd (rendered.symm.trans cut) (by simp)
    · exact same.trans rendered

/-- The induction follows the splicing; a view that is spliced in is rendered with more room than
where it was included. -/
theorem renderAll_of_splices {count : Nat} {model : Value} {nodes nodes' : List Node}
    (shipped : env.registry.Shipped) (special : env.registry.find? "partial" ≠ some .element)
    (splices : env.Splices nodes nodes') : ∀ {html : String},
      env.renderAll (env.includeView count) model nodes = .ok html →
        env.renderAll (env.includeView count) model nodes' = .ok html := by
  induction splices with
  | nil => exact id
  | @keep node children rest rest' inside later ih ih' =>
    intro html rendered
    rw [renderAll_cons] at rendered ⊢
    obtain ⟨page, here, rendered⟩ := Except.bind_eq_ok_iff.mp rendered
    obtain ⟨more, there, joined⟩ := Except.bind_eq_ok_iff.mp rendered
    obtain ⟨demand, asked, met⟩ := Except.bind_eq_ok_iff.mp here
    have asked' := demand_of_children (fun none => (none ▸ inside).eq_nil) asked
    have met' : env.meet (env.includeView count) model children demand = .ok page := by
      cases demand with
      | page html => exact met
      | view view part => exact met
      | children element =>
        obtain ⟨inner, below, written⟩ := Except.bind_eq_ok_iff.mp met
        exact Except.bind_eq_ok_iff.mpr ⟨inner, ih below, written⟩
    have here' := Except.bind_eq_ok_iff.mpr ⟨demand, asked', met'⟩
    exact Except.bind_eq_ok_iff.mpr
      ⟨page, here', Except.bind_eq_ok_iff.mpr ⟨more, ih' there, joined⟩⟩
  | @splice node inner rest rest' view source document named single found parsed inside later
      ih ih' =>
    intro html rendered
    rw [renderAll_cons] at rendered
    rw [renderAll_append]
    obtain ⟨page, here, rendered⟩ := Except.bind_eq_ok_iff.mp rendered
    obtain ⟨more, there, joined⟩ := Except.bind_eq_ok_iff.mp rendered
    obtain ⟨demand, asked, met⟩ := Except.bind_eq_ok_iff.mp here
    obtain rfl := demand_of_single shipped special named single asked
    have here' := ih (renderAll_of_includeView found parsed met)
    exact Except.bind_eq_ok_iff.mpr
      ⟨page, here', Except.bind_eq_ok_iff.mpr ⟨more, ih' there, joined⟩⟩

/-- Where the name `partial` does not stand for an element, a page does not change when statements
that include a view and say nothing else are replaced by the statements of the view. -/
theorem render_of_splices {steps : List Registration} {binders : Binders}
    {sources : Entries String} {model : Value} {document document' : Document} {html : String}
    (shipped : ∀ step ∈ steps, step.IsShipped)
    (special : (Registry.ofSteps steps).find? "partial" ≠ some .element)
    (splices : (⟨.ofSteps steps, binders, .ofTexts sources⟩ : Environment).Splices
      document.roots document'.roots)
    (rendered : (⟨.ofSteps steps, binders, .ofTexts sources⟩ : Environment).render model
      document.roots = .ok html) :
    (⟨.ofSteps steps, binders, .ofTexts sources⟩ : Environment).render model
      document'.roots = .ok html :=
  renderAll_of_splices (Registry.shipped_ofSteps shipped) special splices rendered

/-- A view in an element that includes another view, with both spliced in. -/
theorem render_of_splices_nested :
    let steps : List Registration := [.builtins, .elements ["div", "p"]]
    let env : Environment :=
      ⟨.ofSteps steps, .standard, .ofTexts [("card", "p partial(note)"), ("note", "p('n')")]⟩
    let page : Document :=
      ⟨[⟨"div", [], [], [⟨"Partial", [⟨.quoted, "card"⟩], [], [⟨"hr", [], [], []⟩]⟩]⟩]⟩
    let page' : Document :=
      ⟨[⟨"div", [], [], [⟨"p", [], [], []⟩, ⟨"p", [⟨.quoted, "n"⟩], [], []⟩]⟩]⟩
    ((∀ step ∈ steps, step.IsShipped) ∧
        (Registry.ofSteps steps).find? "partial" ≠ some .element ∧
        env.Splices page.roots page'.roots ∧
        env.render .null page.roots = .ok "<div><p></p><p>n</p></div>") ∧
      env.render .null page'.roots = .ok "<div><p></p><p>n</p></div>" := by
  intro steps env page page'
  have shipped : ∀ step ∈ steps, step.IsShipped := by decide
  have special : (Registry.ofSteps steps).find? "partial" ≠ some .element := by decide +kernel
  have note : env.views.find? "note" = some (.ok "p('n')") := by decide +kernel
  have card : env.views.find? "card" = some (.ok "p partial(note)") := by decide +kernel
  have noteParsed : Document.parse "p('n')" = .ok ⟨[⟨"p", [⟨.quoted, "n"⟩], [], []⟩]⟩ := by
    decide +kernel
  have cardParsed : Document.parse "p partial(note)" =
      .ok ⟨[⟨"p", [], [], []⟩, ⟨"partial", [⟨.keyword, "note"⟩], [], []⟩]⟩ := by
    decide +kernel
  have noteSpliced : env.Splices [⟨"partial", [⟨.keyword, "note"⟩], [], []⟩]
      [⟨"p", [⟨.quoted, "n"⟩], [], []⟩] :=
    .splice (by decide) rfl note noteParsed (.keep .nil .nil) .nil
  have cardSpliced : env.Splices [⟨"Partial", [⟨.quoted, "card"⟩], [], [⟨"hr", [], [], []⟩]⟩]
      [⟨"p", [], [], []⟩, ⟨"p", [⟨.quoted, "n"⟩], [], []⟩] :=
    .splice (by decide) rfl card cardParsed (.keep .nil noteSpliced) .nil
  have splices : env.Splices page.roots page'.roots := .keep cardSpliced .nil
  have rendered : env.render .null page.roots = .ok "<div><p></p><p>n</p></div>" := by
    decide +kernel
  exact ⟨⟨shipped, special, splices, rendered⟩,
    render_of_splices shipped special splices rendered⟩

/-- With a registry of elements only, an element called `partial` that names a view is not the
statements of the view. -/
theorem not_render_of_splices_element :
    ¬∀ (steps : List Registration) (binders : Binders) (sources : Entries String) (model : Value)
      (document document' : Document) (html : String), (∀ step ∈ steps, step.IsShipped) →
      (⟨.ofSteps steps, binders, .ofTexts sources⟩ : Environment).Splices
        document.roots document'.roots →
      (⟨.ofSteps steps, binders, .ofTexts sources⟩ : Environment).render model
        document.roots = .ok html →
      (⟨.ofSteps steps, binders, .ofTexts sources⟩ : Environment).render model
        document'.roots = .ok html := by
  intro same
  let steps : List Registration := [.elements ["partial", "p"]]
  let env : Environment := ⟨.ofSteps steps, .standard, .ofTexts [("card", "p")]⟩
  have shipped : ∀ step ∈ steps, step.IsShipped := by decide
  have card : env.views.find? "card" = some (.ok "p") := by decide +kernel
  have parsed : Document.parse "p" = .ok ⟨[⟨"p", [], [], []⟩]⟩ := by decide +kernel
  have splices : env.Splices [⟨"partial", [⟨.quoted, "card"⟩], [], []⟩] [⟨"p", [], [], []⟩] :=
    .splice (by decide) rfl card parsed (.keep .nil .nil) .nil
  have rendered : env.render .null [⟨"partial", [⟨.quoted, "card"⟩], [], []⟩] =
      .ok "<partial>card</partial>" := by
    decide +kernel
  have spliced : env.render .null [⟨"p", [], [], []⟩] = .ok "<p></p>" := by decide +kernel
  have page := same steps .standard [("card", "p")] .null
    ⟨[⟨"partial", [⟨.quoted, "card"⟩], [], []⟩]⟩ ⟨[⟨"p", [], [], []⟩]⟩ _ shipped splices rendered
  exact absurd (spliced.symm.trans page) (by decide)

end HtmlTemplate.Environment
