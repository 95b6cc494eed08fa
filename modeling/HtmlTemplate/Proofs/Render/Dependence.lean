import HtmlTemplate.Proofs.Render.Culprit

/-!
# What a page depends on

A rendering looks at the model in one way only: it resolves the values that are written in the
statements that it comes to. A view that is included with a second parameter is rendered against
what that parameter is bound to, and nothing in the view sees the model (`renderInclusion_congr`).
So two models make the same page, or the same failure, if they resolve alike the values in the
template and in the views that are included in turn without a second parameter
(`Environment.Visits`).
-/

set_option autoImplicit false

namespace HtmlTemplate

/-- The parameter that stands for the part of the model a view is rendered against. -/
def Node.narrowing? (node : Node) : Option Parameter :=
  node.parameters[1]?

/-- The models resolve alike every value that is written in the statement. -/
def Binders.ReadsAlike (binders : Binders) (model model' : Value) (node : Node) : Prop :=
  ∀ kind text, (kind, text) ∈ node.values →
    binders.resolve model kind text = binders.resolve model' kind text

namespace Environment

/-- From statements one comes to a statement among them or below them, or in a view that such a
statement includes, by way of certain statements only. -/
inductive Visits (env : Environment) (through : Node → Prop) : List Node → Node → Prop
  | own {nodes : List Node} {node : Node} (inside : node.IsIn nodes) : Visits env through nodes node
  | view {nodes : List Node} {includer node : Node} {view source : String} {document : Document}
      (inside : includer.IsIn nodes) (passes : through includer)
      (includes : includer.IncludesView view) (found : env.views.find? view = some (.ok source))
      (parsed : Document.parse source = .ok document)
      (visits : Visits env through document.roots node) : Visits env through nodes node

variable {env : Environment} {inclusion : Inclusion} {model model' : Value} {node : Node}

/-- A statement that one comes to stands where one started from, or in a view that has been read. -/
theorem Visits.isIn {through : Node → Prop} {nodes : List Node} {node : Node}
    (visits : env.Visits through nodes node) :
    node.IsIn nodes ∨ ∃ view source document, env.views.find? view = some (.ok source) ∧
      Document.parse source = .ok document ∧ node.IsIn document.roots := by
  induction visits with
  | own inside => exact Or.inl inside
  | view inside passes includes found parsed visits ih =>
    rcases ih with within | elsewhere
    · exact Or.inr ⟨_, _, _, found, parsed, within⟩
    · exact Or.inr elsewhere

/-! ## Statements by themselves -/

theorem bind_congr {kind : ValueKind} {text : String}
    (same : env.binders.resolve model kind text = env.binders.resolve model' kind text) :
    env.binders.bind model kind text = env.binders.bind model' kind text :=
  congrArg (Except.mapError RenderError.binding) same

theorem addAttributes_congr {tag : Html.Tag} (alike : env.binders.ReadsAlike model model' node) :
    env.binders.addAttributes model tag node.attributes =
      env.binders.addAttributes model' tag node.attributes := by
  refine Except.foldlM_congr fun a member tag => ?_
  have written : (a.kind, a.text) ∈ node.values :=
    List.mem_append_left _ (List.mem_map_of_mem member)
  rw [bind_congr (alike _ _ written)]

theorem addParameters_congr {tag : Html.Tag} (alike : env.binders.ReadsAlike model model' node) :
    env.binders.addParameters model tag node.parameters =
      env.binders.addParameters model' tag node.parameters := by
  refine Except.foldlM_congr fun p member tag => ?_
  have written : (p.kind, p.text) ∈ node.values :=
    List.mem_append_right _ (List.mem_map_of_mem member)
  rw [bind_congr (alike _ _ written)]

/-- What a statement with a second parameter includes depends on the model by what the parameter is
bound to. -/
theorem demandInclusion_congr {part : Parameter} (narrows : node.narrowing? = some part)
    (same : env.binders.resolve model part.kind part.text =
      env.binders.resolve model' part.kind part.text) :
    env.demandInclusion model node = env.demandInclusion model' node := by
  unfold demandInclusion
  rcases parameters : node.parameters with _ | ⟨view, _ | ⟨part', more⟩⟩
  · rfl
  · simp [Node.narrowing?, parameters] at narrows
  · obtain rfl : part' = part := by simpa [Node.narrowing?, parameters] using narrows
    dsimp only
    rw [bind_congr same]

/-- What a statement asks for is the same for models that resolve its values alike, unless it is a
view against the model as a whole. -/
theorem demand_congr (alike : env.binders.ReadsAlike model model' node) :
    env.demand model node = env.demand model' node ∨
      ∃ view, node.IncludesView view ∧ node.narrowing? = none ∧
        env.demand model node = .ok (.view view model) ∧
        env.demand model' node = .ok (.view view model') := by
  unfold demand
  cases env.registry.find? node.name with
  | none => exact Or.inl rfl
  | some renderer =>
    cases renderer with
    | doctype => exact Or.inl rfl
    | input =>
      left
      dsimp only [demandAs, renderInput]
      rw [addAttributes_congr alike]
    | element =>
      left
      dsimp only [demandAs, demandElement]
      simp only [addAttributes_congr alike, addParameters_congr alike]
    | inclusion =>
      cases narrows : node.narrowing? with
      | some part =>
        have written : (part.kind, part.text) ∈ node.values :=
          List.mem_append_right _ (List.mem_map_of_mem (List.mem_of_getElem? narrows))
        exact Or.inl (demandInclusion_congr narrows (alike _ _ written))
      | none =>
        dsimp only [demandAs, demandInclusion]
        cases named : node.expectNamed "partial" with
        | error reason => exact Or.inl rfl
        | ok done =>
          rcases parameters : node.parameters with _ | ⟨view, _ | ⟨part, more⟩⟩
          · exact Or.inl rfl
          · have includes : node.IncludesView view.text :=
              ⟨Node.expectNamed_eq_ok_iff.mp named, by rw [parameters]; rfl⟩
            exact Or.inr ⟨view.text, includes, rfl, rfl, rfl⟩
          · simp [Node.narrowing?, parameters] at narrows

/-! ## Renderings -/

/-- If the views that are rendered against the model as a whole do not depend on more of it, neither
do the statements. -/
theorem renderAll_congr (nodes : List Node)
    (alike : ∀ node : Node, node.IsIn nodes → env.binders.ReadsAlike model model' node)
    (views : ∀ (includer : Node) (view : String), includer.IsIn nodes →
      includer.IncludesView view → includer.narrowing? = none →
        inclusion view model = inclusion view model') :
    env.renderAll inclusion model nodes = env.renderAll inclusion model' nodes := by
  induction nodes using Node.forest_induction with
  | nil => rw [renderAll_nil, renderAll_nil]
  | cons node rest children later =>
    have below := children (fun other inside => alike other (.child inside))
      fun includer view inside => views includer view (.child inside)
    have behind := later (fun other inside => alike other (.later inside))
      fun includer view inside => views includer view (.later inside)
    have here : env.demand model node >>= env.meet inclusion model node.children =
        env.demand model' node >>= env.meet inclusion model' node.children := by
      rcases demand_congr (alike node (.here rest)) with
        same | ⟨view, includes, whole, asked, asked'⟩
      · rw [same]
        refine congrArg _ (funext fun demand => ?_)
        cases demand with
        | page html => rfl
        | view view part => rfl
        | children element => rw [meet, meet, below]
      · rw [asked, asked']
        exact views node view (.here rest) includes whole
    rw [renderAll_cons, renderAll_cons, here, behind]

/-- The induction is on the number of views that may still be opened. -/
theorem renderAll_includeView_congr : ∀ (count : Nat) (nodes : List Node),
    (∀ node, env.Visits (·.narrowing? = none) nodes node →
      env.binders.ReadsAlike model model' node) →
    env.renderAll (env.includeView count) model nodes =
      env.renderAll (env.includeView count) model' nodes
  | 0, nodes, alike => renderAll_congr nodes (fun node inside => alike node (.own inside))
      fun _ _ _ _ _ => rfl
  | count + 1, nodes, alike => by
    refine renderAll_congr nodes (fun node inside => alike node (.own inside)) ?_
    intro includer view inside includes whole
    rw [includeView_succ, includeView_succ]
    cases loaded : env.load view with
    | error reason => rfl
    | ok roots =>
      obtain ⟨source, document, found, parsed, rfl⟩ := load_eq_ok_iff.mp loaded
      exact renderAll_includeView_congr count document.roots fun node visits =>
        alike node (.view inside whole includes found parsed visits)

/-- A statement with a second parameter is rendered to the same page, however views are included,
against models that resolve this parameter alike. -/
theorem renderInclusion_congr {part : Parameter} (narrows : node.narrowing? = some part)
    (same : env.binders.resolve model part.kind part.text =
      env.binders.resolve model' part.kind part.text) :
    env.renderInclusion inclusion model node = env.renderInclusion inclusion model' node := by
  -- No children are left to a statement that includes a view.
  have met : env.meet inclusion model [] = env.meet inclusion model' [] := by
    funext demand
    cases demand with
    | page html => rfl
    | children element => rw [meet, meet, renderAll_nil, renderAll_nil]
    | view view part => rfl
  rw [renderInclusion_eq _ _ _ _ [], renderInclusion_eq _ _ _ _ [],
    demandInclusion_congr narrows same, met]

/-- Models that resolve alike the values in a template, and in the views that are included in turn
without a second parameter, make the same page of it or the same failure. With a second parameter a
view depends on the model by what the parameter is bound to, wherever it is included. -/
theorem render_congr_of_resolve (env : Environment) (model model' : Value) :
    (∀ document : Document,
      (∀ node, env.Visits (·.narrowing? = none) document.roots node →
        env.binders.ReadsAlike model model' node) →
      env.render model document.roots = env.render model' document.roots) ∧
    ∀ (inclusion : Inclusion) (node : Node) (part : Parameter), node.narrowing? = some part →
      env.binders.resolve model part.kind part.text =
        env.binders.resolve model' part.kind part.text →
      env.renderAs inclusion model .inclusion node =
        env.renderAs inclusion model' .inclusion node := by
  refine ⟨fun document alike => renderAll_includeView_congr maxInclusion document.roots alike, ?_⟩
  intro inclusion node part narrows same
  obtain ⟨name, parameters, attributes, children⟩ := node
  rw [renderAs, renderAs]
  exact renderInclusion_congr narrows same

/-- Models that differ in an age which a view reads, but only from the user that the view is
rendered against. -/
theorem render_congr_of_resolve_narrowed :
    let env : Environment :=
      ⟨.ofSteps [.builtins, .elements ["p", "em"]], .standard,
        .ofTexts [("card", "p[title=user.name] partial(note, user)"), ("note", "em(age)")]⟩
    let user : Value := .map [("name", .string "A"), ("age", .int 7)]
    let model : Value := .map [("age", .int 1), ("user", user)]
    let model' : Value := .map [("user", user), ("age", .int 2), ("secret", .null)]
    let page : Document := ⟨[⟨"partial", [⟨.quoted, "card"⟩], [], []⟩]⟩
    let note : Node := ⟨"partial", [⟨.keyword, "note"⟩, ⟨.keyword, "user"⟩], [], []⟩
    ((∀ node, env.Visits (·.narrowing? = none) page.roots node →
        env.binders.ReadsAlike model model' node) ∧
      env.render model page.roots = env.render model' page.roots) ∧
    (note.narrowing? = some ⟨.keyword, "user"⟩ ∧
      env.binders.resolve model .keyword "user" = env.binders.resolve model' .keyword "user") ∧
      env.renderAs (env.includeView 1) model .inclusion note =
        env.renderAs (env.includeView 1) model' .inclusion note := by
  intro env user model model' page note
  let card : List Node := [⟨"p", [], [⟨"title", .keyword, "user.name"⟩], []⟩, note]
  have found' : env.views.find? "card" =
      some (.ok "p[title=user.name] partial(note, user)") := by decide +kernel
  have parsed' : Document.parse "p[title=user.name] partial(note, user)" = .ok ⟨card⟩ := by
    decide +kernel
  have userAlike : env.binders.resolve model .keyword "user" =
      env.binders.resolve model' .keyword "user" := rfl
  have nameAlike : env.binders.resolve model .keyword "user.name" =
      env.binders.resolve model' .keyword "user.name" := rfl
  have noteAlike : env.binders.resolve model .keyword "note" =
      env.binders.resolve model' .keyword "note" := rfl
  have alike : ∀ node, env.Visits (·.narrowing? = none) page.roots node →
      env.binders.ReadsAlike model model' node := by
    intro node visits kind text written
    cases visits with
    | own inside =>
      obtain rfl : node = ⟨"partial", [⟨.quoted, "card"⟩], [], []⟩ := by simpa [page] using inside
      obtain ⟨rfl, rfl⟩ : kind = .quoted ∧ text = "card" := by simpa [Node.values] using written
      rfl
    | @view _ includer _ view source document inside passes includes found parsed visits =>
      obtain rfl : includer = ⟨"partial", [⟨.quoted, "card"⟩], [], []⟩ := by
        simpa [page] using inside
      obtain rfl : "card" = view := Option.some.inj includes.2
      obtain rfl := Except.ok.inj (Option.some.inj (found.symm.trans found'))
      obtain rfl := Except.ok.inj (parsed.symm.trans parsed')
      cases visits with
      | own inside =>
        rcases (by simpa [card, note] using inside : node = _ ∨ node = _) with rfl | rfl
        · obtain ⟨rfl, rfl⟩ : kind = .keyword ∧ text = "user.name" := by
            simpa [Node.values] using written
          exact nameAlike
        · rcases (by simpa [Node.values] using written :
            (kind = .keyword ∧ text = "note") ∨ (kind = .keyword ∧ text = "user")) with
            ⟨rfl, rfl⟩ | ⟨rfl, rfl⟩
          · exact noteAlike
          · exact userAlike
      | view inside passes includes =>
        -- The first statement includes no view, and the second one narrows the model.
        rcases (by simpa [card, note] using inside) with rfl | rfl
        · have other : Node.isNamed ⟨"p", [], [⟨"title", .keyword, "user.name"⟩], []⟩ "partial" =
              false := by decide
          rw [Node.IncludesView, other] at includes
          cases includes.1
        · cases passes
  obtain ⟨whole, narrowed⟩ := render_congr_of_resolve env model model'
  exact ⟨⟨alike, whole page alike⟩, ⟨rfl, userAlike⟩,
    narrowed (env.includeView 1) note ⟨.keyword, "user"⟩ rfl userAlike⟩

end Environment

end HtmlTemplate
