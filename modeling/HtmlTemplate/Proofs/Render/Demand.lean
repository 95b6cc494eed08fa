import HtmlTemplate.Proofs.Outcome
import HtmlTemplate.Render

/-!
# What a statement asks for

A statement by itself settles whether it can be rendered at all, its attributes and its texts; what
is left is to render its children or to include a view (`Environment.demand`). So there are three
ways only in which a rendering goes on, whatever the registry says, and every fact about whole
renderings is an induction over the statements with these three cases (`renderAll_cons`,
`Node.forest_induction`).
-/

set_option autoImplicit false

namespace HtmlTemplate

/-- To show something of all forests, show it of a forest from the statements below its first
statement and from the statements behind it. -/
theorem Node.forest_induction {motive : List Node → Prop} (nil : motive [])
    (cons : ∀ node rest, motive node.children → motive rest → motive (node :: rest)) :
    ∀ nodes, motive nodes
  | [] => nil
  | ⟨name, parameters, attributes, children⟩ :: rest =>
    cons ⟨name, parameters, attributes, children⟩ rest (forest_induction nil cons children)
      (forest_induction nil cons rest)
termination_by nodes => Node.countAll nodes
decreasing_by all_goals simp only [Node.countAll, Node.count]; omega

/-- What a statement that has been settled itself still asks for. -/
inductive Demand
  /-- Nothing is left to render. -/
  | page (html : String)
  /-- The children of the statement go into the element. -/
  | children (element : Html.Tag)
  /-- A view stands in place of the statement, rendered against a model. -/
  | view (name : String) (part : Value)

namespace Environment

variable (env : Environment) (inclusion : Inclusion) (model : Value)

/-- The view that a statement includes, and what the view is rendered against. -/
def demandInclusion (node : Node) : Except RenderError Demand := do
  node.expectNamed "partial"
  match node.parameters with
  | [] => .error (.missingParameter node.name)
  | [view] => return .view view.text model
  | view :: part :: _ => return .view view.text (← env.binders.bind model part.kind part.text)

/-- An element with everything but its children. -/
def demandElement (node : Node) : Except RenderError Demand := do
  let element := Text.lowercase node.name
  if Html.isVoid element then
    node.expectChildless
    let tag ← env.binders.addAttributes model (.new element) node.attributes
    return .page tag.renderSelfClosing
  else
    let tag ← env.binders.addAttributes model (.new element) node.attributes
    return .children (← env.binders.addParameters model tag node.parameters)

/-- What a statement asks for if it is rendered in a given way. -/
def demandAs (renderer : Renderer) (node : Node) : Except RenderError Demand :=
  match renderer with
  | .doctype => do return .page (← renderDoctype node)
  | .input => do return .page (← env.renderInput model node)
  | .inclusion => env.demandInclusion model node
  | .element => env.demandElement model node

/-- What a statement asks for if it is rendered in the way that the registry holds for its name. -/
def demand (node : Node) : Except RenderError Demand :=
  match env.registry.find? node.name with
  | none => .error (.unknownRenderer node.name)
  | some renderer => env.demandAs model renderer node

/-- Renders what a statement with these children asks for. -/
def meet (children : List Node) : Demand → Except RenderError String
  | .page html => .ok html
  | .children element => do
    return (element.appendHtml (← env.renderAll inclusion model children)).render
  | .view name part => inclusion name part

/-- The statements of a view that is there and can be read. -/
def load (name : String) : Except RenderError (List Node) :=
  match env.views.find? name with
  | none => .error (.viewNotFound name)
  | some (.error reason) => .error (.viewUnreadable name reason)
  | some (.ok source) =>
    match Document.parse source with
    | .error reason => .error (.viewMalformed name reason source)
    | .ok document => .ok document.roots

/-! ## Renderings in terms of demands -/

theorem renderInclusion_eq (node : Node) (children : List Node) :
    env.renderInclusion inclusion model node =
      env.demandInclusion model node >>= env.meet inclusion model children := by
  unfold renderInclusion demandInclusion
  cases node.expectNamed "partial" with
  | error reason => rfl
  | ok done =>
    rcases node.parameters with _ | ⟨view, _ | ⟨part, rest⟩⟩
    · rfl
    · rfl
    · cases bound : env.binders.bind model part.kind part.text <;>
        simp [bind, Except.bind, pure, Except.pure, bound, meet]

theorem renderAs_eq (renderer : Renderer) (node : Node) :
    env.renderAs inclusion model renderer node =
      env.demandAs model renderer node >>= env.meet inclusion model node.children := by
  obtain ⟨name, parameters, attributes, children⟩ := node
  cases renderer <;> rw [renderAs, demandAs]
  case doctype => cases renderDoctype ⟨name, parameters, attributes, children⟩ <;> rfl
  case input => cases env.renderInput model ⟨name, parameters, attributes, children⟩ <;> rfl
  case inclusion => exact env.renderInclusion_eq inclusion model _ children
  case element =>
    rw [demandElement]
    dsimp only
    split
    · cases Node.expectChildless ⟨name, parameters, attributes, children⟩ with
      | error reason => rfl
      | ok done =>
        cases env.binders.addAttributes model (.new (Text.lowercase name)) attributes <;> rfl
    · cases env.binders.addAttributes model (.new (Text.lowercase name)) attributes with
      | error reason => rfl
      | ok tag =>
        cases added : env.binders.addParameters model tag parameters <;>
          simp [bind, Except.bind, pure, Except.pure, added, meet]

@[simp] theorem renderAll_nil : env.renderAll inclusion model [] = .ok "" := by
  rw [renderAll]

theorem renderAll_cons (node : Node) (rest : List Node) :
    env.renderAll inclusion model (node :: rest) = do
      let html ← env.demand model node >>= env.meet inclusion model node.children
      let more ← env.renderAll inclusion model rest
      return html ++ more := by
  rw [renderAll, demand]
  cases env.registry.find? node.name with
  | none => rfl
  | some renderer =>
    dsimp only
    rw [renderAs_eq]

/-- Statements that stand side by side are rendered one after the other. -/
theorem renderAll_append (first second : List Node) :
    env.renderAll inclusion model (first ++ second) = do
      let html ← env.renderAll inclusion model first
      let more ← env.renderAll inclusion model second
      return html ++ more := by
  induction first with
  | nil =>
    cases rendered : env.renderAll inclusion model second <;>
      simp [rendered, bind, Except.bind, pure, Except.pure]
  | cons node rest ih =>
    rw [List.cons_append, renderAll_cons, renderAll_cons, ih]
    cases env.demand model node >>= env.meet inclusion model node.children with
    | error reason => rfl
    | ok html =>
      cases env.renderAll inclusion model rest with
      | error reason => rfl
      | ok more =>
        cases env.renderAll inclusion model second with
        | error reason => rfl
        | ok last => exact congrArg Except.ok String.append_assoc.symm

theorem includeView_succ (count : Nat) (name : String) :
    env.includeView (count + 1) name model =
      env.load name >>= env.renderAll (env.includeView count) model := by
  rw [includeView, load]
  rcases env.views.find? name with _ | _ | source
  · rfl
  · rfl
  · dsimp only
    cases Document.parse source <;> rfl

end Environment

end HtmlTemplate
