import HtmlTemplate.Proofs.Binding
import HtmlTemplate.Proofs.Registry
import HtmlTemplate.Proofs.Render
import HtmlTemplate.Proofs.Render.Demand

/-!
# What is wrong with a statement

A statement explains a failure if something is wrong with the statement that the failure names
(`Environment.Explains`). Whatever a statement asks for that cannot be met, its name, its values or
the view that it includes, the statement explains the failure that this makes.
-/

set_option autoImplicit false

namespace HtmlTemplate

namespace Node

/-- The values that are written in a statement, of attributes and of parameters. -/
def values (node : Node) : List (ValueKind × String) :=
  node.attributes.map (fun a => (a.kind, a.text)) ++ node.parameters.map fun p => (p.kind, p.text)

/-- The statement includes the view of a name: it is a partial, and the name its first parameter. -/
def IncludesView (node : Node) (view : String) : Prop :=
  node.isNamed "partial" = true ∧ node.parameters.head?.map (·.text) = some view

end Node

/-- The text is followed as a path in the model, and not understood by itself. -/
def ValueKind.LooksUp (model : Value) (text : String) : ValueKind → Prop
  | .path => True
  | .keyword => model.isNull = false ∧
    ∀ word ∈ ["true", "false", "null"], Text.sameIgnoringAsciiCase text word = false
  | .quoted | .multiline | .pipe => False

namespace Environment

/-- What is wrong with a statement that is rendered against a model, by the failure it makes. -/
def Explains (env : Environment) (model : Value) (node : Node) : RenderError → Prop
  | .unknownRenderer name => node.name = name ∧ Text.lowercase name ∉ env.registry.names
  | .childrenNotAllowed name =>
    node.name = name ∧ Html.isVoid (Text.lowercase name) = true ∧ node.children ≠ []
  | .missingParameter name =>
    node.name = name ∧ node.isNamed "partial" = true ∧ node.parameters = []
  | .viewNotFound view => node.IncludesView view ∧ env.views.find? view = none
  | .viewUnreadable view reason =>
    node.IncludesView view ∧ env.views.find? view = some (.error reason)
  | .viewMalformed view reason source =>
    node.IncludesView view ∧ env.views.find? view = some (.ok source) ∧
      Document.parse source = .error reason
  | .binding (.memberNotFound path segment) =>
    ∃ kind, (kind, path) ∈ node.values ∧ kind.LooksUp model path ∧
      ∃ before after value, Text.splitAt '.' path = before ++ segment :: after ∧
        before.foldlM env.binders.member? model = some value ∧
        env.binders.member? value segment = none
  | .binding .emptyPath => ∃ kind, (kind, "") ∈ node.values ∧ kind.LooksUp model ""
  | .unexpectedStatement expected found =>
    node.name = found ∧ node.isNamed expected = false ∧
      ∃ renderer, env.registry.find? found = some renderer ∧
        (expected, renderer) ∈ Registry.builtins
  | .inclusionTooDeep _ => False

/-! ## Values that cannot be bound -/

/-- Only values that are looked up can fail to be bound. -/
theorem resolve_eq_error {binders : Binders} {model : Value} {kind : ValueKind} {text : String}
    {reason : BindingError} (failed : binders.resolve model kind text = .error reason) :
    kind.LooksUp model text ∧ binders.follow model text = .error reason := by
  unfold Binders.resolve at failed
  cases kind with
  | quoted | multiline | pipe => cases failed
  | path => exact ⟨trivial, failed⟩
  | keyword =>
    dsimp only at failed
    split at failed
    · cases failed
    · next notTrue =>
      split at failed
      · cases failed
      · next notFalse =>
        split at failed
        · cases failed
        · next present =>
          simp only [Bool.or_eq_true, not_or, Bool.not_eq_true] at notTrue notFalse present
          exact ⟨⟨present.2, by simp [notTrue, notFalse, present.1]⟩, failed⟩

variable {env : Environment}

/-- A value of a statement that cannot be bound explains the failure. -/
theorem explains_of_bind {model : Value} {node : Node} {kind : ValueKind} {text : String}
    {reason : RenderError} (written : (kind, text) ∈ node.values)
    (failed : env.binders.bind model kind text = .error reason) :
    env.Explains model node reason := by
  unfold Binders.bind at failed
  cases resolved : env.binders.resolve model kind text with
  | ok value => rw [resolved] at failed; cases failed
  | error unbound =>
    rw [resolved] at failed
    cases failed
    obtain ⟨looked, unfollowed⟩ := resolve_eq_error resolved
    rcases env.binders.follow_eq_error unfollowed with ⟨rfl, rfl⟩ |
      ⟨segment, before, after, value, rfl, missing⟩
    · exact ⟨kind, written, looked⟩
    · exact ⟨kind, written, looked, before, after, value, missing⟩

theorem explains_of_addAttributes {model : Value} {node : Node} {tag : Html.Tag}
    {reason : RenderError}
    (failed : env.binders.addAttributes model tag node.attributes = .error reason) :
    env.Explains model node reason := by
  obtain ⟨a, member, tag', failed'⟩ := Except.exists_of_foldlM_eq_error failed
  rcases Except.bind_eq_error_iff.mp failed' with unbound | ⟨value, -, added⟩
  · have written : (a.kind, a.text) ∈ node.values :=
      List.mem_append_left _ (List.mem_map_of_mem member)
    exact explains_of_bind written unbound
  · cases added

theorem explains_of_addParameters {model : Value} {node : Node} {tag : Html.Tag}
    {reason : RenderError}
    (failed : env.binders.addParameters model tag node.parameters = .error reason) :
    env.Explains model node reason := by
  obtain ⟨p, member, tag', failed'⟩ := Except.exists_of_foldlM_eq_error failed
  rcases Except.bind_eq_error_iff.mp failed' with unbound | ⟨value, -, added⟩
  · have written : (p.kind, p.text) ∈ node.values :=
      List.mem_append_right _ (List.mem_map_of_mem member)
    exact explains_of_bind written unbound
  · cases added

/-! ## Statements that ask for nothing that can be met -/

theorem explains_of_expectNamed {model : Value} {node : Node} {expected : String}
    {renderer : Renderer} {reason : RenderError}
    (found : env.registry.find? node.name = some renderer)
    (listed : (expected, renderer) ∈ Registry.builtins)
    (failed : node.expectNamed expected = .error reason) : env.Explains model node reason := by
  unfold Node.expectNamed at failed
  split at failed
  · cases failed
  · next other =>
    cases failed
    exact ⟨rfl, Bool.eq_false_iff.mpr other, renderer, found, listed⟩

theorem explains_of_expectChildless {model : Value} {node : Node} {reason : RenderError}
    (empty : Html.isVoid (Text.lowercase node.name) = true)
    (failed : node.expectChildless = .error reason) : env.Explains model node reason := by
  unfold Node.expectChildless at failed
  split at failed
  · cases failed
  · next children =>
    cases failed
    exact ⟨rfl, empty, by simpa using children⟩

theorem explains_of_renderDoctype {model : Value} {node : Node} {reason : RenderError}
    (found : env.registry.find? node.name = some .doctype)
    (failed : renderDoctype node = .error reason) : env.Explains model node reason := by
  rcases Except.bind_eq_error_iff.mp failed with unnamed | ⟨_, -, written⟩
  · exact explains_of_expectNamed found (by decide) unnamed
  · cases written

theorem explains_of_renderInput {model : Value} {node : Node} {reason : RenderError}
    (found : env.registry.find? node.name = some .input)
    (failed : env.renderInput model node = .error reason) : env.Explains model node reason := by
  have listed : ("input", Renderer.input) ∈ Registry.builtins := by decide
  rcases Except.bind_eq_error_iff.mp failed with unnamed | ⟨_, named, failed⟩
  · exact explains_of_expectNamed found listed unnamed
  rcases Except.bind_eq_error_iff.mp failed with nested | ⟨_, -, failed⟩
  · have lowered : Text.lowercase node.name = "input" :=
      (Registry.lowercase_eq_builtin_iff listed).mpr (Node.expectNamed_eq_ok_iff.mp named)
    have empty : Html.isVoid (Text.lowercase node.name) = true := by
      rw [lowered]
      decide
    exact explains_of_expectChildless empty nested
  rcases Except.bind_eq_error_iff.mp failed with unbound | ⟨tag, -, written⟩
  · exact explains_of_addAttributes unbound
  · split at written <;> cases written

theorem explains_of_demandInclusion {model : Value} {node : Node} {reason : RenderError}
    (found : env.registry.find? node.name = some .inclusion)
    (failed : env.demandInclusion model node = .error reason) :
    env.Explains model node reason := by
  rcases Except.bind_eq_error_iff.mp failed with unnamed | ⟨_, named, failed⟩
  · exact explains_of_expectNamed found (by decide) unnamed
  · split at failed
    · next none =>
      cases failed
      exact ⟨rfl, Node.expectNamed_eq_ok_iff.mp named, none⟩
    · cases failed
    · next view part rest several =>
      rcases Except.bind_eq_error_iff.mp failed with unbound | ⟨value, -, asked⟩
      · have written : (part.kind, part.text) ∈ node.values := by simp [Node.values, several]
        exact explains_of_bind written unbound
      · cases asked

theorem explains_of_demandElement {model : Value} {node : Node} {reason : RenderError}
    (failed : env.demandElement model node = .error reason) : env.Explains model node reason := by
  unfold demandElement at failed
  dsimp only at failed
  split at failed
  · next empty =>
    rcases Except.bind_eq_error_iff.mp failed with nested | ⟨_, -, failed⟩
    · exact explains_of_expectChildless empty nested
    rcases Except.bind_eq_error_iff.mp failed with unbound | ⟨tag, -, asked⟩
    · exact explains_of_addAttributes unbound
    · cases asked
  · rcases Except.bind_eq_error_iff.mp failed with unbound | ⟨tag, -, failed⟩
    · exact explains_of_addAttributes unbound
    rcases Except.bind_eq_error_iff.mp failed with unbound | ⟨tag', -, asked⟩
    · exact explains_of_addParameters unbound
    · cases asked

/-- A statement that cannot be rendered by itself explains why. -/
theorem explains_of_demand {model : Value} {node : Node} {reason : RenderError}
    (failed : env.demand model node = .error reason) : env.Explains model node reason := by
  unfold demand at failed
  split at failed
  · next missing =>
    cases failed
    exact ⟨rfl, Registry.find?_eq_none_iff.mp missing⟩
  · next renderer found =>
    cases renderer with
    | doctype =>
      rcases Except.bind_eq_error_iff.mp failed with failed | ⟨_, -, asked⟩
      · exact explains_of_renderDoctype found failed
      · cases asked
    | input =>
      rcases Except.bind_eq_error_iff.mp failed with failed | ⟨_, -, asked⟩
      · exact explains_of_renderInput found failed
      · cases asked
    | inclusion => exact explains_of_demandInclusion found failed
    | element => exact explains_of_demandElement failed

/-! ## Views that are included -/

/-- A statement asks for a view only if it includes the view, rendered against the same model or the
part of it that a second parameter is bound to. -/
theorem includes_of_demand {model part : Value} {node : Node} {view : String}
    (asked : env.demand model node = .ok (.view view part)) :
    node.IncludesView view ∧ ∀ {source : String} {document : Document},
      env.views.find? view = some (.ok source) → Document.parse source = .ok document →
        env.Includes model node.parameters document part := by
  unfold demand at asked
  split at asked
  · cases asked
  · next renderer found =>
    cases renderer with
    | doctype =>
      obtain ⟨html, -, other⟩ := Except.bind_eq_ok_iff.mp asked
      cases other
    | input =>
      obtain ⟨html, -, other⟩ := Except.bind_eq_ok_iff.mp asked
      cases other
    | inclusion =>
      obtain ⟨_, named, asked⟩ := Except.bind_eq_ok_iff.mp asked
      have named' := Node.expectNamed_eq_ok_iff.mp named
      split at asked
      · cases asked
      · next first single =>
        cases asked
        rw [Node.IncludesView, single]
        exact ⟨⟨named', rfl⟩, fun found parsed => .whole found parsed⟩
      · next first chosen rest several =>
        obtain ⟨value, resolved, asked⟩ := Except.bind_eq_ok_iff.mp asked
        cases asked
        rw [Node.IncludesView, several]
        exact ⟨⟨named', rfl⟩, fun found parsed => .part found parsed resolved⟩
    | element =>
      rw [demandAs, demandElement] at asked
      split at asked
      · obtain ⟨_, -, asked⟩ := Except.bind_eq_ok_iff.mp asked
        obtain ⟨tag, -, other⟩ := Except.bind_eq_ok_iff.mp asked
        cases other
      · obtain ⟨tag, -, asked⟩ := Except.bind_eq_ok_iff.mp asked
        obtain ⟨tag', -, other⟩ := Except.bind_eq_ok_iff.mp asked
        cases other

theorem load_eq_ok_iff {view : String} {nodes : List Node} :
    env.load view = .ok nodes ↔ ∃ source document, env.views.find? view = some (.ok source) ∧
      Document.parse source = .ok document ∧ document.roots = nodes := by
  unfold load
  rcases env.views.find? view with _ | _ | source
  · simp
  · simp
  · cases parsed : Document.parse source <;> simp [parsed]

/-- A view that cannot be loaded explains the failure by the statement that includes it. -/
theorem explains_of_load {model : Value} {node : Node} {view : String} {reason : RenderError}
    (includes : node.IncludesView view) (failed : env.load view = .error reason) :
    env.Explains model node reason := by
  unfold load at failed
  split at failed
  · next missing =>
    cases failed
    exact ⟨includes, missing⟩
  · next unread =>
    cases failed
    exact ⟨includes, unread⟩
  · next source found =>
    split at failed
    · next malformed =>
      cases failed
      exact ⟨includes, found, malformed⟩
    · cases failed

end Environment

end HtmlTemplate
