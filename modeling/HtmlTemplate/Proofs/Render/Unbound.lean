import HtmlTemplate.Proofs.Render.Dependence

/-!
# Rendering without a model

A template that is read has no paths as values, and its bare names are not empty, in the template
itself and in every view (`Reaches.wellFormed`). A name stands for null where there is no model, so
no value of the template is looked up there, and a view that is included with a name is rendered
without a model again (`Reaches.isNull`). So a rendering without a model does not fail to bind
values, unless some view is rendered against a literal or a truth value, and no rendering at all
comes to an empty path (`render_binds_of_parse`).
-/

set_option autoImplicit false

namespace HtmlTemplate

/-- The parameter is a bare name and no truth value: it stands for null or for a part of the
model. -/
structure Parameter.IsModelName (p : Parameter) : Prop where
  keyword : p.kind = .keyword
  notTruth : ∀ word ∈ ["true", "false"], Text.sameIgnoringAsciiCase p.text word = false

/-! ## Values that have been read -/

/-- Without a model no value that can be written is looked up. -/
theorem ValueKind.Allows.not_looksUp_null {kind : ValueKind} {text : String}
    (allowed : kind.Allows text) : ¬kind.LooksUp .null text := by
  intro looked
  cases kind with
  | keyword => cases looked.1
  | quoted | multiline | pipe => exact looked
  | path => exact allowed

/-- No value that can be written is looked up under an empty path. -/
theorem ValueKind.Allows.not_looksUp_empty {kind : ValueKind} {model : Value}
    (allowed : kind.Allows "") : ¬kind.LooksUp model "" := by
  intro looked
  cases kind with
  | keyword =>
    obtain ⟨head, tail, whole, -⟩ := allowed
    cases whole
  | quoted | multiline | pipe => exact looked
  | path => exact allowed

theorem Node.WellFormed.allows {node : Node} (wellFormed : node.WellFormed) {kind : ValueKind}
    {text : String} (written : (kind, text) ∈ node.values) : kind.Allows text := by
  rcases List.mem_append.mp written with listed | listed
  · obtain ⟨a, member, same⟩ := List.mem_map.mp listed
    cases same
    exact (wellFormed.attributes a member).value
  · obtain ⟨p, member, same⟩ := List.mem_map.mp listed
    cases same
    exact wellFormed.parameters p member

theorem Node.IsIn.wellFormed {node : Node} {nodes : List Node} (inside : node.IsIn nodes) :
    ∀ {depth : Nat}, Node.AllWellFormedAt depth nodes → node.WellFormed := by
  induction inside with
  | here rest =>
    intro depth all
    exact (Node.wellFormedAt_iff.mp (Node.allWellFormedAt_cons.mp all).1).1.2
  | child inside ih =>
    intro depth all
    exact ih (Node.wellFormedAt_iff.mp (Node.allWellFormedAt_cons.mp all).1).2
  | later inside ih =>
    intro depth all
    exact ih (Node.allWellFormedAt_cons.mp all).2

namespace Environment

variable {env : Environment} {model part : Value} {nodes : List Node} {node : Node}

/-- The view that a statement includes has been read, and is rendered against the model or against
what a second parameter is bound to. -/
theorem Includes.read {parameters : List Parameter} {document : Document}
    (includes : env.Includes model parameters document part) :
    ∃ view source, parameters.head?.map (·.text) = some view ∧
      env.views.find? view = some (.ok source) ∧ Document.parse source = .ok document ∧
      (part = model ∨ ∃ p, parameters[1]? = some p ∧
        env.binders.bind model p.kind p.text = .ok part) := by
  cases includes with
  | whole found parsed => exact ⟨_, _, rfl, found, parsed, Or.inl rfl⟩
  | part found parsed resolved => exact ⟨_, _, rfl, found, parsed, Or.inr ⟨_, rfl, resolved⟩⟩

/-- A rendering comes to statements that have been read only, if it starts from such. -/
theorem Reaches.wellFormed (reaches : env.Reaches model nodes part node) :
    ∀ {depth : Nat}, Node.AllWellFormedAt depth nodes → node.WellFormed := by
  induction reaches with
  | own inside => exact inside.wellFormed
  | view inside named includes reaches ih =>
    intro depth read
    obtain ⟨view, source, -, -, parsed, -⟩ := includes.read
    exact ih (Document.wellFormed_of_parse parsed)

theorem bind_null_of_isModelName {binders : Binders} {p : Parameter} {value : Value}
    (name : p.IsModelName) (bound : binders.bind .null p.kind p.text = .ok value) :
    value = .null := by
  obtain ⟨kind, text⟩ := p
  obtain rfl : kind = .keyword := name.keyword
  have notTruth := name.notTruth
  simp only [List.forall_mem_cons] at notTruth
  have null : binders.resolve .null .keyword text = .ok .null := by
    simp [Binders.resolve, Value.isNull, notTruth]
  rw [Binders.bind, null] at bound
  exact (Except.ok.inj bound).symm

/-- Without a model a rendering goes on without a model, if no view is rendered against a literal or
a truth value. -/
theorem Reaches.isNull (reaches : env.Reaches model nodes part node) :
    model = .null → (∀ node, env.Visits (fun _ => True) nodes node →
      node.isNamed "partial" = true → ∀ p, node.narrowing? = some p → p.IsModelName) →
        part = .null := by
  induction reaches with
  | own inside => exact fun null names => null
  | @view _ _ _ _ includer _ _ inside named includes reaches ih =>
    intro null names
    obtain ⟨view, source, first, found, parsed, narrowed⟩ := includes.read
    refine ih ?_ fun node visits =>
      names node (.view inside trivial ⟨named, first⟩ found parsed visits)
    rcases narrowed with same | ⟨p, narrows, bound⟩
    · exact same.trans null
    · subst null
      exact bind_null_of_isModelName (names includer (.own inside) named p narrows) bound

/-- A template that is read is rendered without a model and without a failure to bind a value, if
every statement that renders a view against a part of the model names the part. Whatever the model
is, no rendering of the template fails for an empty path. -/
theorem render_binds_of_parse (env : Environment) {source : String} {document : Document}
    (parsed : Document.parse source = .ok document) :
    ((∀ node, env.Visits (fun _ => True) document.roots node → node.isNamed "partial" = true →
        ∀ p, node.narrowing? = some p → p.IsModelName) →
      ∀ reason, env.render .null document.roots ≠ .error (.binding reason)) ∧
    ∀ model, env.render model document.roots ≠ .error (.binding .emptyPath) := by
  have read : Node.AllWellFormedAt 0 document.roots := Document.wellFormed_of_parse parsed
  constructor
  · intro names reason failed
    cases culprit_of_renderAll_includeView maxInclusion failed with
    | statement reaches explains =>
      obtain rfl := reaches.isNull rfl names
      have wellFormed := reaches.wellFormed read
      cases reason with
      | memberNotFound path segment =>
        obtain ⟨kind, written, looked, -⟩ := explains
        exact (wellFormed.allows written).not_looksUp_null looked
      | emptyPath =>
        obtain ⟨kind, written, looked⟩ := explains
        exact (wellFormed.allows written).not_looksUp_null looked
  · intro model failed
    cases culprit_of_renderAll_includeView maxInclusion failed with
    | statement reaches explains =>
      obtain ⟨kind, written, looked⟩ := explains
      exact ((reaches.wellFormed read).allows written).not_looksUp_empty looked

/-- A view that is rendered against a part of no model and includes another view. -/
theorem render_binds_of_parse_nested :
    let env : Environment :=
      ⟨.ofSteps [.builtins, .elements ["p", "em"]], .standard,
        .ofTexts [("card", "p(name)[title=age] partial(note)"), ("note", "em(user.name)")]⟩
    let page : Document := ⟨[⟨"partial", [⟨.keyword, "card"⟩, ⟨.keyword, "user"⟩], [], []⟩]⟩
    (Document.parse "partial(card, user)" = .ok page ∧
      ∀ node, env.Visits (fun _ => True) page.roots node → node.isNamed "partial" = true →
        ∀ p, node.narrowing? = some p → p.IsModelName) ∧
    (∀ reason, env.render .null page.roots ≠ .error (.binding reason)) ∧
      ∀ model, env.render model page.roots ≠ .error (.binding .emptyPath) := by
  intro env page
  let card : List Node :=
    [⟨"p", [⟨.keyword, "name"⟩], [⟨"title", .keyword, "age"⟩], []⟩,
     ⟨"partial", [⟨.keyword, "note"⟩], [], []⟩]
  let note : List Node := [⟨"em", [⟨.keyword, "user.name"⟩], [], []⟩]
  have parsed : Document.parse "partial(card, user)" = .ok page := by decide +kernel
  have cardParsed : Document.parse "p(name)[title=age] partial(note)" = .ok ⟨card⟩ := by
    decide +kernel
  have noteParsed : Document.parse "em(user.name)" = .ok ⟨note⟩ := by decide +kernel
  have sources : ∀ view source, env.views.find? view = some (.ok source) →
      source = "p(name)[title=age] partial(note)" ∨ source = "em(user.name)" := by
    intro view source found
    obtain ⟨text, listed, same⟩ := Option.map_eq_some_iff.mp found
    obtain rfl := Except.ok.inj same
    obtain ⟨before, after, split, -⟩ := List.lookup_eq_some_iff.mp listed
    have member : (view, text) ∈
        [("card", "p(name)[title=age] partial(note)"), ("note", "em(user.name)")] := by
      rw [split]
      simp
    rcases (by simpa using member) with ⟨-, rfl⟩ | ⟨-, rfl⟩
    · exact Or.inl rfl
    · exact Or.inr rfl
  have names : ∀ node, env.Visits (fun _ => True) page.roots node →
      node.isNamed "partial" = true → ∀ p, node.narrowing? = some p → p.IsModelName := by
    intro node visits named p narrows
    rcases visits.isIn with inside | ⟨view, source, document, found, read, inside⟩
    · obtain rfl : node = ⟨"partial", [⟨.keyword, "card"⟩, ⟨.keyword, "user"⟩], [], []⟩ := by
        simpa [page] using inside
      obtain rfl := Option.some.inj narrows
      exact ⟨rfl, by decide⟩
    · rcases sources view source found with rfl | rfl
      · obtain rfl := Except.ok.inj (read.symm.trans cardParsed)
        rcases (by simpa [card] using inside) with rfl | rfl
        · cases named
        · cases narrows
      · obtain rfl := Except.ok.inj (read.symm.trans noteParsed)
        obtain rfl : node = ⟨"em", [⟨.keyword, "user.name"⟩], [], []⟩ := by
          simpa [note] using inside
        cases named
  exact ⟨⟨parsed, names⟩, (render_binds_of_parse env parsed).1 names,
    (render_binds_of_parse env parsed).2⟩

end Environment

end HtmlTemplate
