import HtmlTemplate.Proofs.Render.Culprit

/-!
# Views within views

Views may include one another without end, and still every rendering comes to an end, because no
view is opened where `maxInclusion` of them are open. `Environment.Runs` says how a rendering goes
on by counting the views that are open, and nothing in it bounds how long this takes. Its
derivations are finite, so that there is one for every rendering is what it means to come to an end
(`exists_runs`), and no derivation opens more views within one another than are left
(`Runs.eq_renderAll`).

The limit does nothing but cut renderings off: a rendering that is not cut off does not depend on
how many more views could have been opened (`extends_renderFrom`), and none is cut off without a
chain of too many views (`exists_chain_of_tooDeep`).
-/

set_option autoImplicit false

namespace HtmlTemplate.Environment

/-- Renders statements where so many views are open already. -/
def renderFrom (env : Environment) (depth : Nat) (model : Value) (nodes : List Node) :
    Except RenderError String :=
  env.renderAll (env.includeView (maxInclusion - depth)) model nodes

mutual

/-- Where `depth` views are open, rendering the statements has this outcome and opens so many
further views within one another at most. -/
inductive Runs (env : Environment) :
    Nat → Value → List Node → Except RenderError String → Nat → Prop
  | nil (depth : Nat) (model : Value) : Runs env depth model [] (.ok "") 0
  | fails {depth opened : Nat} {model : Value} {node : Node} {rest : List Node}
      {reason : RenderError} (here : RunsOne env depth model node (.error reason) opened) :
      Runs env depth model (node :: rest) (.error reason) opened
  | goesOn {depth opened opened' : Nat} {model : Value} {node : Node} {rest : List Node}
      {html : String} {outcome : Except RenderError String}
      (here : RunsOne env depth model node (.ok html) opened)
      (later : Runs env depth model rest outcome opened') :
      Runs env depth model (node :: rest) (outcome.map (html ++ ·)) (max opened opened')

/-- The same for one statement. A view counts as opened as soon as there is room for it. -/
inductive RunsOne (env : Environment) :
    Nat → Value → Node → Except RenderError String → Nat → Prop
  | refused {depth : Nat} {model : Value} {node : Node} {reason : RenderError}
      (refused : env.demand model node = .error reason) :
      RunsOne env depth model node (.error reason) 0
  | page {depth : Nat} {model : Value} {node : Node} {html : String}
      (asked : env.demand model node = .ok (.page html)) :
      RunsOne env depth model node (.ok html) 0
  | children {depth opened : Nat} {model : Value} {node : Node} {element : Html.Tag}
      {outcome : Except RenderError String}
      (asked : env.demand model node = .ok (.children element))
      (inside : Runs env depth model node.children outcome opened) :
      RunsOne env depth model node (outcome.map fun html => (element.appendHtml html).render) opened
  | tooDeep {depth : Nat} {model part : Value} {node : Node} {view : String}
      (asked : env.demand model node = .ok (.view view part)) (full : maxInclusion ≤ depth) :
      RunsOne env depth model node (.error (.inclusionTooDeep view)) 0
  | unloaded {depth : Nat} {model part : Value} {node : Node} {view : String} {reason : RenderError}
      (asked : env.demand model node = .ok (.view view part)) (room : depth < maxInclusion)
      (missing : env.load view = .error reason) :
      RunsOne env depth model node (.error reason) 1
  | view {depth opened : Nat} {model part : Value} {node : Node} {view : String}
      {roots : List Node} {outcome : Except RenderError String}
      (asked : env.demand model node = .ok (.view view part)) (room : depth < maxInclusion)
      (loaded : env.load view = .ok roots)
      (inside : Runs env (depth + 1) part roots outcome opened) :
      RunsOne env depth model node outcome (opened + 1)

end

variable {env : Environment} {inclusion : Inclusion}

/-! ## Every rendering comes to an end -/

/-- If including a view comes to an end, so does rendering statements. -/
theorem exists_runs_of_views {depth : Nat} {model : Value}
    (views : ∀ {node : Node} {view : String} {part : Value},
      env.demand model node = .ok (.view view part) →
        ∃ opened, env.RunsOne depth model node (inclusion view part) opened)
    (nodes : List Node) :
    ∃ opened, env.Runs depth model nodes (env.renderAll inclusion model nodes) opened := by
  induction nodes using Node.forest_induction with
  | nil =>
    rw [renderAll_nil]
    exact ⟨0, .nil depth model⟩
  | cons node rest children later =>
    have here : ∃ opened, env.RunsOne depth model node
        (env.demand model node >>= env.meet inclusion model node.children) opened := by
      cases asked : env.demand model node with
      | error reason => exact ⟨0, .refused asked⟩
      | ok demand =>
        cases demand with
        | page html => exact ⟨0, .page asked⟩
        | children element =>
          obtain ⟨opened, inside⟩ := children
          exact ⟨opened, .children asked inside⟩
        | view view part => exact views asked
    obtain ⟨opened, here⟩ := here
    obtain ⟨opened', later⟩ := later
    rw [renderAll_cons]
    cases rendered : env.demand model node >>= env.meet inclusion model node.children with
    | error reason =>
      rw [rendered] at here
      exact ⟨opened, .fails here⟩
    | ok html =>
      rw [rendered] at here
      exact ⟨max opened opened', .goesOn here later⟩

/-- The induction is on the number of views that may still be opened. -/
theorem exists_runs (count : Nat) : ∀ {depth : Nat}, maxInclusion - depth = count →
    ∀ (model : Value) (nodes : List Node),
      ∃ opened, env.Runs depth model nodes (env.renderAll (env.includeView count) model nodes)
        opened := by
  induction count with
  | zero =>
    intro depth left model nodes
    have full : maxInclusion ≤ depth := Nat.le_of_sub_eq_zero left
    exact exists_runs_of_views (fun asked => ⟨0, .tooDeep asked full⟩) nodes
  | succ count ih =>
    intro depth left model nodes
    have room : depth < maxInclusion := by omega
    refine exists_runs_of_views (fun {node view part} asked => ?_) nodes
    rw [includeView_succ]
    cases loaded : env.load view with
    | error reason => exact ⟨1, .unloaded asked room loaded⟩
    | ok roots =>
      have left' : maxInclusion - (depth + 1) = count := by omega
      obtain ⟨opened, inside⟩ := ih left' part roots
      exact ⟨opened + 1, .view asked room loaded inside⟩

/-- If the outcomes of views and the views they open are known, so are those of statements. -/
theorem Runs.eq_of_views {depth count : Nat} {model : Value}
    (views : ∀ {node : Node} {view : String} {part : Value} {outcome : Except RenderError String}
      {opened : Nat}, env.demand model node = .ok (.view view part) →
        env.RunsOne depth model node outcome opened →
          outcome = inclusion view part ∧ opened ≤ count)
    (nodes : List Node) : ∀ {outcome : Except RenderError String} {opened : Nat},
      env.Runs depth model nodes outcome opened →
        outcome = env.renderAll inclusion model nodes ∧ opened ≤ count := by
  induction nodes using Node.forest_induction with
  | nil =>
    intro outcome opened runs
    cases runs
    exact ⟨(renderAll_nil ..).symm, Nat.zero_le _⟩
  | cons node rest children later =>
    have one : ∀ {outcome : Except RenderError String} {opened : Nat},
        env.RunsOne depth model node outcome opened →
          outcome = env.demand model node >>= env.meet inclusion model node.children ∧
            opened ≤ count := by
      intro outcome opened runs
      cases runs with
      | refused refused =>
        rw [refused]
        exact ⟨rfl, Nat.zero_le _⟩
      | page asked =>
        rw [asked]
        exact ⟨rfl, Nat.zero_le _⟩
      | children asked inside =>
        obtain ⟨rfl, opens⟩ := children inside
        rw [asked]
        exact ⟨rfl, opens⟩
      | tooDeep asked full =>
        rw [asked]
        exact views asked (.tooDeep asked full)
      | unloaded asked room missing =>
        rw [asked]
        exact views asked (.unloaded asked room missing)
      | view asked room loaded inside =>
        rw [asked]
        exact views asked (.view asked room loaded inside)
    intro outcome opened runs
    rw [renderAll_cons]
    cases runs with
    | fails here =>
      obtain ⟨same, opens⟩ := one here
      rw [← same]
      exact ⟨rfl, opens⟩
    | goesOn here more =>
      obtain ⟨same, opens⟩ := one here
      obtain ⟨rfl, opens'⟩ := later more
      rw [← same]
      exact ⟨rfl, max_le opens opens'⟩

/-- What becomes of a statement that asks for a view. -/
theorem RunsOne.view_cases {depth opened : Nat} {model part : Value} {node : Node} {view : String}
    {outcome : Except RenderError String} (asked : env.demand model node = .ok (.view view part))
    (one : env.RunsOne depth model node outcome opened) :
    (maxInclusion ≤ depth ∧ outcome = .error (.inclusionTooDeep view) ∧ opened = 0) ∨
      (depth < maxInclusion ∧ ∃ reason, env.load view = .error reason ∧
        outcome = .error reason ∧ opened = 1) ∨
      (depth < maxInclusion ∧ ∃ roots inner, env.load view = .ok roots ∧
        env.Runs (depth + 1) part roots outcome inner ∧ opened = inner + 1) := by
  cases one with
  | refused refused =>
    rw [asked] at refused
    cases refused
  | page asked' =>
    rw [asked] at asked'
    cases asked'
  | children asked' inside =>
    rw [asked] at asked'
    cases asked'
  | tooDeep asked' full =>
    rw [asked] at asked'
    cases asked'
    exact Or.inl ⟨full, rfl, rfl⟩
  | unloaded asked' room missing =>
    rw [asked] at asked'
    cases asked'
    exact Or.inr (Or.inl ⟨room, _, missing, rfl, rfl⟩)
  | view asked' room loaded inside =>
    rw [asked] at asked'
    cases asked'
    exact Or.inr (Or.inr ⟨room, _, _, loaded, inside, rfl⟩)

/-- A rendering has the outcome that is computed, and opens no more views within one another than
may still be opened. -/
theorem Runs.eq_renderAll (count : Nat) : ∀ {depth : Nat}, maxInclusion - depth = count →
    ∀ {model : Value} {nodes : List Node} {outcome : Except RenderError String} {opened : Nat},
      env.Runs depth model nodes outcome opened →
        outcome = env.renderAll (env.includeView count) model nodes ∧ opened ≤ count := by
  induction count with
  | zero =>
    intro depth left model nodes outcome opened runs
    refine runs.eq_of_views (fun asked one => ?_) nodes
    rcases one.view_cases asked with ⟨-, rfl, rfl⟩ | ⟨room, -⟩ | ⟨room, -⟩
    · exact ⟨rfl, Nat.le_refl 0⟩
    · omega
    · omega
  | succ count ih =>
    intro depth left model nodes outcome opened runs
    refine runs.eq_of_views (fun asked one => ?_) nodes
    rw [includeView_succ]
    rcases one.view_cases asked with
      ⟨full, -⟩ | ⟨-, reason, missing, rfl, rfl⟩ | ⟨-, roots, inner, loaded, inside, rfl⟩
    · omega
    · rw [missing]
      exact ⟨rfl, Nat.le_add_left 1 count⟩
    · obtain ⟨rfl, opens⟩ := ih (by omega) inside
      rw [loaded]
      exact ⟨rfl, Nat.succ_le_succ opens⟩

/-! ## The limit only cuts -/

/-- The second outcome is the first one, unless the first was cut off for want of room for a
view. -/
def Extends {α : Type} (cut whole : Except RenderError α) : Prop :=
  (∃ view, cut = .error (.inclusionTooDeep view)) ∨ whole = cut

theorem Extends.refl {α : Type} (outcome : Except RenderError α) : Extends outcome outcome :=
  Or.inr rfl

theorem Extends.bind {α β : Type} {cut whole : Except RenderError α}
    {next next' : α → Except RenderError β} (first : Extends cut whole)
    (later : ∀ a, Extends (next a) (next' a)) : Extends (cut >>= next) (whole >>= next') := by
  rcases first with ⟨view, rfl⟩ | rfl
  · exact Or.inl ⟨view, rfl⟩
  · cases whole with
    | error reason => exact .refl _
    | ok a => exact later a

theorem Extends.renderAll {fewer more : Inclusion}
    (views : ∀ view part, Extends (fewer view part) (more view part)) (model : Value)
    (nodes : List Node) :
    Extends (env.renderAll fewer model nodes) (env.renderAll more model nodes) := by
  induction nodes using Node.forest_induction with
  | nil =>
    rw [renderAll_nil, renderAll_nil]
    exact .refl _
  | cons node rest children later =>
    rw [renderAll_cons, renderAll_cons]
    refine .bind (.bind (.refl _) fun demand => ?_) fun html => .bind later fun _ => .refl _
    cases demand with
    | page html => exact .refl _
    | children element => exact .bind children fun _ => .refl _
    | view view part => exact views view part

/-- Room for further views changes nothing but what was cut off. -/
theorem extends_includeView (count more : Nat) : ∀ (view : String) (part : Value),
    Extends (env.includeView count view part) (env.includeView (count + more) view part) := by
  induction count with
  | zero => exact fun view part => Or.inl ⟨view, rfl⟩
  | succ count ih =>
    intro view part
    rw [Nat.add_right_comm, includeView_succ, includeView_succ]
    exact .bind (.refl _) fun roots => .renderAll ih part roots

/-- A rendering where more views are open extends to the same rendering where fewer are. -/
theorem extends_renderFrom {depth depth' : Nat} (shallower : depth' ≤ depth) (model : Value)
    (nodes : List Node) :
    Extends (env.renderFrom depth model nodes) (env.renderFrom depth' model nodes) := by
  obtain ⟨more, left⟩ : ∃ more, maxInclusion - depth' = maxInclusion - depth + more :=
    ⟨maxInclusion - depth' - (maxInclusion - depth), by omega⟩
  rw [renderFrom, renderFrom, left]
  exact .renderAll (extends_includeView _ more) model nodes

/-- A rendering that is cut off comes along a chain of more views than may still be opened. -/
theorem exists_chain_of_tooDeep {depth : Nat} {model : Value} {nodes : List Node} {view : String}
    (cut : env.renderFrom depth model nodes = .error (.inclusionTooDeep view)) :
    ∃ views, env.Chain nodes views ∧ views.length = maxInclusion - depth + 1 := by
  cases culprit_of_renderAll_includeView _ cut with
  | statement reaches explains => exact explains.elim
  | chain chain last length => exact ⟨_, chain, length⟩

/-- Whatever the views include, a rendering comes to an end and opens no more views within one
another than the limit leaves; a rendering that is not cut off is the same with more room; and none
is cut off where every chain of inclusions fits into the room that is left. -/
theorem renderFrom_terminates (env : Environment) (model : Value) (nodes : List Node)
    {depth depth' : Nat} (shallower : depth' ≤ depth) (within : depth ≤ maxInclusion) :
    (∃ outcome opened, env.Runs depth model nodes outcome opened) ∧
    (∀ outcome opened, env.Runs depth model nodes outcome opened →
      outcome = env.renderFrom depth model nodes ∧ depth + opened ≤ maxInclusion) ∧
    ((∀ view, env.renderFrom depth model nodes ≠ .error (.inclusionTooDeep view)) →
      env.renderFrom depth' model nodes = env.renderFrom depth model nodes) ∧
    ((∀ views, env.Chain nodes views → depth + views.length ≤ maxInclusion) →
      ∀ view, env.renderFrom depth model nodes ≠ .error (.inclusionTooDeep view)) := by
  refine ⟨?_, ?_, ?_, ?_⟩
  · obtain ⟨opened, runs⟩ : ∃ opened, env.Runs depth model nodes _ opened :=
      exists_runs _ rfl model nodes
    exact ⟨_, opened, runs⟩
  · intro outcome opened runs
    obtain ⟨same, opens⟩ := runs.eq_renderAll _ rfl
    exact ⟨same, by omega⟩
  · intro whole
    rcases extends_renderFrom shallower model nodes with ⟨view, cut⟩ | same
    · exact (whole view cut).elim
    · exact same
  · intro fits view cut
    obtain ⟨views, chain, length⟩ := exists_chain_of_tooDeep cut
    have := fits views chain
    omega

/-- A template that includes a view where there is room for one more, among views that include
themselves. -/
theorem renderFrom_terminates_last_view :
    let env : Environment :=
      ⟨.ofSteps [.builtins, .elements ["p"]], .standard,
        .ofTexts [("note", "p"), ("self", "partial(self)")]⟩
    let page : List Node := [⟨"partial", [⟨.keyword, "note"⟩], [], []⟩]
    (31 ≤ maxInclusion ∧ (∀ views, env.Chain page views → 31 + views.length ≤ maxInclusion) ∧
      ∀ view, env.renderFrom 31 .null page ≠ .error (.inclusionTooDeep view)) ∧
    env.renderFrom 0 .null page = .ok "<p></p>" ∧
      ∃ opened, env.Runs 31 .null page (.ok "<p></p>") opened ∧ 31 + opened ≤ maxInclusion := by
  intro env page
  have fits : ∀ views, env.Chain page views → 31 + views.length ≤ maxInclusion := by
    intro views chain
    cases chain with
    | last inside includes => exact Nat.le_refl 32
    | @more _ includer view source document views inside includes found parsed chain =>
      obtain rfl : includer = ⟨"partial", [⟨.keyword, "note"⟩], [], []⟩ := by
        simpa [page] using inside
      obtain rfl : "note" = view := Option.some.inj includes.2
      have found' : env.views.find? "note" = some (.ok "p") := by decide +kernel
      obtain rfl : source = "p" := Except.ok.inj (Option.some.inj (found.symm.trans found'))
      have parsed' : Document.parse "p" = .ok ⟨[⟨"p", [], [], []⟩]⟩ := by decide +kernel
      obtain rfl := Except.ok.inj (parsed.symm.trans parsed')
      -- The view includes nothing, so the chain ends with it.
      have none : ∀ {includer : Node} {view : String}, includer.IsIn [⟨"p", [], [], []⟩] →
          ¬includer.IncludesView view := by
        intro includer view inside includes
        obtain rfl : includer = ⟨"p", [], [], []⟩ := by simpa using inside
        have other : Node.isNamed ⟨"p", [], [], []⟩ "partial" = false := by decide
        rw [Node.IncludesView, other] at includes
        cases includes.1
      cases chain with
      | last inside includes => exact (none inside includes).elim
      | more inside includes => exact (none inside includes).elim
  have rendered : env.renderFrom 31 .null page = .ok "<p></p>" := by decide +kernel
  obtain ⟨⟨outcome, opened, runs⟩, bounded, cut, uncut⟩ :=
    renderFrom_terminates env .null page (Nat.zero_le 31) (by decide)
  have whole := uncut fits
  obtain ⟨rfl, opens⟩ := bounded outcome opened runs
  rw [rendered] at runs
  exact ⟨⟨by decide, fits, whole⟩, (cut whole).trans rendered, opened, runs, opens⟩

end HtmlTemplate.Environment
