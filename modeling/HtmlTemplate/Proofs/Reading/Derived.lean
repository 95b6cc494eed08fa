import HtmlTemplate.Proofs.Reading.Phrases

/-!
# Derivations are read

The tokens of a derivation that counts are read to the statements that it stands for. The induction
is on the derivation; its invariant is that a phrase leaves the enclosing levels as they are, and
its own level with the statements of the phrase added. It is an induction on walks, so it holds up
to the first level that lies too deep (`walks_chains`); without one, the equations between readings
follow from it (`read_of_derives`).
-/

set_option autoImplicit false

namespace HtmlTemplate

open Grammar

namespace Reading

variable {enclosing : List Enclosing} {level : Level} {d : Draft} {rest : List Token}
  {post : Reading → Prop}

/-- The rules that the statements of a derivation keep. -/
def Legal (os : List Occurrence) : Prop :=
  ∀ o ∈ os, o.Continued ∧ o.Nested

/-- What a reading has come to behind a statement with this body, which stands for `node` as a
whole: the level ends with it, or may go on with a sibling. -/
structure Behind (enclosing : List Enclosing) (level : Level) (node : Node) (body : Body)
    (r : Reading) : Prop where
  last : r.settled = ended (level.add [node]) enclosing
  followed : (∀ chain, body ≠ .chain chain) →
    ∃ d, r = ⟨enclosing, level, .statement d⟩ ∧ d.node = node

/-- A statement of which everything has been read goes on in both ways. -/
theorem behind_statement (enclosing : List Enclosing) (level : Level) (d : Draft) (body : Body) :
    Behind enclosing level d.node body ⟨enclosing, level, .statement d⟩ where
  last := settle_eq_ended level d enclosing
  followed := fun _ => ⟨d, rfl, rfl⟩

mutual

theorem walks_statement : ∀ (s : Statement) (enclosing : List Enclosing) (level : Level)
    {place : Place} {followed : Bool} {more : List Leveled},
    (∀ o ∈ s.occurrences enclosing.length followed, o.Continued) → place.Awaits →
    (∀ r, Behind enclosing level s.node s.body r → Walks post r more) →
    Walks post ⟨enclosing, level, place⟩ (s.leveled enclosing.length ++ more)
  | .mk name ps as body, enclosing, level, place, followed, more, continued, awaits,
      further => by
    obtain ⟨-, below⟩ := List.forall_mem_cons.mp continued
    obtain ⟨joined, named⟩ := step_name enclosing level awaits name
    let start : Draft := .ofName name joined
    let d := (start.withParameters ps).withAttributes as
    have started : (start.withParameters ps).part = .name ∨
        (start.withParameters ps).part = .parameters := Draft.part_withParameters ps rfl
    have node : (Statement.mk name ps as body).node = { d.node with children := body.nodes } := by
      cases ps <;> cases as <;>
        simp [d, start, Statement.node, Draft.node, Draft.ofName, Draft.withParameters,
          Draft.withAttributes]
    have childless : d.children = [] := by
      cases ps <;> cases as <;> rfl
    rw [node] at further
    have walks := walks_body body enclosing level childless
      (Draft.part_withAttributes as started) below further
    simp only [Statement.leveled, List.cons_append, List.append_assoc]
    exact .plain rfl named rfl
      (walks_parameterPart ps rfl (walks_attributePart as started walks))

theorem walks_body : ∀ (body : Body) (enclosing : List Enclosing) (level : Level) {d : Draft}
    {more : List Leveled}, d.children = [] → d.part ≠ .children →
    (∀ o ∈ body.occurrences (enclosing.length + 1), o.Continued) →
    (∀ r, Behind enclosing level { d.node with children := body.nodes } body r →
      Walks post r more) →
    Walks post ⟨enclosing, level, .statement d⟩ (body.leveled enclosing.length ++ more)
  | .none, enclosing, level, d, more, childless, part, continued, further => by
    have node : { d.node with children := Body.nodes .none } = d.node := by
      simp [Draft.node, Body.nodes, childless]
    rw [node] at further
    exact further _ (behind_statement enclosing level d .none)
  | .block cs, enclosing, level, d, more, childless, part, continued, further => by
    have node : { d.node with children := Body.nodes (.block cs) } =
        (d.adopt cs.nodes.reverse).node := by
      simp [Draft.node, Draft.adopt, Body.nodes]
    rw [node] at further
    simp only [Body.leveled, List.cons_append, List.append_assoc, List.nil_append]
    refine .level rfl part (step_openBrace part) fun _ => ?_
    refine walks_chains cs (⟨level, d⟩ :: enclosing) ⟨.block default, []⟩ continued
      (by simp) rfl ?_
    intro r settled
    refine Walks.of_settled rfl trivial ?_
    rw [settled]
    exact .plain rfl (step_closeBrace cs.nodes) rfl
      (further _ (behind_statement enclosing level _ _))
  | .chain c, enclosing, level, d, more, childless, part, continued, further => by
    simp only [Body.leveled, List.cons_append]
    refine .level rfl part (step_greaterThan part) fun _ => ?_
    refine walks_chain c (⟨level, d⟩ :: enclosing) ⟨.chain, []⟩ continued trivial ?_
    intro r settled
    rw [ended_chain] at settled
    -- A `+` behind the statement would have belonged to the chain.
    exact further r ⟨settled, fun other => (other c rfl).elim⟩

theorem walks_chain : ∀ (c : Chain) (enclosing : List Enclosing) (level : Level) {place : Place}
    {more : List Leveled}, (∀ o ∈ c.occurrences enclosing.length, o.Continued) → place.Awaits →
    (∀ r, r.settled = ended (level.add c.nodes) enclosing → Walks post r more) →
    Walks post ⟨enclosing, level, place⟩ (c.leveled enclosing.length ++ more)
  | .one s, enclosing, level, place, more, continued, awaits, further =>
    walks_statement s enclosing level continued awaits fun r behind => further r behind.last
  | .plus s c, enclosing, level, place, more, continued, awaits, further => by
    obtain ⟨here, later⟩ := List.forall_mem_append.mp continued
    have other : ∀ chain, s.body ≠ .chain chain := by
      cases s with
      | mk name ps as body => exact (List.forall_mem_cons.mp here).1 rfl
    simp only [Chain.leveled, List.append_assoc, List.cons_append]
    refine walks_statement s enclosing level here awaits ?_
    intro r behind
    obtain ⟨d, rfl, node⟩ := behind.followed other
    refine .plain rfl step_plus rfl ?_
    rw [node]
    refine walks_chain c enclosing (level.add [s.node]) later trivial ?_
    intro r settled
    rw [Level.add_add] at settled
    exact further r settled

theorem walks_chains : ∀ (cs : Chains) (enclosing : List Enclosing) (level : Level) {r : Reading}
    {more : List Leveled}, (∀ o ∈ cs.occurrences enclosing.length, o.Continued) →
    level.opening ≠ .chain → r.settled = ⟨enclosing, level, .between⟩ →
    (∀ r, r.settled = ⟨enclosing, level.add cs.nodes, .between⟩ → Walks post r more) →
    Walks post r (cs.leveled enclosing.length ++ more)
  | .nil, enclosing, level, r, more, continued, other, settled, further => further r settled
  | .cons c cs, enclosing, level, r, more, continued, other, settled, further => by
    obtain ⟨here, later⟩ := List.forall_mem_append.mp continued
    have other' : (level.add c.nodes).opening ≠ .chain := other
    have behind : ∀ r, r.settled = ended (level.add c.nodes) enclosing →
        Walks post r (cs.leveled enclosing.length ++ more) := by
      intro r settled
      rw [ended_of_ne_chain other'] at settled
      refine walks_chains cs enclosing (level.add c.nodes) later other' settled ?_
      intro r settled
      rw [Level.add_add] at settled
      exact further r settled
    obtain ⟨name, tokens, first⟩ := c.tokens_eq_cons
    -- The chain begins with a name, so the statement in front of it is over there.
    have named : ((c.leveled enclosing.length ++ (cs.leveled enclosing.length ++ more)).map
        (·.token)) = .identifier name :: (tokens ++ (cs.tokens ++ more.map (·.token))) := by
      simp [first]
    rw [Chains.leveled, List.append_assoc]
    refine Walks.of_settled named trivial ?_
    rw [settled]
    exact walks_chain c enclosing level here trivial behind

end

/-- Behind a document no level is open but its own, which holds the statements of the document. -/
theorem walks_document (cs : Chains) (continued : ∀ o ∈ cs.occurrences 0, o.Continued) :
    Walks (fun r => r.settled = ⟨[], Level.add ⟨.document, []⟩ cs.nodes, .between⟩) start
      (cs.leveled 0) := by
  have between : start.settled = ⟨[], ⟨.document, []⟩, .between⟩ := rfl
  rw [← List.append_nil (cs.leveled 0)]
  exact walks_chains cs [] ⟨.document, []⟩ continued (by simp) between fun _ settled =>
    .done settled

/-! ## Without a level that is too deep -/

theorem Legal.continued {os : List Occurrence} (legal : Legal os) : ∀ o ∈ os, o.Continued :=
  fun o member => (legal o member).1

theorem Legal.nested {os : List Occurrence} (legal : Legal os) : ∀ o ∈ os, o.Nested :=
  fun o member => (legal o member).2

/-- A statement with a sibling behind it. -/
theorem read_followed (s : Statement) (enclosing : List Enclosing) (level : Level) {place : Place}
    {followed : Bool} (legal : Legal (s.occurrences enclosing.length followed))
    (awaits : place.Awaits) (other : ∀ chain, s.body ≠ .chain chain) :
    read ⟨enclosing, level, place⟩ (s.tokens ++ .mark .plus :: rest) =
      read ⟨enclosing, level.add [s.node], .awaiting true none⟩ rest := by
  have walks := walks_statement s enclosing level legal.continued awaits
    fun _ behind => .done behind
  rw [List.append_nil] at walks
  obtain ⟨next, behind, reads⟩ := walks.read (s.shallow_of_nested legal.nested)
  obtain ⟨d, rfl, node⟩ := behind.followed other
  rw [← s.map_token_leveled, reads, read_step step_plus, node]

theorem read_chain (c : Chain) (enclosing : List Enclosing) (level : Level) (place : Place)
    (legal : Legal (c.occurrences enclosing.length)) (awaits : place.Awaits)
    (ends : EndsChain rest) :
    read ⟨enclosing, level, place⟩ (c.tokens ++ rest) =
      read (ended (level.add c.nodes) enclosing) rest := by
  have walks := walks_chain c enclosing level legal.continued awaits
    fun _ settled => .done settled
  rw [List.append_nil] at walks
  obtain ⟨next, settled, reads⟩ := walks.read (c.shallow_of_nested legal.nested)
  rw [← c.map_token_leveled, reads, ← read_settled ends, settled]

theorem read_chains (cs : Chains) (enclosing : List Enclosing) (level : Level)
    (legal : Legal (cs.occurrences enclosing.length)) (other : level.opening ≠ .chain)
    (ends : EndsChain rest) :
    read ⟨enclosing, level, .between⟩ (cs.tokens ++ rest) =
      read ⟨enclosing, level.add cs.nodes, .between⟩ rest := by
  have between : settled ⟨enclosing, level, .between⟩ = ⟨enclosing, level, .between⟩ := rfl
  have walks := walks_chains cs enclosing level legal.continued other between
    fun _ settled => .done settled
  rw [List.append_nil] at walks
  obtain ⟨next, settled, reads⟩ := walks.read (cs.shallow_of_nested legal.nested)
  rw [← cs.map_token_leveled, reads, ← read_settled ends, settled]

theorem read_of_shallow {cs : Chains} (continued : ∀ o ∈ cs.occurrences 0, o.Continued)
    (shallow : ∀ t ∈ cs.leveled 0, t.Shallow) : start.read cs.tokens = some cs.document := by
  obtain ⟨next, settled, reads⟩ := (walks_document cs continued).read shallow
  have last : EndsChain [] := trivial
  have whole := reads []
  rw [List.append_nil, cs.map_token_leveled, ← read_settled last, settled] at whole
  rw [whole]
  simp [read, finish, finishBetween, Level.add, Chains.document, Except.toOption]

/-- The tokens of a derivation are read to its document. -/
theorem read_of_derives {cs : Chains} {tokens : List Token} (derives : cs.Derives tokens) :
    start.read tokens = some cs.document := by
  rw [← derives.yield]
  exact read_of_shallow derives.continued (cs.shallow_of_nested derives.nested)

end Reading

end HtmlTemplate
