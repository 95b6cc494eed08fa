import HtmlTemplate.Proofs.Grammar
import Mathlib.Data.List.Infix

/-!
# The statements of a derivation

The statements of a document are those that the statements of its derivation stand for, each of them
once and in the same order (`Chains.map_node_occurrences`), and the tokens of a statement stand side
by side among those of the derivation (`Chains.isInfix_of_mem_occurrences`). So whatever is written
at a statement of a document is found at its place in the derivation.
-/

set_option autoImplicit false

namespace HtmlTemplate

namespace Node

mutual

/-- The statement and all statements below it, in the order in which they are written. -/
def preorder : Node → List Node
  | ⟨name, parameters, attributes, children⟩ =>
    ⟨name, parameters, attributes, children⟩ :: preorderAll children

def preorderAll : List Node → List Node
  | [] => []
  | node :: rest => node.preorder ++ preorderAll rest

end

theorem preorderAll_append (first second : List Node) :
    preorderAll (first ++ second) = preorderAll first ++ preorderAll second := by
  induction first with
  | nil => rfl
  | cons node rest ih => simp only [List.cons_append, preorderAll, ih, List.append_assoc]

end Node

namespace Grammar

def Statement.name : Statement → Name
  | .mk name _ _ _ => name

/-- The attributes that are written in brackets. -/
def Statement.written : Statement → List Attribute
  | .mk _ _ attributes _ => (attributes.getD []).map Assignment.toAttribute

theorem Statement.node_attributes (s : Statement) :
    s.node.attributes = s.name.shorthand.attributes ++ s.written := by
  cases s
  rfl

mutual

theorem Statement.map_node_occurrences : ∀ (s : Statement) (depth : Nat) (followed : Bool),
    (s.occurrences depth followed).map (·.statement.node) = s.node.preorder
  | .mk name parameters attributes body, depth, followed => by
    rw [Statement.occurrences, List.map_cons, body.map_node_occurrences, Statement.node,
      Node.preorder]

theorem Body.map_node_occurrences : ∀ (body : Body) (depth : Nat),
    (body.occurrences depth).map (·.statement.node) = Node.preorderAll body.nodes
  | .none, _ => rfl
  | .block chains, depth => chains.map_node_occurrences depth
  | .chain chain, depth => chain.map_node_occurrences depth

theorem Chain.map_node_occurrences : ∀ (c : Chain) (depth : Nat),
    (c.occurrences depth).map (·.statement.node) = Node.preorderAll c.nodes
  | .one s, depth => by
    rw [Chain.occurrences, s.map_node_occurrences, Chain.nodes, Node.preorderAll, Node.preorderAll,
      List.append_nil]
  | .plus s rest, depth => by
    rw [Chain.occurrences, List.map_append, s.map_node_occurrences, rest.map_node_occurrences,
      Chain.nodes, Node.preorderAll]

theorem Chains.map_node_occurrences : ∀ (cs : Chains) (depth : Nat),
    (cs.occurrences depth).map (·.statement.node) = Node.preorderAll cs.nodes
  | .nil, _ => rfl
  | .cons c rest, depth => by
    rw [Chains.occurrences, List.map_append, c.map_node_occurrences, rest.map_node_occurrences,
      Chains.nodes, Node.preorderAll_append]

end

mutual

theorem Statement.isInfix_of_mem_occurrences : ∀ (s : Statement) {depth : Nat} {followed : Bool}
    {o : Occurrence}, o ∈ s.occurrences depth followed → o.statement.tokens <:+: s.tokens
  | .mk name parameters attributes body, depth, followed, o, member => by
    rcases List.mem_cons.mp member with rfl | below
    · exact List.infix_rfl
    · rw [Statement.tokens, ← List.append_assoc, ← List.cons_append]
      exact (body.isInfix_of_mem_occurrences below).trans (List.suffix_append _ _).isInfix

theorem Body.isInfix_of_mem_occurrences : ∀ (body : Body) {depth : Nat} {o : Occurrence},
    o ∈ body.occurrences depth → o.statement.tokens <:+: body.tokens
  | .none, depth, o, member => by cases member
  | .block chains, depth, o, member =>
    (chains.isInfix_of_mem_occurrences member).trans (List.infix_append [_] _ _)
  | .chain chain, depth, o, member =>
    (chain.isInfix_of_mem_occurrences member).trans (List.suffix_cons _ _).isInfix

theorem Chain.isInfix_of_mem_occurrences : ∀ (c : Chain) {depth : Nat} {o : Occurrence},
    o ∈ c.occurrences depth → o.statement.tokens <:+: c.tokens
  | .one s, depth, o, member => s.isInfix_of_mem_occurrences member
  | .plus s rest, depth, o, member => by
    rcases List.mem_append.mp member with here | later
    · exact (s.isInfix_of_mem_occurrences here).trans (List.prefix_append _ _).isInfix
    · have last : rest.tokens <:+: .mark .plus :: rest.tokens := (List.suffix_cons _ _).isInfix
      exact ((rest.isInfix_of_mem_occurrences later).trans last).trans
        (List.suffix_append _ _).isInfix

theorem Chains.isInfix_of_mem_occurrences : ∀ (cs : Chains) {depth : Nat} {o : Occurrence},
    o ∈ cs.occurrences depth → o.statement.tokens <:+: cs.tokens
  | .nil, depth, o, member => by cases member
  | .cons c rest, depth, o, member => by
    rcases List.mem_append.mp member with here | later
    · exact (c.isInfix_of_mem_occurrences here).trans (List.prefix_append _ _).isInfix
    · exact (rest.isInfix_of_mem_occurrences later).trans (List.suffix_append _ _).isInfix

end

end Grammar

end HtmlTemplate
