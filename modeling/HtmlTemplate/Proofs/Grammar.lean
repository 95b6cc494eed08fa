import HtmlTemplate.Reading

/-!
# The grammar of documents

Derivation trees of the grammar that the format is documented by, where white space may stand
between any two tokens and belongs to none of the phrases:

    document   = chain*
    chain      = statement ('+' statement)*
    statement  = IDENT parameters? attributes? (block | '>' chain)?
    parameters = '(' (value (',' value)*)? ')'
    attributes = '[' (IDENT '=' value (',' IDENT '=' value)*)? ']'
    block      = '{' chain* '}'
    value      = QUOTED | MULTILINE | PIPE | IDENT

A tree has a yield, the tokens that it derives, and a meaning, the statements that it stands for.
The rules alone are ambiguous: in `a > b + c` the last statement may belong to either chain. The
trees that count are those in which every `+` continues the innermost chain still open
(`Occurrence.Continued`) and no level lies too deep (`Occurrence.Nested`).
-/

set_option autoImplicit false

namespace HtmlTemplate.Grammar

/-! ## Phrases -/

/-- A name that a statement may have, with what it stands for. -/
structure Name where
  text : String
  shorthand : Shorthand
  expands : Shorthand.expand text = .ok shorthand

theorem Name.ext_text {a b : Name} (same : a.text = b.text) : a = b := by
  obtain ⟨text, shorthand, expands⟩ := a
  obtain ⟨text', shorthand', expands'⟩ := b
  obtain rfl : text = text' := same
  obtain rfl : shorthand = shorthand' := Except.ok.inj (expands.symm.trans expands')
  rfl

/-- A value of a statement. -/
inductive Written
  | identifier (text : String)
  | quoted (text : String)
  | multiline (text : String)
  | pipe (text : String)

/-- A value of a statement under a key. -/
structure Assignment where
  key : String
  value : Written

mutual

inductive Statement
  | mk (name : Name) (parameters : Option (List Written))
      (attributes : Option (List Assignment)) (body : Body)

/-- What a statement has below it: nothing, a block or a chain behind `>`. -/
inductive Body
  | none
  | block (chains : Chains)
  | chain (chain : Chain)

/-- A statement, or a statement with a chain behind `+`. -/
inductive Chain
  | one (statement : Statement)
  | plus (statement : Statement) (rest : Chain)

/-- The chains of a block or of a whole document. -/
inductive Chains
  | nil
  | cons (chain : Chain) (rest : Chains)

end

/-! ## Yields -/

def Written.token : Written → Token
  | .identifier text => .identifier text
  | .quoted text => .quoted text
  | .multiline text => .multiline text
  | .pipe text => .pipe text

/-- Phrases with commas between them. -/
def separated {α : Type} (phrase : α → List Token) : List α → List Token
  | [] => []
  | first :: more => phrase first ++ more.flatMap fun a => .mark .comma :: phrase a

def Assignment.tokens (a : Assignment) : List Token :=
  [.identifier a.key, .mark .equal, a.value.token]

def parameterPart : Option (List Written) → List Token
  | none => []
  | some values =>
    .mark .openParen :: (separated (fun value => [value.token]) values ++ [.mark .closeParen])

def attributePart : Option (List Assignment) → List Token
  | none => []
  | some assignments =>
    .mark .openBracket :: (separated Assignment.tokens assignments ++ [.mark .closeBracket])

mutual

def Statement.tokens : Statement → List Token
  | .mk name parameters attributes body =>
    .identifier name.text ::
      (parameterPart parameters ++ (attributePart attributes ++ body.tokens))

def Body.tokens : Body → List Token
  | .none => []
  | .block chains => .mark .openBrace :: (chains.tokens ++ [.mark .closeBrace])
  | .chain chain => .mark .greaterThan :: chain.tokens

def Chain.tokens : Chain → List Token
  | .one statement => statement.tokens
  | .plus statement rest => statement.tokens ++ .mark .plus :: rest.tokens

def Chains.tokens : Chains → List Token
  | .nil => []
  | .cons chain rest => chain.tokens ++ rest.tokens

end

/-! ## Meanings -/

def Written.parameter : Written → Parameter
  | .identifier text => ⟨.keyword, text⟩
  | .quoted text => ⟨.quoted, text⟩
  | .multiline text => ⟨.multiline, text⟩
  | .pipe text => ⟨.pipe, text⟩

def Assignment.toAttribute (a : Assignment) : Attribute :=
  ⟨a.key, a.value.parameter.kind, a.value.parameter.text⟩

mutual

/-- The statement with the attributes that its name stands for in front of the written ones. -/
def Statement.node : Statement → Node
  | .mk name parameters attributes body =>
    { name := name.shorthand.tag
      parameters := (parameters.getD []).map Written.parameter
      attributes := name.shorthand.attributes ++ (attributes.getD []).map Assignment.toAttribute
      children := body.nodes }

def Body.nodes : Body → List Node
  | .none => []
  | .block chains => chains.nodes
  | .chain chain => chain.nodes

/-- The statements of a chain stand side by side. -/
def Chain.nodes : Chain → List Node
  | .one statement => [statement.node]
  | .plus statement rest => statement.node :: rest.nodes

def Chains.nodes : Chains → List Node
  | .nil => []
  | .cons chain rest => chain.nodes ++ rest.nodes

end

def Chains.document (chains : Chains) : Document :=
  ⟨chains.nodes⟩

/-! ## Trees that count -/

/-- A statement of a tree, the number of levels that are open around it, and whether a `+` follows
it. -/
structure Occurrence where
  depth : Nat
  followed : Bool
  statement : Statement

mutual

def Statement.occurrences (depth : Nat) (followed : Bool) : Statement → List Occurrence
  | .mk name parameters attributes body =>
    ⟨depth, followed, .mk name parameters attributes body⟩ :: body.occurrences (depth + 1)

def Body.occurrences (depth : Nat) : Body → List Occurrence
  | .none => []
  | .block chains => chains.occurrences depth
  | .chain chain => chain.occurrences depth

def Chain.occurrences (depth : Nat) : Chain → List Occurrence
  | .one statement => statement.occurrences depth false
  | .plus statement rest => statement.occurrences depth true ++ rest.occurrences depth

def Chains.occurrences (depth : Nat) : Chains → List Occurrence
  | .nil => []
  | .cons chain rest => chain.occurrences depth ++ rest.occurrences depth

end

def Statement.body : Statement → Body
  | .mk _ _ _ body => body

/-- A chain behind `>` would still be open at a `+` that follows the statement, and the sign would
continue that chain. -/
def Occurrence.Continued (o : Occurrence) : Prop :=
  o.followed = true → ∀ chain, o.statement.body ≠ .chain chain

/-- A sign that opens a level stands within fewer levels than the greatest depth. -/
def Occurrence.Nested (o : Occurrence) : Prop :=
  o.statement.body ≠ .none → o.depth < maxNesting

/-- The tree is a derivation of the tokens that counts. -/
structure Chains.Derives (chains : Chains) (tokens : List Token) : Prop where
  yield : chains.tokens = tokens
  continued : ∀ o ∈ chains.occurrences 0, o.Continued
  nested : ∀ o ∈ chains.occurrences 0, o.Nested

/-! ## What follows a phrase -/

/-- A chain may end in front of these tokens: at the end, at a name or at a closing brace. -/
def EndsChain : List Token → Prop
  | [] | .identifier _ :: _ | .mark .closeBrace :: _ => True
  | _ => False

/-- The chains of a level may end in front of these tokens. -/
def EndsLevel : List Token → Prop
  | [] | .mark .closeBrace :: _ => True
  | _ => False

/-- A statement with this body may end in front of these tokens. -/
def EndsBody (body : Body) (rest : List Token) : Prop :=
  EndsChain rest ∨ (∀ chain, body ≠ .chain chain) ∧ ∃ more, rest = .mark .plus :: more

theorem EndsLevel.endsChain {rest : List Token} (ends : EndsLevel rest) : EndsChain rest := by
  unfold EndsLevel at ends
  split at ends
  · trivial
  · trivial
  · exact ends.elim

theorem Statement.tokens_eq_cons :
    ∀ s : Statement, ∃ name more, s.tokens = .identifier name :: more
  | .mk name _ _ _ => ⟨name.text, _, rfl⟩

theorem Chain.tokens_eq_cons :
    ∀ c : Chain, ∃ name more, c.tokens = .identifier name :: more
  | .one s => s.tokens_eq_cons
  | .plus s rest => by
    obtain ⟨name, more, tokens⟩ := s.tokens_eq_cons
    exact ⟨name, _, by rw [Chain.tokens, tokens, List.cons_append]⟩

/-- A chain may end where the further chains of its level begin. -/
theorem Chains.endsChain (cs : Chains) {rest : List Token} (ends : EndsChain rest) :
    EndsChain (cs.tokens ++ rest) := by
  cases cs with
  | nil => exact ends
  | cons c more =>
    obtain ⟨name, tokens, first⟩ := c.tokens_eq_cons
    rw [Chains.tokens, first]
    trivial

end HtmlTemplate.Grammar
