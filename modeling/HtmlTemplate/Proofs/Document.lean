import HtmlTemplate.Proofs.Lexing.Spelled
import HtmlTemplate.Proofs.Reading.Accepted
import HtmlTemplate.Proofs.Shorthand
import Mathlib.Data.Set.List

/-!
# The documents that have a source

A document is read from some source exactly if it is well formed. Both directions go through
derivations: the tokens of a source have spellings, which makes the statements that they derive well
formed, and a well-formed document is derived by tokens that have spellings and so can be laid out.
-/

set_option autoImplicit false

namespace HtmlTemplate

open Grammar Reading

/-- A template is read to a document if it has a reading of which the tokens derive it. -/
theorem parse_eq_ok_iff_derives {source : String} {d : Document} :
    Document.parse source = .ok d ↔
      ∃ (ls : List Lexeme) (cs : Chains), Lexed 0 source.toList ls ∧ cs.Derives (significant ls) ∧
        cs.document = d := by
  rw [Document.parse, Except.bind_eq_ok_iff]
  constructor
  · intro parsed
    obtain ⟨ls, cut, formed⟩ := parsed
    split at formed
    · next document formed' =>
      obtain rfl := Except.ok.inj formed
      obtain ⟨cs, derives, meaning⟩ := derives_of_ofLexemes formed'
      exact ⟨ls, cs, tokenize_eq_ok_iff_lexed.mp cut, derives, meaning⟩
    · cases formed
  · intro derived
    obtain ⟨ls, cs, lexed, derives, rfl⟩ := derived
    refine ⟨ls, tokenize_eq_ok_iff_lexed.mpr lexed, ?_⟩
    rw [ofLexemes_eq_ok_of_derives derives]

/-! ## Phrases that have a spelling -/

/-- Every token has a spelling. -/
def Spelled (tokens : List Token) : Prop :=
  ∀ token ∈ tokens, token.Spelled

@[simp] theorem spelled_nil : Spelled [] := by
  simp [Spelled]

@[simp] theorem spelled_cons {token : Token} {rest : List Token} :
    Spelled (token :: rest) ↔ token.Spelled ∧ Spelled rest :=
  List.forall_mem_cons

@[simp] theorem spelled_append {first second : List Token} :
    Spelled (first ++ second) ↔ Spelled first ∧ Spelled second :=
  List.forall_mem_append

theorem spelled_flatMap {α : Type} {phrase : α → List Token} {items : List α} :
    Spelled (items.flatMap phrase) ↔ ∀ a ∈ items, Spelled (phrase a) := by
  induction items with
  | nil => simp
  | cons a items ih => simp [ih]

/-- Commas can always be written. -/
theorem spelled_separated {α : Type} {phrase : α → List Token} {items : List α} :
    Spelled (separated phrase items) ↔ ∀ a ∈ items, Spelled (phrase a) := by
  cases items with
  | nil => simp [separated]
  | cons a items => simp [separated, spelled_flatMap, Token.spelled_mark]

theorem spelled_parameterPart {ps : Option (List Written)} :
    Spelled (parameterPart ps) ↔ ∀ p ∈ (ps.getD []).map Written.parameter, p.WellFormed := by
  cases ps with
  | none => simp [parameterPart]
  | some values =>
    simp [parameterPart, spelled_separated, Token.spelled_mark, Written.spelled_iff]

theorem spelled_assignment {a : Assignment} : Spelled a.tokens ↔ a.toAttribute.WellFormed := by
  have value : a.value.token.Spelled ↔ a.value.parameter.WellFormed := Written.spelled_iff _
  simp only [Assignment.tokens, spelled_cons, Token.spelled_mark, spelled_nil, value,
    Token.spelled_identifier_iff, true_and, and_true]
  exact ⟨fun both => ⟨both.1, both.2⟩, fun well => ⟨well.key, well.value⟩⟩

theorem spelled_attributePart {as : Option (List Assignment)} :
    Spelled (attributePart as) ↔
      ∀ a ∈ (as.getD []).map Assignment.toAttribute, a.WellFormed := by
  cases as with
  | none => simp [attributePart]
  | some assignments =>
    simp [attributePart, spelled_separated, Token.spelled_mark, spelled_assignment]

/-! ## What is read is well formed -/

mutual

theorem wellFormedAt_statement : ∀ (s : Statement) {depth : Nat} {followed : Bool},
    depth ≤ maxNesting → Legal (s.occurrences depth followed) → Spelled s.tokens →
    s.node.WellFormedAt depth
  | .mk name ps as body, depth, followed, within, legal, spelled => by
    obtain ⟨⟨-, nested⟩, below⟩ := List.forall_mem_cons.mp legal
    simp only [Statement.tokens, spelled_cons, spelled_append, Token.spelled_identifier_iff,
      spelled_parameterPart, spelled_attributePart] at spelled
    obtain ⟨identifier, parameters, attributes, inside⟩ := spelled
    obtain ⟨tag, shorthand⟩ := Shorthand.wellFormed_of_expand identifier name.expands
    rw [Node.wellFormedAt_iff]
    refine ⟨⟨within, tag, parameters, ?_⟩, allWellFormedAt_body body nested below inside⟩
    exact List.forall_mem_append.mpr ⟨shorthand, attributes⟩

theorem allWellFormedAt_body : ∀ (body : Body) {depth : Nat},
    (body ≠ .none → depth < maxNesting) → Legal (body.occurrences (depth + 1)) →
    Spelled body.tokens → Node.AllWellFormedAt (depth + 1) body.nodes
  | .none, depth, nested, legal, spelled => by
    intro s member
    cases member
  | .block cs, depth, nested, legal, spelled => by
    simp only [Body.tokens, spelled_cons, spelled_append] at spelled
    exact allWellFormedAt_chains cs (nested (by simp)) legal spelled.2.1
  | .chain c, depth, nested, legal, spelled => by
    simp only [Body.tokens, spelled_cons] at spelled
    exact allWellFormedAt_chain c (nested (by simp)) legal spelled.2

theorem allWellFormedAt_chain : ∀ (c : Chain) {depth : Nat}, depth ≤ maxNesting →
    Legal (c.occurrences depth) → Spelled c.tokens → Node.AllWellFormedAt depth c.nodes
  | .one s, depth, within, legal, spelled => by
    have none : Node.AllWellFormedAt depth [] := by
      intro s member
      cases member
    exact Node.allWellFormedAt_cons.mpr ⟨wellFormedAt_statement s within legal spelled, none⟩
  | .plus s c, depth, within, legal, spelled => by
    obtain ⟨here, later⟩ := List.forall_mem_append.mp legal
    simp only [Chain.tokens, spelled_append, spelled_cons] at spelled
    exact Node.allWellFormedAt_cons.mpr ⟨wellFormedAt_statement s within here spelled.1,
      allWellFormedAt_chain c within later spelled.2.2⟩

theorem allWellFormedAt_chains : ∀ (cs : Chains) {depth : Nat}, depth ≤ maxNesting →
    Legal (cs.occurrences depth) → Spelled cs.tokens → Node.AllWellFormedAt depth cs.nodes
  | .nil, depth, within, legal, spelled => by
    intro s member
    cases member
  | .cons c cs, depth, within, legal, spelled => by
    obtain ⟨here, later⟩ := List.forall_mem_append.mp legal
    obtain ⟨first, rest⟩ := spelled_append.mp spelled
    exact (Node.allWellFormedAt_append _ _).mpr ⟨allWellFormedAt_chain c within here first,
      allWellFormedAt_chains cs within later rest⟩

end

theorem Lexed.spelled_significant {start : Nat} {cs : List Char} {ls : List Lexeme}
    (lexed : Lexed start cs ls) : Spelled (significant ls) := by
  induction lexed with
  | nil start => exact spelled_nil
  | @cons start token text rest ls written ends more ih =>
    cases visible : token.isWhiteSpace with
    | true => rwa [significant_cons_of_whiteSpace _ _ visible]
    | false =>
      rw [significant_cons_of_visible _ _ visible]
      exact spelled_cons.mpr ⟨⟨visible, text, written⟩, ih⟩

/-- Every document that is read is well formed. -/
theorem Document.wellFormed_of_parse {source : String} {d : Document}
    (parsed : Document.parse source = .ok d) : d.WellFormed := by
  obtain ⟨ls, cs, lexed, derives, rfl⟩ := parse_eq_ok_iff_derives.mp parsed
  have legal : Legal (cs.occurrences 0) := fun o member =>
    ⟨derives.continued o member, derives.nested o member⟩
  have spelled : Spelled cs.tokens := derives.yield ▸ lexed.spelled_significant
  exact allWellFormedAt_chains cs (Nat.zero_le _) legal spelled

/-! ## What is well formed can be written -/

theorem exists_map_eq {α β : Type} {f : α → β} {bs : List β} (each : ∀ b ∈ bs, ∃ a, f a = b) :
    ∃ as : List α, as.map f = bs := by
  have range : bs ∈ Set.range (List.map f) := by
    rw [Set.range_list_map]
    exact each
  exact range

/-- The statements below another one are written as a block, if there are any. -/
theorem exists_body {cs : Chains} {depth : Nat}
    (wellFormed : Node.AllWellFormedAt (depth + 1) cs.nodes) (spelled : Spelled cs.tokens)
    (legal : Legal (cs.occurrences (depth + 1))) :
    ∃ body : Body, body.nodes = cs.nodes ∧ Spelled body.tokens ∧ (∀ chain, body ≠ .chain chain) ∧
      (body ≠ .none → depth < maxNesting) ∧ Legal (body.occurrences (depth + 1)) := by
  cases below : cs.nodes with
  | nil =>
    refine ⟨.none, rfl, spelled_nil, by simp, fun some => (some rfl).elim, ?_⟩
    intro o member
    cases member
  | cons node rest =>
    rw [below] at wellFormed
    have first := (Node.wellFormedAt_iff.mp (Node.allWellFormedAt_cons.mp wellFormed).1).1
    refine ⟨.block cs, below, ?_, by simp, fun _ => first.1, legal⟩
    simpa [Body.tokens, Token.spelled_mark] using spelled

mutual

theorem exists_statement : ∀ (node : Node) {depth : Nat}, node.WellFormedAt depth →
    ∃ s : Statement, s.node = node ∧ Spelled s.tokens ∧
      ∀ followed, Legal (s.occurrences depth followed)
  | ⟨text, parameters, attributes, children⟩, depth, wellFormed => by
    obtain ⟨⟨-, tag, written, written'⟩, below⟩ := Node.wellFormedAt_iff.mp wellFormed
    let name : Name := ⟨text, ⟨text, none, []⟩, Shorthand.expand_of_isTagName tag⟩
    obtain ⟨values, rfl⟩ := exists_map_eq fun p member => (written p member).exists_written
    obtain ⟨assignments, rfl⟩ := exists_map_eq fun a member =>
      (written' a member).exists_assignment
    obtain ⟨cs, rfl, spelled, legal⟩ := exists_chains children below
    obtain ⟨body, same, spelled', other, nested, legal'⟩ := exists_body below spelled legal
    refine ⟨.mk name (some values) (some assignments) body, ?_, ?_, ?_⟩
    · simp [Statement.node, name, Shorthand.attributes, same]
    · simp only [Statement.tokens, spelled_cons, spelled_append, Token.spelled_identifier_iff,
        spelled_parameterPart, spelled_attributePart]
      exact ⟨tag.isIdentifier, written, written', spelled'⟩
    · intro followed
      exact List.forall_mem_cons.mpr ⟨⟨fun _ => other, nested⟩, legal'⟩

theorem exists_chains : ∀ (nodes : List Node) {depth : Nat}, Node.AllWellFormedAt depth nodes →
    ∃ cs : Chains, cs.nodes = nodes ∧ Spelled cs.tokens ∧ Legal (cs.occurrences depth)
  | [], depth, wellFormed => ⟨.nil, rfl, spelled_nil, fun _ member => by cases member⟩
  | node :: rest, depth, wellFormed => by
    obtain ⟨first, later⟩ := Node.allWellFormedAt_cons.mp wellFormed
    obtain ⟨s, rfl, spelled, legal⟩ := exists_statement node first
    obtain ⟨cs, rfl, spelled', legal'⟩ := exists_chains rest later
    exact ⟨.cons (.one s) cs, rfl, spelled_append.mpr ⟨spelled, spelled'⟩,
      List.forall_mem_append.mpr ⟨legal false, legal'⟩⟩

end

/-- Every well-formed document is read from some source. -/
theorem Document.WellFormed.exists_parse {d : Document} (wellFormed : d.WellFormed) :
    ∃ source, Document.parse source = .ok d := by
  obtain ⟨cs, same, spelled, legal⟩ := exists_chains d.roots wellFormed
  obtain ⟨text, ls, lexed, kept, -⟩ := exists_lexed cs.tokens 0 spelled
  refine ⟨.ofList text, parse_eq_ok_iff_derives.mpr ⟨ls, cs, ?_, ?_, ?_⟩⟩
  · rwa [String.toList_ofList]
  · exact ⟨kept.symm, fun o member => (legal o member).1, fun o member => (legal o member).2⟩
  · rw [Chains.document, same]

/-- A document has a source exactly if it is well formed. -/
theorem exists_parse_eq_ok_iff_wellFormed (d : Document) :
    (∃ source, Document.parse source = .ok d) ↔ d.WellFormed := by
  constructor
  · intro found
    obtain ⟨source, parsed⟩ := found
    exact Document.wellFormed_of_parse parsed
  · exact Document.WellFormed.exists_parse

end HtmlTemplate
