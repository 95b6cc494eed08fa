import HtmlTemplate.Proofs.Reading.Walks

/-!
# Reading a phrase of the grammar

What the tokens of a phrase do to a reading, whatever tokens follow: the parameters and attributes
of a statement are added to its draft, a block is adopted by it, and a chain ends with its level.
The parts of a statement take a walk with them, so that a walk along a larger phrase is put together
from those along its parts. Where no level is too deep, a phrase is an equation between readings of
what follows.
-/

set_option autoImplicit false

namespace HtmlTemplate

open Grammar

namespace Draft

def withParameters (d : Draft) : Option (List Written) → Draft
  | none => d
  | some values =>
    { d with parameters := d.parameters ++ values.map Written.parameter, part := .parameters }

def withAttributes (d : Draft) : Option (List Assignment) → Draft
  | none => d
  | some assignments =>
    { d with
      attributes := d.attributes ++ assignments.map Assignment.toAttribute
      part := .attributes }

/-- The draft of a statement of which the name has been read. -/
def ofName (name : Name) (joined : Bool) : Draft :=
  ⟨name.shorthand.tag, [], name.shorthand.attributes, [], .name, joined⟩

theorem part_withParameters {d : Draft} (ps : Option (List Written)) (start : d.part = .name) :
    (d.withParameters ps).part = .name ∨ (d.withParameters ps).part = .parameters := by
  cases ps with
  | none => exact Or.inl start
  | some values => exact Or.inr rfl

theorem part_withAttributes {d : Draft} (as : Option (List Assignment))
    (start : d.part = .name ∨ d.part = .parameters) : (d.withAttributes as).part ≠ .children := by
  cases as with
  | none =>
    rcases start with start | start <;> simp [withAttributes, start]
  | some assignments => simp [withAttributes]

end Draft

/-- The level with further statements. -/
def Level.add (level : Level) (nodes : List Node) : Level :=
  { level with finished := nodes.reverse ++ level.finished }

theorem Level.add_add (level : Level) (first second : List Node) :
    (level.add first).add second = level.add (first ++ second) := by
  simp [Level.add]

namespace Reading

variable {enclosing : List Enclosing} {level : Level} {d : Draft} {opener : Span}
  {rest : List Token} {post : Reading → Prop} {more : List Leveled}

theorem read_step {r next : Reading} {token : Token} (stepped : r.step (.bare token) = .ok next) :
    r.read (token :: rest) = next.read rest := by
  rw [read, stepped]
  rfl

/-! ## Parameters and attributes -/

/-- Behind the opening parenthesis or a comma a value is added to the statement. -/
theorem step_parameter {place : ParameterPlace} (value : Written)
    (awaits : place = .start ∨ ∃ comma, place = .afterComma comma) :
    step ⟨enclosing, level, .parameters d opener place⟩ (.bare value.token) =
      .ok ⟨enclosing, level, .parameters (d.addParameter value.parameter) opener .afterValue⟩ := by
  rcases awaits with rfl | ⟨comma, rfl⟩ <;> cases value <;> rfl

theorem walks_moreParameters (values : List Written) (d : Draft)
    (further : Walks post ⟨enclosing, level, .statement (d.withParameters (some values))⟩ more) :
    Walks post ⟨enclosing, level, .parameters d opener .afterValue⟩
      (flat enclosing.length
        ((values.flatMap fun value => .mark .comma :: [value.token]) ++ [.mark .closeParen]) ++
          more) := by
  induction values generalizing d with
  | nil =>
    refine .plain rfl rfl rfl ?_
    simpa [Draft.withParameters] using further
  | cons value values ih =>
    refine .plain rfl rfl rfl (.plain value.plain (step_parameter value (Or.inr ⟨_, rfl⟩)) rfl ?_)
    apply ih
    simpa [Draft.withParameters, Draft.addParameter] using further

theorem walks_parameterPart (ps : Option (List Written)) (start : d.part = .name)
    (further : Walks post ⟨enclosing, level, .statement (d.withParameters ps)⟩ more) :
    Walks post ⟨enclosing, level, .statement d⟩
      (flat enclosing.length (parameterPart ps) ++ more) := by
  cases ps with
  | none => exact further
  | some values =>
    refine .plain rfl (step_of_takes (.openParen rfl start)) rfl ?_
    cases values with
    | nil =>
      refine .plain rfl rfl rfl ?_
      simpa [Draft.withParameters] using further
    | cons value values =>
      refine .plain value.plain (step_parameter value (Or.inl rfl)) rfl ?_
      apply walks_moreParameters
      simpa [Draft.withParameters, Draft.addParameter] using further

/-- Behind the opening bracket or a comma a key leads to a value. -/
theorem walks_assignment {place : AttributePlace} (a : Assignment)
    (awaits : place = .start ∨ ∃ comma, place = .afterComma comma)
    (further : Walks post
      ⟨enclosing, level, .attributes (d.addAttribute a.toAttribute) opener .afterValue⟩ more) :
    Walks post ⟨enclosing, level, .attributes d opener place⟩
      (flat enclosing.length a.tokens ++ more) := by
  obtain ⟨key, value⟩ := a
  have keyed : step ⟨enclosing, level, .attributes d opener place⟩ (.bare (.identifier key)) =
      .ok ⟨enclosing, level, .attributes d opener (.afterKey key none)⟩ :=
    step_of_takes (.key rfl awaits)
  have valued : ∀ since,
      step ⟨enclosing, level, .attributes d opener (.afterEqual key since)⟩ (.bare value.token) =
        .ok ⟨enclosing, level,
          .attributes (d.addAttribute (Assignment.toAttribute ⟨key, value⟩)) opener
            .afterValue⟩ := by
    intro since
    cases value <;> rfl
  exact .plain rfl keyed rfl (.plain rfl rfl rfl (.plain value.plain (valued _) rfl further))

theorem walks_moreAttributes (assignments : List Assignment) (d : Draft)
    (further : Walks post ⟨enclosing, level, .statement (d.withAttributes (some assignments))⟩
      more) :
    Walks post ⟨enclosing, level, .attributes d opener .afterValue⟩
      (flat enclosing.length
        ((assignments.flatMap fun a => .mark .comma :: a.tokens) ++ [.mark .closeBracket]) ++
          more) := by
  induction assignments generalizing d with
  | nil =>
    refine .plain rfl rfl rfl ?_
    simpa [Draft.withAttributes] using further
  | cons a assignments ih =>
    refine .plain rfl rfl rfl (walks_assignment a (Or.inr ⟨_, rfl⟩) ?_)
    apply ih
    simpa [Draft.withAttributes, Draft.addAttribute] using further

theorem walks_attributePart (as : Option (List Assignment))
    (start : d.part = .name ∨ d.part = .parameters)
    (further : Walks post ⟨enclosing, level, .statement (d.withAttributes as)⟩ more) :
    Walks post ⟨enclosing, level, .statement d⟩
      (flat enclosing.length (attributePart as) ++ more) := by
  cases as with
  | none => exact further
  | some assignments =>
    refine .plain rfl (step_of_takes (.openBracket rfl start)) rfl ?_
    cases assignments with
    | nil =>
      refine .plain rfl rfl rfl ?_
      simpa [Draft.withAttributes] using further
    | cons a assignments =>
      refine walks_assignment a (Or.inl rfl) ?_
      apply walks_moreAttributes
      simpa [Draft.withAttributes, Draft.addAttribute] using further

/-- A walk within one level is an equation between readings. -/
theorem read_of_walks {r next : Reading} {depth : Nat} {tokens : List Token}
    (plain : ∀ token ∈ tokens, token.opensLevel = false)
    (walks : Walks (· = next) r (flat depth tokens ++ [])) :
    r.read (tokens ++ rest) = next.read rest := by
  rw [List.append_nil] at walks
  obtain ⟨next, rfl, reads⟩ := walks.read (shallow_flat depth plain)
  rw [← reads, map_token_flat]

theorem read_assignment {place : AttributePlace} (a : Assignment)
    (awaits : place = .start ∨ ∃ comma, place = .afterComma comma) :
    read ⟨enclosing, level, .attributes d opener place⟩ (a.tokens ++ rest) =
      read ⟨enclosing, level, .attributes (d.addAttribute a.toAttribute) opener .afterValue⟩
        rest :=
  read_of_walks a.plain (walks_assignment a awaits (.done rfl))

theorem read_parameterPart (ps : Option (List Written)) (start : d.part = .name) :
    read ⟨enclosing, level, .statement d⟩ (parameterPart ps ++ rest) =
      read ⟨enclosing, level, .statement (d.withParameters ps)⟩ rest :=
  read_of_walks (plain_parameterPart ps) (walks_parameterPart ps start (.done rfl))

theorem read_attributePart (as : Option (List Assignment))
    (start : d.part = .name ∨ d.part = .parameters) :
    read ⟨enclosing, level, .statement d⟩ (attributePart as ++ rest) =
      read ⟨enclosing, level, .statement (d.withAttributes as)⟩ rest :=
  read_of_walks (plain_attributePart as) (walks_attributePart as start (.done rfl))

/-! ## Statements and levels -/

/-- The reading in which a level holds all its statements. A chain is over then. -/
def ended (level : Level) : List Enclosing → Reading
  | [] => ⟨[], level, .between⟩
  | e :: rest =>
    if level.opening = .chain then settle e.level (e.owner.adopt level.finished) rest
    else ⟨e :: rest, level, .between⟩

theorem settle_eq_ended (level : Level) (d : Draft) (enclosing : List Enclosing) :
    settle level d enclosing = ended (level.add [d.node]) enclosing := by
  cases enclosing <;> rfl

theorem ended_of_ne_chain (other : level.opening ≠ .chain) :
    ended level enclosing = ⟨enclosing, level, .between⟩ := by
  cases enclosing with
  | nil => rfl
  | cons e rest => exact if_neg other

theorem ended_chain (e : Enclosing) (nodes : List Node) :
    ended (Level.add ⟨.chain, []⟩ nodes) (e :: enclosing) =
      ended (e.level.add [{ e.owner.node with children := nodes }]) enclosing := by
  have chain : (Level.add ⟨.chain, []⟩ nodes).opening = .chain := rfl
  rw [ended, if_pos chain, settle_eq_ended]
  simp [Level.add, Draft.adopt, Draft.node]

theorem step_name (enclosing : List Enclosing) (level : Level) {place : Place}
    (awaits : place.Awaits) (name : Name) :
    ∃ joined, step ⟨enclosing, level, place⟩ (.bare (.identifier name.text)) =
      .ok ⟨enclosing, level, .statement (.ofName name joined)⟩ := by
  cases place with
  | between => exact ⟨false, step_of_takes (.name rfl name.expands trivial)⟩
  | awaiting joined since => exact ⟨joined, step_of_takes (.name rfl name.expands trivial)⟩
  | _ => exact awaits.elim

theorem step_openBrace (part : d.part ≠ .children) (shallow : enclosing.length < maxNesting) :
    step ⟨enclosing, level, .statement d⟩ (.bare (.mark .openBrace)) =
      .ok ⟨⟨level, d⟩ :: enclosing, ⟨.block default, []⟩, .between⟩ :=
  step_of_takes (.openBrace rfl part shallow)

theorem step_greaterThan (part : d.part ≠ .children) (shallow : enclosing.length < maxNesting) :
    step ⟨enclosing, level, .statement d⟩ (.bare (.mark .greaterThan)) =
      .ok ⟨⟨level, d⟩ :: enclosing, ⟨.chain, []⟩, .awaiting false none⟩ :=
  step_of_takes (.greaterThan rfl part shallow)

theorem step_plus :
    step ⟨enclosing, level, .statement d⟩ (.bare (.mark .plus)) =
      .ok ⟨enclosing, level.add [d.node], .awaiting true none⟩ :=
  step_of_takes (.plus rfl)

theorem step_closeBrace (nodes : List Node) :
    step ⟨⟨level, d⟩ :: enclosing, Level.add ⟨.block default, []⟩ nodes, .between⟩
        (.bare (.mark .closeBrace)) =
      .ok ⟨enclosing, level, .statement (d.adopt nodes.reverse)⟩ := by
  simp [step, Lexeme.bare, Lexeme.isWhiteSpace, Token.isWhiteSpace, stepBetween, Level.add]

end Reading

end HtmlTemplate
