import HtmlTemplate.Piece
import HtmlTemplate.Reading.Fault

/-!
# Reading a document

Lexemes are read one at a time, and white space between them changes nothing but the place where a
fault at the end of the input begins. The state of a reading is the place within the statement
under way, the level it stands on, and the enclosing levels, each with the statement that owns the
level below it.

A statement is not finished before a lexeme comes that cannot belong to it. A `+` then goes on with
the innermost level still open, so a chain after `>` takes every sibling that follows; a name or a
closing brace ends all chains up to the nearest block or the document.
-/

set_option autoImplicit false

namespace HtmlTemplate

/-- The last part of a statement that has been read. Parts come in this order, and all but the name
may be missing. -/
inductive Part
  | name
  | parameters
  | attributes
  | children
deriving DecidableEq, Repr

/-- A statement under way. -/
structure Draft where
  name : String
  parameters : List Parameter
  attributes : List Attribute
  children : List Node
  part : Part
  /-- Whether the statement follows a `+`. -/
  joined : Bool
deriving DecidableEq, Repr

namespace Draft

def node (d : Draft) : Node :=
  ⟨d.name, d.parameters, d.attributes, d.children⟩

def addParameter (d : Draft) (added : Parameter) : Draft :=
  { d with parameters := d.parameters ++ [added] }

def addAttribute (d : Draft) (added : Attribute) : Draft :=
  { d with attributes := d.attributes ++ [added] }

/-- The statement with the statements of a level below it, newest first. -/
def adopt (d : Draft) (newest : List Node) : Draft :=
  { d with children := newest.reverse, part := .children }

end Draft

/-- How a level of statements was opened. -/
inductive Opening
  | document
  | block (brace : Span)
  | chain
deriving DecidableEq, Repr

/-- A level of statements: how it was opened and its finished statements, newest first. -/
structure Level where
  opening : Opening
  finished : List Node
deriving DecidableEq, Repr

/-- A level whose statement under way owns the level below. -/
structure Enclosing where
  level : Level
  owner : Draft
deriving DecidableEq, Repr

/-- A place between the parentheses of a statement. -/
inductive ParameterPlace
  | start
  | afterValue
  | afterComma (comma : Lexeme)
deriving DecidableEq, Repr

/-- A place between the brackets of a statement. Behind a key the span of the first lexeme that
follows it is kept. -/
inductive AttributePlace
  | start
  | afterKey (key : String) (since : Option Span)
  | afterEqual (key : String) (since : Option Span)
  | afterValue
  | afterComma (comma : Lexeme)
deriving DecidableEq, Repr

/-- The place that a reading has come to within its innermost level. -/
inductive Place
  /-- No statement of the level is under way. -/
  | between
  /-- A statement has to come, behind `>` or `+`. The span of the first lexeme behind it is kept. -/
  | awaiting (joined : Bool) (since : Option Span)
  | statement (draft : Draft)
  | parameters (draft : Draft) (opener : Span) (place : ParameterPlace)
  | attributes (draft : Draft) (opener : Span) (place : AttributePlace)
deriving DecidableEq, Repr

structure Reading where
  enclosing : List Enclosing
  level : Level
  place : Place
deriving DecidableEq, Repr

/-- The value that a token stands for among parameters and attributes. -/
def Parameter.ofToken? : Token → Option Parameter
  | .identifier text => some ⟨.keyword, text⟩
  | .quoted text => some ⟨.quoted, text⟩
  | .multiline text => some ⟨.multiline, text⟩
  | .pipe text => some ⟨.pipe, text⟩
  | .whiteSpace _ | .mark _ => none

namespace Reading

/-- Nothing has been read. -/
def start : Reading :=
  ⟨[], ⟨.document, []⟩, .between⟩

/-- What the levels around a place call for, from the innermost outwards. -/
def context (opening : Opening) : List Enclosing → List Expectation
  | [] => []
  | e :: rest =>
    (if opening = .chain then [.child] else []) ++
      ((if e.owner.joined then [.sibling] else []) ++ context e.level.opening rest)

/-- What is called for around a place within the statement under way. -/
def within (r : Reading) (joined : Bool) : List Expectation :=
  (if joined then [.sibling] else []) ++ context r.level.opening r.enclosing

/-- What is called for between two statements of a document or a block. -/
def betweenStatements (r : Reading) : List Expectation :=
  match r.level.opening with
  | .document => [.statement]
  | _ => .closer .brace :: context r.level.opening r.enclosing

/-- Ends a statement and every chain that ends with it. -/
def settle (level : Level) (draft : Draft) : List Enclosing → Reading
  | [] => ⟨[], { level with finished := draft.node :: level.finished }, .between⟩
  | e :: rest =>
    if level.opening = .chain then
      settle e.level (e.owner.adopt (draft.node :: level.finished)) rest
    else ⟨e :: rest, { level with finished := draft.node :: level.finished }, .between⟩

/-- Begins a statement with the name that a lexeme holds. -/
def begin (r : Reading) (name : String) (span : Span) (joined : Bool) : Except Fault Reading :=
  match Shorthand.expand name with
  | .ok shorthand =>
    .ok { r with
      place := .statement ⟨shorthand.tag, [], shorthand.attributes, [], .name, joined⟩ }
  | .error reason => .error (.invalidName reason span)

/-- Opens a level below a statement. -/
def descend (r : Reading) (draft : Draft) (opening : Opening) (place : Place) (opener : Span) :
    Except Fault Reading :=
  if maxNesting ≤ r.enclosing.length then .error (.tooDeep opener)
  else .ok ⟨⟨r.level, draft⟩ :: r.enclosing, ⟨opening, []⟩, place⟩

/-- Reads a lexeme between two statements. -/
def stepBetween (r : Reading) (l : Lexeme) : Except Fault Reading :=
  match l.token, r.level.opening, r.enclosing with
  | .identifier name, _, _ => r.begin name l.span false
  | .mark .closeBrace, .block _, e :: rest =>
    .ok ⟨rest, e.level, .statement (e.owner.adopt r.level.finished)⟩
  | _, _, _ => .error (.unexpected l r.betweenStatements)

/-- Reads a lexeme behind a part of a statement. -/
def stepStatement (r : Reading) (d : Draft) (l : Lexeme) : Except Fault Reading :=
  match l.token, d.part with
  | .mark .openParen, .name => .ok { r with place := .parameters d l.span .start }
  | .mark .openBracket, .name | .mark .openBracket, .parameters =>
    .ok { r with place := .attributes d l.span .start }
  | .mark .openBrace, .name | .mark .openBrace, .parameters | .mark .openBrace, .attributes =>
    r.descend d (.block l.span) .between l.span
  | .mark .greaterThan, .name | .mark .greaterThan, .parameters
  | .mark .greaterThan, .attributes => r.descend d .chain (.awaiting false none) l.span
  | .mark .plus, _ =>
    .ok { r with
      level := { r.level with finished := d.node :: r.level.finished }
      place := .awaiting true none }
  | _, _ => (settle r.level d r.enclosing).stepBetween l

/-- Reads a lexeme between parentheses. -/
def stepParameters (r : Reading) (d : Draft) (opener : Span) (place : ParameterPlace) (l : Lexeme) :
    Except Fault Reading :=
  let fault := fun found => Except.error (.unexpected found (.closer .paren :: r.within d.joined))
  let close := Except.ok { r with place := .statement { d with part := .parameters } }
  let accept := fun parameter =>
    Except.ok { r with place := .parameters (d.addParameter parameter) opener .afterValue }
  match place with
  | .start =>
    match Parameter.ofToken? l.token with
    | some parameter => accept parameter
    | none => if l.token = .mark .closeParen then close else fault l
  | .afterValue =>
    if l.token = .mark .comma then .ok { r with place := .parameters d opener (.afterComma l) }
    else if l.token = .mark .closeParen then close
    else fault l
  | .afterComma comma =>
    match Parameter.ofToken? l.token with
    | some parameter => accept parameter
    | none => fault comma

/-- Reads a lexeme between brackets. -/
def stepAttributes (r : Reading) (d : Draft) (opener : Span) (place : AttributePlace) (l : Lexeme) :
    Except Fault Reading :=
  let fault := fun found expectation =>
    Except.error (.unexpected found (expectation :: r.within d.joined))
  let close := Except.ok { r with place := .statement { d with part := .attributes } }
  let goTo := fun place => Except.ok { r with place := .attributes d opener place }
  match place with
  | .start =>
    match l.token with
    | .identifier key => goTo (.afterKey key none)
    | .mark .closeBracket => close
    | _ => fault l (.closer .bracket)
  | .afterKey key since =>
    if l.token = .mark .equal then goTo (.afterEqual key (since.or (some l.span)))
    else fault l .equal
  | .afterEqual key _ =>
    match Parameter.ofToken? l.token with
    | some value =>
      .ok { r with
        place := .attributes (d.addAttribute ⟨key, value.kind, value.text⟩) opener .afterValue }
    | none => fault l .value
  | .afterValue =>
    if l.token = .mark .comma then goTo (.afterComma l)
    else if l.token = .mark .closeBracket then close
    else fault l (.closer .bracket)
  | .afterComma comma =>
    match l.token with
    | .identifier key => goTo (.afterKey key none)
    | _ => fault comma (.closer .bracket)

/-- Passes over white space. -/
def skip (r : Reading) (span : Span) : Reading :=
  match r.place with
  | .awaiting joined since => { r with place := .awaiting joined (since.or (some span)) }
  | .attributes d opener (.afterKey key since) =>
    { r with place := .attributes d opener (.afterKey key (since.or (some span))) }
  | _ => r

/-- Reads one lexeme. -/
def step (r : Reading) (l : Lexeme) : Except Fault Reading :=
  if l.isWhiteSpace then .ok (r.skip l.span)
  else
    match r.place with
    | .between => r.stepBetween l
    | .awaiting joined _ =>
      match l.token with
      | .identifier name => r.begin name l.span joined
      | _ => .error (.unexpected l (.identifier :: .statement :: r.within joined))
    | .statement d => r.stepStatement d l
    | .parameters d opener place => r.stepParameters d opener place l
    | .attributes d opener place => r.stepAttributes d opener place l

/-- The fault of a reading that ends within a construct: it covers everything from the first lexeme
of the construct to the last lexeme of all. -/
def incomplete (expected : List Expectation) (since : Option Span) (last : Span) :
    Except Fault Document :=
  .error (.incomplete expected ((since.map (·.union last)).getD last))

/-- Ends a reading between two statements. -/
def finishBetween (r : Reading) (last : Span) : Except Fault Document :=
  match r.level.opening with
  | .block brace => .error (.unclosed .brace brace last.stop)
  | _ => .ok ⟨r.level.finished.reverse⟩

/-- Ends a reading, whose last lexeme other than white space has the span `last`. -/
def finish (r : Reading) (last : Span) : Except Fault Document :=
  match r.place with
  | .between => r.finishBetween last
  | .awaiting joined since =>
    incomplete (.identifier :: .statement :: r.within joined) since last
  | .statement d => (settle r.level d r.enclosing).finishBetween last
  | .parameters d opener place =>
    match place with
    | .start | .afterValue => .error (.unclosed .paren opener last.stop)
    | .afterComma comma => .error (.unexpected comma (.closer .paren :: r.within d.joined))
  | .attributes d opener place =>
    match place with
    | .start | .afterValue => .error (.unclosed .bracket opener last.stop)
    | .afterKey _ since => incomplete (.equal :: r.within d.joined) since last
    | .afterEqual _ since => incomplete (.value :: r.within d.joined) since last
    | .afterComma comma => .error (.unexpected comma (.closer .bracket :: r.within d.joined))

/-- Reads lexemes one after the other. -/
def steps (r : Reading) (ls : List Lexeme) : Except Fault Reading :=
  ls.foldlM step r

end Reading

namespace Document

/-- The span of the last lexeme that is not white space, or of the last one of all. -/
def lastSpan (ls : List Lexeme) : Span :=
  ((ls.reverse.find? fun l => !l.isWhiteSpace).or ls.getLast?).elim default (·.span)

/-- The document that lexemes form. -/
def ofLexemes (ls : List Lexeme) : Except Fault Document := do
  let r ← Reading.start.steps ls
  r.finish (lastSpan ls)

/-- Reads a template. -/
def parse (source : String) : Except ParseError Document := do
  let ls ← tokenize source
  match ofLexemes ls with
  | .ok document => .ok document
  | .error fault => .error ⟨[fault.diagnostic]⟩

end Document

end HtmlTemplate
