import HtmlTemplate.Proofs.Outcome
import HtmlTemplate.Reading

/-!
# Spans that a reading keeps

A reading keeps spans for the case that it fails: those of the braces of open blocks, of the opening
parenthesis or bracket, of a comma and of what follows a key or a sign. Each of them is the span of
a lexeme that was read, because a step adds none but that of its lexeme (`stays_step`). A fault is
about such spans and, where the input ended too early, about the end of the last lexeme or about
everything from some lexeme to the last. So if a class of spans has those of all lexemes and is
closed under these two ways to make a span, it has all spans of the fault (`marks_of_ofLexemes`).
-/

set_option autoImplicit false

namespace HtmlTemplate

/-- Spans made from spans of the class are of the class. -/
structure Span.Closed (P : Span → Prop) : Prop where
  start : P (.emptyAt 0)
  stop : ∀ {span : Span}, P span → P (.emptyAt span.stop)
  union : ∀ {span other : Span}, P span → P other → P (span.union other)

def Opening.spans : Opening → List Span
  | .block brace => [brace]
  | .document | .chain => []

def ParameterPlace.spans : ParameterPlace → List Span
  | .afterComma comma => [comma.span]
  | .start | .afterValue => []

def AttributePlace.spans : AttributePlace → List Span
  | .afterKey _ since | .afterEqual _ since => since.toList
  | .afterComma comma => [comma.span]
  | .start | .afterValue => []

def Place.spans : Place → List Span
  | .between | .statement _ => []
  | .awaiting _ since => since.toList
  | .parameters _ opener place => opener :: place.spans
  | .attributes _ opener place => opener :: place.spans

/-- All spans that a reading keeps are of a class. -/
structure Reading.Keeps (P : Span → Prop) (r : Reading) : Prop where
  place : ∀ span ∈ r.place.spans, P span
  level : ∀ span ∈ r.level.opening.spans, P span
  enclosing : ∀ e ∈ r.enclosing, ∀ span ∈ e.level.opening.spans, P span

/-- All labels of a fault are on spans of a class. -/
def Fault.Marks (P : Span → Prop) (fault : Fault) : Prop :=
  ∀ label ∈ fault.diagnostic.labels, P label.span

/-- What a step comes to has spans of a class only. -/
def Reading.Stays (P : Span → Prop) : Except Fault Reading → Prop
  | .ok r => r.Keeps P
  | .error fault => fault.Marks P

variable {P : Span → Prop}

namespace Fault

theorem marks_unexpected {found : Lexeme} {expected : List Expectation} (known : P found.span) :
    (unexpected found expected).Marks P := by
  simpa [Marks, diagnostic, Label.primary] using known

theorem marks_incomplete {expected : List Expectation} {span : Span} (known : P span) :
    (incomplete expected span).Marks P := by
  simpa [Marks, diagnostic, Label.primary] using known

theorem marks_invalidName {reason : ShorthandError} {span : Span} (known : P span) :
    (invalidName reason span).Marks P := by
  simpa [Marks, diagnostic, Label.primary] using known

theorem marks_unclosed {delimiter : Delimiter} {opener : Span} {stop : Nat} (known : P opener)
    (empty : P (.emptyAt stop)) : (unclosed delimiter opener stop).Marks P := by
  simpa [Marks, diagnostic, Label.primary, Label.secondary] using ⟨empty, known⟩

theorem marks_tooDeep {opener : Span} (known : P opener) : (tooDeep opener).Marks P := by
  simpa [Marks, diagnostic, Label.primary] using known

end Fault

namespace Reading

variable {r : Reading} {l : Lexeme}

theorem keeps_start : start.Keeps P where
  place := by simp [start, Place.spans]
  level := by simp [start, Opening.spans]
  enclosing := by simp [start]

theorem Keeps.withPlace (keeps : r.Keeps P) {place : Place} (known : ∀ span ∈ place.spans, P span) :
    ({ r with place } : Reading).Keeps P :=
  ⟨known, keeps.level, keeps.enclosing⟩

/-! ## Steps -/

theorem keeps_settle (draft : Draft) : ∀ {enclosing : List Enclosing} {level : Level},
    (∀ span ∈ level.opening.spans, P span) →
    (∀ e ∈ enclosing, ∀ span ∈ e.level.opening.spans, P span) →
      (settle level draft enclosing).Keeps P
  | [], level, known, _ => by
    rw [settle]
    exact ⟨by simp [Place.spans], known, by simp⟩
  | e :: rest, level, known, around => by
    obtain ⟨first, later⟩ := List.forall_mem_cons.mp around
    rw [settle]
    split
    · exact keeps_settle _ first later
    · exact ⟨by simp [Place.spans], known, around⟩

theorem stays_begin (keeps : r.Keeps P) {name : String} {span : Span} {joined : Bool}
    (known : P span) : Stays P (r.begin name span joined) := by
  unfold begin
  cases Shorthand.expand name with
  | ok shorthand => exact keeps.withPlace (by simp [Place.spans])
  | error reason => exact Fault.marks_invalidName known

theorem stays_descend (keeps : r.Keeps P) {draft : Draft} {opening : Opening} {place : Place}
    {opener : Span} (inside : ∀ span ∈ opening.spans, P span)
    (here : ∀ span ∈ place.spans, P span) (known : P opener) :
    Stays P (r.descend draft opening place opener) := by
  unfold descend
  split
  · exact Fault.marks_tooDeep known
  · exact ⟨here, inside, List.forall_mem_cons.mpr ⟨keeps.level, keeps.enclosing⟩⟩

theorem stays_stepBetween (keeps : r.Keeps P) (known : P l.span) : Stays P (r.stepBetween l) := by
  unfold stepBetween
  split
  · exact stays_begin keeps known
  · next enclosing =>
    have around := keeps.enclosing
    rw [enclosing] at around
    obtain ⟨first, later⟩ := List.forall_mem_cons.mp around
    exact ⟨by simp [Place.spans], first, later⟩
  · exact Fault.marks_unexpected known

theorem stays_stepStatement (keeps : r.Keeps P) {d : Draft} (known : P l.span) :
    Stays P (r.stepStatement d l) := by
  have own : ∀ span ∈ [l.span], P span := List.forall_mem_singleton.mpr known
  have block : Stays P (r.descend d (.block l.span) .between l.span) :=
    stays_descend keeps own (by simp [Place.spans]) known
  have chain : Stays P (r.descend d .chain (.awaiting false none) l.span) :=
    stays_descend keeps (by simp [Opening.spans]) (by simp [Place.spans]) known
  have settled : Stays P ((settle r.level d r.enclosing).stepBetween l) :=
    stays_stepBetween (keeps_settle d keeps.level keeps.enclosing) known
  unfold stepStatement
  cases l.token with
  | mark mark =>
    cases mark with
    | openParen =>
      cases d.part with
      | name => exact keeps.withPlace own
      | _ => exact settled
    | openBracket =>
      cases d.part with
      | name | parameters => exact keeps.withPlace own
      | _ => exact settled
    | openBrace =>
      cases d.part with
      | children => exact settled
      | _ => exact block
    | greaterThan =>
      cases d.part with
      | children => exact settled
      | _ => exact chain
    | plus => exact ⟨by simp [Place.spans], keeps.level, keeps.enclosing⟩
    | _ => exact settled
  | _ => exact settled

theorem stays_stepParameters (keeps : r.Keeps P) {d : Draft} {opener : Span}
    {place : ParameterPlace} (opened : P opener) (here : ∀ span ∈ place.spans, P span)
    (known : P l.span) : Stays P (r.stepParameters d opener place l) := by
  have accepted : ∀ parameter, Stays P
      (.ok { r with place := .parameters (d.addParameter parameter) opener .afterValue }) :=
    fun parameter => keeps.withPlace (List.forall_mem_singleton.mpr opened)
  have closed : Stays P (.ok { r with place := .statement { d with part := .parameters } }) :=
    keeps.withPlace (by simp [Place.spans])
  unfold stepParameters
  cases place with
  | start =>
    dsimp only
    cases Parameter.ofToken? l.token with
    | some parameter => exact accepted parameter
    | none =>
      dsimp only
      split
      · exact closed
      · exact Fault.marks_unexpected known
  | afterValue =>
    dsimp only
    split
    · exact keeps.withPlace (by simpa [Place.spans, ParameterPlace.spans] using ⟨opened, known⟩)
    · split
      · exact closed
      · exact Fault.marks_unexpected known
  | afterComma comma =>
    dsimp only
    cases Parameter.ofToken? l.token with
    | some parameter => exact accepted parameter
    | none => exact Fault.marks_unexpected (List.forall_mem_singleton.mp here)

theorem stays_stepAttributes (keeps : r.Keeps P) {d : Draft} {opener : Span}
    {place : AttributePlace} (opened : P opener) (here : ∀ span ∈ place.spans, P span)
    (known : P l.span) : Stays P (r.stepAttributes d opener place l) := by
  have gone : ∀ {d' : Draft} {next : AttributePlace}, (∀ span ∈ next.spans, P span) →
      Stays P (.ok { r with place := .attributes d' opener next }) :=
    fun inside => keeps.withPlace (List.forall_mem_cons.mpr ⟨opened, inside⟩)
  have closed : Stays P (.ok { r with place := .statement { d with part := .attributes } }) :=
    keeps.withPlace (by simp [Place.spans])
  unfold stepAttributes
  cases place with
  | start =>
    dsimp only
    split
    · exact gone (by simp [AttributePlace.spans])
    · exact closed
    · exact Fault.marks_unexpected known
  | afterKey key since =>
    dsimp only
    split
    · cases since with
      | none => exact gone (List.forall_mem_singleton.mpr known)
      | some span => exact gone here
    · exact Fault.marks_unexpected known
  | afterEqual key since =>
    dsimp only
    cases Parameter.ofToken? l.token with
    | some value => exact gone (by simp [AttributePlace.spans])
    | none => exact Fault.marks_unexpected known
  | afterValue =>
    dsimp only
    split
    · exact gone (List.forall_mem_singleton.mpr known)
    · split
      · exact closed
      · exact Fault.marks_unexpected known
  | afterComma comma =>
    dsimp only
    split
    · exact gone (by simp [AttributePlace.spans])
    · exact Fault.marks_unexpected (List.forall_mem_singleton.mp here)

theorem keeps_skip (keeps : r.Keeps P) {span : Span} (known : P span) : (r.skip span).Keeps P := by
  have since : ∀ {since : Option Span}, (∀ span ∈ since.toList, P span) →
      ∀ other ∈ (since.or (some span)).toList, P other := by
    intro since kept
    cases since with
    | none => exact List.forall_mem_singleton.mpr known
    | some first => exact kept
  unfold skip
  split
  · next joined before place =>
    have kept := keeps.place
    rw [place] at kept
    exact keeps.withPlace (since kept)
  · next d opener key before place =>
    have kept := keeps.place
    rw [place] at kept
    obtain ⟨opened, inside⟩ := List.forall_mem_cons.mp kept
    exact keeps.withPlace (List.forall_mem_cons.mpr ⟨opened, since inside⟩)
  · exact keeps

/-- A step keeps no spans but those kept before and that of its lexeme, and fails for none other. -/
theorem stays_step (keeps : r.Keeps P) (known : P l.span) : Stays P (r.step l) := by
  have kept := keeps.place
  unfold step
  split
  · exact keeps_skip keeps known
  · split
    · exact stays_stepBetween keeps known
    · split
      · exact stays_begin keeps known
      · exact Fault.marks_unexpected known
    · exact stays_stepStatement keeps known
    · next d opener place here =>
      rw [here] at kept
      obtain ⟨opened, inside⟩ := List.forall_mem_cons.mp kept
      exact stays_stepParameters keeps opened inside known
    · next d opener place here =>
      rw [here] at kept
      obtain ⟨opened, inside⟩ := List.forall_mem_cons.mp kept
      exact stays_stepAttributes keeps opened inside known

theorem stays_steps {ls : List Lexeme} (keeps : r.Keeps P) (known : ∀ l ∈ ls, P l.span) :
    Stays P (r.steps ls) := by
  unfold steps
  induction ls generalizing r with
  | nil => exact keeps
  | cons l ls ih =>
    obtain ⟨first, later⟩ := List.forall_mem_cons.mp known
    have stays := stays_step keeps first
    rw [List.foldlM_cons]
    cases stepped : r.step l with
    | error fault =>
      rw [stepped] at stays
      exact stays
    | ok next =>
      rw [stepped] at stays
      exact ih stays later

/-! ## Ends -/

section

variable {last : Span} {fault : Fault}

theorem marks_of_incomplete (closed : Span.Closed P) {expected : List Expectation}
    {since : Option Span} (kept : ∀ span ∈ since.toList, P span) (known : P last)
    (failed : incomplete expected since last = .error fault) : fault.Marks P := by
  cases failed
  cases since with
  | none => exact Fault.marks_incomplete known
  | some first =>
    exact Fault.marks_incomplete (closed.union (List.forall_mem_singleton.mp kept) known)

theorem marks_of_finishBetween (closed : Span.Closed P) (keeps : r.Keeps P) (known : P last)
    (failed : r.finishBetween last = .error fault) : fault.Marks P := by
  have level := keeps.level
  unfold finishBetween at failed
  split at failed
  · next brace opening =>
    cases failed
    rw [opening] at level
    exact Fault.marks_unclosed (List.forall_mem_singleton.mp level) (closed.stop known)
  · cases failed

theorem marks_of_finish (closed : Span.Closed P) (keeps : r.Keeps P) (known : P last)
    (failed : r.finish last = .error fault) : fault.Marks P := by
  have kept := keeps.place
  unfold finish at failed
  split at failed
  · exact marks_of_finishBetween closed keeps known failed
  · next joined since here =>
    rw [here] at kept
    exact marks_of_incomplete closed kept known failed
  · next d here =>
    exact marks_of_finishBetween closed (keeps_settle d keeps.level keeps.enclosing) known failed
  · next d opener place here =>
    rw [here] at kept
    obtain ⟨opened, inside⟩ := List.forall_mem_cons.mp kept
    cases place with
    | start | afterValue =>
      cases failed
      exact Fault.marks_unclosed opened (closed.stop known)
    | afterComma comma =>
      cases failed
      exact Fault.marks_unexpected (List.forall_mem_singleton.mp inside)
  · next d opener place here =>
    rw [here] at kept
    obtain ⟨opened, inside⟩ := List.forall_mem_cons.mp kept
    cases place with
    | start | afterValue =>
      cases failed
      exact Fault.marks_unclosed opened (closed.stop known)
    | afterKey key since | afterEqual key since =>
      exact marks_of_incomplete closed inside known failed
    | afterComma comma =>
      cases failed
      exact Fault.marks_unexpected (List.forall_mem_singleton.mp inside)

end

end Reading

/-! ## Whole documents -/

theorem Document.lastSpan_of_closed (closed : Span.Closed P) {ls : List Lexeme}
    (known : ∀ l ∈ ls, P l.span) : P (Document.lastSpan ls) := by
  unfold Document.lastSpan
  cases found : ls.reverse.find? fun l => !l.isWhiteSpace with
  | some l => exact known l (List.mem_reverse.mp (List.mem_of_find?_eq_some found))
  | none =>
    cases last : ls.getLast? with
    | some l => exact known l (List.mem_of_getLast? last)
    | none => exact closed.start

/-- What a fault is about is made from spans of lexemes. -/
theorem Fault.marks_of_ofLexemes (closed : Span.Closed P) {ls : List Lexeme} {fault : Fault}
    (known : ∀ l ∈ ls, P l.span) (failed : Document.ofLexemes ls = .error fault) :
    fault.Marks P := by
  have stays := Reading.stays_steps Reading.keeps_start known
  unfold Document.ofLexemes at failed
  rcases Except.bind_eq_error_iff.mp failed with stopped | ⟨r, read, unfinished⟩
  · rw [stopped] at stays
    exact stays
  · rw [read] at stays
    have last := Document.lastSpan_of_closed closed known
    exact Reading.marks_of_finish closed stays last unfinished

end HtmlTemplate
