import HtmlTemplate.Proofs.Outcome
import HtmlTemplate.Reading

/-!
# What a step does

A step either takes its lexeme, in one of the ways that `Reading.Takes` lists, or fails with a fault
that no further lexeme can mend (`Fault.IsDefinite`): it never says that the input ended too early.
What every reading that comes from the start keeps is proved by the cases of `Takes`.

* a step succeeds exactly as `Takes` says (`step_eq_ok_iff`);
* the levels around a place end at the document, and between two statements no chain is open
  (`Reading.Rooted`, kept by every step).
-/

set_option autoImplicit false

namespace HtmlTemplate

/-- The input is wrong whatever comes behind it. -/
def Fault.IsDefinite (fault : Fault) : Prop :=
  fault.diagnostic.code = some .unexpectedToken ∨ fault.diagnostic.code = some .invalidName ∨
    fault.diagnostic.code = some .nestingTooDeep

namespace Fault

variable {expected : List Expectation} {span : Span}

theorem isDefinite_unexpected (found : Lexeme) : (unexpected found expected).IsDefinite :=
  Or.inl rfl

theorem isDefinite_invalidName (reason : ShorthandError) : (invalidName reason span).IsDefinite :=
  Or.inr (Or.inl rfl)

theorem isDefinite_tooDeep : (tooDeep span).IsDefinite :=
  Or.inr (Or.inr rfl)

theorem not_isDefinite_incomplete : ¬(incomplete expected span).IsDefinite := by
  simp [IsDefinite, diagnostic]

theorem not_isDefinite_unclosed (delimiter : Delimiter) (stop : Nat) :
    ¬(unclosed delimiter span stop).IsDefinite := by
  simp [IsDefinite, diagnostic]

end Fault

namespace Lexeme

variable {l : Lexeme}

theorem isWhiteSpace_of_token {token : Token} (visible : token.isWhiteSpace = false)
    (same : l.token = token) : l.isWhiteSpace = false := by
  rw [isWhiteSpace, same, visible]

theorem isWhiteSpace_of_parameter {parameter : Parameter}
    (token : Parameter.ofToken? l.token = some parameter) : l.isWhiteSpace = false := by
  unfold isWhiteSpace
  cases same : l.token with
  | whiteSpace text =>
    rw [same] at token
    cases token
  | _ => rfl

end Lexeme

/-- A statement may begin at the place. -/
def Place.Awaits : Place → Prop
  | .between | .awaiting _ _ => True
  | _ => False

/-- A statement that begins at the place follows a `+`. -/
def Place.joins : Place → Bool
  | .awaiting joined _ => joined
  | _ => false

namespace Reading

/-! ## The statement under way -/

/-- The reading once the statement under way is over, if there is one. -/
def settled (r : Reading) : Reading :=
  match r.place with
  | .statement d => settle r.level d r.enclosing
  | _ => r

theorem settle_place (d : Draft) (enclosing : List Enclosing) (level : Level) :
    (settle level d enclosing).place = .between := by
  induction enclosing generalizing level d with
  | nil => rfl
  | cons e rest ih =>
    unfold settle
    split
    · exact ih _ e.level
    · rfl

theorem finish_settled (r : Reading) (last : Span) : r.settled.finish last = r.finish last := by
  obtain ⟨enclosing, level, place⟩ := r
  cases place with
  | statement d =>
    have between := settle_place d enclosing level
    simp only [settled, finish, between]
  | _ => rfl

/-! ## Steps that succeed -/

/-- The reading takes the lexeme and comes to another reading: one case for each kind of lexeme and
the places at which it may stand. -/
inductive Takes (l : Lexeme) : Reading → Reading → Prop
  | blank {r : Reading} (white : l.isWhiteSpace = true) : Takes l r (r.skip l.span)
  | name {r : Reading} {text : String} {shorthand : Shorthand}
      (token : l.token = .identifier text) (expands : Shorthand.expand text = .ok shorthand)
      (awaits : r.settled.place.Awaits) :
      Takes l r { r.settled with
        place := .statement
          ⟨shorthand.tag, [], shorthand.attributes, [], .name, r.settled.place.joins⟩ }
  | closeBrace {r : Reading} {e : Enclosing} {rest : List Enclosing} {level : Level} {brace : Span}
      (token : l.token = .mark .closeBrace) (settled : r.settled = ⟨e :: rest, level, .between⟩)
      (block : level.opening = .block brace) :
      Takes l r ⟨rest, e.level, .statement (e.owner.adopt level.finished)⟩
  | openParen {enclosing : List Enclosing} {level : Level} {d : Draft}
      (token : l.token = .mark .openParen) (part : d.part = .name) :
      Takes l ⟨enclosing, level, .statement d⟩ ⟨enclosing, level, .parameters d l.span .start⟩
  | openBracket {enclosing : List Enclosing} {level : Level} {d : Draft}
      (token : l.token = .mark .openBracket) (part : d.part = .name ∨ d.part = .parameters) :
      Takes l ⟨enclosing, level, .statement d⟩ ⟨enclosing, level, .attributes d l.span .start⟩
  | openBrace {enclosing : List Enclosing} {level : Level} {d : Draft}
      (token : l.token = .mark .openBrace) (part : d.part ≠ .children)
      (shallow : enclosing.length < maxNesting) :
      Takes l ⟨enclosing, level, .statement d⟩
        ⟨⟨level, d⟩ :: enclosing, ⟨.block l.span, []⟩, .between⟩
  | greaterThan {enclosing : List Enclosing} {level : Level} {d : Draft}
      (token : l.token = .mark .greaterThan) (part : d.part ≠ .children)
      (shallow : enclosing.length < maxNesting) :
      Takes l ⟨enclosing, level, .statement d⟩
        ⟨⟨level, d⟩ :: enclosing, ⟨.chain, []⟩, .awaiting false none⟩
  | plus {enclosing : List Enclosing} {level : Level} {d : Draft}
      (token : l.token = .mark .plus) :
      Takes l ⟨enclosing, level, .statement d⟩
        ⟨enclosing, { level with finished := d.node :: level.finished }, .awaiting true none⟩
  | parameter {enclosing : List Enclosing} {level : Level} {d : Draft} {opener : Span}
      {place : ParameterPlace} {parameter : Parameter}
      (token : Parameter.ofToken? l.token = some parameter) (other : place ≠ .afterValue) :
      Takes l ⟨enclosing, level, .parameters d opener place⟩
        ⟨enclosing, level, .parameters (d.addParameter parameter) opener .afterValue⟩
  | parameterComma {enclosing : List Enclosing} {level : Level} {d : Draft} {opener : Span}
      (token : l.token = .mark .comma) :
      Takes l ⟨enclosing, level, .parameters d opener .afterValue⟩
        ⟨enclosing, level, .parameters d opener (.afterComma l)⟩
  | closeParen {enclosing : List Enclosing} {level : Level} {d : Draft} {opener : Span}
      {place : ParameterPlace} (token : l.token = .mark .closeParen)
      (ends : place = .start ∨ place = .afterValue) :
      Takes l ⟨enclosing, level, .parameters d opener place⟩
        ⟨enclosing, level, .statement { d with part := .parameters }⟩
  | key {enclosing : List Enclosing} {level : Level} {d : Draft} {opener : Span}
      {place : AttributePlace} {key : String} (token : l.token = .identifier key)
      (awaits : place = .start ∨ ∃ comma, place = .afterComma comma) :
      Takes l ⟨enclosing, level, .attributes d opener place⟩
        ⟨enclosing, level, .attributes d opener (.afterKey key none)⟩
  | equal {enclosing : List Enclosing} {level : Level} {d : Draft} {opener : Span} {key : String}
      {since : Option Span} (token : l.token = .mark .equal) :
      Takes l ⟨enclosing, level, .attributes d opener (.afterKey key since)⟩
        ⟨enclosing, level, .attributes d opener (.afterEqual key (since.or (some l.span)))⟩
  | value {enclosing : List Enclosing} {level : Level} {d : Draft} {opener : Span} {key : String}
      {since : Option Span} {value : Parameter}
      (token : Parameter.ofToken? l.token = some value) :
      Takes l ⟨enclosing, level, .attributes d opener (.afterEqual key since)⟩
        ⟨enclosing, level,
          .attributes (d.addAttribute ⟨key, value.kind, value.text⟩) opener .afterValue⟩
  | attributeComma {enclosing : List Enclosing} {level : Level} {d : Draft} {opener : Span}
      (token : l.token = .mark .comma) :
      Takes l ⟨enclosing, level, .attributes d opener .afterValue⟩
        ⟨enclosing, level, .attributes d opener (.afterComma l)⟩
  | closeBracket {enclosing : List Enclosing} {level : Level} {d : Draft} {opener : Span}
      {place : AttributePlace} (token : l.token = .mark .closeBracket)
      (ends : place = .start ∨ place = .afterValue) :
      Takes l ⟨enclosing, level, .attributes d opener place⟩
        ⟨enclosing, level, .statement { d with part := .attributes }⟩

/-- What a step may come to: what it takes its lexeme to, or a fault that no lexeme mends. -/
def StepsTo (l : Lexeme) (r : Reading) : Except Fault Reading → Prop
  | .ok next => Takes l r next
  | .error fault => fault.IsDefinite

variable {r next : Reading} {l : Lexeme} {d : Draft} {enclosing : List Enclosing} {level : Level}

theorem stepsTo_begin {text : String} {joined : Bool} (token : l.token = .identifier text)
    (awaits : r.settled.place.Awaits) (joins : r.settled.place.joins = joined) :
    StepsTo l r (r.settled.begin text l.span joined) := by
  subst joins
  unfold begin
  cases expands : Shorthand.expand text with
  | ok shorthand => exact .name token expands awaits
  | error reason => exact Fault.isDefinite_invalidName reason

theorem stepsTo_descend {opening : Opening} {place : Place} {opener : Span}
    (takes : r.enclosing.length < maxNesting →
      Takes l r ⟨⟨r.level, d⟩ :: r.enclosing, ⟨opening, []⟩, place⟩) :
    StepsTo l r (r.descend d opening place opener) := by
  unfold descend
  split
  · exact Fault.isDefinite_tooDeep
  · next shallow => exact takes (Nat.lt_of_not_le shallow)

theorem stepsTo_stepBetween (between : r.settled.place = .between) :
    StepsTo l r (r.settled.stepBetween l) := by
  unfold stepBetween
  split
  · next text token =>
    exact stepsTo_begin token (by rw [between]; trivial) (by rw [between]; rfl)
  · next brace e rest token block enclosing =>
    have settled : r.settled = ⟨e :: rest, r.settled.level, .between⟩ := by
      rw [← enclosing, ← between]
    exact .closeBrace token settled block
  · exact Fault.isDefinite_unexpected l

theorem stepsTo_stepStatement :
    StepsTo l ⟨enclosing, level, .statement d⟩
      (stepStatement ⟨enclosing, level, .statement d⟩ d l) := by
  have ended : StepsTo l ⟨enclosing, level, .statement d⟩
      ((settle level d enclosing).stepBetween l) :=
    stepsTo_stepBetween (settle_place d enclosing level)
  unfold stepStatement
  cases token : l.token with
  | mark mark =>
    cases mark with
    | openParen =>
      cases part : d.part with
      | name => exact .openParen token part
      | _ => exact ended
    | openBracket =>
      cases part : d.part with
      | name => exact .openBracket token (Or.inl part)
      | parameters => exact .openBracket token (Or.inr part)
      | _ => exact ended
    | openBrace =>
      cases part : d.part with
      | children => exact ended
      | _ => exact stepsTo_descend (.openBrace token (by simp [part]))
    | greaterThan =>
      cases part : d.part with
      | children => exact ended
      | _ => exact stepsTo_descend (.greaterThan token (by simp [part]))
    | plus => exact .plus token
    | _ => exact ended
  | _ => exact ended

theorem stepsTo_stepParameters {opener : Span} {place : ParameterPlace} :
    StepsTo l ⟨enclosing, level, .parameters d opener place⟩
      (stepParameters ⟨enclosing, level, .parameters d opener place⟩ d opener place l) := by
  unfold stepParameters
  cases place with
  | start =>
    dsimp only
    cases token : Parameter.ofToken? l.token with
    | some parameter => exact .parameter token (by simp)
    | none =>
      dsimp only
      split
      · next closer => exact .closeParen closer (Or.inl rfl)
      · exact Fault.isDefinite_unexpected l
  | afterValue =>
    dsimp only
    split
    · next token => exact .parameterComma token
    · split
      · next closer => exact .closeParen closer (Or.inr rfl)
      · exact Fault.isDefinite_unexpected l
  | afterComma comma =>
    dsimp only
    cases token : Parameter.ofToken? l.token with
    | some parameter => exact .parameter token (by simp)
    | none => exact Fault.isDefinite_unexpected comma

theorem stepsTo_stepAttributes {opener : Span} {place : AttributePlace} :
    StepsTo l ⟨enclosing, level, .attributes d opener place⟩
      (stepAttributes ⟨enclosing, level, .attributes d opener place⟩ d opener place l) := by
  unfold stepAttributes
  cases place with
  | start =>
    dsimp only
    split
    · next key token => exact .key token (Or.inl rfl)
    · next token => exact .closeBracket token (Or.inl rfl)
    · exact Fault.isDefinite_unexpected l
  | afterKey key since =>
    dsimp only
    split
    · next token => exact .equal token
    · exact Fault.isDefinite_unexpected l
  | afterEqual key since =>
    dsimp only
    cases token : Parameter.ofToken? l.token with
    | some value => exact .value token
    | none => exact Fault.isDefinite_unexpected l
  | afterValue =>
    dsimp only
    split
    · next token => exact .attributeComma token
    · split
      · next closer => exact .closeBracket closer (Or.inr rfl)
      · exact Fault.isDefinite_unexpected l
  | afterComma comma =>
    dsimp only
    split
    · next key token => exact .key token (Or.inr ⟨comma, rfl⟩)
    · exact Fault.isDefinite_unexpected comma

theorem stepsTo_step (r : Reading) (l : Lexeme) : StepsTo l r (r.step l) := by
  obtain ⟨enclosing, level, place⟩ := r
  unfold step
  split
  · next white => exact .blank white
  · cases place with
    | between => exact stepsTo_stepBetween rfl
    | awaiting joined since =>
      dsimp only
      split
      · next text token => exact stepsTo_begin token trivial rfl
      · exact Fault.isDefinite_unexpected l
    | statement d => exact stepsTo_stepStatement
    | parameters d opener place => exact stepsTo_stepParameters
    | attributes d opener place => exact stepsTo_stepAttributes

theorem takes_of_step (stepped : r.step l = .ok next) : Takes l r next := by
  have steps := stepsTo_step r l
  rw [stepped] at steps
  exact steps

/-- A step fails for good: what comes behind the lexeme does not matter. -/
theorem isDefinite_of_step {fault : Fault} (failed : r.step l = .error fault) :
    fault.IsDefinite := by
  have steps := stepsTo_step r l
  rw [failed] at steps
  exact steps

/-! ## Steps are what is taken -/

theorem step_of_takes (takes : Takes l r next) : r.step l = .ok next := by
  cases takes with
  | blank white => exact if_pos white
  | @name _ text shorthand token expands awaits =>
    have visible := Lexeme.isWhiteSpace_of_token rfl token
    obtain ⟨enclosing, level, place⟩ := r
    cases place with
    | between => simp [step, visible, settled, Place.joins, stepBetween, token, begin, expands]
    | awaiting joined since => simp [step, visible, settled, Place.joins, token, begin, expands]
    | statement d =>
      have place := settle_place d enclosing level
      simp [step, visible, stepStatement, settled, Place.joins, stepBetween, token, begin, expands,
        place]
    | _ => exact awaits.elim
  | closeBrace token between block =>
    have visible := Lexeme.isWhiteSpace_of_token rfl token
    obtain ⟨enclosing, level, place⟩ := r
    cases place with
    | between => simp_all [step, settled, stepBetween]
    | statement d => simp_all [step, settled, stepStatement, stepBetween]
    | _ => simp [settled] at between
  | openParen token part =>
    simp [step, Lexeme.isWhiteSpace_of_token rfl token, stepStatement, token, part]
  | openBracket token part =>
    rcases part with part | part <;>
      simp [step, Lexeme.isWhiteSpace_of_token rfl token, stepStatement, token, part]
  | @openBrace _ _ d token part shallow =>
    have deep : ¬maxNesting ≤ _ := Nat.not_le.mpr shallow
    cases place : d.part <;>
      simp_all [step, Lexeme.isWhiteSpace_of_token rfl token, stepStatement, descend]
  | @greaterThan _ _ d token part shallow =>
    have deep : ¬maxNesting ≤ _ := Nat.not_le.mpr shallow
    cases place : d.part <;>
      simp_all [step, Lexeme.isWhiteSpace_of_token rfl token, stepStatement, descend]
  | plus token => simp [step, Lexeme.isWhiteSpace_of_token rfl token, stepStatement, token]
  | @parameter _ _ _ _ place _ token other =>
    cases place with
    | afterValue => exact (other rfl).elim
    | _ => simp [step, Lexeme.isWhiteSpace_of_parameter token, stepParameters, token]
  | parameterComma token =>
    simp [step, Lexeme.isWhiteSpace_of_token rfl token, stepParameters, token]
  | closeParen token ends =>
    rcases ends with rfl | rfl <;>
      simp [step, Lexeme.isWhiteSpace_of_token rfl token, stepParameters, token, Parameter.ofToken?]
  | key token awaits =>
    rcases awaits with rfl | ⟨comma, rfl⟩ <;>
      simp [step, Lexeme.isWhiteSpace_of_token rfl token, stepAttributes, token]
  | equal token => simp [step, Lexeme.isWhiteSpace_of_token rfl token, stepAttributes, token]
  | value token => simp [step, Lexeme.isWhiteSpace_of_parameter token, stepAttributes, token]
  | attributeComma token =>
    simp [step, Lexeme.isWhiteSpace_of_token rfl token, stepAttributes, token]
  | closeBracket token ends =>
    rcases ends with rfl | rfl <;>
      simp [step, Lexeme.isWhiteSpace_of_token rfl token, stepAttributes, token]

theorem step_eq_ok_iff : r.step l = .ok next ↔ Takes l r next :=
  ⟨takes_of_step, step_of_takes⟩

/-! ## Runs -/

theorem steps_append (r : Reading) (ls more : List Lexeme) :
    r.steps (ls ++ more) = r.steps ls >>= fun next => next.steps more :=
  List.foldlM_append

theorem steps_append_singleton {ls : List Lexeme} (ran : r.steps ls = .ok next) (l : Lexeme) :
    r.steps (ls ++ [l]) = next.step l := by
  rw [steps_append, ran]
  exact bind_pure (next.step l)

theorem isDefinite_of_steps {ls : List Lexeme} {fault : Fault}
    (failed : r.steps ls = .error fault) : fault.IsDefinite := by
  obtain ⟨l, -, before, stopped⟩ := Except.exists_of_foldlM_eq_error failed
  exact isDefinite_of_step stopped

/-- What every step keeps holds behind a run if it holds before it. -/
theorem steps_induction {P : Reading → Prop} {ls : List Lexeme}
    (kept : ∀ {r next : Reading} {l : Lexeme}, Takes l r next → P r → P next)
    (ran : r.steps ls = .ok next) (first : P r) : P next := by
  unfold steps at ran
  induction ls generalizing r with
  | nil =>
    cases ran
    exact first
  | cons l ls ih =>
    obtain ⟨second, stepped, later⟩ := Except.bind_eq_ok_iff.mp ran
    exact ih later (kept (takes_of_step stepped) first)

/-! ## Levels end at the document -/

/-- The levels around one opened in this way end at the document, which is around all of them. -/
def Rooted (opening : Opening) : List Enclosing → Prop
  | [] => opening = .document
  | e :: rest => opening ≠ .document ∧ Rooted e.level.opening rest

/-- What holds of every reading that comes from the start. -/
structure Standing (r : Reading) : Prop where
  rooted : Rooted r.level.opening r.enclosing
  between : r.place = .between → r.level.opening ≠ .chain

theorem standing_start : start.Standing :=
  ⟨rfl, fun _ => by simp [start]⟩

theorem skip_enclosing (r : Reading) (span : Span) : (r.skip span).enclosing = r.enclosing := by
  unfold skip
  split <;> rfl

theorem skip_level (r : Reading) (span : Span) : (r.skip span).level = r.level := by
  unfold skip
  split <;> rfl

theorem standing_settle (d : Draft) {enclosing : List Enclosing} {level : Level}
    (rooted : Rooted level.opening enclosing) : (settle level d enclosing).Standing := by
  induction enclosing generalizing level d with
  | nil =>
    have document : level.opening = .document := rooted
    exact ⟨rooted, fun _ => by simp [settle, document]⟩
  | cons e rest ih =>
    rw [settle]
    split
    · exact ih _ rooted.2
    · next other => exact ⟨rooted, fun _ => other⟩

theorem Standing.settled (standing : r.Standing) : r.settled.Standing := by
  unfold Reading.settled
  split
  · exact standing_settle _ standing.rooted
  · exact standing

theorem Takes.standing (takes : Takes l r next) (standing : r.Standing) : next.Standing := by
  have rooted := standing.rooted
  cases takes with
  | blank white =>
    refine ⟨by rw [skip_level, skip_enclosing]; exact rooted, ?_⟩
    rw [skip_level]
    intro between
    apply standing.between
    unfold skip at between
    split at between
    · cases between
    · cases between
    · exact between
  | name token expands awaits => exact ⟨standing.settled.rooted, fun between => by cases between⟩
  | closeBrace token between block =>
    have around := standing.settled.rooted
    rw [between] at around
    exact ⟨around.2, fun between => by cases between⟩
  | openBrace token part shallow => exact ⟨⟨by simp, rooted⟩, fun _ => by simp⟩
  | greaterThan token part shallow =>
    exact ⟨⟨by simp, rooted⟩, fun between => by cases between⟩
  | _ => exact ⟨rooted, fun between => by cases between⟩

theorem standing_of_steps {ls : List Lexeme} (ran : start.steps ls = .ok r) : r.Standing :=
  steps_induction Takes.standing ran standing_start

end Reading

/-! ## Documents of runs -/

namespace Document

variable {ls : List Lexeme}

theorem ofLexemes_of_steps {r : Reading} (ran : Reading.start.steps ls = .ok r) :
    ofLexemes ls = r.finish (lastSpan ls) := by
  rw [ofLexemes, ran]
  rfl

theorem ofLexemes_append_of_steps {fault : Fault}
    (stopped : Reading.start.steps ls = .error fault) (more : List Lexeme) :
    ofLexemes (ls ++ more) = .error fault := by
  rw [ofLexemes, Reading.steps_append, stopped]
  rfl

end Document

end HtmlTemplate
