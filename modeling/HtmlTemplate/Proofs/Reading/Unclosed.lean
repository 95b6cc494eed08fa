import HtmlTemplate.Proofs.Reading.Steps
import Mathlib.Data.List.Induction

/-!
# Delimiters that are left open

A reading knows the openers that have no closer yet: the parenthesis or bracket that it is in and
the braces of the blocks around it (`Reading.openers`). A step puts an opener in front of them,
takes the newest away with its closer or leaves them alone (`Takes.turns`), so they are the openers
of the lexemes without a matching closer (`unmatched_of_steps`). Where a closer may come, a reading
ends with a document if there are none, and else the newest of them is reported
(`endsOpen_of_pauses`); closers for all of them lead to a document (`exists_finish_of_closersOf`).

* a delimiter is reported as unclosed exactly if closers behind the lexemes make them a document
  (`unclosed_iff_closers`).
-/

set_option autoImplicit false

namespace HtmlTemplate

/-! ## Balanced lexemes -/

namespace Lexeme

def Opens (l : Lexeme) (d : Delimiter) : Prop :=
  l.token = .mark d.opener

def Closes (l : Lexeme) (d : Delimiter) : Prop :=
  l.token = .mark d.closer

/-- The lexeme is no delimiter. -/
def IsPlain (l : Lexeme) : Prop :=
  ∀ d, ¬l.Opens d ∧ ¬l.Closes d

variable {l : Lexeme} {d d' : Delimiter}

theorem Opens.not_closes (opens : l.Opens d) : ¬l.Closes d' := by
  intro closes
  have same : Token.mark d.opener = .mark d'.closer := opens.symm.trans closes
  cases d <;> cases d' <;> cases same

theorem isPlain_of_not_mark (other : ∀ mark, l.token ≠ .mark mark) : l.IsPlain :=
  fun _ => ⟨other _, other _⟩

theorem isPlain_of_mark {mark : Mark} (token : l.token = .mark mark)
    (other : ∀ d : Delimiter, mark ≠ d.opener ∧ mark ≠ d.closer) : l.IsPlain := by
  intro d
  simp only [Opens, Closes, token, Token.mark.injEq]
  exact other d

theorem isPlain_of_parameter {parameter : Parameter}
    (token : Parameter.ofToken? l.token = some parameter) : l.IsPlain := by
  apply isPlain_of_not_mark
  intro mark same
  rw [same] at token
  cases token

end Lexeme

/-- Every opener among the lexemes has a matching closer, and every closer an opener. -/
inductive Balanced : List Lexeme → Prop
  | nil : Balanced []
  | plain {l : Lexeme} {rest : List Lexeme} (neither : l.IsPlain) (behind : Balanced rest) :
      Balanced (l :: rest)
  | group {d : Delimiter} {opener closer : Lexeme} {inside rest : List Lexeme}
      (opens : opener.Opens d) (within : Balanced inside) (closes : closer.Closes d)
      (behind : Balanced rest) : Balanced (opener :: (inside ++ closer :: rest))

theorem Balanced.append {ls more : List Lexeme} (first : Balanced ls) (second : Balanced more) :
    Balanced (ls ++ more) := by
  induction first with
  | nil => exact second
  | plain neither _ ih => exact .plain neither ih
  | group opens within closes _ _ ih =>
    rw [List.cons_append, List.append_assoc, List.cons_append]
    exact .group opens within closes ih

/-- The openers without a matching closer, newest first, each with its span. What stands behind the
newest is balanced. -/
inductive Unmatched : List Lexeme → List (Delimiter × Span) → Prop
  | nil {ls : List Lexeme} (balanced : Balanced ls) : Unmatched ls []
  | cons {d : Delimiter} {before behind : List Lexeme} {opener : Lexeme}
      {more : List (Delimiter × Span)} (older : Unmatched before more) (opens : opener.Opens d)
      (balanced : Balanced behind) :
      Unmatched (before ++ opener :: behind) ((d, opener.span) :: more)

namespace Unmatched

variable {ls more : List Lexeme} {l : Lexeme} {d : Delimiter} {opener : Span}
  {openers : List (Delimiter × Span)}

theorem append (unmatched : Unmatched ls openers) (balanced : Balanced more) :
    Unmatched (ls ++ more) openers := by
  cases unmatched with
  | nil before => exact .nil (before.append balanced)
  | cons older opens behind =>
    rw [List.append_assoc, List.cons_append]
    exact .cons older opens (behind.append balanced)

/-- A closer and its opener, with what stands between them, are balanced. -/
theorem close (unmatched : Unmatched ls ((d, opener) :: openers)) (closes : l.Closes d) :
    Unmatched (ls ++ [l]) openers := by
  cases unmatched with
  | cons older opens balanced =>
    rw [List.append_assoc, List.cons_append]
    exact older.append (.group opens balanced closes .nil)

end Unmatched

/-! ## The openers that a reading knows -/

def Opening.openers : Opening → List (Delimiter × Span)
  | .block brace => [(.brace, brace)]
  | .document | .chain => []

def Place.openers : Place → List (Delimiter × Span)
  | .parameters _ opener _ => [(.paren, opener)]
  | .attributes _ opener _ => [(.bracket, opener)]
  | .between | .awaiting _ _ | .statement _ => []

theorem Place.openers_of_awaits {place : Place} (awaits : place.Awaits) : place.openers = [] := by
  cases place with
  | between => rfl
  | awaiting joined since => rfl
  | _ => exact awaits.elim

/-- A closer may come at the place, if there is an opener for it. -/
def Place.Pauses : Place → Prop
  | .between | .statement _ => True
  | .parameters _ _ place => place = .start ∨ place = .afterValue
  | .attributes _ _ place => place = .start ∨ place = .afterValue
  | .awaiting _ _ => False

/-- The comma of a list behind which an item has to come. -/
def Place.comma? : Place → Option Lexeme
  | .parameters _ _ (.afterComma comma) => some comma
  | .attributes _ _ (.afterComma comma) => some comma
  | _ => none

namespace Reading

variable {r next : Reading} {l : Lexeme} {d : Delimiter} {opener : Span}

/-- The openers of the levels around a place, from the innermost outwards. -/
def levelOpeners (opening : Opening) (enclosing : List Enclosing) : List (Delimiter × Span) :=
  opening.openers ++ enclosing.flatMap fun e => e.level.opening.openers

/-- The openers without a closer, newest first. -/
def openers (r : Reading) : List (Delimiter × Span) :=
  r.place.openers ++ levelOpeners r.level.opening r.enclosing

theorem levelOpeners_cons (opening : Opening) (e : Enclosing) (rest : List Enclosing) :
    levelOpeners opening (e :: rest) =
      opening.openers ++ levelOpeners e.level.opening rest := by
  simp [levelOpeners]

/-- The chains that end with a statement have no openers. -/
theorem openers_settle (draft : Draft) (enclosing : List Enclosing) (level : Level) :
    (settle level draft enclosing).openers = levelOpeners level.opening enclosing := by
  induction enclosing generalizing level draft with
  | nil => simp [settle, openers, Place.openers]
  | cons e rest ih =>
    rw [settle]
    split
    · next chain => rw [ih, levelOpeners_cons, chain, Opening.openers, List.nil_append]
    · simp [openers, Place.openers]

theorem openers_settled (r : Reading) : r.settled.openers = r.openers := by
  obtain ⟨enclosing, level, place⟩ := r
  cases place with
  | statement draft =>
    rw [settled, openers_settle]
    simp [openers, Place.openers]
  | _ => rfl

theorem openers_skip (r : Reading) (span : Span) : (r.skip span).openers = r.openers := by
  obtain ⟨enclosing, level, place⟩ := r
  rcases place with _ | _ | _ | _ | ⟨_, _, _ | _ | _ | _ | _⟩ <;> rfl

theorem pauses_of_settled (between : r.settled.place = .between) : r.place.Pauses := by
  obtain ⟨enclosing, level, place⟩ := r
  cases place with
  | between => trivial
  | statement draft => trivial
  | _ => cases between

/-- What a lexeme does to the openers: it goes in front of them, takes the newest away where a
closer may come, or changes nothing about them. -/
inductive Turns (l : Lexeme) (r next : Reading) : Prop
  | opens (d : Delimiter) (opens : l.Opens d) (openers : next.openers = (d, l.span) :: r.openers)
  | closes (d : Delimiter) (opener : Span) (closes : l.Closes d) (pauses : r.place.Pauses)
      (openers : r.openers = (d, opener) :: next.openers)
  | plain (plain : l.IsPlain) (openers : next.openers = r.openers)

theorem Takes.turns (takes : Takes l r next) : Turns l r next := by
  cases takes with
  | blank white =>
    refine .plain (Lexeme.isPlain_of_not_mark ?_) (openers_skip r l.span)
    intro mark token
    simp [Lexeme.isWhiteSpace, token, Token.isWhiteSpace] at white
  | name token expands awaits =>
    refine .plain (Lexeme.isPlain_of_not_mark (by simp [token])) ?_
    rw [← openers_settled r, openers, openers, Place.openers_of_awaits awaits]
    rfl
  | @closeBrace _ e rest level brace token between block =>
    refine .closes .brace brace token (pauses_of_settled (by rw [between])) ?_
    rw [← openers_settled r, between]
    simp [openers, Place.openers, levelOpeners_cons, block, Opening.openers]
  | openParen token part => exact .opens .paren token rfl
  | openBracket token part => exact .opens .bracket token rfl
  | openBrace token part shallow =>
    refine .opens .brace token ?_
    simp [openers, Place.openers, levelOpeners_cons, Opening.openers]
  | greaterThan token part shallow =>
    refine .plain (Lexeme.isPlain_of_mark token (by intro d; cases d <;> decide)) ?_
    simp [openers, Place.openers, levelOpeners_cons, Opening.openers]
  | plus token => exact .plain (Lexeme.isPlain_of_mark token (by intro d; cases d <;> decide)) rfl
  | parameter token other => exact .plain (Lexeme.isPlain_of_parameter token) rfl
  | parameterComma token =>
    exact .plain (Lexeme.isPlain_of_mark token (by intro d; cases d <;> decide)) rfl
  | closeParen token ends => exact .closes .paren _ token ends rfl
  | key token awaits => exact .plain (Lexeme.isPlain_of_not_mark (by simp [token])) rfl
  | equal token => exact .plain (Lexeme.isPlain_of_mark token (by intro d; cases d <;> decide)) rfl
  | value token => exact .plain (Lexeme.isPlain_of_parameter token) rfl
  | attributeComma token =>
    exact .plain (Lexeme.isPlain_of_mark token (by intro d; cases d <;> decide)) rfl
  | closeBracket token ends => exact .closes .bracket _ token ends rfl

theorem unmatched_of_steps {ls : List Lexeme} (ran : start.steps ls = .ok r) :
    Unmatched ls r.openers := by
  induction ls using List.reverseRecOn generalizing r with
  | nil =>
    cases ran
    exact .nil .nil
  | append_singleton ls l ih =>
    rw [steps_append] at ran
    obtain ⟨before, ran, stepped⟩ := Except.bind_eq_ok_iff.mp ran
    obtain ⟨next, stepped, same⟩ := Except.bind_eq_ok_iff.mp stepped
    cases same
    have unmatched := ih ran
    cases (takes_of_step stepped).turns with
    | opens d opens openers =>
      rw [openers]
      exact .cons unmatched opens .nil
    | closes d opener closes pauses openers =>
      rw [openers] at unmatched
      exact unmatched.close closes
    | plain plain openers =>
      rw [openers]
      exact unmatched.append (.plain plain .nil)

/-! ## Where closers may come -/

/-- Between two statements the newest opener is the brace of the innermost block, if there is
one. -/
theorem openers_between (standing : r.Standing) (between : r.place = .between) :
    r.level.opening = .document ∧ r.openers = [] ∨
      ∃ brace e rest, r.level.opening = .block brace ∧ r.enclosing = e :: rest ∧
        r.openers = (.brace, brace) :: levelOpeners e.level.opening rest := by
  have rooted := standing.rooted
  have other := standing.between between
  obtain ⟨enclosing, ⟨opening, finished⟩, place⟩ := r
  obtain rfl : place = .between := between
  cases opening with
  | chain => exact (other rfl).elim
  | document =>
    cases enclosing with
    | nil => exact Or.inl ⟨rfl, rfl⟩
    | cons e rest => exact (rooted.1 rfl).elim
  | block brace =>
    cases enclosing with
    | nil => cases rooted
    | cons e rest =>
      refine Or.inr ⟨brace, e, rest, rfl, rfl, ?_⟩
      simp [openers, Place.openers, levelOpeners_cons, Opening.openers]

/-- A reading ends with a document, or with the newest of the openers that are left. -/
def EndsOpen (r : Reading) : Prop :=
  (r.openers = [] ∧ ∃ document, ∀ last, r.finish last = .ok document) ∨
    ∃ d opener rest, r.openers = (d, opener) :: rest ∧
      ∀ last, r.finish last = .error (.unclosed d opener last.stop)

theorem endsOpen_of_between (standing : r.Standing) (between : r.settled.place = .between) :
    r.EndsOpen := by
  have ends : ∀ last, r.finish last = r.settled.finishBetween last := by
    intro last
    rw [← finish_settled, finish, between]
  unfold EndsOpen
  rw [← openers_settled r]
  rcases openers_between standing.settled between with
    ⟨document, none⟩ | ⟨brace, e, rest, block, -, some⟩
  · refine Or.inl ⟨none, ⟨r.settled.level.finished.reverse⟩, fun last => ?_⟩
    rw [ends, finishBetween, document]
  · refine Or.inr ⟨_, _, _, some, fun last => ?_⟩
    rw [ends, finishBetween, block]

theorem endsOpen_of_pauses (standing : r.Standing) (pauses : r.place.Pauses) : r.EndsOpen := by
  obtain ⟨enclosing, level, place⟩ := r
  cases place with
  | between => exact endsOpen_of_between standing rfl
  | statement draft => exact endsOpen_of_between standing (settle_place draft enclosing level)
  | awaiting joined since => exact pauses.elim
  | parameters draft opener place =>
    rcases pauses with rfl | rfl <;> exact Or.inr ⟨_, _, _, rfl, fun last => rfl⟩
  | attributes draft opener place =>
    rcases pauses with rfl | rfl <;> exact Or.inr ⟨_, _, _, rfl, fun last => rfl⟩

/-- The closer of the newest opener is taken where closers may come, and more of them may follow. -/
theorem exists_takes_closer {rest : List (Delimiter × Span)} (standing : r.Standing)
    (pauses : r.place.Pauses) (opened : r.openers = (d, opener) :: rest) (closes : l.Closes d) :
    ∃ next, Takes l r next ∧ next.openers = rest ∧ next.place.Pauses := by
  have block : r.settled.place = .between →
      ∃ next, Takes l r next ∧ next.openers = rest ∧ next.place.Pauses := by
    intro between
    rw [← openers_settled r] at opened
    rcases openers_between standing.settled between with
      ⟨-, none⟩ | ⟨brace, e, outer, block, enclosing, some⟩
    · cases none.symm.trans opened
    · cases some.symm.trans opened
      have settled : r.settled = ⟨e :: outer, r.settled.level, .between⟩ := by
        rw [← enclosing, ← between]
      exact ⟨_, .closeBrace closes settled block, rfl, trivial⟩
  obtain ⟨enclosing, level, place⟩ := r
  cases place with
  | between => exact block rfl
  | statement draft => exact block (settle_place draft enclosing level)
  | awaiting joined since => exact pauses.elim
  | parameters draft paren place =>
    cases opened
    exact ⟨_, .closeParen closes pauses, rfl, trivial⟩
  | attributes draft bracket place =>
    cases opened
    exact ⟨_, .closeBracket closes pauses, rfl, trivial⟩

/-- The closers of openers, in order. -/
def closersOf (openers : List (Delimiter × Span)) : List Lexeme :=
  openers.map fun opener => ⟨.mark opener.1.closer, default⟩

/-- Closers for all openers that are left, the newest first, lead to a document. -/
theorem exists_finish_of_closersOf (standing : r.Standing) (pauses : r.place.Pauses) :
    ∃ next document, r.steps (closersOf r.openers) = .ok next ∧
      ∀ last, next.finish last = .ok document := by
  induction opened : r.openers generalizing r with
  | nil =>
    rcases endsOpen_of_pauses standing pauses with ⟨-, document, ends⟩ | ⟨_, _, _, some, -⟩
    · exact ⟨r, document, rfl, ends⟩
    · cases opened.symm.trans some
  | cons newest rest ih =>
    obtain ⟨d, span⟩ := newest
    have closes : (⟨.mark d.closer, default⟩ : Lexeme).Closes d := rfl
    obtain ⟨next, takes, left, pauses'⟩ := exists_takes_closer standing pauses opened closes
    obtain ⟨last, document, ran, ends⟩ := ih (takes.standing standing) pauses' left
    refine ⟨last, document, ?_, ends⟩
    exact Except.bind_eq_ok_iff.mpr ⟨next, step_of_takes takes, ran⟩

/-- Elsewhere a reading ends within a construct: the input is incomplete, or a comma is reported
behind which nothing came. -/
theorem finish_of_not_pauses (other : ¬r.place.Pauses) (last : Span) :
    (∃ expected span, r.finish last = .error (.incomplete expected span)) ∨
      ∃ comma expected, r.place.comma? = some comma ∧
        r.finish last = .error (.unexpected comma expected) := by
  obtain ⟨enclosing, level, place⟩ := r
  cases place with
  | between => exact (other trivial).elim
  | statement draft => exact (other trivial).elim
  | awaiting joined since => exact Or.inl ⟨_, _, rfl⟩
  | parameters draft opener place =>
    cases place with
    | start => exact (other (Or.inl rfl)).elim
    | afterValue => exact (other (Or.inr rfl)).elim
    | afterComma comma => exact Or.inr ⟨comma, _, rfl, rfl⟩
  | attributes draft opener place =>
    cases place with
    | start => exact (other (Or.inl rfl)).elim
    | afterValue => exact (other (Or.inr rfl)).elim
    | afterComma comma => exact Or.inr ⟨comma, _, rfl, rfl⟩
    | afterKey key since => exact Or.inl ⟨_, _, rfl⟩
    | afterEqual key since => exact Or.inl ⟨_, _, rfl⟩

end Reading

/-! ## Documents -/

/-- The lexeme is the last one that is not white space. -/
def IsLastVisible (ls : List Lexeme) (last : Lexeme) : Prop :=
  ∃ before blanks, ls = before ++ last :: blanks ∧ last.isWhiteSpace = false ∧
    ∀ l ∈ blanks, l.isWhiteSpace = true

theorem Document.exists_lastSpan_eq {ls : List Lexeme} {l : Lexeme} (member : l ∈ ls)
    (visible : l.isWhiteSpace = false) :
    ∃ last, IsLastVisible ls last ∧ lastSpan ls = last.span := by
  unfold lastSpan
  cases found : ls.reverse.find? fun l => !l.isWhiteSpace with
  | none =>
    have blank := List.find?_eq_none.mp found l (List.mem_reverse.mpr member)
    simp [visible] at blank
  | some last =>
    obtain ⟨visible, blanks, before, whole, white⟩ := List.find?_eq_some_iff_append.mp found
    refine ⟨last, ⟨before.reverse, blanks.reverse, ?_, by simpa using visible, ?_⟩, rfl⟩
    · simpa using congrArg List.reverse whole
    · simpa using white

/-- The lexeme is the last opener without a matching closer: what stands behind it is balanced, so
no closer there is its own and every opener there has one. -/
def IsLastUnmatched (ls : List Lexeme) (d : Delimiter) (opener : Lexeme) : Prop :=
  ∃ before behind, ls = before ++ opener :: behind ∧ opener.Opens d ∧ Balanced behind

theorem Unmatched.exists_isLastUnmatched {ls : List Lexeme} {d : Delimiter} {span : Span}
    {more : List (Delimiter × Span)} (unmatched : Unmatched ls ((d, span) :: more)) :
    ∃ opener, IsLastUnmatched ls d opener ∧ opener.span = span := by
  cases unmatched with
  | cons older opens balanced => exact ⟨_, ⟨_, _, rfl, opens, balanced⟩, rfl⟩

theorem IsLastUnmatched.exists_lastSpan_eq {ls : List Lexeme} {d : Delimiter} {opener : Lexeme}
    (unmatched : IsLastUnmatched ls d opener) :
    ∃ last, IsLastVisible ls last ∧ Document.lastSpan ls = last.span := by
  obtain ⟨before, behind, rfl, opens, -⟩ := unmatched
  exact Document.exists_lastSpan_eq (List.mem_append_right _ List.mem_cons_self)
    (Lexeme.isWhiteSpace_of_token rfl opens)

namespace Document

variable {ls more : List Lexeme} {document : Document} {fault : Fault}

/-- Lexemes in front of others that form a document with them can be read. -/
theorem steps_of_append (formed : ofLexemes (ls ++ more) = .ok document) :
    ∃ r next, Reading.start.steps ls = .ok r ∧ r.steps more = .ok next ∧
      next.finish (lastSpan (ls ++ more)) = .ok document := by
  unfold ofLexemes at formed
  obtain ⟨next, ran, ends⟩ := Except.bind_eq_ok_iff.mp formed
  rw [Reading.steps_append] at ran
  obtain ⟨r, first, second⟩ := Except.bind_eq_ok_iff.mp ran
  exact ⟨r, next, first, second, ends⟩

/-- Lexemes are reported to leave a delimiter open only where a closer may come, and then the report
is about the newest opener. -/
theorem openers_of_unclosed (failed : ofLexemes ls = .error fault)
    (code : fault.diagnostic.code = some .unclosedDelimiter) :
    ∃ r d opener rest, Reading.start.steps ls = .ok r ∧ r.place.Pauses ∧
      r.openers = (d, opener) :: rest ∧ fault = .unclosed d opener (lastSpan ls).stop := by
  rcases Except.bind_eq_error_iff.mp failed with stopped | ⟨r, ran, unfinished⟩
  · have definite := Reading.isDefinite_of_steps stopped
    simp [Fault.IsDefinite, code] at definite
  · by_cases pauses : r.place.Pauses
    · rcases Reading.endsOpen_of_pauses (Reading.standing_of_steps ran) pauses with
        ⟨-, document, ends⟩ | ⟨d, opener, rest, opened, ends⟩
      · cases (ends _).symm.trans unfinished
      · exact ⟨r, d, opener, rest, ran, pauses, opened,
          Except.error.inj (unfinished.symm.trans (ends _))⟩
    · rcases Reading.finish_of_not_pauses pauses (lastSpan ls) with
        ⟨expected, span, ends⟩ | ⟨comma, expected, -, ends⟩
      · cases unfinished.symm.trans ends
        cases code
      · cases unfinished.symm.trans ends
        cases code

/-- Closers for all openers that are left complete the lexemes. -/
theorem exists_ofLexemes_append_closersOf {r : Reading} (ran : Reading.start.steps ls = .ok r)
    (pauses : r.place.Pauses) :
    ∃ document, ofLexemes (ls ++ Reading.closersOf r.openers) = .ok document := by
  obtain ⟨next, document, closed, ends⟩ :=
    Reading.exists_finish_of_closersOf (Reading.standing_of_steps ran) pauses
  have whole : Reading.start.steps (ls ++ Reading.closersOf r.openers) = .ok next := by
    rw [Reading.steps_append, ran]
    exact closed
  exact ⟨document, by rw [ofLexemes_of_steps whole, ends]⟩

/-- Lexemes that a closer may follow in a document are reported to leave its opener open. -/
theorem unclosed_of_append_closer {l : Lexeme} {d : Delimiter} (closes : l.Closes d)
    (formed : ofLexemes (ls ++ l :: more) = .ok document) :
    ∃ d opener, l.Closes d ∧ ofLexemes ls = .error (.unclosed d opener (lastSpan ls).stop) := by
  obtain ⟨r, last, ran, later, -⟩ := steps_of_append formed
  obtain ⟨next, stepped, -⟩ := Except.bind_eq_ok_iff.mp later
  rw [ofLexemes_of_steps ran]
  cases (Reading.takes_of_step stepped).turns with
  | opens d' opens => exact (opens.not_closes closes).elim
  | plain plain => exact ((plain d).2 closes).elim
  | closes d' opener closes' pauses opened =>
    rcases Reading.endsOpen_of_pauses (Reading.standing_of_steps ran) pauses with
      ⟨none, -⟩ | ⟨_, _, rest, opened', ends⟩
    · cases none.symm.trans opened
    · cases opened'.symm.trans opened
      exact ⟨_, _, closes', ends _⟩

/-- A delimiter is reported as unclosed exactly if closers behind the lexemes make them a document.
The report asks for the first of these closers, at the end of the last lexeme that is not white
space, and points to the last opener without a matching closer. -/
theorem unclosed_iff_closers (ls : List Lexeme) :
    ((∃ fault, ofLexemes ls = .error fault ∧
        fault.diagnostic.code = some .unclosedDelimiter) ↔
      ∃ closers : List Lexeme, closers ≠ [] ∧ (∀ l ∈ closers, ∃ d, l.Closes d) ∧
        ∃ document, ofLexemes (ls ++ closers) = .ok document) ∧
    ∀ fault, ofLexemes ls = .error fault →
      fault.diagnostic.code = some .unclosedDelimiter →
      ∃ (d : Delimiter) (opener last : Lexeme),
        IsLastUnmatched ls d opener ∧ IsLastVisible ls last ∧
        fault.diagnostic.message = "unclosed `" ++ d.opener.char.toString ++ "`" ∧
        fault.diagnostic.labels =
          [.primary (.emptyAt last.span.stop) ("expected `" ++ d.closer.char.toString ++ "`"),
           .secondary opener.span "opened here"] ∧
        fault.diagnostic.help = some ("add the matching `" ++ d.closer.char.toString ++ "`") ∧
        ∀ first closers document, (∀ l ∈ first :: closers, ∃ d, l.Closes d) →
          ofLexemes (ls ++ first :: closers) = .ok document → first.Closes d := by
  refine ⟨⟨?_, ?_⟩, ?_⟩
  · rintro ⟨fault, failed, code⟩
    obtain ⟨r, d, opener, rest, ran, pauses, opened, -⟩ := openers_of_unclosed failed code
    refine ⟨Reading.closersOf r.openers, by simp [opened, Reading.closersOf], ?_,
      exists_ofLexemes_append_closersOf ran pauses⟩
    intro l member
    obtain ⟨newest, -, rfl⟩ := List.mem_map.mp member
    exact ⟨newest.1, rfl⟩
  · rintro ⟨closers, some, closing, document, formed⟩
    obtain ⟨first, closers, rfl⟩ := List.exists_cons_of_ne_nil some
    obtain ⟨d, closes⟩ := closing first List.mem_cons_self
    obtain ⟨d, opener, -, failed⟩ := unclosed_of_append_closer closes formed
    exact ⟨_, failed, rfl⟩
  · intro fault failed code
    obtain ⟨r, d, span, rest, ran, pauses, opened, rfl⟩ := openers_of_unclosed failed code
    have unmatched := Reading.unmatched_of_steps ran
    rw [opened] at unmatched
    obtain ⟨opener, lastUnmatched, rfl⟩ := unmatched.exists_isLastUnmatched
    obtain ⟨last, lastVisible, same⟩ := lastUnmatched.exists_lastSpan_eq
    rw [same]
    refine ⟨d, opener, last, lastUnmatched, lastVisible, rfl, rfl, rfl, ?_⟩
    intro first closers document closing formed
    obtain ⟨d', closes⟩ := closing first List.mem_cons_self
    obtain ⟨d', opener', closes', failed'⟩ := unclosed_of_append_closer closes formed
    cases failed.symm.trans failed'
    exact closes'

end Document

end HtmlTemplate
