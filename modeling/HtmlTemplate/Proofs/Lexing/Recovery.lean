import HtmlTemplate.Proofs.Diagnostic

/-!
# Cutting a template with flaws

A flaw does not end the cutting: it goes on behind the piece of the flaw, so each piece gives a
lexeme or a diagnostic (`produced`). What a diagnostic says of the text at its span and of what
stands behind it is stated without the cutting (`Code.GivenFor`).

* every round of the cutting takes a character at least (`Piece.length_all_le`);
* the spans of lexemes and diagnostics tile the template, and a template has lexemes if there is no
  diagnostic among them (`produced_accounts`).
-/

set_option autoImplicit false

namespace HtmlTemplate

/-! ## Tilings -/

namespace Tiles

variable {spans front back : List Span} {span : Span} {start stop : Nat}

theorem le (tiles : Tiles spans start stop) : start ≤ stop := by
  induction spans generalizing start with
  | nil => exact Nat.le_of_eq tiles
  | cons span spans ih =>
    obtain ⟨-, positive, more⟩ := tiles
    have behind := ih more
    omega

theorem of_append (tiles : Tiles (front ++ back) start stop) :
    ∃ middle, Tiles back middle stop := by
  induction front generalizing start with
  | nil => exact ⟨start, tiles⟩
  | cons span front ih => exact ih tiles.2.2

/-- A span that ends where the tiling does is the last one. -/
theorem eq_nil_of_stop (tiles : Tiles (front ++ span :: back) start stop)
    (last : span.stop = stop) : back = [] := by
  obtain ⟨middle, -, -, behind⟩ := of_append tiles
  cases back with
  | nil => rfl
  | cons next back =>
    obtain ⟨-, positive, more⟩ := behind
    have within := more.le
    omega

end Tiles

/-! ## What a code says -/

/-- The code is given for a text in front of `rest`, which is no token for this reason. -/
inductive Code.GivenFor : Code → List Char → List Char → Prop
  /-- A single character that no token starts with. -/
  | stray {c : Char} {rest : List Char}
      (starts : ∀ (token : Token) more, ¬token.WrittenAs (c :: more)) :
      GivenFor .unexpectedCharacter [c] rest
  | missingQuote {rest : List Char} (bare : ∀ c ∈ rest.head?, isQuote c = false) :
      GivenFor .missingQuote ['@'] rest
  /-- A quote that neither itself nor a line end follows, with all of the input behind it. -/
  | openLiteral {quote : Char} {body : List Char} (opens : isQuote quote = true)
      (inside : ∀ c ∈ body, c ≠ quote ∧ Text.isLineEnd c = false) :
      GivenFor .unterminatedString (quote :: body) []
  /-- A sign with a quote that does not occur again, with all of the input behind them. -/
  | openMultiline {quote : Char} {body : List Char} (opens : isQuote quote = true)
      (inside : ∀ c ∈ body, c ≠ quote) :
      GivenFor .unterminatedMultiline ('@' :: quote :: body) []

namespace Piece

theorem givenFor_quoted {quote : Char} {cs : List Char} {flaw : Flaw}
    (opens : isQuote quote = true) (read : (quoted quote cs).1.reading = .error flaw) :
    flaw.code.GivenFor (quoted quote cs).1.text (quoted quote cs).2 := by
  unfold quoted at read ⊢
  dsimp only at read ⊢
  revert read
  split
  · next unclosed =>
    intro read
    cases read
    have inside := List.dropWhile_eq_nil_iff.mp unclosed
    exact .openLiteral opens fun c member => by simpa using inside c member
  · intro read
    cases read

theorem givenFor_multiline {quote : Char} {cs : List Char} {flaw : Flaw}
    (opens : isQuote quote = true) (read : (multiline quote cs).1.reading = .error flaw) :
    flaw.code.GivenFor (multiline quote cs).1.text (multiline quote cs).2 := by
  unfold multiline at read ⊢
  dsimp only at read ⊢
  revert read
  split
  · next unclosed =>
    intro read
    cases read
    have inside := List.dropWhile_eq_nil_iff.mp unclosed
    exact .openMultiline opens fun c member => by simpa using inside c member
  · intro read
    cases read

/-- A piece that is a flaw is one for the reason that its code gives. -/
theorem givenFor_next {c : Char} {cs : List Char} {flaw : Flaw}
    (read : (next c cs).1.reading = .error flaw) :
    flaw.code.GivenFor (next c cs).1.text (next c cs).2 := by
  revert read
  fun_cases next c cs <;> intro read
  case case2 opens => exact givenFor_quoted opens read
  case case3 at_ quote rest opens =>
    subst at_
    exact givenFor_multiline opens read
  case case4 at_ quote rest other =>
    subst at_
    cases read
    exact .missingQuote fun c first => by simp_all
  case case5 at_ =>
    subst at_
    cases read
    exact .missingQuote fun c first => by simp at first
  case case9 bar quote at_ head white mark =>
    cases read
    refine .stray fun token more written => ?_
    -- If a token started here, it would be the next piece of its own spelling.
    have ends : token.EndsBefore [] := by
      cases token <;> simp [Token.EndsBefore]
    have found := next_of_written written ends (List.append_nil _).symm
    simp [next, bar, quote, at_, head, white, mark] at found
  all_goals cases read

theorem text_next_ne_nil (c : Char) (cs : List Char) : (next c cs).1.text ≠ [] := by
  intro empty
  have cut := (cuts_next c cs).append
  rw [empty, List.nil_append] at cut
  have shorter := length_next_lt c cs
  rw [cut] at shorter
  exact Nat.lt_irrefl _ shorter

theorem length_all_le (cs : List Char) : (all cs).length ≤ cs.length := by
  fun_induction all cs with
  | case1 => exact Nat.le_refl _
  | case2 c cs ih =>
    have shorter := length_next_lt c cs
    rw [List.length_cons]
    omega

theorem length_placed (start : Nat) (pieces : List Piece) :
    (placed start pieces).length = pieces.length := by
  induction pieces generalizing start with
  | nil => rfl
  | cons piece pieces ih => rw [placed, List.length_cons, List.length_cons, ih]

theorem tiles_placed (cs : List Char) (start : Nat) :
    Tiles ((placed start (all cs)).map (·.1)) start (start + size cs) := by
  fun_induction all cs generalizing start with
  | case1 => exact (Nat.add_zero start).symm
  | case2 c cs ih =>
    have cut := (cuts_next c cs).append
    have positive := size_pos (text_next_ne_nil c cs)
    have behind := ih (start + size (next c cs).1.text)
    rw [Nat.add_assoc, ← size_append, cut] at behind
    refine ⟨rfl, ?_, behind⟩
    simp only [Span.ofSize]
    omega

end Piece

/-! ## Lexemes and diagnostics -/

/-- What a piece of a template gives. -/
def Piece.outcome (placed : Span × Piece) : Except Diagnostic Lexeme :=
  match placed.2.reading with
  | .ok token => .ok ⟨token, placed.1⟩
  | .error flaw => .error (flaw.diagnostic placed.1)

/-- The lexemes and diagnostics of a template, in the order in which they are found. -/
def produced (source : String) : List (Except Diagnostic Lexeme) :=
  (Piece.placed 0 (Piece.all source.toList)).map Piece.outcome

def diagnosticsOf (outcomes : List (Except Diagnostic Lexeme)) : List Diagnostic :=
  outcomes.filterMap fun
    | .ok _ => none
    | .error d => some d

theorem mem_diagnosticsOf {outcomes : List (Except Diagnostic Lexeme)} {d : Diagnostic} :
    d ∈ diagnosticsOf outcomes ↔ .error d ∈ outcomes := by
  unfold diagnosticsOf
  rw [List.mem_filterMap]
  constructor
  · rintro ⟨outcome, member, found⟩
    split at found
    · cases found
    · cases found
      exact member
  · intro member
    exact ⟨_, member, rfl⟩

/-- The span of a lexeme, or that of the primary label of a diagnostic. -/
def markedSpan : Except Diagnostic Lexeme → Option Span
  | .ok l => some l.span
  | .error d => d.primarySpan

theorem markedSpan_outcome (placed : Span × Piece) :
    markedSpan (Piece.outcome placed) = some placed.1 := by
  unfold Piece.outcome
  split <;> rfl

theorem diagnosticsOf_map_outcome (pieces : List (Span × Piece)) :
    diagnosticsOf (pieces.map Piece.outcome) = flawsOf pieces := by
  induction pieces with
  | nil => rfl
  | cons first pieces ih =>
    obtain ⟨span, piece⟩ := first
    rw [flawsOf_cons, List.map_cons, diagnosticsOf, List.filterMap_cons, ← diagnosticsOf, ih]
    cases read : piece.reading <;> simp [Piece.outcome, read]

theorem map_outcome_of_flawsOf {pieces : List (Span × Piece)} (flawless : flawsOf pieces = []) :
    pieces.map Piece.outcome = (lexemesOf pieces).map .ok := by
  induction pieces with
  | nil => rfl
  | cons first pieces ih =>
    obtain ⟨span, piece⟩ := first
    rw [flawsOf_cons] at flawless
    rw [List.map_cons, lexemesOf_cons]
    cases read : piece.reading with
    | error flaw => simp [read] at flawless
    | ok token =>
      rw [read] at flawless
      simp [Piece.outcome, read, ih flawless]

theorem tokenize_eq_error_iff {source : String} {e : ParseError} :
    tokenize source = .error e ↔
      e.diagnostics ≠ [] ∧ diagnosticsOf (produced source) = e.diagnostics := by
  obtain ⟨diagnostics⟩ := e
  unfold tokenize produced
  rw [diagnosticsOf_map_outcome]
  dsimp only
  split
  · next flawless => simp [flawless, eq_comm]
  · next flawed =>
    simp only [Except.error.injEq, ParseError.mk.injEq]
    constructor
    · intro same
      exact ⟨same ▸ flawed, same⟩
    · exact And.right

theorem exists_tokenize_eq_error_iff {source : String} :
    (∃ e, tokenize source = .error e) ↔ ∃ d, .error d ∈ produced source := by
  constructor
  · rintro ⟨e, refused⟩
    obtain ⟨some, all⟩ := tokenize_eq_error_iff.mp refused
    obtain ⟨d, member⟩ := List.exists_mem_of_ne_nil _ some
    rw [← all] at member
    exact ⟨d, mem_diagnosticsOf.mp member⟩
  · rintro ⟨d, member⟩
    have some := List.ne_nil_of_mem (mem_diagnosticsOf.mpr member)
    exact ⟨⟨diagnosticsOf (produced source)⟩, tokenize_eq_error_iff.mpr ⟨some, rfl⟩⟩

theorem produced_of_tokenize {source : String} {ls : List Lexeme}
    (cut : tokenize source = .ok ls) : produced source = ls.map .ok := by
  unfold tokenize at cut
  dsimp only at cut
  split at cut
  · next flawless =>
    cases cut
    exact map_outcome_of_flawsOf flawless
  · cases cut

/-- A lexeme is written as the text at its place, whatever flaws there are elsewhere. -/
theorem exists_written_of_produced {source : String} {l : Lexeme}
    (found : .ok l ∈ produced source) :
    ∃ text rest, StandsAt source l.span text rest ∧
      l.token.WrittenAs text ∧ l.token.EndsBefore rest := by
  obtain ⟨⟨span, piece⟩, member, outcome⟩ := List.mem_map.mp found
  obtain ⟨c, cs, rfl, stands⟩ := Piece.exists_next_of_mem_placed source.toList [] rfl member
  unfold Piece.outcome at outcome
  split at outcome
  · next token read =>
    cases outcome
    exact ⟨_, _, stands, (Piece.cuts_next c cs).written token read⟩
  · cases outcome

/-- A diagnostic is about the text at its place, and behind one about a literal that is left open
nothing comes. -/
theorem exists_givenFor_of_produced {source : String} {d : Diagnostic}
    {front back : List (Except Diagnostic Lexeme)}
    (found : produced source = front ++ .error d :: back) :
    ∃ code span text rest, d.code = some code ∧ d.labels = [.primary span code.description] ∧
      StandsAt source span text rest ∧ code.GivenFor text rest ∧ (rest = [] → back = []) := by
  obtain ⟨front, more, split, rfl, rest⟩ := List.map_eq_append_iff.mp found
  obtain ⟨⟨span, piece⟩, back, rfl, outcome, rfl⟩ := List.map_eq_cons_iff.mp rest
  have member : (span, piece) ∈ Piece.placed 0 (Piece.all source.toList) := by
    rw [split]
    exact List.mem_append_right _ List.mem_cons_self
  obtain ⟨c, cs, rfl, stands⟩ := Piece.exists_next_of_mem_placed source.toList [] rfl member
  have tiles := Piece.tiles_placed source.toList 0
  rw [split, List.map_append, List.map_cons, Nat.zero_add, Piece.size_toList] at tiles
  unfold Piece.outcome at outcome
  split at outcome
  · cases outcome
  · next flaw read =>
    cases outcome
    refine ⟨flaw.code, span, _, _, rfl, rfl, stands, Piece.givenFor_next read, ?_⟩
    intro last
    obtain ⟨before, whole, -, stop⟩ := stands
    rw [last, List.append_nil] at whole
    rw [← whole, Piece.size_toList] at stop
    have none := tiles.eq_nil_of_stop stop.symm
    rw [List.map_eq_nil_iff.mp none, List.map_nil]

/-- Every piece of a template gives a lexeme or a diagnostic, and these account for each byte of it
once. A template is refused exactly if there is a diagnostic, and then with all of them. Each of
them is about a character that no token starts with, a sign without its quote, or a literal that is
left open up to the end of the input. -/
theorem produced_accounts (source : String) :
    (produced source).length ≤ source.length ∧
    (∃ spans, (produced source).map markedSpan = spans.map some ∧
      Tiles spans 0 source.utf8ByteSize ∧ ∀ span ∈ spans, span.IsWithin source) ∧
    ((∃ e, tokenize source = .error e) ↔ ∃ d, .error d ∈ produced source) ∧
    (∀ e, tokenize source = .error e → diagnosticsOf (produced source) = e.diagnostics) ∧
    (∀ ls, tokenize source = .ok ls → produced source = ls.map .ok) ∧
    (∀ l, .ok l ∈ produced source → ∃ text rest, StandsAt source l.span text rest ∧
      l.token.WrittenAs text ∧ l.token.EndsBefore rest) ∧
    ∀ front d back, produced source = front ++ .error d :: back →
      ∃ code span text rest, d.code = some code ∧ d.labels = [.primary span code.description] ∧
        StandsAt source span text rest ∧ code.GivenFor text rest ∧
        (code = .unterminatedString ∨ code = .unterminatedMultiline → back = []) := by
  have spans : (produced source).map markedSpan =
      ((Piece.placed 0 (Piece.all source.toList)).map (·.1)).map some := by
    simp [produced, markedSpan_outcome, Function.comp_def]
  have tiles := Piece.tiles_placed source.toList 0
  rw [Nat.zero_add, Piece.size_toList] at tiles
  refine ⟨?_, ⟨_, spans, tiles, ?_⟩, exists_tokenize_eq_error_iff,
    fun e refused => (tokenize_eq_error_iff.mp refused).2, fun ls => produced_of_tokenize,
    fun l => exists_written_of_produced, ?_⟩
  · rw [produced, List.length_map, Piece.length_placed, ← String.length_toList]
    exact Piece.length_all_le source.toList
  · intro span member
    obtain ⟨⟨span, piece⟩, placed, rfl⟩ := List.mem_map.mp member
    obtain ⟨_, _, _, stands⟩ := Piece.exists_next_of_mem_placed source.toList [] rfl placed
    exact .of_standsAt stands
  · intro front d back found
    obtain ⟨code, span, text, rest, coded, label, stands, given, last⟩ :=
      exists_givenFor_of_produced found
    refine ⟨code, span, text, rest, coded, label, stands, given, ?_⟩
    intro literal
    cases given with
    | openLiteral => exact last rfl
    | openMultiline => exact last rfl
    | _ => simp at literal

-- Only an open literal takes the rest of the input with it.
example : (diagnosticsOf (produced "p$ @x 'a")).map (·.code) =
    [some .unexpectedCharacter, some .missingQuote, some .unterminatedString] := by
  decide +kernel

end HtmlTemplate
