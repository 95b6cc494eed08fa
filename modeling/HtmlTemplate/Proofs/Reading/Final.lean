import HtmlTemplate.Proofs.Reading.Unclosed

/-!
# Faults that nothing mends

A step that fails makes the whole input wrong, so its fault is that of every longer input. Where
the lexemes end too early instead, the fault says so, but for one place: behind the comma of a list.
The comma is then reported as unexpected although an item may still come, and with it the lexemes
are the beginning of a document.

* a fault that is not about the end of the input is final, or it is about a comma with which the
  lexemes end and which a document has (`final_or_comma`).
-/

set_option autoImplicit false

namespace HtmlTemplate

namespace Reading

variable {r next : Reading} {l comma : Lexeme}

theorem comma_skip (r : Reading) (span : Span) : (r.skip span).place.comma? = r.place.comma? := by
  obtain ⟨enclosing, level, place⟩ := r
  rcases place with _ | _ | _ | _ | ⟨_, _, _ | _ | _ | _ | _⟩ <;> rfl

/-- A reading stands behind a comma because it has just been read, or white space behind it. -/
theorem Takes.comma_cases (takes : Takes l r next) (here : next.place.comma? = some comma) :
    l.isWhiteSpace = true ∧ r.place.comma? = some comma ∨ l = comma ∧ l.token = .mark .comma := by
  cases takes with
  | blank white =>
    rw [comma_skip] at here
    exact Or.inl ⟨white, here⟩
  | parameterComma token => exact Or.inr ⟨Option.some.inj here, token⟩
  | attributeComma token => exact Or.inr ⟨Option.some.inj here, token⟩
  | _ => cases here

/-- The comma that a reading stands behind is the last lexeme that is not white space. -/
theorem isLastVisible_of_comma {ls : List Lexeme} (ran : start.steps ls = .ok r)
    (here : r.place.comma? = some comma) :
    IsLastVisible ls comma ∧ comma.token = .mark .comma := by
  induction ls using List.reverseRecOn generalizing r with
  | nil =>
    cases ran
    cases here
  | append_singleton ls l ih =>
    rw [steps_append] at ran
    obtain ⟨before, ran, last⟩ := Except.bind_eq_ok_iff.mp ran
    obtain ⟨next, stepped, same⟩ := Except.bind_eq_ok_iff.mp last
    cases same
    rcases (takes_of_step stepped).comma_cases here with ⟨white, earlier⟩ | ⟨rfl, token⟩
    · obtain ⟨⟨front, blanks, rfl, visible, blank⟩, token⟩ := ih ran earlier
      refine ⟨⟨front, blanks ++ [l], by simp, visible, ?_⟩, token⟩
      exact List.forall_mem_append.mpr ⟨blank, List.forall_mem_singleton.mpr white⟩
    · exact ⟨⟨ls, [], rfl, Lexeme.isWhiteSpace_of_token rfl token, by simp⟩, token⟩

/-- Behind the comma of a list there may be an item, and closers behind it. -/
theorem exists_steps_of_comma (here : r.place.comma? = some comma) :
    ∃ more next, r.steps more = .ok next ∧ next.place.Pauses := by
  let name : Lexeme := ⟨.identifier "a", default⟩
  let equal : Lexeme := ⟨.mark .equal, default⟩
  obtain ⟨enclosing, level, place⟩ := r
  cases place with
  | parameters draft opener place =>
    cases place with
    | afterComma comma => exact ⟨[name], _, rfl, Or.inr rfl⟩
    | _ => cases here
  | attributes draft opener place =>
    cases place with
    | afterComma comma => exact ⟨[name, equal, name], _, rfl, Or.inr rfl⟩
    | _ => cases here
  | _ => cases here

end Reading

namespace Document

variable {ls : List Lexeme} {fault : Fault} {r : Reading}

/-- Lexemes that end behind the comma of a list are the beginning of a document. -/
theorem exists_append_of_comma {comma : Lexeme} (ran : Reading.start.steps ls = .ok r)
    (here : r.place.comma? = some comma) :
    ∃ more document, ofLexemes (ls ++ more) = .ok document := by
  obtain ⟨item, next, listed, pauses⟩ := Reading.exists_steps_of_comma here
  have longer : Reading.start.steps (ls ++ item) = .ok next := by
    rw [Reading.steps_append, ran]
    exact listed
  obtain ⟨document, formed⟩ := exists_ofLexemes_append_closersOf longer pauses
  exact ⟨item ++ Reading.closersOf next.openers, document, by rw [← List.append_assoc, formed]⟩

/-- The fault is about a comma with which the lexemes end, white space aside. -/
def EndsAtComma (ls : List Lexeme) (fault : Fault) : Prop :=
  ∃ comma expected, IsLastVisible ls comma ∧ comma.token = .mark .comma ∧
    fault = .unexpected comma expected

theorem final_or_comma_of_isDefinite (failed : ofLexemes ls = .error fault)
    (definite : fault.IsDefinite) :
    (∀ more, ofLexemes (ls ++ more) = .error fault) ∨
      EndsAtComma ls fault ∧ ∃ more document, ofLexemes (ls ++ more) = .ok document := by
  rcases Except.bind_eq_error_iff.mp failed with stopped | ⟨r, ran, unfinished⟩
  · exact Or.inl (ofLexemes_append_of_steps stopped)
  · by_cases pauses : r.place.Pauses
    · rcases Reading.endsOpen_of_pauses (Reading.standing_of_steps ran) pauses with
        ⟨-, document, ends⟩ | ⟨d, opener, rest, -, ends⟩
      · cases (ends _).symm.trans unfinished
      · cases (ends _).symm.trans unfinished
        exact (Fault.not_isDefinite_unclosed _ _ definite).elim
    · rcases Reading.finish_of_not_pauses pauses (lastSpan ls) with
        ⟨expected, span, ends⟩ | ⟨comma, expected, here, ends⟩
      · cases ends.symm.trans unfinished
        exact (Fault.not_isDefinite_incomplete definite).elim
      · cases ends.symm.trans unfinished
        obtain ⟨last, token⟩ := Reading.isLastVisible_of_comma ran here
        exact Or.inr ⟨⟨comma, expected, last, token, rfl⟩, exists_append_of_comma ran here⟩

/-- A fault that is not about the end of the input is that of all longer lexemes too, unless it is
about a comma with which the lexemes end. Then they are the beginning of a document all the same. So
the beginning of a document is reported as incomplete or unclosed, or for its last comma. -/
theorem final_or_comma (ls : List Lexeme) :
    (∀ fault, ofLexemes ls = .error fault → fault.IsDefinite →
      (∀ more, ofLexemes (ls ++ more) = .error fault) ∨
        EndsAtComma ls fault ∧ ∃ more document, ofLexemes (ls ++ more) = .ok document) ∧
    ∀ more document, ofLexemes (ls ++ more) = .ok document →
      ∀ fault, ofLexemes ls = .error fault →
        fault.diagnostic.code = some .incompleteInput ∨
          fault.diagnostic.code = some .unclosedDelimiter ∨ EndsAtComma ls fault := by
  refine ⟨fun fault failed definite => final_or_comma_of_isDefinite failed definite, ?_⟩
  intro more document formed fault failed
  have mended : fault.IsDefinite → EndsAtComma ls fault := by
    intro definite
    rcases final_or_comma_of_isDefinite failed definite with final | ⟨comma, -⟩
    · cases (final more).symm.trans formed
    · exact comma
  cases fault with
  | unexpected found expected => exact Or.inr (Or.inr (mended (Fault.isDefinite_unexpected found)))
  | incomplete expected span => exact Or.inl rfl
  | invalidName reason span => exact Or.inr (Or.inr (mended (Fault.isDefinite_invalidName reason)))
  | unclosed delimiter opener stop => exact Or.inr (Or.inl rfl)
  | tooDeep opener => exact Or.inr (Or.inr (mended Fault.isDefinite_tooDeep))

/-- The comma of a list that is cut off behind it is reported, and the report is gone when the list
goes on. -/
theorem not_final_of_comma :
    ¬∀ (ls more : List Lexeme) (fault : Fault), ofLexemes ls = .error fault → fault.IsDefinite →
      ∃ fault', ofLexemes (ls ++ more) = .error fault' ∧
        fault'.diagnostic = fault.diagnostic := by
  let p : Lexeme := ⟨.identifier "p", .ofSize 0 1⟩
  let opener : Lexeme := ⟨.mark .openParen, .ofSize 1 1⟩
  let value : Lexeme := ⟨.quoted "a", .ofSize 2 3⟩
  let comma : Lexeme := ⟨.mark .comma, .ofSize 5 1⟩
  let closer : Lexeme := ⟨.mark .closeParen, .ofSize 9 1⟩
  intro final
  have failed : ofLexemes [p, opener, value, comma] =
      .error (.unexpected comma [.closer .paren]) := by decide +kernel
  have formed : ofLexemes ([p, opener, value, comma] ++ [value, closer]) =
      .ok ⟨[⟨"p", [⟨.quoted, "a"⟩, ⟨.quoted, "a"⟩], [], []⟩]⟩ := by decide +kernel
  obtain ⟨fault', failed', -⟩ := final _ _ _ failed (Fault.isDefinite_unexpected comma)
  cases formed.symm.trans failed'

end Document

end HtmlTemplate
