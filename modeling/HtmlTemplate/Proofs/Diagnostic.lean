import HtmlTemplate.Proofs.Lexing

/-!
# Diagnostics that are about a text

The spans of a diagnostic are offsets into a text that it does not hold. They are within a text if
they end in it and lie between its characters (`Span.IsWithin`), and a diagnostic is about a text if
all its labels are within it and one of them is primary (`Diagnostic.IsAbout`). The pieces that a
template is cut into have spans within it, and so the diagnostics of its flaws are about it.
-/

set_option autoImplicit false

namespace HtmlTemplate

/-- The span is a part of the text that no character is partly in. -/
structure Span.IsWithin (span : Span) (source : String) : Prop where
  start_le_stop : span.start ≤ span.stop
  stop_le : span.stop ≤ source.utf8ByteSize
  start : String.Pos.Raw.IsValid source ⟨span.start⟩
  stop : String.Pos.Raw.IsValid source ⟨span.stop⟩

/-- A single label marks the mistake, and all labels are on parts of the text. -/
structure Diagnostic.IsAbout (d : Diagnostic) (source : String) : Prop where
  primary : d.labels.countP (·.isPrimary) = 1
  within : ∀ label ∈ d.labels, label.span.IsWithin source

/-! ## Spans between characters -/

theorem Piece.isValid_size {source : String} {before after : List Char}
    (whole : source.toList = before ++ after) :
    String.Pos.Raw.IsValid source ⟨Piece.size before⟩ := by
  have joined : source = .ofList before ++ .ofList after := by
    rw [← String.ofList_append, ← whole, String.ofList_toList]
  have sized : Piece.size before = (String.ofList before).utf8ByteSize := by
    rw [← Piece.size_toList, String.toList_ofList]
  rw [String.Pos.Raw.isValid_iff_exists_append]
  exact ⟨_, _, joined, congrArg String.Pos.Raw.mk sized⟩

namespace Span.IsWithin

variable {source : String} {span other : Span}

theorem of_ends (start : String.Pos.Raw.IsValid source ⟨span.start⟩)
    (stop : String.Pos.Raw.IsValid source ⟨span.stop⟩) : span.IsWithin source :=
  ⟨span.start_le_stop, stop.le_utf8ByteSize, start, stop⟩

theorem of_standsAt {text rest : List Char} (stands : StandsAt source span text rest) :
    span.IsWithin source := by
  obtain ⟨before, whole, start, stop⟩ := stands
  have startValid := Piece.isValid_size whole
  have stopValid := Piece.isValid_size (whole.trans (List.append_assoc ..).symm)
  rw [start] at startValid
  rw [stop] at stopValid
  exact .of_ends startValid stopValid

theorem start_empty : (Span.emptyAt 0).IsWithin source :=
  .of_ends String.Pos.Raw.isValid_zero String.Pos.Raw.isValid_zero

theorem stop_empty (within : span.IsWithin source) : (Span.emptyAt span.stop).IsWithin source :=
  .of_ends within.stop within.stop

theorem union (within : span.IsWithin source) (within' : other.IsWithin source) :
    (span.union other).IsWithin source := by
  have start : (span.union other).start = span.start ∨
      (span.union other).start = other.start := by
    simp only [Span.union]
    omega
  have stop : (span.union other).stop = span.stop ∨ (span.union other).stop = other.stop := by
    simp only [Span.union]
    omega
  refine .of_ends ?_ ?_
  · rcases start with same | same <;> rw [same]
    · exact within.start
    · exact within'.start
  · rcases stop with same | same <;> rw [same]
    · exact within.stop
    · exact within'.stop

/-- The offset behind the span as it is reckoned from the length of the span. -/
theorem start_add_length_le (within : span.IsWithin source) :
    span.start + span.length ≤ source.utf8ByteSize := by
  have ordered := within.start_le_stop
  have bounded := within.stop_le
  rw [Span.length]
  omega

end Span.IsWithin

/-! ## Lexemes and flaws -/

/-- The pieces stand in the source one after the other, each the next piece of what remains. -/
theorem Piece.exists_next_of_mem_placed {source : String} {span : Span} {piece : Piece}
    (cs before : List Char) (whole : source.toList = before ++ cs)
    (placed : (span, piece) ∈ Piece.placed (Piece.size before) (Piece.all cs)) :
    ∃ c cs, piece = (Piece.next c cs).1 ∧
      StandsAt source span piece.text (Piece.next c cs).2 := by
  fun_induction Piece.all cs generalizing before with
  | case1 => cases placed
  | case2 c cs ih =>
    have cut : (Piece.next c cs).1.text ++ (Piece.next c cs).2 = c :: cs :=
      (Piece.cuts_next c cs).append
    have whole' := whole.trans (congrArg (before ++ ·) cut.symm)
    rw [Piece.placed] at placed
    rcases List.mem_cons.mp placed with first | later
    · obtain ⟨rfl, rfl⟩ := Prod.mk.inj first
      exact ⟨c, cs, rfl, before, whole', rfl, Piece.size_append ..⟩
    · rw [← Piece.size_append] at later
      exact ih (before ++ (Piece.next c cs).1.text)
        (whole'.trans (List.append_assoc ..).symm) later

theorem Lexeme.isWithin_of_tokenize {source : String} {ls : List Lexeme}
    (read : tokenize source = .ok ls) : ∀ l ∈ ls, l.span.IsWithin source := by
  have lexing : IsLexing source ls := isLexing_iff_lexed.mpr (tokenize_eq_ok_iff_lexed.mp read)
  intro l member
  obtain ⟨text, rest, stands, -⟩ := lexing.written l member
  exact .of_standsAt stands

theorem Flaw.isAbout_diagnostic {source : String} {span : Span} (flaw : Flaw)
    (within : span.IsWithin source) : (flaw.diagnostic span).IsAbout source where
  primary := rfl
  within := by
    intro label member
    obtain rfl := List.mem_singleton.mp member
    exact within

theorem Flaw.isLexical_code (flaw : Flaw) : flaw.code.isLexical = true := by
  cases flaw <;> rfl

/-- A template that is not cut into lexemes has flaws, and each diagnostic is that of one of
them. -/
theorem isAbout_of_tokenize {source : String} {reason : ParseError}
    (refused : tokenize source = .error reason) :
    reason.diagnostics ≠ [] ∧ ∀ d ∈ reason.diagnostics,
      (∃ code, d.code = some code ∧ code.isLexical = true) ∧ d.IsAbout source := by
  unfold tokenize at refused
  dsimp only at refused
  split at refused
  · cases refused
  · next flawed =>
    cases refused
    refine ⟨flawed, ?_⟩
    intro d member
    obtain ⟨⟨span, piece⟩, placed, found⟩ := List.mem_filterMap.mp member
    obtain ⟨_, _, _, stands⟩ := Piece.exists_next_of_mem_placed source.toList [] rfl placed
    dsimp only at found
    split at found
    · cases found
    · next flaw read =>
      cases found
      exact ⟨⟨_, rfl, flaw.isLexical_code⟩, flaw.isAbout_diagnostic (.of_standsAt stands)⟩

end HtmlTemplate
