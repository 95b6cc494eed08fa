import HtmlTemplate.Engine
import HtmlTemplate.Proofs.Diagnostic
import HtmlTemplate.Proofs.Reading.Spans
import HtmlTemplate.Proofs.Render.Culprit
import HtmlTemplate.Report

/-!
# Reports point into the text they show

A template that cannot be read has diagnostics, all of its flaws or the one of its first fault, and
each of them is about the template (`ParseError.isAbout_of_parse`). A failure to make a page passes
on the diagnostics of the template or of a view, whichever could not be read, together with that
text (`Engine.quotes_of_viewMalformed`), however many views lie between the template and the view.
So the labels of a report have their places in the text that the report shows
(`Report.pointsInto_of_isAbout`).
-/

set_option autoImplicit false

namespace HtmlTemplate

/-- What is told of a text that cannot be read: every flaw of its spelling, or else a single mistake
in the order of its tokens. -/
structure ParseError.IsAbout (reason : ParseError) (source : String) : Prop where
  nonempty : reason.diagnostics ≠ []
  codes : (∀ d ∈ reason.diagnostics, ∃ code, d.code = some code ∧
      code.name ∈ ["E001", "E002", "E003", "E004"]) ∨
    ∃ d code, reason.diagnostics = [d] ∧ d.code = some code ∧
      code.name ∈ ["E100", "E101", "E102", "E103", "E104"]
  each : ∀ d ∈ reason.diagnostics, d.IsAbout source

/-! ## Templates that cannot be read -/

theorem Code.name_of_isLexical {code : Code} (lexical : code.isLexical = true) :
    code.name ∈ ["E001", "E002", "E003", "E004"] := by
  cases code <;> first | decide | cases lexical

theorem Fault.exists_code (fault : Fault) : ∃ code, fault.diagnostic.code = some code ∧
    code.name ∈ ["E100", "E101", "E102", "E103", "E104"] := by
  cases fault <;> exact ⟨_, rfl, by decide⟩

theorem Fault.isAbout_diagnostic {source : String} {fault : Fault}
    (marks : fault.Marks (·.IsWithin source)) : fault.diagnostic.IsAbout source where
  primary := by cases fault <;> rfl
  within := marks

theorem Span.closed_isWithin (source : String) : Span.Closed (·.IsWithin source) where
  start := .start_empty
  stop := .stop_empty
  union := .union

theorem ParseError.isAbout_of_parse {source : String} {reason : ParseError}
    (failed : Document.parse source = .error reason) : reason.IsAbout source := by
  unfold Document.parse at failed
  rcases Except.bind_eq_error_iff.mp failed with flawed | ⟨ls, read, failed⟩
  · obtain ⟨nonempty, each⟩ := isAbout_of_tokenize flawed
    refine ⟨nonempty, Or.inl fun d member => ?_, fun d member => (each d member).2⟩
    obtain ⟨code, coded, lexical⟩ := (each d member).1
    exact ⟨code, coded, Code.name_of_isLexical lexical⟩
  · have within := Lexeme.isWithin_of_tokenize read
    split at failed
    · cases failed
    · next fault found =>
      cases failed
      have marks := Fault.marks_of_ofLexemes (Span.closed_isWithin source) within found
      obtain ⟨code, coded, name⟩ := fault.exists_code
      exact ⟨by simp, Or.inr ⟨_, code, rfl, coded, name⟩,
        List.forall_mem_singleton.mpr (Fault.isAbout_diagnostic marks)⟩

/-! ## Pages that cannot be made -/

/-- The text is the one for which a failure quotes diagnostics: the template, or the source of the
view that the failure names. -/
def Engine.Quotes (engine : Engine) (template text : String) : Failure → Prop
  | .parse reason _ => text = template ∧ Document.parse text = .error reason
  | .render (.viewMalformed view reason _) =>
    engine.views.find? view = some (.ok text) ∧ Document.parse text = .error reason
  | .io _ | .render _ | .settings _ => False

/-- The report shows the text, and its labels are on parts of it: the offset that a label begins at
and the one its length comes to are offsets into the text. -/
structure Report.PointsInto (report : Report) (text : String) : Prop where
  source : report.source = some text
  primary : report.labels.countP (·.isPrimary) = 1
  within : ∀ label ∈ report.labels, label.span.IsWithin text
  offsets : ∀ label ∈ report.labels, label.span.start ≤ text.utf8ByteSize ∧
    label.span.start + label.span.length ≤ text.utf8ByteSize

/-- The reports of diagnostics show the text that these are about. -/
theorem Report.pointsInto_of_isAbout {reason : ParseError} {text : String}
    (about : reason.IsAbout text) (view : Option String) :
    reason.diagnostics.map (Report.ofDiagnostic text view) ≠ [] ∧
      ∀ report ∈ reason.diagnostics.map (Report.ofDiagnostic text view),
        report.PointsInto text := by
  refine ⟨?_, ?_⟩
  · rw [Ne, List.map_eq_nil_iff]
    exact about.nonempty
  · intro report member
    obtain ⟨d, listed, rfl⟩ := List.mem_map.mp member
    have told := about.each d listed
    refine ⟨rfl, told.primary, told.within, fun label labelled => ?_⟩
    have inside := told.within label labelled
    exact ⟨Nat.le_trans inside.start_le_stop inside.stop_le, inside.start_add_length_le⟩

/-- A rendering that fails for another reason quotes no text, and its report has no labels. -/
theorem Failure.reports_of_not_viewMalformed {reason : RenderError}
    (other : ∀ view cause source, reason ≠ .viewMalformed view cause source) :
    (∀ (engine : Engine) (template text : String),
        ¬engine.Quotes template text (.render reason)) ∧
      ∃ report : Report, (Failure.render reason).reports = [report] ∧ report.labels = [] := by
  cases reason with
  | viewMalformed view cause source => exact (other view cause source rfl).elim
  | _ => exact ⟨fun _ _ _ => id, _, rfl, rfl⟩

namespace Engine

variable {engine : Engine} {model : Value} {template : String}

theorem renderSource_eq_error {failure : Failure}
    (failed : engine.renderSource template model = .error failure) :
    (∃ reason, Document.parse template = .error reason ∧ failure = .parse reason template) ∨
      ∃ (document : Document) (reason : RenderError),
        engine.toEnvironment.render model document.roots = .error reason ∧
          failure = .render reason := by
  unfold renderSource at failed
  rcases Except.bind_eq_error_iff.mp failed with unread | ⟨document, -, failed⟩
  · unfold parse at unread
    cases parsed : Document.parse template with
    | ok document => rw [parsed] at unread; cases unread
    | error reason =>
      rw [parsed] at unread
      cases unread
      exact Or.inl ⟨reason, rfl, rfl⟩
  · unfold render at failed
    cases rendered : engine.toEnvironment.render model document.roots with
    | ok html => rw [rendered] at failed; cases failed
    | error reason =>
      rw [rendered] at failed
      cases failed
      exact Or.inr ⟨document, reason, rendered, rfl⟩

/-- A view that is malformed is the innermost one, and its own source is passed on. -/
theorem quotes_of_viewMalformed {document : Document} {view source : String} {reason : ParseError}
    (failed : engine.toEnvironment.render model document.roots =
      .error (.viewMalformed view reason source)) :
    engine.Quotes template source (.render (.viewMalformed view reason source)) := by
  cases Environment.culprit_of_renderAll_includeView maxInclusion failed with
  | statement reaches explains => exact explains.2

/-- Whatever keeps a template from being read is told of places in it. Whatever keeps a page from
being made is reported: either the failure quotes a text, and every report shows it and has its
labels within it, or no report has labels. -/
theorem reports_point_into_source (template : String) :
    (∀ reason, Document.parse template = .error reason → reason.IsAbout template) ∧
    ∀ (engine : Engine) (model : Value) (failure : Failure),
      engine.renderSource template model = .error failure →
        failure.reports ≠ [] ∧
          ((∃ text, engine.Quotes template text failure ∧
              ∀ report ∈ failure.reports, report.PointsInto text) ∨
            ((∀ text, ¬engine.Quotes template text failure) ∧
              ∀ report ∈ failure.reports, report.labels = [])) := by
  refine ⟨fun reason failed => ParseError.isAbout_of_parse failed, ?_⟩
  intro engine model failure failed
  rcases renderSource_eq_error failed with ⟨reason, unread, rfl⟩ |
    ⟨document, reason, unrendered, rfl⟩
  · have about := ParseError.isAbout_of_parse unread
    obtain ⟨nonempty, each⟩ := Report.pointsInto_of_isAbout about none
    exact ⟨nonempty, Or.inl ⟨_, ⟨rfl, unread⟩, each⟩⟩
  · by_cases malformed : ∃ view cause source, reason = .viewMalformed view cause source
    · obtain ⟨view, cause, source, rfl⟩ := malformed
      have quotes : engine.Quotes template source (.render (.viewMalformed view cause source)) :=
        quotes_of_viewMalformed unrendered
      have about := ParseError.isAbout_of_parse quotes.2
      obtain ⟨nonempty, each⟩ := Report.pointsInto_of_isAbout about (some view)
      exact ⟨nonempty, Or.inl ⟨_, quotes, each⟩⟩
    · obtain ⟨unquoted, report, only, unlabelled⟩ := Failure.reports_of_not_viewMalformed
        fun view cause source same => malformed ⟨view, cause, source, same⟩
      rw [only]
      exact ⟨by simp, Or.inr ⟨unquoted engine template, List.forall_mem_singleton.mpr unlabelled⟩⟩

/-- A view with characters of two bytes that cannot be read, in a view in a template. -/
theorem reports_point_into_source_nested :
    let engine : Engine :=
      { registry := .ofSteps [.builtins, .elements ["p"]], binders := .standard
        views := .ofTexts [("card", "p > partial(note)"), ("note", "é $ ö(")], settings := {} }
    let reason : ParseError := ⟨[(Flaw.stray '$').diagnostic (.ofSize 3 1)]⟩
    let failure : Failure := .render (.viewMalformed "note" reason "é $ ö(")
    (Document.parse "é $ ö(" = .error reason ∧ reason.IsAbout "é $ ö(") ∧
      engine.renderSource "partial(card)" .null = .error failure ∧
        failure.reports ≠ [] ∧
          ((∃ text, engine.Quotes "partial(card)" text failure ∧
              ∀ report ∈ failure.reports, report.PointsInto text) ∨
            ((∀ text, ¬engine.Quotes "partial(card)" text failure) ∧
              ∀ report ∈ failure.reports, report.labels = [])) := by
  intro engine reason failure
  have unread : Document.parse "é $ ö(" = .error reason := by decide +kernel
  have failed : engine.renderSource "partial(card)" .null = .error failure := by decide +kernel
  have view := reports_point_into_source "é $ ö("
  have template := reports_point_into_source "partial(card)"
  exact ⟨⟨unread, view.1 reason unread⟩, failed, template.2 engine .null failure failed⟩

end Engine

end HtmlTemplate
