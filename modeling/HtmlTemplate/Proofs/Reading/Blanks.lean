import HtmlTemplate.Proofs.Outcome
import HtmlTemplate.Reading

/-!
# White space between lexemes

White space does nothing to a reading but set where an incomplete construct begins, behind `>`, `+`
and a key. Two readings that differ in nothing else (`Reading.forgetSince`) take the same steps and
fail with the same faults, and how they end differs in what an incomplete construct covers only
(`Fault.forgetExtent`). So lexemes can be read with white space left out of them
(`ofLexemes_withoutBlanks`), and lexemes that are the same without it are read alike.
-/

set_option autoImplicit false

namespace HtmlTemplate

/-- The lexemes other than white space. -/
def withoutBlanks (ls : List Lexeme) : List Lexeme :=
  ls.filter fun l => !l.isWhiteSpace

theorem withoutBlanks_cons_of_blank {l : Lexeme} (rest : List Lexeme)
    (blank : l.isWhiteSpace = true) : withoutBlanks (l :: rest) = withoutBlanks rest := by
  simp [withoutBlanks, blank]

theorem withoutBlanks_cons_of_visible {l : Lexeme} (rest : List Lexeme)
    (visible : l.isWhiteSpace = false) :
    withoutBlanks (l :: rest) = l :: withoutBlanks rest := by
  simp [withoutBlanks, visible]

/-- The last lexeme that is not white space is the last one when white space is left out. -/
theorem Document.lastSpan_withoutBlanks {ls : List Lexeme} (nonempty : withoutBlanks ls ≠ []) :
    Document.lastSpan (withoutBlanks ls) = Document.lastSpan ls := by
  have last : ∀ ls : List Lexeme,
      (ls.reverse.find? fun l => !l.isWhiteSpace) = (withoutBlanks ls).getLast? := by
    intro ls
    rw [withoutBlanks, ← List.head?_filter, List.filter_reverse, List.head?_reverse]
  have twice : withoutBlanks (withoutBlanks ls) = withoutBlanks ls := by
    simp [withoutBlanks]
  unfold Document.lastSpan
  rw [last, last, twice, List.getLast?_eq_some_getLast nonempty]
  rfl

/-! ## Readings up to where an incomplete construct begins -/

def Place.forgetSince : Place → Place
  | .awaiting joined _ => .awaiting joined none
  | .attributes draft opener (.afterKey key _) => .attributes draft opener (.afterKey key none)
  | .attributes draft opener (.afterEqual key _) => .attributes draft opener (.afterEqual key none)
  | place => place

/-- The fault, whatever an incomplete construct covers. -/
def Fault.forgetExtent : Fault → Fault
  | .incomplete expected _ => .incomplete expected default
  | fault => fault

namespace Reading

/-- The reading without what tells where an incomplete construct begins. -/
def forgetSince (r : Reading) : Reading :=
  { r with place := r.place.forgetSince }

theorem forgetSince_skip (r : Reading) (span : Span) :
    (r.skip span).forgetSince = r.forgetSince := by
  obtain ⟨enclosing, level, place⟩ := r
  rcases place with _ | _ | _ | _ | ⟨_, _, _ | _ | _ | _ | _⟩ <;> rfl

theorem step_of_blank (r : Reading) {l : Lexeme} (blank : l.isWhiteSpace = true) :
    r.step l = .ok (r.skip l.span) := by
  rw [step, if_pos blank]

/-- A step does not depend on where an incomplete construct begins. -/
theorem step_forgetSince (r : Reading) {l : Lexeme} (visible : l.isWhiteSpace = false) :
    (r.forgetSince.step l).map forgetSince = (r.step l).map forgetSince := by
  have seen : ¬l.isWhiteSpace = true := by simp [visible]
  obtain ⟨enclosing, level, place⟩ := r
  -- Only the places that keep a span are changed by forgetting it.
  cases place with
  | between => rfl
  | statement d => rfl
  | parameters d opener place => rfl
  | awaiting joined since =>
    rw [step, step, if_neg seen, if_neg seen]
    dsimp only [forgetSince, Place.forgetSince]
    cases l.token <;> rfl
  | attributes d opener place =>
    cases place with
    | start => rfl
    | afterValue => rfl
    | afterComma comma => rfl
    | afterKey key since =>
      rw [step, step, if_neg seen, if_neg seen]
      dsimp only [forgetSince, Place.forgetSince, stepAttributes]
      split <;> rfl
    | afterEqual key since =>
      rw [step, step, if_neg seen, if_neg seen]
      dsimp only [forgetSince, Place.forgetSince, stepAttributes]
      cases Parameter.ofToken? l.token <;> rfl

theorem step_congr_forgetSince {a b : Reading} {l : Lexeme} (visible : l.isWhiteSpace = false)
    (same : a.forgetSince = b.forgetSince) :
    (a.step l).map forgetSince = (b.step l).map forgetSince := by
  rw [← step_forgetSince a visible, ← step_forgetSince b visible, same]

/-- Readings that differ in where an incomplete construct begins take the same steps, whether they
are given the white space or not. -/
theorem steps_withoutBlanks (ls : List Lexeme) {a b : Reading}
    (same : a.forgetSince = b.forgetSince) :
    (a.steps ls).map forgetSince = (b.steps (withoutBlanks ls)).map forgetSince := by
  unfold steps
  induction ls generalizing a b with
  | nil => exact congrArg Except.ok same
  | cons l rest ih =>
    cases blank : l.isWhiteSpace with
    | true =>
      rw [withoutBlanks_cons_of_blank rest blank, List.foldlM_cons, step_of_blank a blank]
      exact ih ((forgetSince_skip a l.span).trans same)
    | false =>
      rw [withoutBlanks_cons_of_visible rest blank, List.foldlM_cons, List.foldlM_cons]
      rcases Except.map_eq_map_iff.mp (step_congr_forgetSince blank same) with
        ⟨fault, failed, failed'⟩ | ⟨next, next', stepped, stepped', same'⟩
      · rw [failed, failed']
        rfl
      · rw [stepped, stepped']
        exact ih same'

theorem finish_forgetSince (r : Reading) (last : Span) :
    (r.forgetSince.finish last).mapError Fault.forgetExtent =
      (r.finish last).mapError Fault.forgetExtent := by
  obtain ⟨enclosing, level, place⟩ := r
  rcases place with _ | _ | _ | _ | ⟨_, _, _ | _ | _ | _ | _⟩ <;> rfl

theorem finish_congr_forgetSince {a b : Reading} (same : a.forgetSince = b.forgetSince)
    (last : Span) :
    (a.finish last).mapError Fault.forgetExtent = (b.finish last).mapError Fault.forgetExtent := by
  rw [← finish_forgetSince a last, ← finish_forgetSince b last, same]

end Reading

/-! ## Documents -/

namespace Document

/-- Lexemes are read as they are read without the white space among them. -/
theorem ofLexemes_withoutBlanks (ls : List Lexeme) :
    (ofLexemes ls).mapError Fault.forgetExtent =
      (ofLexemes (withoutBlanks ls)).mapError Fault.forgetExtent := by
  have steps := Reading.steps_withoutBlanks ls (rfl : Reading.start.forgetSince = _)
  unfold ofLexemes
  rcases Except.map_eq_map_iff.mp steps with ⟨fault, failed, failed'⟩ | ⟨a, b, read, read', same⟩
  · rw [failed, failed']
    rfl
  · rw [read, read']
    by_cases empty : withoutBlanks ls = []
    · -- Nothing has been read, and a document may end here whatever the last span is.
      rw [empty] at read'
      cases read'
      exact Reading.finish_congr_forgetSince same (lastSpan ls)
    · have ended := Reading.finish_congr_forgetSince same (lastSpan ls)
      rw [← lastSpan_withoutBlanks empty] at ended
      rw [← lastSpan_withoutBlanks empty]
      exact ended

end Document

/-- The faults are told with the same code, message and advice, and at the same places unless the
input is incomplete. -/
structure Fault.ToldAlike (fault fault' : Fault) : Prop where
  code : fault.diagnostic.code = fault'.diagnostic.code
  message : fault.diagnostic.message = fault'.diagnostic.message
  help : fault.diagnostic.help = fault'.diagnostic.help
  labels : fault.diagnostic.code ≠ some .incompleteInput →
    fault.diagnostic.labels = fault'.diagnostic.labels

theorem Fault.ToldAlike.symm {fault fault' : Fault} (alike : fault.ToldAlike fault') :
    fault'.ToldAlike fault where
  code := alike.code.symm
  message := alike.message.symm
  help := alike.help.symm
  labels := fun complete => (alike.labels (alike.code ▸ complete)).symm

theorem Fault.ToldAlike.trans {a b c : Fault} (first : a.ToldAlike b) (second : b.ToldAlike c) :
    a.ToldAlike c where
  code := first.code.trans second.code
  message := first.message.trans second.message
  help := first.help.trans second.help
  labels := fun complete =>
    (first.labels complete).trans (second.labels (first.code ▸ complete))

theorem Fault.toldAlike_forgetExtent (fault : Fault) : fault.forgetExtent.ToldAlike fault := by
  cases fault with
  | incomplete expected span => exact ⟨rfl, rfl, rfl, fun complete => (complete rfl).elim⟩
  | _ => exact ⟨rfl, rfl, rfl, fun _ => rfl⟩

/-- Lexemes that are the same without white space form the same document, or fail with faults that
are told alike. -/
theorem ofLexemes_congr_withoutBlanks {ls ls' : List Lexeme}
    (same : withoutBlanks ls = withoutBlanks ls') :
    (∃ document, Document.ofLexemes ls = .ok document ∧
        Document.ofLexemes ls' = .ok document) ∨
      ∃ fault fault', Document.ofLexemes ls = .error fault ∧
        Document.ofLexemes ls' = .error fault' ∧ fault.ToldAlike fault' := by
  have alike : (Document.ofLexemes ls).mapError Fault.forgetExtent =
      (Document.ofLexemes ls').mapError Fault.forgetExtent := by
    rw [Document.ofLexemes_withoutBlanks ls, same, ← Document.ofLexemes_withoutBlanks ls']
  rcases Except.mapError_eq_mapError_iff.mp alike with
    formed | ⟨fault, fault', failed, failed', forgotten⟩
  · exact Or.inl formed
  · have told : fault.ToldAlike fault'.forgetExtent :=
      forgotten ▸ fault.toldAlike_forgetExtent.symm
    exact Or.inr ⟨fault, fault', failed, failed', told.trans fault'.toldAlike_forgetExtent⟩

/-- A key without a value, with a line end behind the key or not. The fault begins at the line end
where there is one, and in all else the two faults are told alike. -/
theorem ofLexemes_congr_withoutBlanks_key :
    let p : Lexeme := ⟨.identifier "p", .ofSize 0 1⟩
    let opener : Lexeme := ⟨.mark .openBracket, .ofSize 1 1⟩
    let key : Lexeme := ⟨.identifier "title", .ofSize 2 5⟩
    let blank : Lexeme := ⟨.whiteSpace "\n", .ofSize 7 1⟩
    let equal : Lexeme := ⟨.mark .equal, .ofSize 8 1⟩
    let ls := [p, opener, key, blank, equal]
    let ls' := [p, blank, opener, key, equal, blank]
    let fault := Fault.incomplete [.value] (.ofSize 7 2)
    let fault' := Fault.incomplete [.value] (.ofSize 8 1)
    withoutBlanks ls = withoutBlanks ls' ∧ Document.ofLexemes ls = .error fault ∧
      Document.ofLexemes ls' = .error fault' ∧ fault.ToldAlike fault' ∧
      fault.diagnostic.labels ≠ fault'.diagnostic.labels := by
  intro p opener key blank equal ls ls' fault fault'
  have same : withoutBlanks ls = withoutBlanks ls' := by decide
  have read : Document.ofLexemes ls = .error fault := rfl
  have read' : Document.ofLexemes ls' = .error fault' := rfl
  rcases ofLexemes_congr_withoutBlanks same with
    ⟨document, formed, -⟩ | ⟨other, other', failed, failed', alike⟩
  · cases read.symm.trans formed
  · obtain rfl : fault = other := Except.error.inj (read.symm.trans failed)
    obtain rfl : fault' = other' := Except.error.inj (read'.symm.trans failed')
    exact ⟨same, read, read', alike, by decide⟩

end HtmlTemplate
