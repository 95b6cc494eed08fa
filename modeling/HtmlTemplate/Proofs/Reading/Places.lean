import HtmlTemplate.Reading

/-!
# Readings without places in the source

A reading keeps spans for its faults, and white space does nothing but set where a fault begins.
Whether lexemes form a document, and which one, depends on neither: a reading of which the places
are erased goes through the same states. So the document is a function of the tokens other than
white space (`toOption_ofLexemes`), and further facts about documents are stated about
`Reading.read`, which reads tokens.
-/

set_option autoImplicit false

namespace HtmlTemplate

/-- A token at no place in particular. -/
def Lexeme.bare (token : Token) : Lexeme :=
  ⟨token, default⟩

/-- The tokens of lexemes, white space left out. -/
def significant (ls : List Lexeme) : List Token :=
  (ls.filter fun l => !l.isWhiteSpace).map (·.token)

theorem significant_cons_of_whiteSpace {token : Token} (span : Span) (rest : List Lexeme)
    (white : token.isWhiteSpace = true) :
    significant (⟨token, span⟩ :: rest) = significant rest := by
  simp [significant, Lexeme.isWhiteSpace, white]

theorem significant_cons_of_visible {token : Token} (span : Span) (rest : List Lexeme)
    (visible : token.isWhiteSpace = false) :
    significant (⟨token, span⟩ :: rest) = token :: significant rest := by
  simp [significant, Lexeme.isWhiteSpace, visible]

def Opening.erase : Opening → Opening
  | .block _ => .block default
  | opening => opening

def Level.erase (level : Level) : Level :=
  { level with opening := level.opening.erase }

def Enclosing.erase (e : Enclosing) : Enclosing :=
  { e with level := e.level.erase }

def ParameterPlace.erase : ParameterPlace → ParameterPlace
  | .afterComma _ => .afterComma (.bare (.mark .comma))
  | place => place

def AttributePlace.erase : AttributePlace → AttributePlace
  | .afterKey key _ => .afterKey key none
  | .afterEqual key _ => .afterEqual key none
  | .afterComma _ => .afterComma (.bare (.mark .comma))
  | place => place

def Place.erase : Place → Place
  | .awaiting joined _ => .awaiting joined none
  | .parameters draft _ place => .parameters draft default place.erase
  | .attributes draft _ place => .attributes draft default place.erase
  | place => place

@[simp] theorem Opening.erase_eq_chain_iff {opening : Opening} :
    opening.erase = .chain ↔ opening = .chain := by
  cases opening <;> simp [Opening.erase]

@[simp] theorem Opening.erase_erase (opening : Opening) : opening.erase.erase = opening.erase := by
  cases opening <;> rfl

@[simp] theorem Level.erase_erase (level : Level) : level.erase.erase = level.erase := by
  simp [Level.erase]

@[simp] theorem Enclosing.erase_erase (e : Enclosing) : e.erase.erase = e.erase := by
  simp [Enclosing.erase]

@[simp] theorem Place.erase_erase (place : Place) : place.erase.erase = place.erase := by
  rcases place with _ | _ | _ | ⟨_, _, _ | _ | _⟩ | ⟨_, _, _ | _ | _ | _ | _⟩ <;> rfl

namespace Reading

/-- The reading without anything that only tells where faults are. -/
def erase (r : Reading) : Reading :=
  ⟨r.enclosing.map Enclosing.erase, r.level.erase, r.place.erase⟩

@[simp] theorem erase_erase (r : Reading) : r.erase.erase = r.erase := by
  simp [erase, Function.comp_def]

/-- Both steps fail, or both succeed and come to the same reading up to places. -/
def Alike (a b : Except Fault Reading) : Prop :=
  a.toOption.map erase = b.toOption.map erase

theorem alike_ok {a b : Reading} (same : a.erase = b.erase) : Alike (.ok a) (.ok b) :=
  congrArg some same

theorem alike_error (a b : Fault) : Alike (.error a) (.error b) := rfl

theorem Alike.error_or_ok {a b : Except Fault Reading} (alike : Alike a b) :
    (∃ fault fault', a = .error fault ∧ b = .error fault') ∨
      ∃ r r', a = .ok r ∧ b = .ok r' ∧ r.erase = r'.erase := by
  cases a with
  | error fault =>
    cases b with
    | error fault' => exact Or.inl ⟨fault, fault', rfl, rfl⟩
    | ok r' => cases alike
  | ok r =>
    cases b with
    | error fault' => cases alike
    | ok r' => exact Or.inr ⟨r, r', rfl, rfl, Option.some.inj alike⟩

theorem settle_erase (draft : Draft) : ∀ (enclosing : List Enclosing) (level : Level),
    (settle level draft enclosing).erase =
      settle level.erase draft (enclosing.map Enclosing.erase)
  | [], level => rfl
  | e :: rest, level => by
    simp only [List.map_cons, settle]
    by_cases chain : level.opening = .chain
    · have chain' : level.erase.opening = .chain := Opening.erase_eq_chain_iff.mpr chain
      rw [if_pos chain, if_pos chain', settle_erase _ rest]
      rfl
    · have chain' : level.erase.opening ≠ .chain := fun h =>
        chain (Opening.erase_eq_chain_iff.mp h)
      rw [if_neg chain, if_neg chain']
      rfl

theorem begin_erase (r : Reading) (name : String) (span span' : Span) (joined : Bool) :
    Alike (r.begin name span joined) (r.erase.begin name span' joined) := by
  unfold begin
  cases Shorthand.expand name with
  | ok shorthand => exact alike_ok (by simp [erase, Place.erase, Function.comp_def])
  | error reason => exact alike_error _ _

theorem descend_erase (r : Reading) (draft : Draft) (opening opening' : Opening)
    (place place' : Place) (span span' : Span) (sameOpening : opening.erase = opening'.erase)
    (samePlace : place.erase = place'.erase) :
    Alike (r.descend draft opening place span) (r.erase.descend draft opening' place' span') := by
  unfold descend
  have depth : r.erase.enclosing.length = r.enclosing.length := by simp [erase]
  rw [depth]
  split
  · exact alike_error _ _
  · apply alike_ok
    simp [erase, Enclosing.erase, Level.erase, Function.comp_def, sameOpening, samePlace]

theorem stepBetween_erase (r : Reading) (l l' : Lexeme) (same : l.token = l'.token) :
    Alike (r.stepBetween l) (r.erase.stepBetween l') := by
  obtain ⟨enclosing, ⟨opening, finished⟩, place⟩ := r
  unfold stepBetween
  rw [← same]
  cases l.token with
  | identifier name => exact begin_erase _ name l.span l'.span false
  | mark mark =>
    cases mark with
    | closeBrace =>
      cases opening with
      | block brace =>
        cases enclosing with
        | nil => exact alike_error _ _
        | cons e rest =>
          apply alike_ok
          simp [erase, Level.erase, Enclosing.erase, Place.erase, Function.comp_def]
      | document => exact alike_error _ _
      | chain => exact alike_error _ _
    | _ => exact alike_error _ _
  | _ => exact alike_error _ _

theorem stepStatement_erase (r : Reading) (d : Draft) (l l' : Lexeme)
    (same : l.token = l'.token) :
    Alike (r.stepStatement d l) (r.erase.stepStatement d l') := by
  have settled : Alike ((settle r.level d r.enclosing).stepBetween l)
      ((settle r.erase.level d r.erase.enclosing).stepBetween l') := by
    have := stepBetween_erase (settle r.level d r.enclosing) l l' same
    rw [settle_erase] at this
    exact this
  unfold stepStatement
  rw [← same]
  cases l.token with
  | mark mark =>
    cases mark with
    | openParen =>
      cases d.part with
      | name =>
        exact alike_ok (by simp [erase, Place.erase, ParameterPlace.erase, Function.comp_def])
      | _ => exact settled
    | openBracket =>
      have opened : Alike (.ok { r with place := .attributes d l.span .start })
          (.ok { r.erase with place := .attributes d l'.span .start }) :=
        alike_ok (by simp [erase, Place.erase, AttributePlace.erase, Function.comp_def])
      cases d.part with
      | name | parameters => exact opened
      | _ => exact settled
    | openBrace =>
      have descended := descend_erase r d (.block l.span) (.block l'.span) .between .between l.span
        l'.span rfl rfl
      cases d.part with
      | children => exact settled
      | _ => exact descended
    | greaterThan =>
      have descended := descend_erase r d .chain .chain (.awaiting false none)
        (.awaiting false none) l.span l'.span rfl rfl
      cases d.part with
      | children => exact settled
      | _ => exact descended
    | plus =>
      apply alike_ok
      simp [erase, Level.erase, Place.erase, Function.comp_def]
    | _ => exact settled
  | _ => exact settled

/-- A step that stays on its level comes to the place that it comes to in an erased reading. -/
theorem alike_place (r : Reading) {place place' : Place} (same : place.erase = place'.erase) :
    Alike (.ok { r with place }) (.ok { r.erase with place := place' }) :=
  alike_ok (by simp [erase, Function.comp_def, same])

theorem stepParameters_erase (r : Reading) (d : Draft) (opener : Span) (place : ParameterPlace)
    (l l' : Lexeme) (same : l.token = l'.token) :
    Alike (r.stepParameters d opener place l)
      (r.erase.stepParameters d default place.erase l') := by
  unfold stepParameters
  cases place with
  | start =>
    simp only [ParameterPlace.erase, ← same]
    cases Parameter.ofToken? l.token with
    | some parameter => exact alike_place r rfl
    | none =>
      dsimp only
      split
      · exact alike_place r rfl
      · exact alike_error _ _
  | afterValue =>
    simp only [ParameterPlace.erase, ← same]
    split
    · exact alike_place r rfl
    · split
      · exact alike_place r rfl
      · exact alike_error _ _
  | afterComma comma =>
    simp only [ParameterPlace.erase, ← same]
    cases Parameter.ofToken? l.token with
    | some parameter => exact alike_place r rfl
    | none => exact alike_error _ _

theorem stepAttributes_erase (r : Reading) (d : Draft) (opener : Span) (place : AttributePlace)
    (l l' : Lexeme) (same : l.token = l'.token) :
    Alike (r.stepAttributes d opener place l)
      (r.erase.stepAttributes d default place.erase l') := by
  unfold stepAttributes
  cases place with
  | start =>
    simp only [AttributePlace.erase, ← same]
    cases l.token with
    | identifier key => exact alike_place r rfl
    | mark mark => cases mark with
      | closeBracket => exact alike_place r rfl
      | _ => exact alike_error _ _
    | _ => exact alike_error _ _
  | afterKey key since =>
    simp only [AttributePlace.erase, ← same]
    split
    · exact alike_place r rfl
    · exact alike_error _ _
  | afterEqual key since =>
    simp only [AttributePlace.erase, ← same]
    cases Parameter.ofToken? l.token with
    | some value => exact alike_place r rfl
    | none => exact alike_error _ _
  | afterValue =>
    simp only [AttributePlace.erase, ← same]
    split
    · exact alike_place r rfl
    · split
      · exact alike_place r rfl
      · exact alike_error _ _
  | afterComma comma =>
    simp only [AttributePlace.erase, ← same]
    cases l.token with
    | identifier key => exact alike_place r rfl
    | _ => exact alike_error _ _

theorem erase_skip (r : Reading) (span : Span) : (r.skip span).erase = r.erase := by
  obtain ⟨enclosing, level, place⟩ := r
  rcases place with _ | _ | _ | _ | ⟨_, _, _ | _ | _ | _ | _⟩ <;> rfl

/-- A step takes readings that are the same up to places to such readings. -/
theorem step_erase (r : Reading) (l l' : Lexeme) (same : l.token = l'.token) :
    Alike (r.step l) (r.erase.step l') := by
  unfold step
  have white : l'.isWhiteSpace = l.isWhiteSpace := by
    simp [Lexeme.isWhiteSpace, same]
  rw [white]
  split
  · exact alike_ok (by rw [erase_skip, erase_skip, erase_erase])
  · obtain ⟨enclosing, level, place⟩ := r
    cases place with
    | between => exact stepBetween_erase _ l l' same
    | awaiting joined since =>
      simp only [erase, Place.erase, ← same]
      cases l.token with
      | identifier name => exact begin_erase _ name l.span l'.span joined
      | _ => exact alike_error _ _
    | statement d => exact stepStatement_erase _ d l l' same
    | parameters d opener place => exact stepParameters_erase _ d opener place l l' same
    | attributes d opener place => exact stepAttributes_erase _ d opener place l l' same

theorem finishBetween_erase (r : Reading) (last last' : Span) :
    (r.finishBetween last).toOption = (r.erase.finishBetween last').toOption := by
  obtain ⟨enclosing, ⟨opening, finished⟩, place⟩ := r
  cases opening <;> rfl

/-- Where a reading may end, and with which document, does not depend on places. -/
theorem finish_erase (r : Reading) (last last' : Span) :
    (r.finish last).toOption = (r.erase.finish last').toOption := by
  obtain ⟨enclosing, level, place⟩ := r
  cases place with
  | between => exact finishBetween_erase _ last last'
  | awaiting joined since => rfl
  | statement d =>
    have settled := finishBetween_erase (settle level d enclosing) last last'
    rw [settle_erase] at settled
    exact settled
  | parameters d opener place => cases place <;> rfl
  | attributes d opener place => cases place <;> rfl

/-- Lexemes of one token take readings that are the same up to places to such readings. -/
theorem alike_step {a b : Reading} {l l' : Lexeme} (same : a.erase = b.erase)
    (token : l.token = l'.token) : Alike (a.step l) (b.step l') := by
  have left := step_erase a l l' token
  have right := step_erase b l' l' rfl
  rw [same] at left
  exact left.trans right.symm

/-! ## Reading tokens -/

/-- The document that a reading comes to if these tokens follow. -/
def read : Reading → List Token → Option Document
  | r, [] => (r.finish default).toOption
  | r, token :: rest => (r.step (.bare token)).toOption.bind fun next => next.read rest

theorem read_congr : ∀ {tokens : List Token} {a b : Reading}, a.erase = b.erase →
    a.read tokens = b.read tokens
  | [], a, b, same => by
    rw [read, read, finish_erase a default default, finish_erase b default default, same]
  | token :: rest, a, b, same => by
    rw [read, read]
    rcases (alike_step same rfl).error_or_ok with
      ⟨_, _, failed, failed'⟩ | ⟨a', b', stepped, stepped', same'⟩
    · rw [failed, failed']
      rfl
    · rw [stepped, stepped']
      exact read_congr same'

theorem steps_cons (r : Reading) (l : Lexeme) (rest : List Lexeme) :
    r.steps (l :: rest) = r.step l >>= fun next => next.steps rest := rfl

/-- Reading lexemes comes to the document that reading their tokens comes to. -/
theorem toOption_steps_finish (ls : List Lexeme) (r : Reading) (last : Span) :
    (r.steps ls >>= fun next => next.finish last).toOption = r.read (significant ls) := by
  induction ls generalizing r with
  | nil => exact (finish_erase r last default).trans (finish_erase r default default).symm
  | cons l rest ih =>
    obtain ⟨token, span⟩ := l
    rw [steps_cons]
    cases white : token.isWhiteSpace with
    | true =>
      have passed : r.step ⟨token, span⟩ = .ok (r.skip span) := by
        rw [step]
        exact if_pos white
      rw [passed, significant_cons_of_whiteSpace span rest white, ← read_congr (erase_skip r span)]
      exact ih (r.skip span)
    | false =>
      rw [significant_cons_of_visible span rest white, read]
      have alike : Alike (r.step ⟨token, span⟩) (r.step (.bare token)) := alike_step rfl rfl
      rcases alike.error_or_ok with
        ⟨_, _, failed, failed'⟩ | ⟨next, other, stepped, bare, same⟩
      · rw [failed, failed']
        rfl
      · rw [stepped, bare]
        exact (ih next).trans (read_congr same)

end Reading

/-- The document that lexemes form depends on their tokens other than white space only. -/
theorem toOption_ofLexemes (ls : List Lexeme) :
    (Document.ofLexemes ls).toOption = Reading.start.read (significant ls) :=
  Reading.toOption_steps_finish ls .start _

end HtmlTemplate
