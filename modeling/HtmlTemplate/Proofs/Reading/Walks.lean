import HtmlTemplate.Proofs.Grammar.Levels
import HtmlTemplate.Proofs.Reading.Places
import HtmlTemplate.Proofs.Reading.Steps

/-!
# Walks along a derivation

A reading that is given the tokens of a derivation takes one after the other and knows at each how
many levels are open, up to the first token that opens a level too deep. `Reading.Walks` says so of
the tokens that are left, whether or not one of them is too deep, and what it says carries over to
lexemes with white space among them (`Walks.steps_front`). A walk along tokens of which none is too
deep reads them all (`Walks.read`).
-/

set_option autoImplicit false

namespace HtmlTemplate

open Grammar

namespace Reading

/-! ## The greatest depth -/

/-- The statement under way may have no level below it, for the greatest depth is reached. -/
structure Full (r : Reading) : Prop where
  statement : ∃ d, r.place = .statement d ∧ d.part ≠ .children
  depth : maxNesting ≤ r.enclosing.length

variable {r r' : Reading} {l : Lexeme} {fault : Fault}

theorem step_of_full (full : r.Full) (opens : l.token.opensLevel = true) :
    r.step l = .error (.tooDeep l.span) := by
  obtain ⟨enclosing, level, place⟩ := r
  obtain ⟨⟨d, rfl, part⟩, deep⟩ := full
  have deep : maxNesting ≤ enclosing.length := deep
  obtain ⟨name, parameters, attributes, children, part', joined⟩ := d
  unfold Token.opensLevel at opens
  split at opens
  · next token =>
    have visible := Lexeme.isWhiteSpace_of_token rfl token
    cases part' with
    | children => exact (part rfl).elim
    | _ => simp [step, visible, stepStatement, token, descend, deep]
  · next token =>
    have visible := Lexeme.isWhiteSpace_of_token rfl token
    cases part' with
    | children => exact (part rfl).elim
    | _ => simp [step, visible, stepStatement, token, descend, deep]
  · cases opens

theorem length_enclosing_of_erase (same : r'.erase = r.erase) :
    r'.enclosing.length = r.enclosing.length := by
  have enclosing := congrArg (fun r => r.enclosing.length) same
  simpa [erase] using enclosing

theorem Full.of_erase (full : r.Full) (same : r'.erase = r.erase) : r'.Full := by
  obtain ⟨⟨d, here, part⟩, depth⟩ := full
  refine ⟨⟨d, ?_, part⟩, by rwa [length_enclosing_of_erase same]⟩
  have place : r'.place.erase = .statement d := by
    rw [show r'.place.erase = r.place.erase from congrArg Reading.place same, here]
    rfl
  cases there : r'.place with
  | statement d' =>
    rw [there] at place
    exact place
  | _ =>
    rw [there] at place
    cases place

/-! ## In front of a name or a closing brace -/

/-- The statement under way is over in front of a token that cannot belong to it. -/
theorem step_settled {token : Token} {rest : List Token} (ends : EndsChain (token :: rest))
    (r : Reading) : r.settled.step (.bare token) = r.step (.bare token) := by
  obtain ⟨enclosing, level, place⟩ := r
  cases place with
  | statement d =>
    have place := settle_place d enclosing level
    cases token with
    | identifier name =>
      rw [settled, step, place]
      rfl
    | mark mark =>
      cases mark with
      | closeBrace =>
        rw [settled, step, place]
        rfl
      | _ => exact ends.elim
    | _ => exact ends.elim
  | _ => rfl

theorem read_settled {rest : List Token} (ends : EndsChain rest) (r : Reading) :
    r.settled.read rest = r.read rest := by
  cases rest with
  | nil => rw [read, read, finish_settled]
  | cons token rest => rw [read, read, step_settled ends]

theorem plain_of_endsChain {token : Token} {rest : List Token} (ends : EndsChain (token :: rest)) :
    token.opensLevel = false := by
  cases token with
  | mark mark =>
    cases mark with
    | openBrace | greaterThan => exact ends.elim
    | _ => rfl
  | _ => rfl

/-! ## Walks -/

/-- The tokens are read one after the other, with as many levels open behind each as there are
behind it in the derivation, up to the first one that opens a level too deep. If there is none, the
reading behind all of them has the property. -/
inductive Walks (post : Reading → Prop) : Reading → List Leveled → Prop
  | done {r : Reading} (reached : post r) : Walks post r []
  | goes {r next : Reading} {t : Leveled} {ts : List Leveled} (shallow : t.Shallow)
      (stepped : r.step (.bare t.token) = .ok next)
      (depth : next.enclosing.length = t.behind) (further : Walks post next ts) :
      Walks post r (t :: ts)
  | stops {r : Reading} {t : Leveled} {ts : List Leveled} (opens : t.token.opensLevel = true)
      (depth : r.enclosing.length = t.depth) (full : r.Full) : Walks post r (t :: ts)

namespace Walks

variable {post : Reading → Prop} {next : Reading} {token : Token} {t : Leveled}
  {ts front more : List Leveled}

theorem plain {depth : Nat} (opensLevel : token.opensLevel = false)
    (stepped : r.step (.bare token) = .ok next) (same : next.enclosing.length = depth)
    (further : Walks post next ts) : Walks post r (⟨token, depth⟩ :: ts) := by
  refine .goes (Leveled.shallow_of_plain opensLevel) stepped ?_ further
  simp [Leveled.behind, opensLevel, same]

/-- The sign of a level is read or the walk stops at it, as there is room for the level or not. -/
theorem level {enclosing : List Enclosing} {level inner : Level} {d : Draft} {place : Place}
    (opens : token.opensLevel = true) (part : d.part ≠ .children)
    (stepped : enclosing.length < maxNesting →
      step ⟨enclosing, level, .statement d⟩ (.bare token) =
        .ok ⟨⟨level, d⟩ :: enclosing, inner, place⟩)
    (further : enclosing.length < maxNesting →
      Walks post ⟨⟨level, d⟩ :: enclosing, inner, place⟩ ts) :
    Walks post ⟨enclosing, level, .statement d⟩ (⟨token, enclosing.length⟩ :: ts) := by
  by_cases shallow : enclosing.length < maxNesting
  · refine .goes (fun _ => shallow) (stepped shallow) ?_ (further shallow)
    simp [Leveled.behind, opens]
  · exact .stops opens rfl ⟨⟨d, rfl, part⟩, Nat.le_of_not_lt shallow⟩

/-- In front of a name or a closing brace it does not matter whether the statement under way is
over. -/
theorem of_settled {rest : List Token} (tokens : ts.map (·.token) = token :: rest)
    (ends : EndsChain (token :: rest)) (walks : Walks post r.settled ts) : Walks post r ts := by
  obtain ⟨t, ts, rfl, rfl, rfl⟩ := List.map_eq_cons_iff.mp tokens
  cases walks with
  | goes shallow stepped depth further =>
    rw [step_settled ends] at stepped
    exact .goes shallow stepped depth further
  | stops opens depth full => cases (plain_of_endsChain ends).symm.trans opens

theorem exists_step (walks : Walks post r (t :: ts)) (shallow : t.Shallow) :
    ∃ next, r.step (.bare t.token) = .ok next ∧ next.enclosing.length = t.behind ∧
      Walks post next ts := by
  cases walks with
  | goes _ stepped depth further => exact ⟨_, stepped, depth, further⟩
  | stops opens depth full =>
    have room := shallow opens
    have deep := full.depth
    omega

theorem full_of_deep (walks : Walks post r (t :: ts)) (deep : ¬t.Shallow) :
    t.token.opensLevel = true ∧ r.enclosing.length = t.depth ∧ r.Full := by
  cases walks with
  | goes shallow => exact (deep shallow).elim
  | stops opens depth full => exact ⟨opens, depth, full⟩

/-- A walk goes on to a lexeme of the next token if that is not too deep. -/
theorem exists_step_lexeme (walks : Walks post r (t :: ts)) (shallow : t.Shallow)
    (same : r'.erase = r.erase) (token : l.token = t.token) :
    ∃ q q', r'.step l = .ok q' ∧ q'.erase = q.erase ∧ q.enclosing.length = t.behind ∧
      Walks post q ts := by
  obtain ⟨next, stepped, depth, further⟩ := walks.exists_step shallow
  have alike : Alike (r'.step l) (r.step (.bare t.token)) := alike_step same token
  rcases alike.error_or_ok with ⟨_, _, -, failed⟩ | ⟨q', q, ok, ok', alike⟩
  · cases stepped.symm.trans failed
  · cases stepped.symm.trans ok'
    exact ⟨next, q', ok, alike, depth, further⟩

/-- A walk along tokens that are not too deep goes through all of them, whatever white space stands
among them. -/
theorem steps_front {before : List Lexeme} (walks : Walks post r (front ++ more))
    (shallow : ∀ t ∈ front, t.Shallow) (same : r'.erase = r.erase)
    (yield : significant before = front.map (·.token)) :
    ∃ q q', r'.steps before = .ok q' ∧ q'.erase = q.erase ∧ Walks post q more := by
  induction before generalizing r r' front with
  | nil =>
    obtain rfl : front = [] := List.map_eq_nil_iff.mp yield.symm
    exact ⟨r, r', rfl, same, walks⟩
  | cons l before ih =>
    cases white : l.isWhiteSpace with
    | true =>
      have passed : r'.step l = .ok (r'.skip l.span) := if_pos white
      rw [significant_cons_of_whiteSpace l.span before white] at yield
      rw [steps_cons, passed]
      exact ih walks shallow ((erase_skip r' l.span).trans same) yield
    | false =>
      rw [significant_cons_of_visible l.span before white] at yield
      obtain ⟨t, front, rfl, token, yield⟩ := List.map_eq_cons_iff.mp yield.symm
      obtain ⟨here, later⟩ := List.forall_mem_cons.mp shallow
      obtain ⟨q, q', stepped, alike, -, further⟩ :=
        walks.exists_step_lexeme here same token.symm
      rw [steps_cons, stepped]
      exact ih further later alike yield.symm

theorem read (walks : Walks post r ts) (shallow : ∀ t ∈ ts, t.Shallow) :
    ∃ next, post next ∧ ∀ rest, r.read (ts.map (·.token) ++ rest) = next.read rest := by
  induction ts generalizing r with
  | nil =>
    cases walks with
    | done reached => exact ⟨r, reached, fun _ => rfl⟩
  | cons t ts ih =>
    obtain ⟨here, later⟩ := List.forall_mem_cons.mp shallow
    obtain ⟨next, stepped, -, further⟩ := walks.exists_step here
    obtain ⟨last, reached, reads⟩ := ih further later
    refine ⟨last, reached, fun rest => ?_⟩
    rw [List.map_cons, List.cons_append, Reading.read, stepped]
    exact reads rest

end Walks

end Reading

end HtmlTemplate
