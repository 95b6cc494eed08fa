import HtmlTemplate.Proofs.Reading.Derived

/-!
# The nesting limit

No reading has more levels open than the greatest depth (`Reading.depth_of_steps`), and along a
derivation the levels that a reading has open are those of the derivation, whichever construct
opened them. So the limit is exact.

* a derivation is read to its document if every sign that opens a level has fewer levels than the
  greatest depth around it; otherwise the first sign that has not is reported, and there the
  greatest depth is reached exactly (`formed_or_tooDeep_of_continued`).
-/

set_option autoImplicit false

namespace HtmlTemplate

open Grammar

namespace Reading

variable {r next : Reading} {l : Lexeme}

/-! ## The depth of a reading -/

theorem length_enclosing_settle_le (d : Draft) (enclosing : List Enclosing) (level : Level) :
    (settle level d enclosing).enclosing.length ≤ enclosing.length := by
  induction enclosing generalizing level d with
  | nil => exact Nat.le_refl _
  | cons e rest ih =>
    rw [settle]
    split
    · exact Nat.le_succ_of_le (ih _ _)
    · exact Nat.le_refl _

theorem length_enclosing_settled_le (r : Reading) :
    r.settled.enclosing.length ≤ r.enclosing.length := by
  unfold settled
  split
  · exact length_enclosing_settle_le _ _ _
  · exact Nat.le_refl _

theorem Takes.depth (takes : Takes l r next) (depth : r.enclosing.length ≤ maxNesting) :
    next.enclosing.length ≤ maxNesting := by
  have fewer := length_enclosing_settled_le r
  cases takes with
  | blank white => rwa [skip_enclosing]
  | name token expands awaits => exact Nat.le_trans fewer depth
  | closeBrace token settled block =>
    rw [settled] at fewer
    exact Nat.le_trans (Nat.le_of_succ_le fewer) depth
  | openBrace token part shallow => exact shallow
  | greaterThan token part shallow => exact shallow
  | _ => exact depth

theorem depth_of_steps {ls : List Lexeme} (ran : start.steps ls = .ok r) :
    r.enclosing.length ≤ maxNesting :=
  steps_induction Takes.depth ran (Nat.zero_le _)

theorem settled_erase (r : Reading) : r.settled.erase = r.erase.settled := by
  obtain ⟨enclosing, level, place⟩ := r
  cases place with
  | statement d => exact settle_erase d enclosing level
  | _ => rfl

end Reading

/-! ## Lexemes of a derivation -/

theorem Grammar.Leveled.exists_first_deep {ts : List Leveled} (deep : ¬∀ t ∈ ts, t.Shallow) :
    ∃ front t back, ts = front ++ t :: back ∧ (∀ u ∈ front, u.Shallow) ∧ ¬t.Shallow := by
  cases found : ts.find? fun t => ¬t.Shallow with
  | none => exact (deep (by simpa using found)).elim
  | some t =>
    obtain ⟨here, front, back, split, before⟩ := List.find?_eq_some_iff_append.mp found
    exact ⟨front, t, back, split, by simpa using before, by simpa using here⟩

/-- A token that lexemes have is that of a lexeme among them. -/
theorem exists_of_significant_eq_append {ls : List Lexeme} {front back : List Token}
    {token : Token} (split : significant ls = front ++ token :: back) :
    ∃ before l after, ls = before ++ l :: after ∧ significant before = front ∧
      l.isWhiteSpace = false ∧ l.token = token := by
  obtain ⟨first, second, visible, rfl, rest⟩ := List.map_eq_append_iff.mp split
  obtain ⟨l, third, rfl, rfl, -⟩ := List.map_eq_cons_iff.mp rest
  obtain ⟨before, behind, rfl, rfl, found⟩ := List.filter_eq_append_iff.mp visible
  obtain ⟨blanks, after, rfl, white, seen, -⟩ := List.filter_eq_cons_iff.mp found
  refine ⟨before ++ blanks, l, after, by simp, ?_, by simpa using seen, rfl⟩
  simp [significant, List.filter_eq_nil_iff.mpr white]

/-- The lexeme `l`, behind the lexemes `before`, is the token `t` of the derivation, which stands
behind the tokens `front`. -/
structure Grammar.Chains.Has (cs : Chains) (ls before : List Lexeme) (l : Lexeme)
    (front : List Leveled) (t : Leveled) : Prop where
  lexemes : ∃ after, ls = before ++ l :: after
  tokens : ∃ back, cs.leveled 0 = front ++ t :: back
  visible : l.isWhiteSpace = false
  token : l.token = t.token
  behind : significant before = front.map (·.token)

namespace Grammar.Chains.Has

variable {cs : Chains} {ls before : List Lexeme} {l : Lexeme} {front : List Leveled} {t : Leveled}

theorem exists_of_tokens {back : List Leveled} (yield : cs.tokens = significant ls)
    (split : cs.leveled 0 = front ++ t :: back) : ∃ before l, cs.Has ls before l front t := by
  have tokens : significant ls =
      front.map (·.token) ++ t.token :: back.map (·.token) := by
    rw [← yield, ← cs.map_token_leveled 0, split, List.map_append, List.map_cons]
  obtain ⟨before, l, after, whole, behind, visible, token⟩ :=
    exists_of_significant_eq_append tokens
  exact ⟨before, l, ⟨after, whole⟩, ⟨back, split⟩, visible, token, behind⟩

/-- A reading comes to the lexeme of a token if no token in front of it is too deep. -/
theorem exists_walks (has : cs.Has ls before l front t)
    (continued : ∀ o ∈ cs.occurrences 0, o.Continued) (shallow : ∀ u ∈ front, u.Shallow) :
    ∃ post q q' back, Reading.start.steps before = .ok q' ∧ q'.erase = q.erase ∧
      Reading.Walks post q (t :: back) := by
  obtain ⟨back, split⟩ := has.tokens
  have walks := Reading.walks_document cs continued
  rw [split] at walks
  obtain ⟨q, q', ran, same, further⟩ := walks.steps_front shallow rfl has.behind
  exact ⟨_, q, q', back, ran, same, further⟩

/-- Behind the lexeme of a token as many levels are open as behind the token. -/
theorem exists_steps (has : cs.Has ls before l front t)
    (continued : ∀ o ∈ cs.occurrences 0, o.Continued) (shallow : ∀ u ∈ front ++ [t], u.Shallow) :
    ∃ r, Reading.start.steps (before ++ [l]) = .ok r ∧ r.enclosing.length = t.behind := by
  obtain ⟨shallow, here⟩ := List.forall_mem_append.mp shallow
  obtain ⟨post, q, q', back, ran, same, walks⟩ := has.exists_walks continued shallow
  obtain ⟨next, next', stepped, same, depth, -⟩ :=
    walks.exists_step_lexeme (here t List.mem_cons_self) same has.token
  refine ⟨next', ?_, by rw [Reading.length_enclosing_of_erase same, depth]⟩
  rw [Reading.steps_append_singleton ran, stepped]

/-- The first lexeme that opens a level too deep is reported. -/
theorem ofLexemes_eq_tooDeep (has : cs.Has ls before l front t)
    (continued : ∀ o ∈ cs.occurrences 0, o.Continued) (shallow : ∀ u ∈ front, u.Shallow)
    (deep : ¬t.Shallow) :
    t.token.opensLevel = true ∧ t.depth = maxNesting ∧
      Document.ofLexemes ls = .error (.tooDeep l.span) := by
  obtain ⟨post, q, q', back, ran, same, walks⟩ := has.exists_walks continued shallow
  obtain ⟨opens, depth, full⟩ := walks.full_of_deep deep
  have full' : q'.Full := full.of_erase same
  -- The token is as deep as the reading, which is at the limit here and never beyond it.
  have least := full'.depth
  have most := Reading.depth_of_steps ran
  rw [Reading.length_enclosing_of_erase same, depth] at least most
  have stopped : Reading.start.steps (before ++ [l]) = .error (.tooDeep l.span) := by
    rw [Reading.steps_append_singleton ran, Reading.step_of_full full' (by rw [has.token, opens])]
  obtain ⟨after, rfl⟩ := has.lexemes
  refine ⟨opens, Nat.le_antisymm most least, ?_⟩
  rw [List.append_cons]
  exact Document.ofLexemes_append_of_steps stopped after

end Grammar.Chains.Has

namespace Document

variable {cs : Chains} {ls : List Lexeme}

theorem ofLexemes_of_shallow (yield : cs.tokens = significant ls)
    (continued : ∀ o ∈ cs.occurrences 0, o.Continued) (shallow : ∀ t ∈ cs.leveled 0, t.Shallow) :
    ofLexemes ls = .ok cs.document ∧
      ∃ r, Reading.start.steps ls = .ok r ∧ r.settled.enclosing = [] := by
  have walks := Reading.walks_document cs continued
  rw [← List.append_nil (cs.leveled 0)] at walks
  have tokens : significant ls = (cs.leveled 0).map (·.token) := by
    rw [cs.map_token_leveled, yield]
  obtain ⟨q, r, ran, same, ⟨reached⟩⟩ := walks.steps_front shallow rfl tokens
  have settled : q.settled = ⟨[], Level.add ⟨.document, []⟩ cs.nodes, .between⟩ := reached
  have formed : (ofLexemes ls).toOption = some cs.document := by
    rw [toOption_ofLexemes, ← yield, Reading.read_of_shallow continued shallow]
  refine ⟨Except.toOption_eq_some_iff.mp formed, r, ran, ?_⟩
  have levels : r.settled.erase = q.settled.erase := by
    rw [Reading.settled_erase, same, ← Reading.settled_erase]
  have none := Reading.length_enclosing_of_erase levels
  rw [settled] at none
  exact List.length_eq_zero_iff.mp none

/-- Lexemes of a derivation in which every `+` continues the innermost chain still open form its
document if no block and no chain lies too deep. Otherwise the first sign of one that does is
reported, around which as many levels are open as there may be at all. Up to there, the levels that
are open behind each lexeme are those of the derivation: what a block or a chain opened is closed
behind it. -/
theorem formed_or_tooDeep_of_continued (yield : cs.tokens = significant ls)
    (continued : ∀ o ∈ cs.occurrences 0, o.Continued) :
    ((∀ t ∈ cs.leveled 0, t.Shallow) →
      ofLexemes ls = .ok cs.document ∧
        ∃ r, Reading.start.steps ls = .ok r ∧ r.settled.enclosing = []) ∧
    ((¬∀ t ∈ cs.leveled 0, t.Shallow) →
      ∃ before l front t, cs.Has ls before l front t ∧ (∀ u ∈ front, u.Shallow) ∧
        t.token.opensLevel = true ∧ t.depth = maxNesting ∧
        ∃ fault, ofLexemes ls = .error fault ∧
          fault.diagnostic.code = some .nestingTooDeep ∧
          fault.diagnostic.labels = [.primary l.span Code.nestingTooDeep.description]) ∧
    ∀ before l front t, cs.Has ls before l front t → (∀ u ∈ front ++ [t], u.Shallow) →
      ∃ r, Reading.start.steps (before ++ [l]) = .ok r ∧ r.enclosing.length = t.behind := by
  refine ⟨ofLexemes_of_shallow yield continued, ?_, fun _ _ _ _ has => has.exists_steps continued⟩
  intro some
  obtain ⟨front, t, back, split, shallow, deep⟩ := Leveled.exists_first_deep some
  obtain ⟨before, l, has⟩ := Chains.Has.exists_of_tokens yield split
  obtain ⟨opens, depth, failed⟩ := has.ofLexemes_eq_tooDeep continued shallow deep
  exact ⟨before, l, front, t, has, shallow, opens, depth, _, failed, rfl, rfl⟩

/-- A statement with this many chains below it, one within the other. -/
def tower (n : Nat) : Chains :=
  .cons (chain n) .nil
where
  chain : Nat → Chain
    | 0 => .one (.mk ⟨"p", _, rfl⟩ none none .none)
    | n + 1 => .one (.mk ⟨"p", _, rfl⟩ none none (.chain (chain n)))

theorem continued_tower : ∀ (n depth : Nat), ∀ o ∈ (tower.chain n).occurrences depth, o.Continued
  | 0, _ => List.forall_mem_singleton.mpr nofun
  | n + 1, depth => List.forall_mem_cons.mpr ⟨nofun, continued_tower n (depth + 1)⟩

/-- As many chains as there are levels may lie one within the other, and not one more. -/
theorem formed_or_tooDeep_of_continued_tower :
    ofLexemes ((tower maxNesting).tokens.map .bare) = .ok (tower maxNesting).document ∧
      ∃ fault, ofLexemes ((tower (maxNesting + 1)).tokens.map .bare) = .error fault ∧
        fault.diagnostic.code = some .nestingTooDeep := by
  have continued : ∀ n, ∀ o ∈ (tower n).occurrences 0, o.Continued := by
    intro n
    exact List.forall_mem_append.mpr ⟨continued_tower n 0, nofun⟩
  constructor
  · have yield : (tower maxNesting).tokens =
        significant ((tower maxNesting).tokens.map .bare) := by decide +kernel
    have shallow : ∀ t ∈ (tower maxNesting).leveled 0, t.Shallow := by decide +kernel
    exact ((formed_or_tooDeep_of_continued yield (continued _)).1 shallow).1
  · have yield : (tower (maxNesting + 1)).tokens =
        significant ((tower (maxNesting + 1)).tokens.map .bare) := by decide +kernel
    have deep : ¬∀ t ∈ (tower (maxNesting + 1)).leveled 0, t.Shallow := by decide +kernel
    obtain ⟨-, -, -, -, -, -, -, -, fault, failed, code, -⟩ :=
      (formed_or_tooDeep_of_continued yield (continued _)).2.1 deep
    exact ⟨fault, failed, code⟩

end Document

end HtmlTemplate
