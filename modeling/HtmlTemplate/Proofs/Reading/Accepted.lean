import HtmlTemplate.Proofs.Grammar.Unique
import HtmlTemplate.Proofs.Outcome
import HtmlTemplate.Proofs.Reading.Derived

/-!
# What is read is derived

Tokens from which a document is read have a derivation that counts. The argument goes down the
tokens: each token that a reading takes at some place is one that the grammar has there, and what
follows is shorter, so the phrases within a statement are found by induction on the number of
tokens. Where a phrase ends, the reading goes on as `Reading.Phrases` says.

* lexemes form a document exactly if their tokens other than white space have a derivation, and
  the document is the meaning of the derivation, of which there is only one
  (`ofLexemes_eq_ok_iff_derives`).
-/

set_option autoImplicit false

namespace HtmlTemplate

open Grammar

/-- No token is white space. -/
def Visible (tokens : List Token) : Prop :=
  ∀ token ∈ tokens, token.isWhiteSpace = false

theorem visible_significant (ls : List Lexeme) : Visible (significant ls) := by
  intro token member
  simp only [significant, List.mem_map, List.mem_filter] at member
  obtain ⟨l, ⟨-, visible⟩, rfl⟩ := member
  simpa [Lexeme.isWhiteSpace] using visible

theorem Visible.of_append {front rest : List Token} (visible : Visible (front ++ rest)) :
    Visible rest :=
  (List.forall_mem_append.mp visible).2

namespace Reading

variable {enclosing : List Enclosing} {level : Level} {d : Draft} {opener : Span}
  {document : Document}

/-! ## Lists between delimiters -/

/-- Behind the opening parenthesis or a comma there is a value, if the list is not empty. -/
theorem parameter_of_read {place : ParameterPlace} {tokens : List Token}
    (awaits : place = .start ∨ ∃ comma, place = .afterComma comma) (visible : Visible tokens)
    (accepted : read ⟨enclosing, level, .parameters d opener place⟩ tokens = some document) :
    (∃ (w : Written) (rest : List Token) (d' : Draft), tokens = w.token :: rest ∧
      read ⟨enclosing, level, .parameters d' opener .afterValue⟩ rest = some document) ∨
    (place = .start ∧ ∃ rest, tokens = .mark .closeParen :: rest) := by
  cases tokens with
  | nil => rcases awaits with rfl | ⟨comma, rfl⟩ <;> cases accepted
  | cons token rest =>
    have value : ∀ w : Written, token = w.token → ∃ (w : Written) (rest' : List Token) (d' : Draft),
        token :: rest = w.token :: rest' ∧
        read ⟨enclosing, level, .parameters d' opener .afterValue⟩ rest' = some document := by
      intro w same
      subst same
      rw [read_step (step_parameter w awaits)] at accepted
      exact ⟨w, rest, _, rfl, accepted⟩
    cases token with
    | identifier text => exact Or.inl (value (.identifier text) rfl)
    | quoted text => exact Or.inl (value (.quoted text) rfl)
    | multiline text => exact Or.inl (value (.multiline text) rfl)
    | pipe text => exact Or.inl (value (.pipe text) rfl)
    | whiteSpace text => cases visible _ List.mem_cons_self
    | mark mark =>
      rcases awaits with rfl | ⟨comma, rfl⟩
      · cases mark with
        | closeParen => exact Or.inr ⟨rfl, rest, rfl⟩
        | _ => cases accepted
      · cases accepted

/-- Behind a value there are further values, each behind a comma, and the closing parenthesis. -/
theorem moreParameters_of_read : ∀ (tokens : List Token) {d : Draft}, Visible tokens →
    read ⟨enclosing, level, .parameters d opener .afterValue⟩ tokens = some document →
    ∃ (values : List Written) (rest : List Token), tokens =
      (values.flatMap fun value => .mark .comma :: [value.token]) ++ .mark .closeParen :: rest
  | [], d, visible, accepted => by cases accepted
  | token :: rest, d, visible, accepted => by
    obtain ⟨here, later⟩ := List.forall_mem_cons.mp visible
    cases token with
    | mark mark =>
      cases mark with
      | comma =>
        rcases parameter_of_read (Or.inr ⟨.bare (.mark .comma), rfl⟩) later accepted with
          ⟨w, rest, d', rfl, accepted'⟩ | ⟨start, -⟩
        · obtain ⟨values, rest', rfl⟩ := moreParameters_of_read rest
            (List.forall_mem_cons.mp later).2 accepted'
          exact ⟨w :: values, rest', rfl⟩
        · cases start
      | closeParen => exact ⟨[], rest, rfl⟩
      | _ => cases accepted
    | whiteSpace text => cases here
    | _ => cases accepted

theorem parameters_of_read {tokens : List Token} (visible : Visible tokens)
    (accepted : read ⟨enclosing, level, .parameters d opener .start⟩ tokens = some document) :
    ∃ (values : List Written) (rest : List Token),
      tokens = separated (fun value => [value.token]) values ++ .mark .closeParen :: rest := by
  rcases parameter_of_read (Or.inl rfl) visible accepted with
    ⟨w, rest, d', rfl, accepted'⟩ | ⟨-, rest, rfl⟩
  · obtain ⟨values, rest', rfl⟩ := moreParameters_of_read rest
      (List.forall_mem_cons.mp visible).2 accepted'
    exact ⟨w :: values, rest', rfl⟩
  · exact ⟨[], rest, rfl⟩

/-- Behind a key there are an equals sign and a value. -/
theorem value_of_read {key : String} {since : Option Span} {tokens : List Token}
    (visible : Visible tokens)
    (accepted : read ⟨enclosing, level, .attributes d opener (.afterKey key since)⟩ tokens =
      some document) :
    ∃ (w : Written) (rest : List Token), tokens = .mark .equal :: w.token :: rest := by
  cases tokens with
  | nil => cases accepted
  | cons token rest =>
    cases token with
    | mark mark =>
      cases mark with
      | equal =>
        cases rest with
        | nil => cases accepted
        | cons token rest =>
          cases token with
          | identifier text => exact ⟨.identifier text, rest, rfl⟩
          | quoted text => exact ⟨.quoted text, rest, rfl⟩
          | multiline text => exact ⟨.multiline text, rest, rfl⟩
          | pipe text => exact ⟨.pipe text, rest, rfl⟩
          | whiteSpace text => cases visible _ (List.mem_cons_of_mem _ List.mem_cons_self)
          | mark mark => cases accepted
      | _ => cases accepted
    | whiteSpace text => cases visible _ List.mem_cons_self
    | _ => cases accepted

/-- Behind the opening bracket or a comma there is a key with a value, if the list is not empty. -/
theorem assignment_of_read {place : AttributePlace} {tokens : List Token}
    (awaits : place = .start ∨ ∃ comma, place = .afterComma comma) (visible : Visible tokens)
    (accepted : read ⟨enclosing, level, .attributes d opener place⟩ tokens = some document) :
    (∃ (a : Assignment) (rest : List Token) (d' : Draft), tokens = a.tokens ++ rest ∧
      read ⟨enclosing, level, .attributes d' opener .afterValue⟩ rest = some document) ∨
    (place = .start ∧ ∃ rest, tokens = .mark .closeBracket :: rest) := by
  cases tokens with
  | nil => rcases awaits with rfl | ⟨comma, rfl⟩ <;> cases accepted
  | cons token rest =>
    cases token with
    | identifier key =>
      have keyed : read ⟨enclosing, level, .attributes d opener (.afterKey key none)⟩ rest =
          some document := by
        rcases awaits with rfl | ⟨comma, rfl⟩ <;> exact accepted
      obtain ⟨w, rest', rfl⟩ := value_of_read (List.forall_mem_cons.mp visible).2 keyed
      have whole : Token.identifier key :: .mark .equal :: w.token :: rest' =
          (Assignment.mk key w).tokens ++ rest' := rfl
      rw [whole, read_assignment _ awaits] at accepted
      exact Or.inl ⟨⟨key, w⟩, rest', _, rfl, accepted⟩
    | mark mark =>
      rcases awaits with rfl | ⟨comma, rfl⟩
      · cases mark with
        | closeBracket => exact Or.inr ⟨rfl, rest, rfl⟩
        | _ => cases accepted
      · cases accepted
    | whiteSpace text => cases visible _ List.mem_cons_self
    | _ => rcases awaits with rfl | ⟨comma, rfl⟩ <;> cases accepted

/-- Behind a value there are further keys with values, each behind a comma, and the closing
bracket. -/
theorem moreAttributes_of_read : ∀ (count : Nat) (tokens : List Token) {d : Draft},
    tokens.length ≤ count → Visible tokens →
    read ⟨enclosing, level, .attributes d opener .afterValue⟩ tokens = some document →
    ∃ (assignments : List Assignment) (rest : List Token), tokens =
      (assignments.flatMap fun a => .mark .comma :: a.tokens) ++ .mark .closeBracket :: rest
  | _, [], d, few, visible, accepted => by cases accepted
  | 0, token :: rest, d, few, visible, accepted => by cases few
  | count + 1, token :: rest, d, few, visible, accepted => by
    obtain ⟨here, later⟩ := List.forall_mem_cons.mp visible
    cases token with
    | mark mark =>
      cases mark with
      | comma =>
        rcases assignment_of_read (Or.inr ⟨.bare (.mark .comma), rfl⟩) later accepted with
          ⟨a, rest, d', rfl, accepted'⟩ | ⟨start, -⟩
        · have fewer : rest.length ≤ count := by
            simp only [List.length_cons, List.length_append] at few
            omega
          have behind : Visible rest := Visible.of_append later
          obtain ⟨assignments, rest', rfl⟩ := moreAttributes_of_read count rest fewer behind
            accepted'
          exact ⟨a :: assignments, rest', by simp⟩
        · cases start
      | closeBracket => exact ⟨[], rest, rfl⟩
      | _ => cases accepted
    | whiteSpace text => cases here
    | _ => cases accepted

theorem attributes_of_read {tokens : List Token} (visible : Visible tokens)
    (accepted : read ⟨enclosing, level, .attributes d opener .start⟩ tokens = some document) :
    ∃ (assignments : List Assignment) (rest : List Token),
      tokens = separated Assignment.tokens assignments ++ .mark .closeBracket :: rest := by
  rcases assignment_of_read (Or.inl rfl) visible accepted with
    ⟨a, rest, d', rfl, accepted'⟩ | ⟨-, rest, rfl⟩
  · obtain ⟨assignments, rest', rfl⟩ := moreAttributes_of_read rest.length rest (Nat.le_refl _)
      visible.of_append accepted'
    exact ⟨a :: assignments, rest', by simp [separated]⟩
  · exact ⟨[], rest, rfl⟩

/-! ## Statements and levels -/

/-- What may stand behind the parts of a statement that come before its body. -/
inductive Continues (depth : Nat) : List Token → Prop
  | ends {rest : List Token} : EndsChain rest → Continues depth rest
  | plus {rest : List Token} : Continues depth (.mark .plus :: rest)
  | block {rest : List Token} : depth < maxNesting → Continues depth (.mark .openBrace :: rest)
  | chain {rest : List Token} : depth < maxNesting → Continues depth (.mark .greaterThan :: rest)

theorem shallow_of_read (r : Reading) (opening : Opening) (place : Place) (span : Span)
    {rest : List Token}
    (accepted : ((r.descend d opening place span).toOption.bind fun next => next.read rest) =
      some document) : r.enclosing.length < maxNesting := by
  apply Nat.lt_of_not_le
  intro deep
  rw [descend, if_pos deep] at accepted
  cases accepted

/-- A statement is over behind its body. -/
theorem ends_of_read {tokens : List Token} (part : d.part = .children) (visible : Visible tokens)
    (accepted : read ⟨enclosing, level, .statement d⟩ tokens = some document) :
    EndsChain tokens ∨ ∃ rest, tokens = .mark .plus :: rest := by
  obtain ⟨name, parameters, attributes, children, part', joined⟩ := d
  obtain rfl : part' = .children := part
  cases tokens with
  | nil => exact Or.inl trivial
  | cons token rest =>
    cases token with
    | identifier text => exact Or.inl trivial
    | mark mark =>
      cases mark with
      | closeBrace => exact Or.inl trivial
      | plus => exact Or.inr ⟨rest, rfl⟩
      | _ => cases accepted
    | whiteSpace text => cases visible _ List.mem_cons_self
    | _ => cases accepted

/-- Behind a part of a statement there is a part that comes later. -/
theorem continues_of_read {tokens : List Token} (part : d.part ≠ .children)
    (visible : Visible tokens)
    (accepted : read ⟨enclosing, level, .statement d⟩ tokens = some document) :
    Continues enclosing.length tokens ∨
      (∃ rest, d.part = .name ∧ tokens = .mark .openParen :: rest) ∨
      (∃ rest, (d.part = .name ∨ d.part = .parameters) ∧ tokens = .mark .openBracket :: rest) := by
  cases tokens with
  | nil => exact Or.inl (.ends trivial)
  | cons token rest =>
    obtain ⟨name, parameters, attributes, children, part', joined⟩ := d
    cases token with
    | identifier text => exact Or.inl (.ends trivial)
    | mark mark =>
      cases mark with
      | closeBrace => exact Or.inl (.ends trivial)
      | plus => exact Or.inl .plus
      | openBrace =>
        cases part' with
        | children => exact (part rfl).elim
        | _ => exact Or.inl (.block (shallow_of_read _ _ _ _ accepted))
      | greaterThan =>
        cases part' with
        | children => exact (part rfl).elim
        | _ => exact Or.inl (.chain (shallow_of_read _ _ _ _ accepted))
      | openParen =>
        cases part' with
        | name => exact Or.inr (Or.inl ⟨rest, rfl, rfl⟩)
        | _ => cases accepted
      | openBracket =>
        cases part' with
        | name => exact Or.inr (Or.inr ⟨rest, Or.inl rfl, rfl⟩)
        | parameters => exact Or.inr (Or.inr ⟨rest, Or.inr rfl, rfl⟩)
        | _ => cases accepted
      | _ => cases accepted
    | whiteSpace text => cases visible _ List.mem_cons_self
    | _ => cases accepted

/-- Behind the name or the parameters there are the attributes, or the body comes. -/
theorem attributePart_of_read {tokens : List Token} (part : d.part = .name ∨ d.part = .parameters)
    (other : ∀ rest, tokens ≠ .mark .openParen :: rest) (visible : Visible tokens)
    (accepted : read ⟨enclosing, level, .statement d⟩ tokens = some document) :
    ∃ as rest, tokens = attributePart as ++ rest ∧ Continues enclosing.length rest := by
  have open' : d.part ≠ .children := by
    rcases part with part | part <;> simp [part]
  rcases continues_of_read open' visible accepted with
    continues | ⟨rest, -, paren⟩ | ⟨rest, -, rfl⟩
  · exact ⟨none, tokens, rfl, continues⟩
  · exact (other rest paren).elim
  · have opened : read ⟨enclosing, level, .attributes d default .start⟩ rest = some document := by
      obtain ⟨name, parameters, attributes, children, part', joined⟩ := d
      rcases part with part | part <;> cases part <;> exact accepted
    have later := (List.forall_mem_cons.mp visible).2
    obtain ⟨assignments, rest, rfl⟩ := attributes_of_read later opened
    have whole : Token.mark .openBracket ::
        (separated Assignment.tokens assignments ++ .mark .closeBracket :: rest) =
          attributePart (some assignments) ++ rest := by
      simp [attributePart]
    have behind : Visible (.mark .closeBracket :: rest) := Visible.of_append later
    rw [whole, read_attributePart _ part] at accepted
    refine ⟨some assignments, rest, whole, ?_⟩
    rcases continues_of_read (Draft.part_withAttributes _ part) (List.forall_mem_cons.mp behind).2
      accepted with continues | ⟨-, named, -⟩ | ⟨-, named, -⟩
    · exact continues
    · cases named
    · rcases named with named | named <;> cases named

/-- Behind a name there are the parameters and the attributes, and the body comes. -/
theorem parts_of_read {tokens : List Token} (part : d.part = .name) (visible : Visible tokens)
    (accepted : read ⟨enclosing, level, .statement d⟩ tokens = some document) :
    ∃ ps as rest, tokens = parameterPart ps ++ (attributePart as ++ rest) ∧
      Continues enclosing.length rest := by
  by_cases paren : ∃ rest, tokens = .mark .openParen :: rest
  · obtain ⟨rest, rfl⟩ := paren
    have opened : read ⟨enclosing, level, .parameters d default .start⟩ rest = some document := by
      obtain ⟨name, parameters, attributes, children, part', joined⟩ := d
      cases part
      exact accepted
    have later := (List.forall_mem_cons.mp visible).2
    obtain ⟨values, rest, rfl⟩ := parameters_of_read later opened
    have whole : Token.mark .openParen ::
        (separated (fun value => [value.token]) values ++ .mark .closeParen :: rest) =
          parameterPart (some values) ++ rest := by
      simp [parameterPart]
    have behind : Visible (.mark .closeParen :: rest) := Visible.of_append later
    rw [whole, read_parameterPart _ part] at accepted
    have other : ∀ more, rest ≠ .mark .openParen :: more := by
      intro more same
      subst same
      cases accepted
    obtain ⟨as, rest', rfl, continues⟩ := attributePart_of_read (Or.inr rfl) other
      (List.forall_mem_cons.mp behind).2 accepted
    exact ⟨some values, as, rest', whole, continues⟩
  · obtain ⟨as, rest, rfl, continues⟩ := attributePart_of_read (Or.inl part)
      (fun rest h => paren ⟨rest, h⟩) visible accepted
    exact ⟨none, as, rest, rfl, continues⟩

/-- Where a statement has to come, a name does. -/
theorem identifier_of_awaiting {joined : Bool} {since : Option Span} {tokens : List Token}
    (visible : Visible tokens)
    (accepted : read ⟨enclosing, level, .awaiting joined since⟩ tokens = some document) :
    ∃ text rest, tokens = .identifier text :: rest := by
  cases tokens with
  | nil => cases accepted
  | cons token rest =>
    cases token with
    | identifier text => exact ⟨text, rest, rfl⟩
    | whiteSpace text => cases visible _ List.mem_cons_self
    | _ => cases accepted

/-- The name of a statement that is read is one that a statement may have. -/
theorem name_of_read {place : Place} {text : String} {rest : List Token} (awaits : place.Awaits)
    (accepted : read ⟨enclosing, level, place⟩ (.identifier text :: rest) = some document) :
    ∃ name : Name, name.text = text := by
  cases expanded : Shorthand.expand text with
  | ok shorthand => exact ⟨⟨text, shorthand, expanded⟩, rfl⟩
  | error reason =>
    have failed : ∀ (r : Reading) span joined,
        r.begin text span joined = .error (.invalidName reason span) := by
      intro r span joined
      rw [begin, expanded]
    cases place with
    | between =>
      have stepped : step ⟨enclosing, level, .between⟩ (.bare (.identifier text)) =
          .error (.invalidName reason default) := failed _ _ _
      rw [read, stepped] at accepted
      cases accepted
    | awaiting joined since =>
      have stepped : step ⟨enclosing, level, .awaiting joined since⟩ (.bare (.identifier text)) =
          .error (.invalidName reason default) := failed _ _ _
      rw [read, stepped] at accepted
      cases accepted
    | _ => exact awaits.elim

/-- Where a name comes at a place for a statement, a chain comes. -/
def FindsChain (document : Document) (tokens : List Token) : Prop :=
  ∀ (enclosing : List Enclosing) (level : Level) (place : Place), place.Awaits → Visible tokens →
    read ⟨enclosing, level, place⟩ tokens = some document →
    (∃ text rest, tokens = .identifier text :: rest) →
    ∃ c rest, tokens = Chain.tokens c ++ rest ∧ EndsChain rest ∧
      Legal (c.occurrences enclosing.length)

/-- Between the statements of a document or a block, the further chains of it come. -/
def FindsChains (document : Document) (tokens : List Token) : Prop :=
  ∀ (enclosing : List Enclosing) (level : Level), level.opening ≠ .chain → Visible tokens →
    read ⟨enclosing, level, .between⟩ tokens = some document →
    ∃ cs rest, tokens = Chains.tokens cs ++ rest ∧ EndsLevel rest ∧
      Legal (cs.occurrences enclosing.length)

/-- Phrases are found in every shorter list of tokens. -/
def FindsBelow (document : Document) (tokens : List Token) : Prop :=
  ∀ shorter : List Token, shorter.length < tokens.length →
    FindsChain document shorter ∧ FindsChains document shorter

theorem FindsBelow.of_append {front rest : List Token}
    (found : FindsBelow document (front ++ rest)) : FindsBelow document rest := by
  intro shorter short
  apply found
  rw [List.length_append]
  omega

/-- What comes behind the other parts of a statement is its body. -/
theorem body_of_read {tokens : List Token} (found : FindsBelow document tokens)
    (part : d.part ≠ .children) (visible : Visible tokens)
    (continues : Continues enclosing.length tokens)
    (accepted : read ⟨enclosing, level, .statement d⟩ tokens = some document) :
    ∃ body rest, tokens = Body.tokens body ++ rest ∧ EndsBody body rest ∧
      (body ≠ .none → enclosing.length < maxNesting) ∧
      Legal (body.occurrences (enclosing.length + 1)) := by
  have bare : Legal (Body.occurrences (enclosing.length + 1) .none) := by
    intro o member
    cases member
  cases continues with
  | ends ends =>
    exact ⟨.none, tokens, rfl, Or.inl ends, fun some => (some rfl).elim, bare⟩
  | plus =>
    exact ⟨.none, _, rfl, Or.inr ⟨by simp, _, rfl⟩, fun some => (some rfl).elim, bare⟩
  | @block rest shallow =>
    rw [read_step (step_openBrace part shallow)] at accepted
    have later : Visible rest := (List.forall_mem_cons.mp visible).2
    obtain ⟨cs, rest, rfl, ends, legal⟩ := (found rest (Nat.lt_succ_self _)).2 _ _ (by simp)
      later accepted
    rw [read_chains cs _ _ legal (by simp) ends.endsChain] at accepted
    have behind : Visible rest := Visible.of_append later
    unfold EndsLevel at ends
    split at ends
    · cases accepted
    · next rest =>
      rw [read_step (step_closeBrace _)] at accepted
      refine ⟨.block cs, rest, by simp [Body.tokens], ?_, fun _ => shallow, legal⟩
      rcases ends_of_read rfl (List.forall_mem_cons.mp behind).2 accepted with ends | plus
      · exact Or.inl ends
      · exact Or.inr ⟨by simp, plus⟩
    · exact ends.elim
  | @chain rest shallow =>
    rw [read_step (step_greaterThan part shallow)] at accepted
    have later : Visible rest := (List.forall_mem_cons.mp visible).2
    obtain ⟨c, rest, rfl, ends, legal⟩ := (found rest (Nat.lt_succ_self _)).1 _ _
      (.awaiting false none) trivial later accepted (identifier_of_awaiting later accepted)
    exact ⟨.chain c, rest, rfl, Or.inl ends, fun _ => shallow, legal⟩

theorem statement_of_read {place : Place} {text : String} {tokens : List Token}
    (found : FindsBelow document (.identifier text :: tokens)) (awaits : place.Awaits)
    (visible : Visible tokens)
    (accepted : read ⟨enclosing, level, place⟩ (.identifier text :: tokens) = some document) :
    ∃ s rest, .identifier text :: tokens = Statement.tokens s ++ rest ∧ EndsBody s.body rest ∧
      ∀ followed, (followed = true → ∀ chain, s.body ≠ .chain chain) →
        Legal (s.occurrences enclosing.length followed) := by
  obtain ⟨name, rfl⟩ := name_of_read awaits accepted
  obtain ⟨joined, named⟩ := step_name enclosing level awaits name
  rw [read_step named] at accepted
  obtain ⟨ps, as, rest, rfl, continues⟩ := parts_of_read rfl visible accepted
  have started : ((Draft.ofName name joined).withParameters ps).part = .name ∨
      ((Draft.ofName name joined).withParameters ps).part = .parameters :=
    Draft.part_withParameters ps rfl
  rw [read_parameterPart ps rfl, read_attributePart as started] at accepted
  have shorter : FindsBelow document rest := by
    have behind : FindsBelow document (parameterPart ps ++ (attributePart as ++ rest)) :=
      fun shorter short => found shorter (Nat.lt_succ_of_lt short)
    exact behind.of_append.of_append
  have later : Visible rest := visible.of_append.of_append
  obtain ⟨body, rest, rfl, ends, nested, legal⟩ := body_of_read shorter
    (Draft.part_withAttributes as started) later continues accepted
  refine ⟨.mk name ps as body, rest, by simp [Statement.tokens], ends, ?_⟩
  intro followed continued
  exact List.forall_mem_cons.mpr ⟨⟨continued, nested⟩, legal⟩

theorem chain_of_read {tokens : List Token} (found : FindsBelow document tokens) :
    FindsChain document tokens := by
  intro enclosing level place awaits visible accepted named
  obtain ⟨text, more, rfl⟩ := named
  obtain ⟨s, rest, whole, ends, legal⟩ := statement_of_read found awaits
    (List.forall_mem_cons.mp visible).2 accepted
  rcases ends with ends | ⟨other, rest, rfl⟩
  · exact ⟨.one s, rest, whole, ends, legal false (by simp)⟩
  · have legal := legal true fun _ => other
    rw [whole, read_followed s enclosing level legal awaits other] at accepted
    have shorter : rest.length < (Token.identifier text :: more).length := by
      rw [whole, List.length_append, List.length_cons]
      omega
    rw [whole] at visible
    have later : Visible rest := (List.forall_mem_cons.mp visible.of_append).2
    obtain ⟨c, rest, rfl, ends, legal'⟩ := (found rest shorter).1 _ _
      (.awaiting true none) trivial later accepted (identifier_of_awaiting later accepted)
    refine ⟨.plus s c, rest, by simp [whole, Chain.tokens], ends, ?_⟩
    exact List.forall_mem_append.mpr ⟨legal, legal'⟩

theorem chains_of_read {tokens : List Token} (found : FindsBelow document tokens) :
    FindsChains document tokens := by
  intro enclosing level other visible accepted
  have none : EndsLevel tokens → ∃ cs rest, tokens = Chains.tokens cs ++ rest ∧ EndsLevel rest ∧
      Legal (cs.occurrences enclosing.length) := fun ends =>
    ⟨.nil, tokens, rfl, ends, fun _ member => by cases member⟩
  cases tokens with
  | nil => exact none trivial
  | cons token more =>
    cases token with
    | identifier text =>
      obtain ⟨c, rest, whole, ends, legal⟩ := chain_of_read found enclosing level .between trivial
        visible accepted ⟨text, more, rfl⟩
      have other' : (level.add c.nodes).opening ≠ .chain := other
      rw [whole, read_chain c _ _ .between legal trivial ends, ended_of_ne_chain other'] at accepted
      obtain ⟨first, rest', front⟩ := c.tokens_eq_cons
      have shorter : rest.length < (Token.identifier text :: more).length := by
        rw [whole, front, List.length_append, List.length_cons]
        omega
      rw [whole] at visible
      obtain ⟨cs, rest, rfl, ends, legal'⟩ := (found rest shorter).2 _ _ other'
        visible.of_append accepted
      refine ⟨.cons c cs, rest, by simp [whole, Chains.tokens], ends, ?_⟩
      exact List.forall_mem_append.mpr ⟨legal, legal'⟩
    | mark mark =>
      cases mark with
      | closeBrace => exact none trivial
      | _ => cases accepted
    | whiteSpace text => cases visible _ List.mem_cons_self
    | _ => cases accepted

/-- The induction is on the number of tokens. -/
theorem finds_of_length : ∀ (count : Nat) (tokens : List Token), tokens.length < count →
    FindsChain document tokens ∧ FindsChains document tokens
  | 0, _, few => (Nat.not_lt_zero _ few).elim
  | count + 1, tokens, few => by
    have found : FindsBelow document tokens := fun shorter short =>
      finds_of_length count shorter (by omega)
    exact ⟨chain_of_read found, chains_of_read found⟩

/-- Tokens that are read to a document have a derivation. -/
theorem derives_of_read {tokens : List Token} (visible : Visible tokens)
    (accepted : start.read tokens = some document) :
    ∃ cs : Chains, cs.Derives tokens ∧ cs.document = document := by
  obtain ⟨cs, rest, rfl, ends, legal⟩ := (finds_of_length (tokens.length + 1) tokens
    (Nat.lt_succ_self _)).2 [] ⟨.document, []⟩ (by simp) visible accepted
  have rest_nil : rest = [] := by
    rw [start, read_chains cs _ _ legal (by simp) ends.endsChain] at accepted
    unfold EndsLevel at ends
    split at ends
    · rfl
    · cases accepted
    · exact ends.elim
  subst rest_nil
  have derives : cs.Derives (cs.tokens ++ []) :=
    ⟨(List.append_nil _).symm, fun o member => (legal o member).1, fun o member =>
      (legal o member).2⟩
  rw [read_of_derives derives] at accepted
  exact ⟨cs, derives, Option.some.inj accepted⟩

end Reading

/-- Lexemes form a document if their tokens other than white space derive it. -/
theorem ofLexemes_eq_ok_of_derives {ls : List Lexeme} {cs : Chains}
    (derives : cs.Derives (significant ls)) : Document.ofLexemes ls = .ok cs.document := by
  rw [← Except.toOption_eq_some_iff, toOption_ofLexemes, Reading.read_of_derives derives]

theorem derives_of_ofLexemes {ls : List Lexeme} {document : Document}
    (formed : Document.ofLexemes ls = .ok document) :
    ∃ cs : Chains, cs.Derives (significant ls) ∧ cs.document = document := by
  rw [← Except.toOption_eq_some_iff, toOption_ofLexemes] at formed
  exact Reading.derives_of_read (visible_significant ls) formed

/-- Lexemes form a document exactly if the grammar derives their tokens other than white space. A
derivation that counts is the only one, and the document is its meaning. -/
theorem ofLexemes_eq_ok_iff_derives (ls : List Lexeme) :
    (∀ document, Document.ofLexemes ls = .ok document ↔
      ∃ cs : Chains, cs.Derives (significant ls) ∧ cs.document = document) ∧
    ∀ cs cs' : Chains, cs.Derives (significant ls) → cs'.Derives (significant ls) → cs = cs' := by
  refine ⟨fun document => ⟨derives_of_ofLexemes, ?_⟩, fun _ _ => Chains.Derives.unique⟩
  intro derived
  obtain ⟨cs, derives, rfl⟩ := derived
  exact ofLexemes_eq_ok_of_derives derives

-- A sign behind a chain continues the chain, so both statements are children.
example : (Document.parse "a > b + c").toOption =
    some ⟨[⟨"a", [], [], [⟨"b", [], [], []⟩, ⟨"c", [], [], []⟩]⟩]⟩ := by
  decide +kernel

end HtmlTemplate
