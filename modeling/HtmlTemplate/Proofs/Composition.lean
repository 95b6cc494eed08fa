import HtmlTemplate.Engine
import HtmlTemplate.Proofs.Document
import HtmlTemplate.Proofs.Render.Demand

/-!
# Templates one after the other

Two templates with a line end between them are a template whose statements are those of the first
and then those of the second. The line end ends an identifier or a pipe literal at the end of the
first template and is of one piece with white space around it, so the lexemes of both stay what they
are (`Lexed.exists_append_line`). A derivation that counts leaves no chain open that the second
template could go on with, because a template begins with a name and not with a `+`
(`Chains.Derives.append`). Statements are rendered one after the other, so the page is the one page
and then the other, and the first failure is the failure of both.
-/

set_option autoImplicit false

namespace HtmlTemplate

open Grammar

/-! ## Lexemes -/

theorem significant_cons (token : Token) (span : Span) (rest : List Lexeme) :
    significant (⟨token, span⟩ :: rest) =
      (if token.isWhiteSpace then [] else [token]) ++ significant rest := by
  cases visible : token.isWhiteSpace with
  | true => exact significant_cons_of_whiteSpace span rest visible
  | false => exact significant_cons_of_visible span rest visible

theorem Lexed.eq_nil {start : Nat} {cs : List Char} {ls : List Lexeme} (lexed : Lexed start cs ls)
    (empty : cs = []) : ls = [] := by
  cases lexed with
  | nil start => rfl
  | cons written ends more => exact (written.ne_nil (List.append_eq_nil_iff.mp empty).1).elim

/-- Characters have the same tokens wherever they begin. -/
theorem Lexed.exists_shift {start : Nat} {cs : List Char} {ls : List Lexeme}
    (lexed : Lexed start cs ls) (start' : Nat) :
    ∃ ls', Lexed start' cs ls' ∧ significant ls' = significant ls := by
  induction lexed generalizing start' with
  | nil start => exact ⟨[], .nil start', rfl⟩
  | @cons start token text rest ls written ends more ih =>
    obtain ⟨ls', more', same⟩ := ih (start' + Piece.size text)
    refine ⟨_, .cons written ends more', ?_⟩
    rw [significant_cons, significant_cons, same]

/-- White space in front is no token that counts: it is a lexeme of its own, or of one piece with
the white space behind it. -/
theorem Lexed.exists_blank {start start' : Nat} {blank cs : List Char} {ls : List Lexeme}
    (lexed : Lexed start cs ls) (nonempty : blank ≠ [])
    (white : ∀ c ∈ blank, Text.isWhiteSpace c = true) :
    ∃ ls', Lexed start' (blank ++ cs) ls' ∧ significant ls' = significant ls := by
  have alone : (∀ c ∈ cs.head?, Text.isWhiteSpace c = false) →
      ∃ ls', Lexed start' (blank ++ cs) ls' ∧ significant ls' = significant ls := by
    intro stop
    obtain ⟨ls', more, same⟩ := lexed.exists_shift (start' + Piece.size blank)
    refine ⟨_, .cons (.whiteSpace nonempty white) stop more, ?_⟩
    rw [significant_cons_of_whiteSpace _ _ rfl, same]
  cases lexed with
  | nil start => exact alone (by simp)
  | @cons _ token text rest ls written ends more =>
    cases visible : token.isWhiteSpace with
    | false =>
      apply alone
      obtain ⟨c, text', rfl⟩ := List.exists_cons_of_ne_nil written.ne_nil
      exact written.head?_not_whiteSpace visible
    | true =>
      cases written with
      | @whiteSpace text _ white' =>
        have joined : ∀ c ∈ blank ++ text, Text.isWhiteSpace c = true :=
          List.forall_mem_append.mpr ⟨white, white'⟩
        obtain ⟨ls', more', same⟩ := more.exists_shift (start' + Piece.size (blank ++ text))
        have ends' : Token.EndsBefore (.whiteSpace (.ofList (blank ++ text))) rest := ends
        have whole := Lexed.cons (.whiteSpace (by simp [nonempty]) joined) ends' more'
        rw [List.append_assoc] at whole
        refine ⟨_, whole, ?_⟩
        rw [significant_cons_of_whiteSpace _ _ rfl, significant_cons_of_whiteSpace _ _ rfl, same]
      | _ => cases visible

/-- What follows the characters behind a token, if there are any, does not go on with it. -/
theorem Token.EndsBefore.append {token : Token} {rest : List Char} (ends : token.EndsBefore rest)
    (nonempty : rest ≠ []) (more : List Char) : token.EndsBefore (rest ++ more) := by
  obtain ⟨c, rest', rfl⟩ := List.exists_cons_of_ne_nil nonempty
  cases token <;> exact ends

/-- The lexemes of two texts with a line end between them have the tokens of both. The induction is
on the lexemes of the first text; only the last of them stands at the line end. -/
theorem Lexed.exists_append_line {start start' : Nat} {cs cs' : List Char} {ls ls' : List Lexeme}
    (lexed : Lexed start cs ls) (lexed' : Lexed start' cs' ls') :
    ∃ both, Lexed start (cs ++ '\n' :: cs') both ∧
      significant both = significant ls ++ significant ls' := by
  have line : ∀ c ∈ ['\n'], Text.isWhiteSpace c = true := List.forall_mem_singleton.mpr rfl
  induction lexed with
  | nil start => exact lexed'.exists_blank (List.cons_ne_nil _ _) line
  | @cons start token text rest ls written ends more ih =>
    have goesOn : token.EndsBefore (rest ++ '\n' :: cs') →
        ∃ both, Lexed start (text ++ rest ++ '\n' :: cs') both ∧
          significant both =
            significant (⟨token, .ofSize start (Piece.size text)⟩ :: ls) ++ significant ls' := by
      intro ends'
      obtain ⟨both, more', same⟩ := ih
      rw [List.append_assoc]
      refine ⟨_, .cons written ends' more', ?_⟩
      rw [significant_cons, significant_cons, same, List.append_assoc]
    by_cases last : rest = []
    · subst last
      cases visible : token.isWhiteSpace with
      | false => exact goesOn (token.endsBefore_lineEnd visible cs')
      | true =>
        -- White space at the end of the first text takes the line end in.
        cases written with
        | @whiteSpace text nonempty white =>
          obtain rfl := more.eq_nil rfl
          have joined : ∀ c ∈ text ++ ['\n'], Text.isWhiteSpace c = true :=
            List.forall_mem_append.mpr ⟨white, line⟩
          have blank : ∃ both, Lexed start (text ++ ['\n'] ++ cs') both ∧
              significant both = significant ls' := lexed'.exists_blank (by simp) joined
          obtain ⟨both, whole, same⟩ := blank
          rw [List.append_assoc, List.singleton_append] at whole
          rw [List.append_nil, significant_cons_of_whiteSpace _ _ rfl]
          exact ⟨both, whole, same⟩
        | _ => cases visible
    · exact goesOn (ends.append last _)

/-! ## Derivations -/

namespace Grammar

/-- The chains of two documents, as those of one. -/
def Chains.append : Chains → Chains → Chains
  | .nil, more => more
  | .cons chain rest, more => .cons chain (rest.append more)

theorem Chains.tokens_append : ∀ cs more : Chains,
    (cs.append more).tokens = cs.tokens ++ more.tokens
  | .nil, _ => rfl
  | .cons chain rest, more => by
    rw [append, tokens, tokens, rest.tokens_append more, List.append_assoc]

theorem Chains.nodes_append : ∀ cs more : Chains,
    (cs.append more).nodes = cs.nodes ++ more.nodes
  | .nil, _ => rfl
  | .cons chain rest, more => by
    rw [append, nodes, nodes, rest.nodes_append more, List.append_assoc]

theorem Chains.occurrences_append (depth : Nat) : ∀ cs more : Chains,
    (cs.append more).occurrences depth = cs.occurrences depth ++ more.occurrences depth
  | .nil, _ => rfl
  | .cons chain rest, more => by
    rw [append, occurrences, occurrences, rest.occurrences_append depth more, List.append_assoc]

/-- A document that is over is not gone on with: the derivations of two documents are one. -/
theorem Chains.Derives.append {cs more : Chains} {tokens tokens' : List Token}
    (derives : cs.Derives tokens) (derives' : more.Derives tokens') :
    (cs.append more).Derives (tokens ++ tokens') where
  yield := by rw [Chains.tokens_append, derives.yield, derives'.yield]
  continued := by
    rw [Chains.occurrences_append]
    exact List.forall_mem_append.mpr ⟨derives.continued, derives'.continued⟩
  nested := by
    rw [Chains.occurrences_append]
    exact List.forall_mem_append.mpr ⟨derives.nested, derives'.nested⟩

end Grammar

/-! ## Documents and pages -/

/-- Two templates with a line end between them have the statements of both. -/
theorem Document.parse_append_line {first second : String} {d d' : Document}
    (parsed : Document.parse first = .ok d) (parsed' : Document.parse second = .ok d') :
    Document.parse (first ++ "\n" ++ second) = .ok ⟨d.roots ++ d'.roots⟩ := by
  obtain ⟨ls, cs, lexed, derives, rfl⟩ := parse_eq_ok_iff_derives.mp parsed
  obtain ⟨ls', cs', lexed', derives', rfl⟩ := parse_eq_ok_iff_derives.mp parsed'
  obtain ⟨both, whole, same⟩ := lexed.exists_append_line lexed'
  refine parse_eq_ok_iff_derives.mpr ⟨both, cs.append cs', ?_, ?_, ?_⟩
  · simpa using whole
  · rw [same]
    exact derives.append derives'
  · rw [Chains.document, Chains.nodes_append]
    rfl

namespace Engine

variable {engine : Engine} {model : Value}

/-- A template that is read has the page of its document. -/
theorem renderSource_of_parse {source : String} {d : Document}
    (parsed : Document.parse source = .ok d) :
    engine.renderSource source model = engine.render d model := by
  rw [renderSource, Engine.parse, parsed]
  rfl

/-- Documents one after the other have one page after the other, and fail as the first of them
does that fails. -/
theorem render_append (first second : List Node) :
    engine.render ⟨first ++ second⟩ model = do
      let html ← engine.render ⟨first⟩ model
      let more ← engine.render ⟨second⟩ model
      return html ++ more := by
  simp only [render, Environment.render, Environment.renderAll_append]
  cases engine.toEnvironment.renderAll _ model first with
  | error reason => rfl
  | ok html => cases engine.toEnvironment.renderAll _ model second <;> rfl

/-- Two templates that are read, with a line end between them, are read to the statements of the
first and then those of the second. Their page is the page of the first and then that of the second,
if both have one, and else the failure of the first, or of the second if the first does not fail. -/
theorem renderSource_append_line {first second : String} {d d' : Document}
    (parsed : Document.parse first = .ok d) (parsed' : Document.parse second = .ok d') :
    Document.parse (first ++ "\n" ++ second) = .ok ⟨d.roots ++ d'.roots⟩ ∧
      ∀ (engine : Engine) (model : Value),
        engine.renderSource (first ++ "\n" ++ second) model = do
          let html ← engine.renderSource first model
          let more ← engine.renderSource second model
          return html ++ more := by
  have both := Document.parse_append_line parsed parsed'
  refine ⟨both, fun engine model => ?_⟩
  rw [renderSource_of_parse parsed, renderSource_of_parse parsed', renderSource_of_parse both]
  exact render_append d.roots d'.roots

/-- A chain that is open at the end of the first template, behind it white space that goes on in the
second template, and a second template that has a page only if the model has a name. -/
theorem renderSource_append_line_chain :
    let first := "ul > li('a') + li \t"
    let second := "\u2028 p(user.name)"
    let d : Document := ⟨[⟨"ul", [], [], [⟨"li", [⟨.quoted, "a"⟩], [], []⟩, ⟨"li", [], [], []⟩]⟩]⟩
    let d' : Document := ⟨[⟨"p", [⟨.keyword, "user.name"⟩], [], []⟩]⟩
    let engine : Engine :=
      { registry := .ofSteps [.elements ["ul", "li", "p"]], binders := .standard
        views := .none, settings := {} }
    let named : Value := .map [("user", .map [("name", .string "A")])]
    let nameless : Value := .map [("user", .int 1)]
    (Document.parse first = .ok d ∧ Document.parse second = .ok d') ∧
      Document.parse (first ++ "\n" ++ second) = .ok ⟨d.roots ++ d'.roots⟩ ∧
      engine.renderSource (first ++ "\n" ++ second) named =
        .ok "<ul><li>a</li><li></li></ul><p>A</p>" ∧
      engine.renderSource (first ++ "\n" ++ second) nameless =
        .error (.render (.binding (.memberNotFound "user.name" "name"))) := by
  intro first second d d' engine named nameless
  have parsed : Document.parse first = .ok d := by decide +kernel
  have parsed' : Document.parse second = .ok d' := by decide +kernel
  have list : ∀ model, engine.renderSource first model = .ok "<ul><li>a</li><li></li></ul>" := by
    intro model
    rw [renderSource_of_parse parsed]
    rfl
  have paragraph : engine.renderSource second named = .ok "<p>A</p>" := by decide +kernel
  have unbound : engine.renderSource second nameless =
      .error (.render (.binding (.memberNotFound "user.name" "name"))) := by
    decide +kernel
  obtain ⟨both, pages⟩ := renderSource_append_line parsed parsed'
  refine ⟨⟨parsed, parsed'⟩, both, ?_, ?_⟩
  · rw [pages, list, paragraph]
    rfl
  · rw [pages, list, unbound]
    rfl

end Engine

end HtmlTemplate
