import HtmlTemplate.Proofs.Document.WellFormed
import HtmlTemplate.Proofs.Grammar
import HtmlTemplate.Proofs.Lexing
import HtmlTemplate.Proofs.Reading.Places

/-!
# Tokens that have a spelling

Which identifiers and values can be written at all, and how a list of tokens that can be is laid
out: every token on a line of its own. A line end ends identifiers and pipe literals, and belongs to
no other token that has been closed, so nothing runs into the next line.
-/

set_option autoImplicit false

namespace HtmlTemplate

open Grammar

/-- The token may stand in a phrase, and some text is a spelling of it. -/
structure Token.Spelled (token : Token) : Prop where
  visible : token.isWhiteSpace = false
  written : ∃ text, token.WrittenAs text

theorem Token.spelled_identifier_iff {text : String} :
    (Token.identifier text).Spelled ↔ IsIdentifier text := by
  constructor
  · intro spelled
    obtain ⟨_, written⟩ := spelled.written
    cases written with
    | @identifier head tail starts continues =>
      exact ⟨head, tail, String.toList_ofList, starts, continues⟩
  · intro identifier
    obtain ⟨head, tail, whole, starts, continues⟩ := identifier
    have spelled := Token.WrittenAs.identifier starts continues
    rw [← whole, String.ofList_toList] at spelled
    exact ⟨rfl, _, spelled⟩

theorem Token.spelled_mark (mark : Mark) : (Token.mark mark).Spelled :=
  ⟨rfl, _, .mark mark⟩

/-- A text that has not both quotes lies between quotes of a kind that it does not have. -/
theorem isQuotable_iff {text : String} :
    IsQuotable text ↔ ∃ quote, isQuote quote = true ∧ quote ∉ text.toList := by
  constructor
  · intro quotable
    by_cases double : '"' ∈ text.toList
    · exact ⟨'\'', rfl, fun single => quotable ⟨double, single⟩⟩
    · exact ⟨'"', rfl, double⟩
  · intro quotes both
    obtain ⟨quote, opens, missing⟩ := quotes
    simp only [isQuote, Bool.or_eq_true, decide_eq_true_eq] at opens
    rcases opens with rfl | rfl
    · exact missing both.1
    · exact missing both.2

theorem Token.spelled_quoted_iff {text : String} :
    (Token.quoted text).Spelled ↔ IsLine text ∧ IsQuotable text := by
  constructor
  · intro spelled
    obtain ⟨_, written⟩ := spelled.written
    cases written with
    | @quoted quote closer body opens inside closes =>
      refine ⟨fun c member => ?_, isQuotable_iff.mpr ⟨quote, opens, fun member => ?_⟩⟩
      · exact (inside c (by simpa using member)).2
      · exact (inside quote (by simpa using member)).1 rfl
  · intro allowed
    obtain ⟨line, quotable⟩ := allowed
    obtain ⟨quote, opens, missing⟩ := isQuotable_iff.mp quotable
    have inside : ∀ c ∈ text.toList, c ≠ quote ∧ Text.isLineEnd c = false := fun c member =>
      ⟨fun same => missing (same ▸ member), line c member⟩
    have spelled := Token.WrittenAs.quoted opens inside (Or.inl rfl)
    rw [String.ofList_toList] at spelled
    exact ⟨rfl, _, spelled⟩

theorem Token.spelled_multiline_iff {text : String} :
    (Token.multiline text).Spelled ↔ IsQuotable text := by
  constructor
  · intro spelled
    obtain ⟨_, written⟩ := spelled.written
    cases written with
    | @multiline quote body opens inside =>
      refine isQuotable_iff.mpr ⟨quote, opens, fun member => ?_⟩
      exact inside quote (by simpa using member) rfl
  · intro quotable
    obtain ⟨quote, opens, missing⟩ := isQuotable_iff.mp quotable
    have inside : ∀ c ∈ text.toList, c ≠ quote := fun c member same => missing (same ▸ member)
    have spelled := Token.WrittenAs.multiline opens inside
    rw [String.ofList_toList] at spelled
    exact ⟨rfl, _, spelled⟩

theorem Token.spelled_pipe_iff {text : String} : (Token.pipe text).Spelled ↔ IsLine text := by
  constructor
  · intro spelled
    obtain ⟨_, written⟩ := spelled.written
    cases written with
    | @pipe body line => exact fun c member => line c (by simpa using member)
  · intro line
    have spelled := Token.WrittenAs.pipe line
    rw [String.ofList_toList] at spelled
    exact ⟨rfl, _, spelled⟩

/-- A value can be written exactly if its kind allows its text. -/
theorem Grammar.Written.spelled_iff (w : Written) :
    w.token.Spelled ↔ w.parameter.WellFormed := by
  cases w with
  | identifier text => exact Token.spelled_identifier_iff
  | quoted text => exact Token.spelled_quoted_iff
  | multiline text => exact Token.spelled_multiline_iff
  | pipe text => exact Token.spelled_pipe_iff

/-- Every parameter that is well formed is the meaning of a value. -/
theorem Parameter.WellFormed.exists_written {p : Parameter} (wellFormed : p.WellFormed) :
    ∃ w : Written, w.parameter = p := by
  obtain ⟨kind, text⟩ := p
  cases kind with
  | keyword => exact ⟨.identifier text, rfl⟩
  | quoted => exact ⟨.quoted text, rfl⟩
  | multiline => exact ⟨.multiline text, rfl⟩
  | pipe => exact ⟨.pipe text, rfl⟩
  | path => exact wellFormed.elim

theorem Attribute.WellFormed.exists_assignment {a : Attribute} (wellFormed : a.WellFormed) :
    ∃ written : Assignment, written.toAttribute = a := by
  obtain ⟨key, kind, text⟩ := a
  have value : Parameter.WellFormed ⟨kind, text⟩ := wellFormed.value
  obtain ⟨w, same⟩ := value.exists_written
  exact ⟨⟨key, w⟩, by simp [Assignment.toAttribute, same]⟩

/-! ## Laying tokens out -/

/-- A token that is no white space does not begin with any. -/
theorem Token.WrittenAs.head?_not_whiteSpace {token : Token} {text : List Char}
    (written : token.WrittenAs text) (visible : token.isWhiteSpace = false) :
    ∀ c ∈ text.head?, Text.isWhiteSpace c = false := by
  have delimits := Text.isWhiteSpace_of_mem_delimiters
  cases written with
  | @identifier head tail starts continues =>
    intro c first
    cases first
    cases white : Text.isWhiteSpace head with
    | false => rfl
    | true =>
      rw [Text.isNameHead_of_isWhiteSpace white] at starts
      cases starts
  | whiteSpace nonempty white => cases visible
  | mark mark =>
    intro c first
    cases first
    cases mark <;> decide
  | pipe line =>
    intro c first
    cases first
    exact delimits '|' (by decide)
  | @quoted quote closer body opens inside closes =>
    intro c first
    cases first
    simp only [isQuote, Bool.or_eq_true, decide_eq_true_eq] at opens
    rcases opens with rfl | rfl
    · exact delimits '"' (by decide)
    · exact delimits '\'' (by decide)
  | multiline opens inside =>
    intro c first
    cases first
    exact delimits '@' (by decide)

theorem Token.endsBefore_lineEnd (token : Token) (visible : token.isWhiteSpace = false)
    (rest : List Char) : token.EndsBefore ('\n' :: rest) := by
  cases token with
  | identifier text =>
    intro c first
    cases first
    exact Text.isNameTail_of_isWhiteSpace (by decide)
  | whiteSpace text => cases visible
  | pipe text =>
    intro c first
    cases first
    decide
  | _ => trivial

/-- The tokens are those of some text other than white space. -/
theorem exists_lexed : ∀ (tokens : List Token) (start : Nat),
    (∀ token ∈ tokens, token.Spelled) →
    ∃ cs ls, Lexed start cs ls ∧ significant ls = tokens ∧
      ∀ c ∈ cs.head?, Text.isWhiteSpace c = false
  | [], start, _ => ⟨[], [], .nil start, rfl, by simp⟩
  | token :: rest, start, spelled => by
    obtain ⟨⟨visible, text, written⟩, spelled'⟩ := List.forall_mem_cons.mp spelled
    obtain ⟨cs, ls, lexed, kept, stop⟩ :=
      exists_lexed rest (start + Piece.size text + Piece.size ['\n']) spelled'
    have white : Token.WrittenAs (.whiteSpace (.ofList ['\n'])) ['\n'] :=
      .whiteSpace (by simp) (by simpa using by decide)
    have line := Lexed.cons white stop lexed
    have whole := Lexed.cons written (token.endsBefore_lineEnd visible cs) line
    refine ⟨_, _, whole, ?_, ?_⟩
    · rw [significant_cons_of_visible _ _ visible, significant_cons_of_whiteSpace _ _ rfl, kept]
    · have first : (text ++ '\n' :: cs).head? = text.head? := by
        obtain ⟨c, more, rfl⟩ := List.exists_cons_of_ne_nil written.ne_nil
        rfl
      rw [first]
      exact written.head?_not_whiteSpace visible

end HtmlTemplate
