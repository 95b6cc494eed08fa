import HtmlTemplate.Piece
import HtmlTemplate.Proofs.Text.Classes
import HtmlTemplate.Proofs.Text.Runs

/-!
# How tokens are written

The spelling of a token, stated without the cutting of a text into pieces: which characters it is
written with (`Token.WrittenAs`), and where it ends in view of what follows (`Token.EndsBefore`).

* the next piece is a token exactly when what remains starts with a spelling of it that ends there
  (`next_eq_ok_iff`);
* no spelling at the same place is longer than the next piece (`prefix_next`).
-/

set_option autoImplicit false

namespace HtmlTemplate

/-- The token is written as `text`. -/
inductive Token.WrittenAs : Token → List Char → Prop
  | identifier {head : Char} {tail : List Char} (starts : Text.isNameHead head = true)
      (continues : ∀ c ∈ tail, Text.isNameTail c = true) :
      WrittenAs (.identifier (.ofList (head :: tail))) (head :: tail)
  | whiteSpace {text : List Char} (nonempty : text ≠ [])
      (white : ∀ c ∈ text, Text.isWhiteSpace c = true) :
      WrittenAs (.whiteSpace (.ofList text)) text
  | mark (mark : Mark) : WrittenAs (.mark mark) [mark.char]
  | pipe {body : List Char} (line : ∀ c ∈ body, Text.isLineEnd c = false) :
      WrittenAs (.pipe (.ofList body)) ('|' :: body)
  | quoted {quote closer : Char} {body : List Char} (opens : isQuote quote = true)
      (inside : ∀ c ∈ body, c ≠ quote ∧ Text.isLineEnd c = false)
      (closes : closer = quote ∨ Text.isLineEnd closer = true) :
      WrittenAs (.quoted (.ofList body)) (quote :: (body ++ [closer]))
  | multiline {quote : Char} {body : List Char} (opens : isQuote quote = true)
      (inside : ∀ c ∈ body, c ≠ quote) :
      WrittenAs (.multiline (.ofList body)) ('@' :: quote :: (body ++ [quote]))

/-- The characters behind a token do not go on with it. -/
def Token.EndsBefore : Token → List Char → Prop
  | .identifier _, rest => ∀ c ∈ rest.head?, Text.isNameTail c = false
  | .whiteSpace _, rest => ∀ c ∈ rest.head?, Text.isWhiteSpace c = false
  | .pipe _, rest => ∀ c ∈ rest.head?, Text.isLineEnd c = true
  | .mark _, _ | .quoted _, _ | .multiline _, _ => True

theorem Token.WrittenAs.ne_nil {token : Token} {text : List Char}
    (written : token.WrittenAs text) : text ≠ [] := by
  cases written with
  | whiteSpace nonempty _ => exact nonempty
  | _ => simp

namespace Piece

/-! ## The next piece by its first character -/

theorem next_pipe (cs : List Char) : next '|' cs = pipe cs := by
  simp [next]

theorem next_quote {quote : Char} (cs : List Char) (opens : isQuote quote = true) :
    next quote cs = quoted quote cs := by
  have other : quote ≠ '|' := by
    intro same
    subst same
    simp [isQuote] at opens
  simp [next, other, opens]

theorem next_multiline {quote : Char} (cs : List Char) (opens : isQuote quote = true) :
    next '@' (quote :: cs) = multiline quote cs := by
  have other : isQuote '@' = false := by decide
  simp [next, other, opens]

theorem next_nameHead {c : Char} (cs : List Char) (starts : Text.isNameHead c = true) :
    next c cs = run .identifier Text.isNameTail c cs := by
  have other : ∀ d ∈ Text.delimiters, c ≠ d := by
    intro d member same
    subst same
    simp [Text.isNameHead_of_mem_delimiters c member] at starts
  simp only [Text.delimiters, List.forall_mem_cons] at other
  simp [next, isQuote, other, starts]

theorem next_whiteSpace {c : Char} (cs : List Char) (white : Text.isWhiteSpace c = true) :
    next c cs = run .whiteSpace Text.isWhiteSpace c cs := by
  have other : ∀ d ∈ Text.delimiters, c ≠ d := by
    intro d member same
    subst same
    simp [Text.isWhiteSpace_of_mem_delimiters c member] at white
  simp only [Text.delimiters, List.forall_mem_cons] at other
  simp [next, isQuote, other, white, Text.isNameHead_of_isWhiteSpace white]

theorem next_mark (mark : Mark) (cs : List Char) :
    next mark.char cs = (⟨[mark.char], .ok (.mark mark)⟩, cs) := by
  have head : Text.isNameHead mark.char = false := by
    cases mark <;> decide +kernel
  have white : Text.isWhiteSpace mark.char = false := by
    cases mark <;> decide
  have found : Mark.ofChar? mark.char = some mark := by
    cases mark <;> rfl
  have other : mark.char ≠ '|' ∧ mark.char ≠ '@' ∧ isQuote mark.char = false := by
    cases mark <;> decide
  simp [next, head, white, found, other]

/-! ## What a piece holds -/

/-- A cut of `chars` into a piece and what remains: nothing is lost, and a token is written as the
text of the piece and ends there. -/
structure Cuts (chars : List Char) (cut : Piece × List Char) : Prop where
  append : cut.1.text ++ cut.2 = chars
  written : ∀ token, cut.1.reading = .ok token →
    token.WrittenAs cut.1.text ∧ token.EndsBefore cut.2

theorem cuts_flaw (text rest : List Char) (flaw : Flaw) :
    Cuts (text ++ rest) (⟨text, .error flaw⟩, rest) where
  append := rfl
  written := by
    intro token read
    cases read

theorem cuts_token {text : List Char} {token : Token} (rest : List Char)
    (written : token.WrittenAs text) (ends : token.EndsBefore rest) :
    Cuts (text ++ rest) (⟨text, .ok token⟩, rest) where
  append := rfl
  written := by
    intro other read
    cases read
    exact ⟨written, ends⟩

theorem cuts_pipe (cs : List Char) : Cuts ('|' :: cs) (pipe cs) := by
  have split := List.takeWhile_append_dropWhile (p := fun c => !Text.isLineEnd c) (l := cs)
  have written : Token.WrittenAs (.pipe (.ofList (cs.takeWhile fun c => !Text.isLineEnd c)))
      ('|' :: cs.takeWhile fun c => !Text.isLineEnd c) :=
    .pipe fun c member => by simpa using List.mem_takeWhile_imp member
  have ends : Token.EndsBefore (.pipe (.ofList (cs.takeWhile fun c => !Text.isLineEnd c)))
      (cs.dropWhile fun c => !Text.isLineEnd c) := by
    intro c first
    simpa using head?_dropWhile_eq_false first
  have cut := cuts_token _ written ends
  rw [List.cons_append, split] at cut
  exact cut

theorem cuts_run {token : String → Token} {member : Char → Bool} {c : Char} (cs : List Char)
    (written : (token (.ofList (c :: cs.takeWhile member))).WrittenAs (c :: cs.takeWhile member))
    (ends : (token (.ofList (c :: cs.takeWhile member))).EndsBefore (cs.dropWhile member)) :
    Cuts (c :: cs) (run token member c cs) := by
  have cut := cuts_token _ written ends
  rw [List.cons_append, List.takeWhile_append_dropWhile] at cut
  exact cut

theorem cuts_quoted {quote : Char} (cs : List Char) (opens : isQuote quote = true) :
    Cuts (quote :: cs) (quoted quote cs) := by
  unfold quoted
  dsimp only
  split
  · simpa using cuts_flaw (quote :: cs) [] .openLiteral
  · next closer rest stop =>
    obtain ⟨whole, closes⟩ := eq_append_of_dropWhile_cons stop
    let body := cs.takeWhile fun c => !(c = quote || Text.isLineEnd c)
    have written : Token.WrittenAs (.quoted (.ofList body)) (quote :: (body ++ [closer])) :=
      .quoted opens (fun c member => by simpa using List.mem_takeWhile_imp member)
        (by simpa [or_iff_not_imp_left] using closes)
    have cut := cuts_token rest written trivial
    rw [List.cons_append, List.append_assoc, List.singleton_append, ← whole] at cut
    exact cut

theorem cuts_multiline {quote : Char} (cs : List Char) (opens : isQuote quote = true) :
    Cuts ('@' :: quote :: cs) (multiline quote cs) := by
  unfold multiline
  dsimp only
  split
  · simpa using cuts_flaw ('@' :: quote :: cs) [] .openMultiline
  · next closer rest stop =>
    obtain ⟨whole, closes⟩ := eq_append_of_dropWhile_cons stop
    obtain rfl : closer = quote := by simpa using closes
    let body := cs.takeWhile fun c => !(c = closer)
    have written : Token.WrittenAs (.multiline (.ofList body))
        ('@' :: closer :: (body ++ [closer])) :=
      .multiline opens fun c member => by simpa using List.mem_takeWhile_imp member
    have cut := cuts_token rest written trivial
    rw [List.cons_append, List.cons_append, List.append_assoc, List.singleton_append,
      ← whole] at cut
    exact cut

/-- Every piece is cut off without loss, and is written as its token if it is one. -/
theorem cuts_next (c : Char) (cs : List Char) : Cuts (c :: cs) (next c cs) := by
  fun_cases next c cs
  case case1 bar =>
    subst bar
    exact cuts_pipe cs
  case case2 opens => exact cuts_quoted cs opens
  case case3 at_ quote rest opens =>
    subst at_
    exact cuts_multiline rest opens
  case case4 quote rest _ => exact cuts_flaw [c] (quote :: rest) .missingQuote
  case case5 => exact cuts_flaw [c] [] .missingQuote
  case case6 starts =>
    apply cuts_run cs
    · exact .identifier starts fun d member => List.mem_takeWhile_imp member
    · exact fun d first => head?_dropWhile_eq_false first
  case case7 white =>
    apply cuts_run cs
    · apply Token.WrittenAs.whiteSpace (List.cons_ne_nil _ _)
      exact List.forall_mem_cons.mpr ⟨white, fun d member => List.mem_takeWhile_imp member⟩
    · exact fun d first => head?_dropWhile_eq_false first
  case case8 mark found =>
    obtain rfl : mark.char = c := by
      simpa using List.find?_some found
    exact cuts_token cs (.mark mark) trivial
  case case9 => exact cuts_flaw [c] cs (.stray c)

/-! ## The next piece by its spelling -/

/-- A token that is spelled at the front of a text, and ends there, is the next piece. -/
theorem next_of_written {token : Token} {text rest cs : List Char} {c : Char}
    (written : token.WrittenAs text) (ends : token.EndsBefore rest)
    (front : c :: cs = text ++ rest) : next c cs = (⟨text, .ok token⟩, rest) := by
  cases written with
  | @identifier head tail starts continues =>
    obtain ⟨rfl, rfl⟩ := List.cons.inj (List.cons_append ▸ front)
    rw [next_nameHead _ starts, run, takeWhile_append_of_stop continues ends,
      dropWhile_append_of_stop continues ends]
  | @whiteSpace text nonempty white =>
    obtain ⟨head, tail, rfl⟩ := List.exists_cons_of_ne_nil nonempty
    obtain ⟨rfl, rfl⟩ := List.cons.inj (List.cons_append ▸ front)
    have continues : ∀ d ∈ tail, Text.isWhiteSpace d = true := fun d member =>
      white d (List.mem_cons_of_mem _ member)
    rw [next_whiteSpace _ (white c List.mem_cons_self), run,
      takeWhile_append_of_stop continues ends, dropWhile_append_of_stop continues ends]
  | mark mark =>
    obtain ⟨rfl, rfl⟩ := List.cons.inj (List.cons_append ▸ front)
    exact next_mark mark _
  | @pipe body line =>
    obtain ⟨rfl, rfl⟩ := List.cons.inj (List.cons_append ▸ front)
    have inside : ∀ d ∈ body, (!Text.isLineEnd d) = true := by simpa using line
    have stop : ∀ d ∈ rest.head?, (!Text.isLineEnd d) = false := by
      simpa [Token.EndsBefore] using ends
    rw [next_pipe, pipe, takeWhile_append_of_stop inside stop,
      dropWhile_append_of_stop inside stop]
  | @quoted quote closer body opens inside closes =>
    rw [List.cons_append, List.append_assoc, List.singleton_append] at front
    obtain ⟨rfl, rfl⟩ := List.cons.inj front
    have inside : ∀ d ∈ body, (!(d = c || Text.isLineEnd d)) = true := by simpa using inside
    have stop : ∀ d ∈ (closer :: rest).head?, (!(d = c || Text.isLineEnd d)) = false := by
      simpa [or_iff_not_imp_left] using closes
    simp only [next_quote _ opens, quoted, takeWhile_append_of_stop inside stop,
      dropWhile_append_of_stop inside stop]
  | @multiline quote body opens inside =>
    rw [List.cons_append, List.cons_append, List.append_assoc, List.singleton_append] at front
    obtain ⟨rfl, rfl⟩ := List.cons.inj front
    have inside : ∀ d ∈ body, (!(decide (d = quote))) = true := by simpa using inside
    have stop : ∀ d ∈ (quote :: rest).head?, (!(decide (d = quote))) = false := by simp
    simp only [next_multiline _ opens, multiline, takeWhile_append_of_stop inside stop,
      dropWhile_append_of_stop inside stop]

/-- The next piece is a token exactly when the token is spelled at the front and ends there. -/
theorem next_eq_ok_iff {token : Token} {text rest cs : List Char} {c : Char} :
    next c cs = (⟨text, .ok token⟩, rest) ↔
      c :: cs = text ++ rest ∧ token.WrittenAs text ∧ token.EndsBefore rest := by
  constructor
  · intro equal
    have cut := cuts_next c cs
    rw [equal] at cut
    exact ⟨cut.append.symm, cut.written token rfl⟩
  · intro spelled
    obtain ⟨front, written, ends⟩ := spelled
    exact next_of_written written ends front

/-- No spelling of a token is longer than the piece at the same place. -/
theorem prefix_next {token : Token} {text rest cs : List Char} {c : Char}
    (written : token.WrittenAs text) (front : c :: cs = text ++ rest) :
    text <+: (next c cs).1.text := by
  cases written with
  | @identifier head tail starts continues =>
    obtain ⟨rfl, rfl⟩ := List.cons.inj (List.cons_append ▸ front)
    rw [next_nameHead _ starts, run, List.cons_prefix_cons]
    exact ⟨rfl, prefix_takeWhile_append continues⟩
  | @whiteSpace text nonempty white =>
    obtain ⟨head, tail, rfl⟩ := List.exists_cons_of_ne_nil nonempty
    obtain ⟨rfl, rfl⟩ := List.cons.inj (List.cons_append ▸ front)
    rw [next_whiteSpace _ (white c List.mem_cons_self), run, List.cons_prefix_cons]
    exact ⟨rfl, prefix_takeWhile_append fun d member => white d (List.mem_cons_of_mem _ member)⟩
  | @pipe body line =>
    obtain ⟨rfl, rfl⟩ := List.cons.inj (List.cons_append ▸ front)
    rw [next_pipe, pipe, List.cons_prefix_cons]
    exact ⟨rfl, prefix_takeWhile_append (by simpa using line)⟩
  | mark mark =>
    simp only [next_of_written (.mark mark) trivial front, List.prefix_rfl]
  | quoted opens inside closes =>
    simp only [next_of_written (.quoted opens inside closes) trivial front, List.prefix_rfl]
  | multiline opens inside =>
    simp only [next_of_written (.multiline opens inside) trivial front, List.prefix_rfl]

end Piece

end HtmlTemplate
