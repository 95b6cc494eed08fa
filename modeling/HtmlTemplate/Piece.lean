import HtmlTemplate.Diagnostic
import HtmlTemplate.Token
import HtmlTemplate.Text.Character
import HtmlTemplate.Text.Visible

/-!
# Cutting a template into pieces

A template is cut into pieces from left to right, and each piece is a token or a flaw. The first
character of what remains decides which kind of piece comes next, and a piece is as long as its
kind allows. After a flaw the cutting goes on behind the piece, so every character belongs to
exactly one piece and all flaws are found in one pass. A template has lexemes only if no piece of
it is a flaw.
-/

set_option autoImplicit false

namespace HtmlTemplate

/-- Why a piece of a template is no token. -/
inductive Flaw
  /-- A quoted literal that neither its quote nor a line end closes. -/
  | openLiteral
  /-- A multi-line literal that its quote does not close. -/
  | openMultiline
  /-- A sign for a multi-line literal without a quote behind it. -/
  | missingQuote
  /-- A character that starts no token. -/
  | stray (c : Char)
deriving DecidableEq, Repr

namespace Flaw

def code : Flaw → Code
  | openLiteral => .unterminatedString
  | openMultiline => .unterminatedMultiline
  | missingQuote => .missingQuote
  | stray _ => .unexpectedCharacter

def message : Flaw → String
  | openLiteral => "unterminated string literal"
  | openMultiline => "unterminated multi-line string literal"
  | missingQuote => "expected a quote after `@`"
  | stray c => "unexpected character `" ++ Text.visible c ++ "`"

def help : Flaw → String
  | openLiteral => "close the literal with a matching quote"
  | openMultiline => "add the closing quote"
  | missingQuote => "multi-line literals start with `@\"` or `@'`"
  | stray _ => "quote literal text, e.g. `p(\"...\")` or `| ...`"

def diagnostic (flaw : Flaw) (span : Span) : Diagnostic :=
  { code := some flaw.code
    message := flaw.message
    labels := [.primary span flaw.code.description]
    help := some flaw.help }

end Flaw

/-- A part of the source and what it was read as. -/
structure Piece where
  text : List Char
  reading : Except Flaw Token

def isQuote (c : Char) : Bool :=
  c = '"' || c = '\''

namespace Piece

/-- The pipe literal whose sign was read: the rest of the line. -/
def pipe (cs : List Char) : Piece × List Char :=
  let body := cs.takeWhile fun c => !Text.isLineEnd c
  (⟨'|' :: body, .ok (.pipe (.ofList body))⟩, cs.dropWhile fun c => !Text.isLineEnd c)

/-- The literal whose opening `quote` was read. Its quote or a line end closes it and belongs to
it. -/
def quoted (quote : Char) (cs : List Char) : Piece × List Char :=
  let inside := fun c => !(c = quote || Text.isLineEnd c)
  match cs.dropWhile inside with
  | [] => (⟨quote :: cs, .error .openLiteral⟩, [])
  | closer :: rest =>
    let body := cs.takeWhile inside
    (⟨quote :: (body ++ [closer]), .ok (.quoted (.ofList body))⟩, rest)

/-- The multi-line literal whose sign and opening `quote` were read. Only its quote closes it. -/
def multiline (quote : Char) (cs : List Char) : Piece × List Char :=
  let inside := fun c => !(c = quote)
  match cs.dropWhile inside with
  | [] => (⟨'@' :: quote :: cs, .error .openMultiline⟩, [])
  | closer :: rest =>
    let body := cs.takeWhile inside
    (⟨'@' :: quote :: (body ++ [closer]), .ok (.multiline (.ofList body))⟩, rest)

/-- The longest run from `c` on of characters in a class, read as `token` of its text. -/
def run (token : String → Token) (member : Char → Bool) (c : Char) (cs : List Char) :
    Piece × List Char :=
  let text := c :: cs.takeWhile member
  (⟨text, .ok (token (.ofList text))⟩, cs.dropWhile member)

/-- The piece that starts at `c`, and the characters behind it. -/
def next (c : Char) (cs : List Char) : Piece × List Char :=
  if c = '|' then pipe cs
  else if isQuote c then quoted c cs
  else if c = '@' then
    match cs with
    | quote :: rest =>
      if isQuote quote then multiline quote rest else (⟨[c], .error .missingQuote⟩, cs)
    | [] => (⟨[c], .error .missingQuote⟩, cs)
  else if Text.isNameHead c then run .identifier Text.isNameTail c cs
  else if Text.isWhiteSpace c then run .whiteSpace Text.isWhiteSpace c cs
  else
    match Mark.ofChar? c with
    | some mark => (⟨[c], .ok (.mark mark)⟩, cs)
    | none => (⟨[c], .error (.stray c)⟩, cs)

theorem length_dropWhile_le {α : Type} (p : α → Bool) (xs : List α) :
    (xs.dropWhile p).length ≤ xs.length :=
  (List.dropWhile_suffix p).length_le

/-- The characters behind a piece are fewer than those it started from. -/
theorem length_next_lt (c : Char) (cs : List Char) :
    (next c cs).2.length < (c :: cs).length := by
  have drop : ∀ p : Char → Bool, (cs.dropWhile p).length < cs.length + 1 := fun p =>
    Nat.lt_succ_of_le (length_dropWhile_le p cs)
  simp only [List.length_cons]
  unfold next
  split
  · exact drop _
  split
  · unfold quoted
    simp only
    split
    · simp
    · rename_i closer rest equal
      have := length_dropWhile_le (fun d => !(d = c || Text.isLineEnd d)) cs
      rw [equal] at this
      simp only [List.length_cons] at this
      simp only
      omega
  split
  · split
    · rename_i quote rest
      split
      · unfold multiline
        simp only
        split
        · simp
        · rename_i closer after equal
          have := length_dropWhile_le (fun d => !(d = quote)) rest
          rw [equal] at this
          simp only [List.length_cons] at this ⊢
          omega
      · simp
    · simp
  split
  · exact drop _
  split
  · exact drop _
  split <;> simp

/-- All pieces of a text, in order. -/
def all : List Char → List Piece
  | [] => []
  | c :: cs => (next c cs).1 :: all (next c cs).2
termination_by cs => cs.length
decreasing_by exact length_next_lt c cs

/-- The number of bytes of a text. -/
def size (cs : List Char) : Nat :=
  cs.foldr (fun c bytes => c.utf8Size + bytes) 0

/-- The pieces with their spans, the first one starting at `start`. -/
def placed (start : Nat) : List Piece → List (Span × Piece)
  | [] => []
  | piece :: rest =>
    (.ofSize start (size piece.text), piece) :: placed (start + size piece.text) rest

end Piece

/-- The diagnostics of the pieces that are flaws. -/
def flawsOf (pieces : List (Span × Piece)) : List Diagnostic :=
  pieces.filterMap fun (span, piece) =>
    match piece.reading with
    | .ok _ => none
    | .error flaw => some (flaw.diagnostic span)

/-- The lexemes of the pieces that are tokens. -/
def lexemesOf (pieces : List (Span × Piece)) : List Lexeme :=
  pieces.filterMap fun (span, piece) =>
    match piece.reading with
    | .ok token => some ⟨token, span⟩
    | .error _ => none

/-- The lexemes of a template, or a diagnostic for every flaw in it. -/
def tokenize (source : String) : Except ParseError (List Lexeme) :=
  let pieces := Piece.placed 0 (Piece.all source.toList)
  match flawsOf pieces with
  | [] => .ok (lexemesOf pieces)
  | flaws => .error ⟨flaws⟩

end HtmlTemplate
