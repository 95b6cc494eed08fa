import HtmlTemplate.Proofs.Lexing.Written

/-!
# Lexings of a template

A lexing of a template is a list of lexemes whose spans tile the template and each of which is
written as the text at its span and ends there. The definition (`IsLexing`) speaks of byte offsets
and of single lexemes only; `Lexed` is the same by recursion over the characters.

* a template has lexemes exactly if these are a lexing of it (`tokenize_eq_ok_iff_lexed`,
  `isLexing_iff_lexed`);
* there is at most one lexing, since each piece is determined by what remains;
* no token of a lexing could be longer (`IsLexing.longest`).
-/

set_option autoImplicit false

namespace HtmlTemplate

/-! ## Sizes in bytes -/

namespace Piece

@[simp] theorem size_nil : size [] = 0 := rfl

@[simp] theorem size_cons (c : Char) (cs : List Char) : size (c :: cs) = c.utf8Size + size cs :=
  rfl

@[simp] theorem size_append (front rest : List Char) :
    size (front ++ rest) = size front + size rest := by
  induction front with
  | nil => simp
  | cons c front ih => rw [List.cons_append, size_cons, size_cons, ih, Nat.add_assoc]

theorem size_pos {cs : List Char} (nonempty : cs ≠ []) : 0 < size cs := by
  obtain ⟨c, rest, rfl⟩ := List.exists_cons_of_ne_nil nonempty
  have := c.utf8Size_pos
  rw [size_cons]
  omega

theorem size_eq_zero_iff {cs : List Char} : size cs = 0 ↔ cs = [] := by
  constructor
  · intro empty
    by_contra nonempty
    have := size_pos nonempty
    omega
  · intro empty
    rw [empty]
    rfl

theorem size_toList (source : String) : size source.toList = source.utf8ByteSize := by
  have sized : ∀ cs : List Char, size cs = (String.ofList cs).utf8ByteSize := by
    intro cs
    induction cs with
    | nil => rfl
    | cons c cs ih => simp [String.ofList_cons, ih]
  rw [sized, String.ofList_toList]

/-- Fronts of one text that have one size are equal. -/
theorem append_inj_of_size {front rest front' rest' : List Char}
    (whole : front ++ rest = front' ++ rest') (sizes : size front = size front') :
    front = front' ∧ rest = rest' := by
  induction front generalizing front' with
  | nil =>
    obtain rfl : front' = [] := size_eq_zero_iff.mp sizes.symm
    exact ⟨rfl, whole⟩
  | cons c front ih =>
    cases front' with
    | nil =>
      have := size_eq_zero_iff.mp sizes
      cases this
    | cons d front' =>
      rw [List.cons_append, List.cons_append] at whole
      obtain ⟨rfl, tails⟩ := List.cons.inj whole
      rw [size_cons, size_cons] at sizes
      obtain ⟨rfl, rfl⟩ := ih tails (by omega)
      exact ⟨rfl, rfl⟩

end Piece

theorem Span.eq_ofSize {span : Span} {start size : Nat} (starts : span.start = start)
    (stops : span.stop = start + size) : span = .ofSize start size := by
  cases span
  simp_all [Span.ofSize]

/-! ## Lexings -/

/-- The spans cover the offsets from `start` to `stop` one after the other, and none is empty. -/
def Tiles : List Span → Nat → Nat → Prop
  | [], start, stop => start = stop
  | span :: rest, start, stop => span.start = start ∧ start < span.stop ∧ Tiles rest span.stop stop

/-- The source has `text` at a span, and `rest` behind it. -/
def StandsAt (source : String) (span : Span) (text rest : List Char) : Prop :=
  ∃ before, source.toList = before ++ (text ++ rest) ∧
    Piece.size before = span.start ∧ Piece.size (before ++ text) = span.stop

/-- The lexemes are a reading of the source, each of them by the text at its span. -/
structure IsLexing (source : String) (ls : List Lexeme) : Prop where
  tiles : Tiles (ls.map (·.span)) 0 source.utf8ByteSize
  written : ∀ l ∈ ls, ∃ text rest, StandsAt source l.span text rest ∧
    l.token.WrittenAs text ∧ l.token.EndsBefore rest

/-- The lexemes are a reading of characters that begin at offset `start`. -/
inductive Lexed : Nat → List Char → List Lexeme → Prop
  | nil (start : Nat) : Lexed start [] []
  | cons {start : Nat} {token : Token} {text rest : List Char} {ls : List Lexeme}
      (written : token.WrittenAs text) (ends : token.EndsBefore rest)
      (more : Lexed (start + Piece.size text) rest ls) :
      Lexed start (text ++ rest) (⟨token, .ofSize start (Piece.size text)⟩ :: ls)

theorem Lexed.standsAt {source : String} {cs : List Char} {start : Nat} {ls : List Lexeme}
    (lexed : Lexed start cs ls) (before : List Char) (whole : source.toList = before ++ cs)
    (sized : Piece.size before = start) :
    Tiles (ls.map (·.span)) start source.utf8ByteSize ∧
      ∀ l ∈ ls, ∃ text rest, StandsAt source l.span text rest ∧
        l.token.WrittenAs text ∧ l.token.EndsBefore rest := by
  induction lexed generalizing before with
  | nil start =>
    rw [← Piece.size_toList, whole, List.append_nil, sized]
    exact ⟨rfl, by simp⟩
  | @cons start token text rest ls written ends more ih =>
    have sized' : Piece.size (before ++ text) = start + Piece.size text := by
      rw [Piece.size_append, sized]
    obtain ⟨tiles, each⟩ := ih (before ++ text) (by rw [whole, List.append_assoc]) sized'
    have positive := Piece.size_pos written.ne_nil
    refine ⟨⟨rfl, ?_, tiles⟩, ?_⟩
    · simp only [Span.ofSize]
      omega
    · have first : ∃ text' rest', StandsAt source (.ofSize start (Piece.size text)) text' rest' ∧
          token.WrittenAs text' ∧ token.EndsBefore rest' :=
        ⟨text, rest, ⟨before, whole, sized, sized'⟩, written, ends⟩
      exact List.forall_mem_cons.mpr ⟨first, each⟩

theorem lexed_of_standsAt {source : String} {ls : List Lexeme} (before cs : List Char)
    (whole : source.toList = before ++ cs)
    (tiles : Tiles (ls.map (·.span)) (Piece.size before) source.utf8ByteSize)
    (written : ∀ l ∈ ls, ∃ text rest, StandsAt source l.span text rest ∧
      l.token.WrittenAs text ∧ l.token.EndsBefore rest) :
    Lexed (Piece.size before) cs ls := by
  induction ls generalizing before cs with
  | nil =>
    have stop : Piece.size before = source.utf8ByteSize := tiles
    rw [← Piece.size_toList, whole, Piece.size_append] at stop
    obtain rfl : cs = [] := Piece.size_eq_zero_iff.mp (by omega)
    exact .nil _
  | cons l ls ih =>
    obtain ⟨start, _, more⟩ := tiles
    obtain ⟨text, rest, ⟨before', whole', sized, stop⟩, written', ends⟩ :=
      written l List.mem_cons_self
    -- The lexeme stands where the tiling has come to, because its span starts there.
    obtain ⟨rfl, rfl⟩ := Piece.append_inj_of_size (whole.symm.trans whole') (start ▸ sized.symm)
    have later := ih (before ++ text) rest (by rw [whole, List.append_assoc]) (stop ▸ more)
      (fun m member => written m (List.mem_cons_of_mem _ member))
    rw [Piece.size_append] at later stop
    have span := Span.eq_ofSize sized.symm stop.symm
    have lexed := Lexed.cons written' ends later
    rw [← span] at lexed
    exact lexed

theorem isLexing_iff_lexed {source : String} {ls : List Lexeme} :
    IsLexing source ls ↔ Lexed 0 source.toList ls := by
  constructor
  · intro lexing
    exact lexed_of_standsAt [] _ rfl lexing.tiles lexing.written
  · intro lexed
    obtain ⟨tiles, written⟩ := lexed.standsAt [] rfl rfl
    exact ⟨tiles, written⟩

/-! ## Cutting a template into lexemes -/

theorem flawsOf_cons (span : Span) (piece : Piece) (pieces : List (Span × Piece)) :
    flawsOf ((span, piece) :: pieces) =
      match piece.reading with
      | .ok _ => flawsOf pieces
      | .error flaw => flaw.diagnostic span :: flawsOf pieces := by
  unfold flawsOf
  cases read : piece.reading <;> simp [read]

theorem lexemesOf_cons (span : Span) (piece : Piece) (pieces : List (Span × Piece)) :
    lexemesOf ((span, piece) :: pieces) =
      match piece.reading with
      | .ok token => ⟨token, span⟩ :: lexemesOf pieces
      | .error _ => lexemesOf pieces := by
  unfold lexemesOf
  cases read : piece.reading <;> simp [read]

/-- The cutting finds a lexing, if there is no flaw in its way. -/
theorem lexed_of_flawsOf (cs : List Char) (start : Nat)
    (flawless : flawsOf (Piece.placed start (Piece.all cs)) = []) :
    Lexed start cs (lexemesOf (Piece.placed start (Piece.all cs))) := by
  fun_induction Piece.all cs generalizing start with
  | case1 => exact .nil start
  | case2 c cs ih =>
    rw [Piece.placed, flawsOf_cons] at flawless
    rw [Piece.placed, lexemesOf_cons]
    have cut := Piece.cuts_next c cs
    cases read : (Piece.next c cs).1.reading with
    | error flaw => simp [read] at flawless
    | ok token =>
      rw [read] at flawless
      obtain ⟨written, ends⟩ := cut.written token read
      have lexed := Lexed.cons written ends (ih _ flawless)
      rw [cut.append] at lexed
      exact lexed

/-- The cutting follows every lexing. -/
theorem Lexed.lexemesOf_eq {start : Nat} {cs : List Char} {ls : List Lexeme}
    (lexed : Lexed start cs ls) :
    flawsOf (Piece.placed start (Piece.all cs)) = [] ∧
      lexemesOf (Piece.placed start (Piece.all cs)) = ls := by
  induction lexed with
  | nil start =>
    rw [Piece.all, Piece.placed]
    exact ⟨rfl, rfl⟩
  | @cons start token text rest ls written ends more ih =>
    obtain ⟨c, cs, whole⟩ := List.exists_cons_of_ne_nil
      (List.append_ne_nil_of_left_ne_nil written.ne_nil rest)
    have next := Piece.next_of_written written ends whole.symm
    rw [whole, Piece.all, next, Piece.placed, flawsOf_cons, lexemesOf_cons]
    exact ⟨ih.1, congrArg _ ih.2⟩

theorem tokenize_eq_ok_iff_lexed {source : String} {ls : List Lexeme} :
    tokenize source = .ok ls ↔ Lexed 0 source.toList ls := by
  unfold tokenize
  dsimp only
  constructor
  · intro cut
    split at cut
    · next flawless =>
      cases cut
      exact lexed_of_flawsOf _ _ flawless
    · cases cut
  · intro lexed
    obtain ⟨flawless, read⟩ := lexed.lexemesOf_eq
    rw [flawless, read]

/-- No spelling of a token that starts where a lexeme does is longer than the lexeme. -/
theorem IsLexing.longest {source : String} {ls : List Lexeme} (lexing : IsLexing source ls)
    {l : Lexeme} (member : l ∈ ls) {token : Token} {span : Span} {text rest : List Char}
    (stands : StandsAt source span text rest) (written : token.WrittenAs text)
    (same : span.start = l.span.start) : span.stop ≤ l.span.stop := by
  obtain ⟨before, whole, start, stop⟩ := stands
  obtain ⟨text', rest', ⟨before', whole', start', stop'⟩, written', ends'⟩ :=
    lexing.written l member
  obtain ⟨rfl, rest_eq⟩ := Piece.append_inj_of_size (whole.symm.trans whole')
    (by rw [start, start', same])
  obtain ⟨c, cs, front⟩ := List.exists_cons_of_ne_nil
    (List.append_ne_nil_of_left_ne_nil written'.ne_nil rest')
  have next := Piece.next_of_written written' ends' front.symm
  have shorter := Piece.prefix_next written (rest_eq.trans front).symm
  rw [next] at shorter
  obtain ⟨more, rfl⟩ := shorter
  rw [← stop, ← stop']
  simp only [Piece.size_append]
  omega

/-- The lexemes of a template are its only lexing, and each of them is as long as any token at its
place. -/
theorem tokenize_eq_ok_iff_isLexing (source : String) :
    (∀ ls, tokenize source = .ok ls ↔ IsLexing source ls) ∧
    (∀ ls ls', IsLexing source ls → IsLexing source ls' → ls = ls') ∧
    (∀ ls, IsLexing source ls → ∀ l ∈ ls, ∀ (token : Token) span text rest,
      StandsAt source span text rest → token.WrittenAs text → span.start = l.span.start →
        span.stop ≤ l.span.stop) := by
  have found : ∀ ls, tokenize source = .ok ls ↔ IsLexing source ls := fun ls =>
    tokenize_eq_ok_iff_lexed.trans isLexing_iff_lexed.symm
  refine ⟨found, ?_, ?_⟩
  · intro ls ls' lexing lexing'
    have same := ((found ls).mpr lexing).symm.trans ((found ls').mpr lexing')
    exact Except.ok.inj same
  · intro ls lexing l member token span text rest stands written same
    exact lexing.longest member stands written same

end HtmlTemplate
