import HtmlTemplate.Proofs.Grammar

/-!
# Unique readability

Tokens have at most one derivation in which every `+` continues the innermost open chain. Each
phrase is read off the front of the tokens in one way only, given what may follow it: the optional
parts of a statement are told apart by the marks that open them, and lists by the comma and the
mark that closes them.
-/

set_option autoImplicit false

namespace HtmlTemplate.Grammar

theorem Written.token_inj {a b : Written} (same : a.token = b.token) : a = b := by
  cases a <;> cases b <;> simp_all [Written.token]

theorem Assignment.tokens_inj {a b : Assignment} {rest rest' : List Token}
    (same : a.tokens ++ rest = b.tokens ++ rest') : a = b ∧ rest = rest' := by
  obtain ⟨key, value⟩ := a
  obtain ⟨key', value'⟩ := b
  simp only [Assignment.tokens, List.cons_append, List.nil_append, List.cons.injEq,
    Token.identifier.injEq, true_and] at same
  obtain ⟨rfl, valueSame, rfl⟩ := same
  obtain rfl := Written.token_inj valueSame
  exact ⟨rfl, rfl⟩

/-! ## Lists between delimiters -/

section Lists

variable {α : Type} {phrase : α → List Token} {closer : Mark}

theorem flatMap_comma_inj (other : closer ≠ .comma)
    (read : ∀ {a b : α} {rest rest' : List Token},
      phrase a ++ rest = phrase b ++ rest' → a = b ∧ rest = rest') :
    ∀ {as bs : List α} {rest rest' : List Token},
      (as.flatMap fun a => .mark .comma :: phrase a) ++ .mark closer :: rest =
        (bs.flatMap fun b => .mark .comma :: phrase b) ++ .mark closer :: rest' →
      as = bs ∧ rest = rest'
  | [], [], rest, rest', same => ⟨rfl, by simpa using same⟩
  | [], b :: bs, rest, rest', same => by simp [other] at same
  | a :: as, [], rest, rest', same => by simp [Ne.symm other] at same
  | a :: as, b :: bs, rest, rest', same => by
    simp only [List.flatMap_cons, List.cons_append, List.append_assoc, List.cons.injEq,
      true_and] at same
    obtain ⟨rfl, later⟩ := read same
    obtain ⟨rfl, rfl⟩ := flatMap_comma_inj other read later
    exact ⟨rfl, rfl⟩

theorem separated_inj (other : closer ≠ .comma)
    (read : ∀ {a b : α} {rest rest' : List Token},
      phrase a ++ rest = phrase b ++ rest' → a = b ∧ rest = rest')
    (start : ∀ (a : α) (rest rest' : List Token), phrase a ++ rest ≠ .mark closer :: rest')
    {as bs : List α} {rest rest' : List Token}
    (same : separated phrase as ++ .mark closer :: rest =
      separated phrase bs ++ .mark closer :: rest') : as = bs ∧ rest = rest' := by
  cases as with
  | nil =>
    cases bs with
    | nil => exact ⟨rfl, by simpa [separated] using same⟩
    | cons b bs =>
      rw [separated, separated, List.append_assoc] at same
      exact (start b _ _ same.symm).elim
  | cons a as =>
    cases bs with
    | nil =>
      rw [separated, separated, List.append_assoc] at same
      exact (start a _ _ same).elim
    | cons b bs =>
      rw [separated, separated, List.append_assoc, List.append_assoc] at same
      obtain ⟨rfl, later⟩ := read same
      obtain ⟨rfl, rfl⟩ := flatMap_comma_inj other read later
      exact ⟨rfl, rfl⟩

end Lists

/-! ## Parts of a statement -/

theorem parameterPart_inj {ps ps' : Option (List Written)} {rest rest' : List Token}
    (other : rest.head? ≠ some (.mark .openParen)) (other' : rest'.head? ≠ some (.mark .openParen))
    (same : parameterPart ps ++ rest = parameterPart ps' ++ rest') : ps = ps' ∧ rest = rest' := by
  cases ps with
  | none =>
    cases ps' with
    | none => exact ⟨rfl, same⟩
    | some values =>
      obtain rfl : rest = _ := same
      simp [parameterPart] at other
  | some values =>
    cases ps' with
    | none =>
      obtain rfl : _ = rest' := same
      simp [parameterPart] at other'
    | some values' =>
      simp only [parameterPart, List.cons_append, List.append_assoc, List.nil_append,
        List.cons.injEq, true_and] at same
      obtain ⟨rfl, rfl⟩ := separated_inj (by decide)
        (fun {a b rest rest'} same => by
          simp only [List.cons_append, List.nil_append, List.cons.injEq] at same
          exact ⟨Written.token_inj same.1, same.2⟩)
        (fun a rest rest' => by cases a <;> simp [Written.token]) same
      exact ⟨rfl, rfl⟩

theorem attributePart_inj {as as' : Option (List Assignment)} {rest rest' : List Token}
    (other : rest.head? ≠ some (.mark .openBracket))
    (other' : rest'.head? ≠ some (.mark .openBracket))
    (same : attributePart as ++ rest = attributePart as' ++ rest') : as = as' ∧ rest = rest' := by
  cases as with
  | none =>
    cases as' with
    | none => exact ⟨rfl, same⟩
    | some assignments =>
      obtain rfl : rest = _ := same
      simp [attributePart] at other
  | some assignments =>
    cases as' with
    | none =>
      obtain rfl : _ = rest' := same
      simp [attributePart] at other'
    | some assignments' =>
      simp only [attributePart, List.cons_append, List.append_assoc, List.nil_append,
        List.cons.injEq, true_and] at same
      obtain ⟨rfl, rfl⟩ := separated_inj (by decide) Assignment.tokens_inj
        (fun a rest rest' => by simp [Assignment.tokens]) same
      exact ⟨rfl, rfl⟩

/-- A body starts neither parameters nor attributes. -/
theorem EndsBody.head?_ne {body : Body} {rest : List Token} (ends : EndsBody body rest) :
    (body.tokens ++ rest).head? ≠ some (.mark .openParen) ∧
      (body.tokens ++ rest).head? ≠ some (.mark .openBracket) := by
  cases body with
  | none =>
    rw [Body.tokens, List.nil_append]
    rcases ends with ends | ⟨-, more, rfl⟩
    · unfold EndsChain at ends
      split at ends
      · simp
      · simp
      · simp
      · exact ends.elim
    · simp
  | block chains => simp [Body.tokens]
  | chain chain => simp [Body.tokens]

theorem EndsBody.endsChain_of_chain {chain : Chain} {rest : List Token}
    (ends : EndsBody (.chain chain) rest) : EndsChain rest := by
  rcases ends with ends | ⟨other, -⟩
  · exact ends
  · exact (other chain rfl).elim

/-- What follows a statement without a body does not open one. -/
theorem EndsBody.eq_none_of_none {body : Body} {rest rest' : List Token}
    (ends : EndsBody .none rest) (same : rest = body.tokens ++ rest') : body = .none := by
  cases body with
  | none => rfl
  | block cs =>
    rcases ends with ends | ⟨-, more, rfl⟩
    · subst same
      exact ends.elim
    · simp [Body.tokens] at same
  | chain c =>
    rcases ends with ends | ⟨-, more, rfl⟩
    · subst same
      exact ends.elim
    · simp [Body.tokens] at same

theorem attributePart_head?_ne {as : Option (List Assignment)} {rest : List Token}
    (other : rest.head? ≠ some (.mark .openParen)) :
    (attributePart as ++ rest).head? ≠ some (.mark .openParen) := by
  cases as with
  | none => exact other
  | some assignments => simp [attributePart]

/-! ## Whole phrases -/

/-- Every `+` in these statements continues the innermost open chain. -/
def Continued (os : List Occurrence) : Prop :=
  ∀ o ∈ os, o.Continued

theorem Body.continued_of_statement {name : Name} {ps : Option (List Written)}
    {as : Option (List Assignment)} {body : Body} {n : Nat} {followed : Bool}
    (all : Continued ((Statement.mk name ps as body).occurrences n followed)) :
    Continued (body.occurrences (n + 1)) :=
  (List.forall_mem_cons.mp all).2

/-- A statement that a `+` follows may end in front of it. -/
theorem Statement.endsBody_of_followed {s : Statement} {n : Nat} {rest : List Token}
    (all : Continued (s.occurrences n true)) : EndsBody s.body (.mark .plus :: rest) := by
  cases s with
  | mk name ps as body =>
    exact Or.inr ⟨(List.forall_mem_cons.mp all).1 rfl, rest, rfl⟩

mutual

theorem Statement.unique : ∀ (s s' : Statement) {n : Nat} {f f' : Bool} {rest rest' : List Token},
    Continued (s.occurrences n f) → Continued (s'.occurrences n f') →
    EndsBody s.body rest → EndsBody s'.body rest' → s.tokens ++ rest = s'.tokens ++ rest' →
    s = s' ∧ rest = rest'
  | .mk name ps as body, .mk name' ps' as' body', n, f, f', rest, rest', all, all', ends, ends',
      same => by
    simp only [Statement.body] at ends ends'
    simp only [Statement.tokens, List.cons_append, List.append_assoc, List.cons.injEq,
      Token.identifier.injEq] at same
    obtain ⟨names, same⟩ := same
    obtain rfl := Name.ext_text names
    obtain ⟨rfl, behind⟩ := parameterPart_inj (attributePart_head?_ne ends.head?_ne.1)
      (attributePart_head?_ne ends'.head?_ne.1) same
    obtain ⟨rfl, last⟩ := attributePart_inj ends.head?_ne.2 ends'.head?_ne.2 behind
    obtain ⟨rfl, rfl⟩ := Body.unique body body' (Body.continued_of_statement all)
      (Body.continued_of_statement all') ends ends' last
    exact ⟨rfl, rfl⟩

theorem Body.unique : ∀ (b b' : Body) {n : Nat} {rest rest' : List Token},
    Continued (b.occurrences n) → Continued (b'.occurrences n) →
    EndsBody b rest → EndsBody b' rest' → b.tokens ++ rest = b'.tokens ++ rest' →
    b = b' ∧ rest = rest'
  | .none, .none, n, rest, rest', all, all', ends, ends', same => ⟨rfl, same⟩
  | .block cs, .block cs', n, rest, rest', all, all', ends, ends', same => by
    simp only [Body.tokens, List.cons_append, List.append_assoc, List.nil_append,
      List.cons.injEq, true_and] at same
    obtain ⟨rfl, later⟩ := Chains.unique cs cs' all all' (by trivial) (by trivial) same
    exact ⟨rfl, List.cons.inj later |>.2⟩
  | .chain c, .chain c', n, rest, rest', all, all', ends, ends', same => by
    simp only [Body.tokens, List.cons_append, List.cons.injEq, true_and] at same
    obtain ⟨rfl, rfl⟩ := Chain.unique c c' all all' ends.endsChain_of_chain
      ends'.endsChain_of_chain same
    exact ⟨rfl, rfl⟩
  | .none, .block cs', n, rest, rest', all, all', ends, ends', same => by
    cases ends.eq_none_of_none same
  | .none, .chain c', n, rest, rest', all, all', ends, ends', same => by
    cases ends.eq_none_of_none same
  | .block cs, .none, n, rest, rest', all, all', ends, ends', same => by
    cases ends'.eq_none_of_none same.symm
  | .chain c, .none, n, rest, rest', all, all', ends, ends', same => by
    cases ends'.eq_none_of_none same.symm
  | .block cs, .chain c', n, rest, rest', all, all', ends, ends', same => by
    simp [Body.tokens] at same
  | .chain c, .block cs', n, rest, rest', all, all', ends, ends', same => by
    simp [Body.tokens] at same

theorem Chain.unique : ∀ (c c' : Chain) {n : Nat} {rest rest' : List Token},
    Continued (c.occurrences n) → Continued (c'.occurrences n) →
    EndsChain rest → EndsChain rest' → c.tokens ++ rest = c'.tokens ++ rest' →
    c = c' ∧ rest = rest'
  | .one s, .one s', n, rest, rest', all, all', ends, ends', same => by
    obtain ⟨rfl, rfl⟩ := Statement.unique s s' all all' (Or.inl ends) (Or.inl ends') same
    exact ⟨rfl, rfl⟩
  | .plus s c, .plus s' c', n, rest, rest', all, all', ends, ends', same => by
    obtain ⟨here, later⟩ := List.forall_mem_append.mp all
    obtain ⟨here', later'⟩ := List.forall_mem_append.mp all'
    simp only [Chain.tokens, List.append_assoc, List.cons_append] at same
    obtain ⟨rfl, behind⟩ := Statement.unique s s' here here'
      (Statement.endsBody_of_followed here) (Statement.endsBody_of_followed here') same
    obtain ⟨rfl, rfl⟩ := Chain.unique c c' later later' ends ends' (List.cons.inj behind).2
    exact ⟨rfl, rfl⟩
  | .one s, .plus s' c', n, rest, rest', all, all', ends, ends', same => by
    obtain ⟨here', -⟩ := List.forall_mem_append.mp all'
    simp only [Chain.tokens, List.append_assoc, List.cons_append] at same
    obtain ⟨-, rfl⟩ := Statement.unique s s' all here' (Or.inl ends)
      (Statement.endsBody_of_followed here') same
    exact ends.elim
  | .plus s c, .one s', n, rest, rest', all, all', ends, ends', same => by
    obtain ⟨here, -⟩ := List.forall_mem_append.mp all
    simp only [Chain.tokens, List.append_assoc, List.cons_append] at same
    obtain ⟨-, rfl⟩ := Statement.unique s s' here all' (Statement.endsBody_of_followed here)
      (Or.inl ends') same
    exact ends'.elim

theorem Chains.unique : ∀ (cs cs' : Chains) {n : Nat} {rest rest' : List Token},
    Continued (cs.occurrences n) → Continued (cs'.occurrences n) →
    EndsLevel rest → EndsLevel rest' → cs.tokens ++ rest = cs'.tokens ++ rest' →
    cs = cs' ∧ rest = rest'
  | .nil, .nil, n, rest, rest', all, all', ends, ends', same => ⟨rfl, same⟩
  | .cons c cs, .cons c' cs', n, rest, rest', all, all', ends, ends', same => by
    obtain ⟨here, later⟩ := List.forall_mem_append.mp all
    obtain ⟨here', later'⟩ := List.forall_mem_append.mp all'
    simp only [Chains.tokens, List.append_assoc] at same
    obtain ⟨rfl, behind⟩ := Chain.unique c c' here here' (cs.endsChain ends.endsChain)
      (cs'.endsChain ends'.endsChain) same
    obtain ⟨rfl, rfl⟩ := Chains.unique cs cs' later later' ends ends' behind
    exact ⟨rfl, rfl⟩
  | .nil, .cons c' cs', n, rest, rest', all, all', ends, ends', same => by
    obtain ⟨name, more, first⟩ := c'.tokens_eq_cons
    rw [Chains.tokens, Chains.tokens, first] at same
    obtain rfl : rest = _ := same
    exact ends.elim
  | .cons c cs, .nil, n, rest, rest', all, all', ends, ends', same => by
    obtain ⟨name, more, first⟩ := c.tokens_eq_cons
    rw [Chains.tokens, Chains.tokens, first] at same
    obtain rfl : _ = rest' := same
    exact ends'.elim

end

/-- Tokens have at most one derivation that counts. -/
theorem Chains.Derives.unique {cs cs' : Chains} {tokens : List Token}
    (derives : cs.Derives tokens) (derives' : cs'.Derives tokens) : cs = cs' := by
  have same : cs.tokens ++ [] = cs'.tokens ++ [] := by rw [derives.yield, derives'.yield]
  have ends : EndsLevel [] := trivial
  exact (Chains.unique cs cs' derives.continued derives'.continued ends ends same).1

end HtmlTemplate.Grammar
