import HtmlTemplate.Proofs.Grammar

/-!
# Levels of a derivation

A block and a chain behind `>` are a level below their statement: a block up to its closing brace, a
chain with all statements that a `+` adds to it. `Chains.leveled` is the yield of a derivation in
which each token comes with the number of levels that are open around it. A brace or a `>` is no
part of the level that it opens or closes.

* the tokens are those of the yield (`Chains.map_token_leveled`);
* where every statement is nested as it may be, no token opens a level too deep
  (`Chains.shallow_of_nested`).
-/

set_option autoImplicit false

namespace HtmlTemplate

/-- The token opens a level of statements. -/
def Token.opensLevel : Token → Bool
  | .mark .openBrace | .mark .greaterThan => true
  | _ => false

namespace Grammar

/-- A token of a derivation and the number of levels that are open around it. -/
structure Leveled where
  token : Token
  depth : Nat
deriving DecidableEq, Repr

namespace Leveled

/-- The number of levels that are open behind the token. -/
def behind (t : Leveled) : Nat :=
  if t.token.opensLevel then t.depth + 1 else t.depth

/-- If the token opens a level, fewer levels than the greatest depth are open around it. -/
def Shallow (t : Leveled) : Prop :=
  t.token.opensLevel = true → t.depth < maxNesting

instance (t : Leveled) : Decidable t.Shallow :=
  inferInstanceAs (Decidable (_ → _))

theorem shallow_of_plain {t : Leveled} (plain : t.token.opensLevel = false) : t.Shallow := by
  intro opens
  rw [plain] at opens
  cases opens

end Leveled

/-- Tokens of one level. -/
def flat (depth : Nat) (tokens : List Token) : List Leveled :=
  tokens.map fun token => ⟨token, depth⟩

@[simp] theorem map_token_flat (depth : Nat) (tokens : List Token) :
    (flat depth tokens).map (·.token) = tokens := by
  simp [flat, Function.comp_def]

mutual

def Statement.leveled (depth : Nat) : Statement → List Leveled
  | .mk name parameters attributes body =>
    ⟨.identifier name.text, depth⟩ ::
      (flat depth (parameterPart parameters) ++
        (flat depth (attributePart attributes) ++ body.leveled depth))

/-- The depth is that of the statement with the body. -/
def Body.leveled (depth : Nat) : Body → List Leveled
  | .none => []
  | .block chains =>
    ⟨.mark .openBrace, depth⟩ :: (chains.leveled (depth + 1) ++ [⟨.mark .closeBrace, depth⟩])
  | .chain chain => ⟨.mark .greaterThan, depth⟩ :: chain.leveled (depth + 1)

def Chain.leveled (depth : Nat) : Chain → List Leveled
  | .one statement => statement.leveled depth
  | .plus statement rest =>
    statement.leveled depth ++ ⟨.mark .plus, depth⟩ :: rest.leveled depth

def Chains.leveled (depth : Nat) : Chains → List Leveled
  | .nil => []
  | .cons chain rest => chain.leveled depth ++ rest.leveled depth

end

mutual

@[simp] theorem Statement.map_token_leveled :
    ∀ (s : Statement) (depth : Nat), (s.leveled depth).map (·.token) = s.tokens
  | .mk name ps as body, depth => by
    simp [Statement.leveled, Statement.tokens, body.map_token_leveled]

@[simp] theorem Body.map_token_leveled :
    ∀ (body : Body) (depth : Nat), (body.leveled depth).map (·.token) = body.tokens
  | .none, depth => rfl
  | .block cs, depth => by simp [Body.leveled, Body.tokens, cs.map_token_leveled]
  | .chain c, depth => by simp [Body.leveled, Body.tokens, c.map_token_leveled]

@[simp] theorem Chain.map_token_leveled :
    ∀ (c : Chain) (depth : Nat), (c.leveled depth).map (·.token) = c.tokens
  | .one s, depth => s.map_token_leveled depth
  | .plus s c, depth => by
    simp [Chain.leveled, Chain.tokens, s.map_token_leveled, c.map_token_leveled]

@[simp] theorem Chains.map_token_leveled :
    ∀ (cs : Chains) (depth : Nat), (cs.leveled depth).map (·.token) = cs.tokens
  | .nil, depth => rfl
  | .cons c cs, depth => by
    simp [Chains.leveled, Chains.tokens, c.map_token_leveled, cs.map_token_leveled]

end

/-! ## Levels that are not too deep -/

theorem Written.plain (value : Written) : value.token.opensLevel = false := by
  cases value <;> rfl

theorem Assignment.plain (a : Assignment) : ∀ token ∈ a.tokens, token.opensLevel = false :=
  List.forall_mem_cons.mpr
    ⟨rfl, List.forall_mem_cons.mpr ⟨rfl, List.forall_mem_singleton.mpr a.value.plain⟩⟩

theorem plain_separated {α : Type} (phrase : α → List Token)
    (each : ∀ a, ∀ token ∈ phrase a, token.opensLevel = false) (items : List α) :
    ∀ token ∈ separated phrase items, token.opensLevel = false := by
  cases items with
  | nil => nofun
  | cons first more =>
    intro token member
    rcases List.mem_append.mp member with member | member
    · exact each first token member
    · obtain ⟨a, -, member⟩ := List.mem_flatMap.mp member
      rcases List.mem_cons.mp member with rfl | member
      · rfl
      · exact each a token member

theorem plain_parameterPart (ps : Option (List Written)) :
    ∀ token ∈ parameterPart ps, token.opensLevel = false := by
  cases ps with
  | none => nofun
  | some values =>
    have listed := plain_separated (fun value : Written => [value.token])
      (fun value => List.forall_mem_singleton.mpr value.plain) values
    exact List.forall_mem_cons.mpr
      ⟨rfl, List.forall_mem_append.mpr ⟨listed, List.forall_mem_singleton.mpr rfl⟩⟩

theorem plain_attributePart (as : Option (List Assignment)) :
    ∀ token ∈ attributePart as, token.opensLevel = false := by
  cases as with
  | none => nofun
  | some assignments =>
    have listed := plain_separated Assignment.tokens Assignment.plain assignments
    exact List.forall_mem_cons.mpr
      ⟨rfl, List.forall_mem_append.mpr ⟨listed, List.forall_mem_singleton.mpr rfl⟩⟩

/-- Tokens of one level that open none are not too deep. -/
theorem shallow_flat {tokens : List Token} (depth : Nat)
    (plain : ∀ token ∈ tokens, token.opensLevel = false) : ∀ t ∈ flat depth tokens, t.Shallow := by
  intro t here
  obtain ⟨token, member, rfl⟩ := List.mem_map.mp here
  exact Leveled.shallow_of_plain (plain token member)

mutual

theorem Statement.shallow_of_nested : ∀ (s : Statement) {depth : Nat} {followed : Bool},
    (∀ o ∈ s.occurrences depth followed, o.Nested) → ∀ t ∈ s.leveled depth, t.Shallow
  | .mk name ps as body, depth, followed, nested => by
    obtain ⟨here, below⟩ := List.forall_mem_cons.mp nested
    refine List.forall_mem_cons.mpr ⟨Leveled.shallow_of_plain rfl, List.forall_mem_append.mpr
      ⟨shallow_flat depth (plain_parameterPart ps), List.forall_mem_append.mpr
        ⟨shallow_flat depth (plain_attributePart as), body.shallow_of_nested here below⟩⟩⟩

theorem Body.shallow_of_nested : ∀ (body : Body) {depth : Nat},
    (body ≠ .none → depth < maxNesting) → (∀ o ∈ body.occurrences (depth + 1), o.Nested) →
    ∀ t ∈ body.leveled depth, t.Shallow
  | .none, depth, here, below => nofun
  | .block cs, depth, here, below => by
    have closer : Leveled.Shallow ⟨.mark .closeBrace, depth⟩ := Leveled.shallow_of_plain rfl
    exact List.forall_mem_cons.mpr ⟨fun _ => here (by simp), List.forall_mem_append.mpr
      ⟨cs.shallow_of_nested below, List.forall_mem_singleton.mpr closer⟩⟩
  | .chain c, depth, here, below =>
    List.forall_mem_cons.mpr ⟨fun _ => here (by simp), c.shallow_of_nested below⟩

theorem Chain.shallow_of_nested : ∀ (c : Chain) {depth : Nat},
    (∀ o ∈ c.occurrences depth, o.Nested) → ∀ t ∈ c.leveled depth, t.Shallow
  | .one s, depth, nested => s.shallow_of_nested nested
  | .plus s c, depth, nested => by
    obtain ⟨here, later⟩ := List.forall_mem_append.mp nested
    exact List.forall_mem_append.mpr ⟨s.shallow_of_nested here, List.forall_mem_cons.mpr
      ⟨Leveled.shallow_of_plain rfl, c.shallow_of_nested later⟩⟩

theorem Chains.shallow_of_nested : ∀ (cs : Chains) {depth : Nat},
    (∀ o ∈ cs.occurrences depth, o.Nested) → ∀ t ∈ cs.leveled depth, t.Shallow
  | .nil, depth, nested => nofun
  | .cons c cs, depth, nested => by
    obtain ⟨here, later⟩ := List.forall_mem_append.mp nested
    exact List.forall_mem_append.mpr ⟨c.shallow_of_nested here, cs.shallow_of_nested later⟩

end

end Grammar

end HtmlTemplate
