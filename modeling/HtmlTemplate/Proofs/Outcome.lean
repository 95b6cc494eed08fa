/-!
# Outcomes of steps that may fail

A chain of steps comes to a result exactly if every step does, and fails exactly if some step fails
after those before it have come to their results.
-/

set_option autoImplicit false

namespace HtmlTemplate

variable {ε α β : Type}

theorem Except.bind_eq_ok_iff {x : Except ε α} {next : α → Except ε β} {b : β} :
    (x >>= next) = .ok b ↔ ∃ a, x = .ok a ∧ next a = .ok b := by
  cases x <;> simp [bind, Except.bind]

theorem Except.bind_eq_error_iff {x : Except ε α} {next : α → Except ε β} {e : ε} :
    (x >>= next) = .error e ↔ x = .error e ∨ ∃ a, x = .ok a ∧ next a = .error e := by
  cases x <;> simp [bind, Except.bind]

/-- A fold that fails does so at one of the elements. -/
theorem Except.exists_of_foldlM_eq_error {step : β → α → Except ε β} {e : ε} :
    ∀ {xs : List α} {b : β}, xs.foldlM step b = .error e → ∃ x ∈ xs, ∃ b', step b' x = .error e
  | [], b, failed => by cases failed
  | x :: xs, b, failed => by
    rw [List.foldlM_cons] at failed
    rcases Except.bind_eq_error_iff.mp failed with here | ⟨b', -, later⟩
    · exact ⟨x, List.mem_cons_self, b, here⟩
    · obtain ⟨y, member, found⟩ := exists_of_foldlM_eq_error later
      exact ⟨y, List.mem_cons_of_mem _ member, found⟩

/-- Folds with the same steps at their elements come to the same outcome. -/
theorem Except.foldlM_congr {step step' : β → α → Except ε β} :
    ∀ {xs : List α} {b : β}, (∀ x ∈ xs, ∀ b, step b x = step' b x) →
      xs.foldlM step b = xs.foldlM step' b
  | [], b, same => rfl
  | x :: xs, b, same => by
    obtain ⟨first, later⟩ := List.forall_mem_cons.mp same
    rw [List.foldlM_cons, List.foldlM_cons, first]
    exact congrArg _ (funext fun b' => foldlM_congr later)

/-- Outcomes are the same under a function if they fail alike, or have results that it does not tell
apart. -/
theorem Except.map_eq_map_iff {f : α → β} {x y : Except ε α} :
    x.map f = y.map f ↔ (∃ e, x = .error e ∧ y = .error e) ∨
      ∃ a b, x = .ok a ∧ y = .ok b ∧ f a = f b := by
  cases x <;> cases y <;> simp [Except.map, eq_comm]

theorem Except.mapError_eq_ok_iff {ε' : Type} {f : ε → ε'} {x : Except ε α} {a : α} :
    x.mapError f = .ok a ↔ x = .ok a := by
  cases x with
  | ok b =>
    exact ⟨fun same => congrArg _ (Except.ok.inj same),
      fun same => congrArg Except.ok (Except.ok.inj same)⟩
  | error e => exact ⟨nofun, nofun⟩

theorem Except.mapError_eq_error_iff {ε' : Type} {f : ε → ε'} {x : Except ε α} {e' : ε'} :
    x.mapError f = .error e' ↔ ∃ e, x = .error e ∧ f e = e' := by
  cases x with
  | ok a => exact ⟨nofun, nofun⟩
  | error e =>
    refine ⟨fun same => ⟨e, rfl, Except.error.inj same⟩, ?_⟩
    rintro ⟨_, ⟨⟩, rfl⟩
    rfl

/-- Outcomes with the same failures under a function come to one result, or fail in ways that it
does not tell apart. -/
theorem Except.mapError_eq_mapError_iff {ε' : Type} {f : ε → ε'} {x y : Except ε α} :
    x.mapError f = y.mapError f ↔ (∃ a, x = .ok a ∧ y = .ok a) ∨
      ∃ e e', x = .error e ∧ y = .error e' ∧ f e = f e' := by
  constructor
  · intro same
    cases x with
    | ok a =>
      cases y with
      | ok b => exact Or.inl ⟨a, rfl, congrArg _ (Except.ok.inj same).symm⟩
      | error e => cases same
    | error e =>
      cases y with
      | ok b => cases same
      | error e' => exact Or.inr ⟨e, e', rfl, rfl, Except.error.inj same⟩
  · rintro (⟨a, rfl, rfl⟩ | ⟨e, e', rfl, rfl, same⟩)
    · rfl
    · exact congrArg Except.error same

theorem Except.toOption_eq_some_iff {x : Except ε α} {a : α} :
    x.toOption = some a ↔ x = .ok a := by
  cases x <;> simp [Except.toOption]

end HtmlTemplate
