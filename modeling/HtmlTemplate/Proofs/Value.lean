import HtmlTemplate.Proofs.Entries
import HtmlTemplate.Value.OfJson

/-!
# What stands in a value

A value is a tree of lists and maps. Its members are what the outermost list or map holds, and by
going on from member to member everything in it is reached; a record is the end of such a way,
whatever its fields are. Maps whose keys are all different keep this at any depth, and so do the
values that are read from JSON.
-/

set_option autoImplicit false

namespace HtmlTemplate.Value

/-- The value stands in the list or the map itself. -/
inductive IsMember (member : Value) : Value → Prop
  | item {items : List Value} : member ∈ items → IsMember member (list items)
  | entry {key : String} {entries : List (String × Value)} :
      (key, member) ∈ entries → IsMember member (map entries)

/-- The inner value is the whole, or is reached from it through lists and maps. -/
inductive Contains : Value → Value → Prop
  | self (v : Value) : Contains v v
  | through {whole member inner : Value} :
      IsMember member whole → Contains member inner → Contains whole inner

/-- A number that is none can be reached. -/
def HoldsNaN (v : Value) : Prop :=
  ∃ x : Double, x.isNaN = true ∧ v.Contains (float x)

/-- No key stands twice in a map that is the value or is reached from it. -/
def HasUniqueKeys (v : Value) : Prop :=
  ∀ entries, v.Contains (map entries) → (Entries.keys entries).Nodup

theorem sizeOf_lt_of_isMember {member whole : Value} (inside : IsMember member whole) :
    sizeOf member < sizeOf whole := by
  cases inside with
  | item inside =>
    have smaller := List.sizeOf_lt_of_mem inside
    simp only [list.sizeOf_spec]
    omega
  | entry inside =>
    have smaller := List.sizeOf_lt_of_mem inside
    simp only [map.sizeOf_spec, Prod.mk.sizeOf_spec] at smaller ⊢
    omega

/-- What holds of a value as soon as it holds of its members holds of every value. -/
@[elab_as_elim]
theorem members_induction {motive : Value → Prop}
    (step : ∀ v, (∀ member, IsMember member v → motive member) → motive v) (v : Value) :
    motive v :=
  step v fun member _ => members_induction step member
termination_by sizeOf v
decreasing_by exact sizeOf_lt_of_isMember ‹_›

theorem holdsNaN_iff (v : Value) :
    v.HoldsNaN ↔ (∃ x, v = float x ∧ x.isNaN = true) ∨
      ∃ member, IsMember member v ∧ member.HoldsNaN := by
  constructor
  · rintro ⟨x, none, reached⟩
    cases reached with
    | self => exact Or.inl ⟨x, rfl, none⟩
    | through inside reached => exact Or.inr ⟨_, inside, x, none, reached⟩
  · rintro (⟨x, rfl, none⟩ | ⟨member, inside, x, none, reached⟩)
    · exact ⟨x, none, .self _⟩
    · exact ⟨x, none, .through inside reached⟩

/-! ## Unique keys -/

theorem HasUniqueKeys.member {member whole : Value} (unique : whole.HasUniqueKeys)
    (inside : IsMember member whole) : member.HasUniqueKeys :=
  fun entries reached => unique entries (.through inside reached)

theorem HasUniqueKeys.of_members {v : Value}
    (top : ∀ entries, v = map entries → (Entries.keys entries).Nodup)
    (below : ∀ member, IsMember member v → member.HasUniqueKeys) : v.HasUniqueKeys := by
  intro entries reached
  cases reached with
  | self => exact top entries rfl
  | through inside reached => exact below _ inside entries reached

theorem HasUniqueKeys.ofPairs {pairs : List (String × Value)}
    (each : ∀ pair ∈ pairs, pair.2.HasUniqueKeys) : (ofPairs pairs).HasUniqueKeys := by
  refine .of_members (fun entries whole => ?_) fun member inside => ?_
  · obtain rfl := map.inj whole
    exact Entries.nodup_keys_ofPairs pairs
  · cases inside with
    | entry inside => exact each _ (Entries.mem_of_mem_ofPairs inside)

theorem HasUniqueKeys.list {items : List Value} (each : ∀ item ∈ items, item.HasUniqueKeys) :
    (list items).HasUniqueKeys := by
  refine .of_members (fun entries whole => by cases whole) fun member inside => ?_
  cases inside with
  | item inside => exact each member inside

/-- A value that is neither a list nor a map has no members. -/
theorem HasUniqueKeys.of_shape {v : Value} (notList : v.shape ≠ .list) (notMap : v.shape ≠ .map) :
    v.HasUniqueKeys := by
  refine .of_members ?_ ?_
  · rintro entries rfl
    exact (notMap rfl).elim
  · rintro member (_ | _)
    · exact (notList rfl).elim
    · exact (notMap rfl).elim

theorem shape_of_ofInt? {n : Int} {value : Value} (read : ofInt? n = some value) :
    value.shape = .scalar := by
  rw [ofInt?] at read
  split at read
  · obtain rfl := Option.some.inj read
    rfl
  · cases read

theorem shape_of_ofNumber? {d : Decimal} {isWhole : Bool} {value : Value}
    (read : ofNumber? d isWhole = some value) : value.shape = .scalar := by
  simp only [ofNumber?] at read
  split at read
  · next n fits =>
    obtain rfl := Option.some.inj read
    split at fits
    · exact shape_of_ofInt? fits
    · cases fits
  · split at read
    · cases read
    · obtain rfl := Option.some.inj read
      rfl

mutual

/-- Of members with a common key one is left, so every value read from JSON has unique keys. -/
theorem hasUniqueKeys_of_ofJson? {value : Value} :
    ∀ {json : Json}, ofJson? json = some value → value.HasUniqueKeys
  | .null, read | .bool _, read | .string _, read => by
    obtain rfl := Option.some.inj read
    exact .of_shape (by simp [shape]) (by simp [shape])
  | .number d isWhole, read => by
    have scalar := shape_of_ofNumber? read
    exact .of_shape (by simp [scalar]) (by simp [scalar])
  | .array items, read => by
    obtain ⟨values, readItems, rfl⟩ := Option.map_eq_some_iff.mp read
    exact .list (hasUniqueKeys_of_ofItems? readItems)
  | .object members, read => by
    obtain ⟨pairs, readMembers, rfl⟩ := Option.map_eq_some_iff.mp read
    exact .ofPairs (hasUniqueKeys_of_ofMembers? readMembers)

theorem hasUniqueKeys_of_ofItems? :
    ∀ {items : List Json} {values : List Value}, ofItems? items = some values →
      ∀ value ∈ values, value.HasUniqueKeys
  | [], values, read => by
    obtain rfl := Option.some.inj read
    simp
  | item :: rest, values, read => by
    rw [ofItems?] at read
    split at read
    · next first later readFirst readLater =>
      obtain rfl := Option.some.inj read
      exact List.forall_mem_cons.mpr
        ⟨hasUniqueKeys_of_ofJson? readFirst, hasUniqueKeys_of_ofItems? readLater⟩
    · cases read

theorem hasUniqueKeys_of_ofMembers? :
    ∀ {members : List (String × Json)} {pairs : List (String × Value)},
      ofMembers? members = some pairs → ∀ pair ∈ pairs, pair.2.HasUniqueKeys
  | [], pairs, read => by
    obtain rfl := Option.some.inj read
    simp
  | (key, item) :: rest, pairs, read => by
    rw [ofMembers?] at read
    split at read
    · next first later readFirst readLater =>
      obtain rfl := Option.some.inj read
      exact List.forall_mem_cons.mpr
        ⟨hasUniqueKeys_of_ofJson? readFirst, hasUniqueKeys_of_ofMembers? readLater⟩
    · cases read

end

end HtmlTemplate.Value
