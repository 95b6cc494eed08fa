import HtmlTemplate.Proofs.Value
import Mathlib.Data.List.Perm.Subperm

/-!
# Equality of model values

Two lists are equal if they have equal items at every place, and two maps if they have equal values
under every key, wherever the keys stand. A comparison of maps runs through the keys of one side
only and counts the entries of both, which comes to the same as long as no key stands twice.
Equality is then symmetric and transitive, and a value is equal to itself unless a number that is
none can be reached in it.
-/

set_option autoImplicit false

namespace HtmlTemplate

namespace Double

theorem same_comm (x y : Double) : x.same y = y.same x := by
  have bits : decide (x.bits = y.bits) = decide (y.bits = x.bits) := decide_eq_decide.mpr eq_comm
  rw [same, same, bits, Bool.and_comm (!x.isNaN), Bool.and_comm x.isZero]

theorem same_eq_true_iff {x y : Double} :
    x.same y = true ↔
      x.isNaN = false ∧ y.isNaN = false ∧ (x = y ∨ x.isZero = true ∧ y.isZero = true) := by
  cases x
  cases y
  simp [same, and_assoc]

theorem same_trans {x y z : Double} (first : x.same y = true) (second : y.same z = true) :
    x.same z = true := by
  obtain ⟨number, -, same⟩ := same_eq_true_iff.mp first
  obtain ⟨-, number', same'⟩ := same_eq_true_iff.mp second
  refine same_eq_true_iff.mpr ⟨number, number', ?_⟩
  rcases same with rfl | ⟨zero, zero'⟩
  · exact same'
  · rcases same' with rfl | ⟨-, zero'⟩
    · exact Or.inr ⟨zero, zero'⟩
    · exact Or.inr ⟨zero, zero'⟩

theorem same_self_iff (x : Double) : x.same x = true ↔ x.isNaN = false := by
  simp [same_eq_true_iff]

end Double

namespace Value

/-! ## When values are equal -/

/-- There is nothing on both sides, or there are equal values. -/
def Agree : Option Value → Option Value → Prop :=
  Option.Rel fun a b => a.same b = true

namespace Agree

variable {x y z : Option Value}

theorem symm (flip : ∀ a b, x = some a → y = some b → a.same b = true → b.same a = true)
    (agree : Agree x y) : Agree y x := by
  cases agree with
  | none => exact .none
  | some same => exact .some (flip _ _ rfl rfl same)

theorem trans
    (chain : ∀ a b c, x = some a → y = some b → z = some c → a.same b = true →
      b.same c = true → a.same c = true)
    (agree : Agree x y) (agree' : Agree y z) : Agree x z := by
  cases agree with
  | none => exact agree'
  | some same =>
    cases agree' with
    | some same' => exact .some (chain _ _ _ rfl rfl rfl same same')

theorem none_iff (agree : Agree x y) : x = none ↔ y = none := by
  cases agree <;> simp

theorem of_some {a : Value} (agree : Agree (some a) y) : ∃ b, y = some b ∧ a.same b = true := by
  cases agree with
  | some same => exact ⟨_, rfl, same⟩

protected theorem iff : Agree x y ↔
    (x = none ↔ y = none) ∧ ∀ v w, x = some v → y = some w → v.same w = true := by
  constructor
  · intro agree
    refine ⟨agree.none_iff, ?_⟩
    rintro v w rfl rfl
    cases agree with
    | some same => exact same
  · rintro ⟨none, some⟩
    cases x with
    | none => exact none.mp rfl ▸ .none
    | some v =>
      cases y with
      | none => cases none.mpr rfl
      | some w => exact .some (some v w rfl rfl)

theorem self_iff : Agree x x ↔ ∀ a, x = some a → a.same a = true := by
  constructor
  · rintro agree a rfl
    cases agree with
    | some same => exact same
  · intro same
    cases x with
    | none => exact .none
    | some a => exact .some (same a rfl)

end Agree

theorem sameItems_iff {as bs : List Value} :
    sameItems as bs = true ↔ ∀ i : Nat, Agree as[i]? bs[i]? := by
  induction as generalizing bs with
  | nil =>
    cases bs with
    | nil => simp [sameItems, Agree, Option.rel_none_none]
    | cons b bs =>
      simp only [sameItems, Bool.false_eq_true, false_iff, not_forall]
      exact ⟨0, fun agree => by cases agree⟩
  | cons a as ih =>
    cases bs with
    | nil =>
      simp only [sameItems, Bool.false_eq_true, false_iff, not_forall]
      exact ⟨0, fun agree => by cases agree⟩
    | cons b bs =>
      rw [sameItems, Bool.and_eq_true, ih]
      constructor
      · rintro ⟨first, later⟩ (_ | i)
        · exact .some first
        · exact later i
      · intro agree
        refine ⟨?_, fun i => agree (i + 1)⟩
        cases agree 0 with
        | some first => exact first

theorem sameEntries_iff {as bs : Entries Value} :
    sameEntries as bs = true ↔
      ∀ entry ∈ as, ∃ b, bs.find? entry.1 = some b ∧ entry.2.same b = true := by
  induction as with
  | nil => simp [sameEntries]
  | cons entry as ih =>
    obtain ⟨key, a⟩ := entry
    rw [sameEntries, Bool.and_eq_true, ih, List.forall_mem_cons]
    refine and_congr_left fun _ => ?_
    cases found : Entries.find? bs key <;> simp

/-- Comparing the entries of one side with the other side compares both under every key, if no key
stands twice and both have as many entries. -/
theorem sameEntries_iff_agree {as bs : Entries Value} (uniqueLeft : as.keys.Nodup)
    (uniqueRight : bs.keys.Nodup) :
    as.length = bs.length ∧ sameEntries as bs = true ↔
      ∀ key, Agree (as.find? key) (bs.find? key) := by
  have size_keys (entries : Entries Value) : entries.keys.length = entries.length := by
    rw [Entries.keys, List.length_map]
  rw [sameEntries_iff]
  constructor
  · rintro ⟨size, same⟩ key
    have sub : as.keys ⊆ bs.keys := by
      intro k member
      obtain ⟨entry, inside, rfl⟩ := List.mem_map.mp member
      obtain ⟨b, found, -⟩ := same entry inside
      exact List.mem_map.mpr ⟨_, Entries.mem_of_find? found, rfl⟩
    -- The keys of one side are all keys of the other, and there are as many of them.
    have keys : as.keys.Perm bs.keys := by
      refine (uniqueLeft.subperm sub).perm_of_length_le ?_
      rw [size_keys, size_keys]
      exact Nat.le_of_eq size.symm
    cases found : as.find? key with
    | none =>
      have missing := Entries.find?_eq_none_iff.mp found
      have missing' := Entries.find?_eq_none_iff.mpr fun member => missing (keys.mem_iff.mpr member)
      rw [missing']
      exact .none
    | some a =>
      obtain ⟨b, found', same⟩ := same (key, a) (Entries.mem_of_find? found)
      rw [found']
      exact .some same
  · intro agree
    have keys : as.keys.Perm bs.keys := by
      refine (List.perm_ext_iff_of_nodup uniqueLeft uniqueRight).mpr fun key => ?_
      rw [← not_iff_not, ← Entries.find?_eq_none_iff, ← Entries.find?_eq_none_iff]
      exact (agree key).none_iff
    refine ⟨by rw [← size_keys as, keys.length_eq, size_keys], fun entry inside => ?_⟩
    have here := agree entry.1
    rw [Entries.find?_of_mem uniqueLeft inside] at here
    exact here.of_some

/-- What makes two values equal, by the form that both have. -/
inductive Matches : Value → Value → Prop
  | null : Matches null null
  | bool (b : Bool) : Matches (bool b) (bool b)
  | int (n : Int64) : Matches (int n) (int n)
  | float {x y : Double} : x.same y = true → Matches (float x) (float y)
  | string (s : String) : Matches (string s) (string s)
  | list {as bs : List Value} : (∀ i : Nat, Agree as[i]? bs[i]?) → Matches (list as) (list bs)
  | map {as bs : Entries Value} :
      (∀ key, Agree (as.find? key) (bs.find? key)) → Matches (map as) (map bs)
  | record (identity : Nat) {typeName typeName' : String}
      {field field' : String → Option Value} :
      Matches (record identity typeName field) (record identity typeName' field')

theorem same_iff_matches {a b : Value} (uniqueLeft : a.HasUniqueKeys)
    (uniqueRight : b.HasUniqueKeys) : a.same b = true ↔ Matches a b := by
  constructor
  · intro equal
    fun_cases same a b <;> simp only [same] at equal
    case case1 => exact .null
    case case2 a b =>
      obtain rfl := eq_of_beq equal
      exact .bool a
    case case3 m n =>
      obtain rfl := eq_of_beq equal
      exact .int m
    case case4 x y => exact .float equal
    case case5 s t =>
      obtain rfl := eq_of_beq equal
      exact .string s
    case case6 as bs => exact .list (sameItems_iff.mp equal)
    case case7 as bs =>
      rw [Bool.and_eq_true, beq_iff_eq] at equal
      exact .map ((sameEntries_iff_agree (uniqueLeft as (.self _)) (uniqueRight bs (.self _))).mp
        equal)
    case case8 i _ _ j _ _ =>
      obtain rfl := eq_of_beq equal
      exact .record i
    case case9 => cases equal
  · intro form
    cases form with
    | null => rfl
    | bool b => simp [same]
    | int n => simp [same]
    | float equal => exact equal
    | string s => simp [same]
    | list agree => exact sameItems_iff.mpr agree
    | map agree =>
      obtain ⟨size, equal⟩ := (sameEntries_iff_agree (uniqueLeft _ (.self _))
        (uniqueRight _ (.self _))).mpr agree
      simp [same, size, equal]
    | record identity => simp [same]

/-! ## Equality as a relation -/

theorem same_symm {a b : Value} (uniqueLeft : a.HasUniqueKeys) (uniqueRight : b.HasUniqueKeys)
    (equal : a.same b = true) : b.same a = true := by
  induction a using members_induction generalizing b with
  | step a ih =>
    rw [same_iff_matches uniqueLeft uniqueRight] at equal
    rw [same_iff_matches uniqueRight uniqueLeft]
    have flip (v w : Value) (inLeft : IsMember v a) (inRight : IsMember w b) :
        v.same w = true → w.same v = true :=
      ih v inLeft (uniqueLeft.member inLeft) (uniqueRight.member inRight)
    cases equal with
    | null => exact .null
    | bool b => exact .bool b
    | int n => exact .int n
    | float equal => exact .float (Double.same_comm _ _ ▸ equal)
    | string s => exact .string s
    | list agree =>
      exact .list fun i => (agree i).symm fun v w found found' =>
        flip v w (.item (List.mem_of_getElem? found)) (.item (List.mem_of_getElem? found'))
    | map agree =>
      exact .map fun key => (agree key).symm fun v w found found' =>
        flip v w (.entry (Entries.mem_of_find? found)) (.entry (Entries.mem_of_find? found'))
    | record identity => exact .record identity

theorem same_trans {a b c : Value} (uniqueFirst : a.HasUniqueKeys) (uniqueSecond : b.HasUniqueKeys)
    (uniqueThird : c.HasUniqueKeys) (equal : a.same b = true) (equal' : b.same c = true) :
    a.same c = true := by
  induction a using members_induction generalizing b c with
  | step a ih =>
    rw [same_iff_matches uniqueFirst uniqueSecond] at equal
    rw [same_iff_matches uniqueSecond uniqueThird] at equal'
    rw [same_iff_matches uniqueFirst uniqueThird]
    have chain (u v w : Value) (inFirst : IsMember u a) (inSecond : IsMember v b)
        (inThird : IsMember w c) : u.same v = true → v.same w = true → u.same w = true :=
      ih u inFirst (uniqueFirst.member inFirst) (uniqueSecond.member inSecond)
        (uniqueThird.member inThird)
    cases equal with
    | null => exact equal'
    | bool b => exact equal'
    | int n => exact equal'
    | float equal =>
      cases equal' with
      | float equal' => exact .float (Double.same_trans equal equal')
    | string s => exact equal'
    | list agree =>
      cases equal' with
      | list agree' =>
        refine .list fun i => (agree i).trans (fun u v w found found' found'' => ?_) (agree' i)
        exact chain u v w (.item (List.mem_of_getElem? found))
          (.item (List.mem_of_getElem? found')) (.item (List.mem_of_getElem? found''))
    | map agree =>
      cases equal' with
      | map agree' =>
        refine .map fun key => (agree key).trans (fun u v w found found' found'' => ?_) (agree' key)
        exact chain u v w (.entry (Entries.mem_of_find? found))
          (.entry (Entries.mem_of_find? found')) (.entry (Entries.mem_of_find? found''))
    | record identity =>
      cases equal' with
      | record => exact .record identity

theorem same_self_iff {a : Value} (unique : a.HasUniqueKeys) :
    a.same a = true ↔ ¬ a.HoldsNaN := by
  induction a using members_induction with
  | step a ih =>
    have members (v : Value) (inside : IsMember v a) : v.same v = true ↔ ¬ v.HoldsNaN :=
      ih v inside (unique.member inside)
    rw [same_iff_matches unique unique, holdsNaN_iff, not_or]
    constructor
    · intro equal
      refine ⟨?_, ?_⟩
      · rintro ⟨x, rfl, none⟩
        cases equal with
        | float equal =>
          rw [(Double.same_self_iff x).mp equal] at none
          cases none
      · rintro ⟨v, inside, holds⟩
        refine (members v inside).mp ?_ holds
        cases inside with
        | item inside =>
          obtain ⟨i, found⟩ := List.getElem?_of_mem inside
          cases equal with
          | list agree => exact Agree.self_iff.mp (agree i) v found
        | entry inside =>
          have found := Entries.find?_of_mem (unique _ (.self _)) inside
          cases equal with
          | map agree => exact Agree.self_iff.mp (agree _) v found
    · rintro ⟨number, inner⟩
      have equal (v : Value) (inside : IsMember v a) : v.same v = true :=
        (members v inside).mpr fun holds => inner ⟨v, inside, holds⟩
      cases a with
      | null => exact .null
      | bool b => exact .bool b
      | int n => exact .int n
      | float x =>
        exact .float ((Double.same_self_iff x).mpr
          (Bool.eq_false_iff.mpr fun none => number ⟨x, rfl, none⟩))
      | string s => exact .string s
      | list items =>
        exact .list fun i => Agree.self_iff.mpr fun v found =>
          equal v (.item (List.mem_of_getElem? found))
      | map entries =>
        exact .map fun key => Agree.self_iff.mpr fun v found =>
          equal v (.entry (Entries.mem_of_find? found))
      | record identity => exact .record identity

/-- Maps are equal if they have the same keys, and equal values under each of them. -/
theorem same_map_iff {as bs : Entries Value} (uniqueLeft : (map as).HasUniqueKeys)
    (uniqueRight : (map bs).HasUniqueKeys) :
    (map as).same (map bs) = true ↔
      (∀ key, key ∈ as.keys ↔ key ∈ bs.keys) ∧
        ∀ key v w, as.find? key = some v → bs.find? key = some w → v.same w = true := by
  have found_iff (key : String) :
      (key ∈ as.keys ↔ key ∈ bs.keys) ↔ (as.find? key = none ↔ bs.find? key = none) := by
    rw [Entries.find?_eq_none_iff, Entries.find?_eq_none_iff, not_iff_not]
  rw [same_iff_matches uniqueLeft uniqueRight]
  simp only [found_iff, ← forall_and, ← Agree.iff]
  constructor
  · rintro (_ | _ | _ | _ | _ | _ | agree | _)
    exact agree
  · exact .map

/-- Values whose keys are unique are compared symmetrically and transitively, and a value equals
itself exactly if it holds no number that is none. Maps are equal exactly if they have the same keys
and equal values under each of them, in whatever order the entries stand. -/
theorem partialEquivalence_of_hasUniqueKeys {a b c : Value} (uniqueFirst : a.HasUniqueKeys)
    (uniqueSecond : b.HasUniqueKeys) (uniqueThird : c.HasUniqueKeys) :
    (a == b → b == a) ∧ (a == b → b == c → a == c) ∧ (a == a ↔ ¬ a.HoldsNaN) ∧
      ∀ as bs : Entries Value, a = map as → b = map bs →
        (a == b ↔
          (∀ key, key ∈ as.keys ↔ key ∈ bs.keys) ∧
            ∀ key v w, as.find? key = some v → bs.find? key = some w → v == w) := by
  refine ⟨same_symm uniqueFirst uniqueSecond, same_trans uniqueFirst uniqueSecond uniqueThird,
    same_self_iff uniqueFirst, ?_⟩
  rintro as bs rfl rfl
  exact same_map_iff uniqueFirst uniqueSecond

/-- The zeros of both signs are equal, and entries may change places; what is no number is not equal
to itself, deep in a list. -/
theorem partialEquivalence_of_hasUniqueKeys_zeros :
    let plus := ofPairs [("x", float ⟨0⟩), ("tags", list [null])]
    let minus := ofPairs [("tags", list [null]), ("x", float ⟨0x8000000000000000⟩)]
    let lost := ofPairs [("x", list [float Double.notANumber])]
    plus.HasUniqueKeys ∧ minus.HasUniqueKeys ∧ lost.HasUniqueKeys ∧
      minus == plus ∧ plus == plus ∧ ¬ lost == lost := by
  intro plus minus lost
  have scalar (x : Double) : (float x).HasUniqueKeys := .of_shape nofun nofun
  have absent : null.HasUniqueKeys := .of_shape nofun nofun
  have tags : (list [null]).HasUniqueKeys := .list (by simp [absent])
  have items : (list [float Double.notANumber]).HasUniqueKeys := .list (by simp [scalar])
  have uniquePlus : plus.HasUniqueKeys := .ofPairs (by simp [scalar, tags])
  have uniqueMinus : minus.HasUniqueKeys := .ofPairs (by simp [scalar, tags])
  have uniqueLost : lost.HasUniqueKeys := .ofPairs (by simp [items])
  have spec := partialEquivalence_of_hasUniqueKeys uniquePlus uniqueMinus uniquePlus
  have equal : plus == minus := by decide
  have flipped : minus == plus := spec.1 equal
  have holds : lost.HoldsNaN := by
    refine ⟨Double.notANumber, by decide, .through (.entry List.mem_cons_self) ?_⟩
    exact .through (.item List.mem_cons_self) (.self _)
  refine ⟨uniquePlus, uniqueMinus, uniqueLost, flipped, spec.2.1 equal flipped, fun itself => ?_⟩
  exact (partialEquivalence_of_hasUniqueKeys uniqueLost uniqueLost uniqueLost).2.2.1.mp itself holds

end Value

end HtmlTemplate
