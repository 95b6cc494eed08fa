import HtmlTemplate.Binding
import HtmlTemplate.Proofs.Outcome
import HtmlTemplate.Proofs.Text.Split
import Mathlib.Data.List.Induction
import Mathlib.Data.Nat.Digits.Defs

/-!
# Following paths

A path that is cut at a point leads where its back leads from where its front leads. If it leads
nowhere, the segment to blame is that of the front, or that of the back if the front leads somewhere
(`Binders.follow_point`). Nothing is asked of the binders for this, as every segment is read by the
binder for the value reached so far.

The items of a list are named by their positions in decimal digits: every spelling of a position
names its item, and nothing else names one.
-/

set_option autoImplicit false

namespace HtmlTemplate

namespace BindingError

/-- The failure as it is told of another path. -/
def onPath (path : String) : BindingError → BindingError
  | memberNotFound _ segment => memberNotFound path segment
  | emptyPath => emptyPath

end BindingError

namespace Binders

variable (binders : Binders)

/-- Reads one segment of a path. -/
def step (path : String) (value : Value) (segment : String) : Except BindingError Value :=
  match binders.member? value segment with
  | some next => .ok next
  | none => .error (.memberNotFound path segment)

theorem step_onPath (path other : String) (value : Value) (segment : String) :
    (binders.step path value segment).mapError (.onPath other) =
      binders.step other value segment := by
  unfold step
  split <;> rfl

theorem follow_eq_foldlM (model : Value) {path : String} (nonempty : path ≠ "") :
    binders.follow model path = (Text.splitAt '.' path).foldlM (binders.step path) model := by
  have nonempty' : path.isEmpty = false := by simpa using nonempty
  rw [follow, nonempty']
  rfl

/-- The segments of one path, read as those of another, fail alike but for the path. -/
theorem foldlM_step_onPath (path other : String) :
    ∀ (segments : List String) (model : Value),
      (segments.foldlM (binders.step path) model).mapError (.onPath other) =
        segments.foldlM (binders.step other) model
  | [], model => rfl
  | segment :: segments, model => by
    rw [List.foldlM_cons, List.foldlM_cons, ← step_onPath binders path other]
    cases binders.step path model segment with
    | error reason => rfl
    | ok next => exact foldlM_step_onPath path other segments next

/-- A path is followed up to the first segment that names no member. -/
theorem exists_missing_segment {path text segment : String} :
    ∀ {segments : List String} {model : Value},
      segments.foldlM (binders.step text) model = .error (.memberNotFound path segment) →
      path = text ∧ ∃ before after value, segments = before ++ segment :: after ∧
        before.foldlM binders.member? model = some value ∧ binders.member? value segment = none
  | [], model, failed => by cases failed
  | name :: segments, model, failed => by
    rw [List.foldlM_cons, step] at failed
    cases found : binders.member? model name with
    | none =>
      rw [found] at failed
      cases failed
      exact ⟨rfl, [], segments, model, rfl, rfl, found⟩
    | some next =>
      rw [found] at failed
      obtain ⟨same, before, after, value, split, followed, missing⟩ :=
        exists_missing_segment failed
      refine ⟨same, name :: before, after, value, by rw [split, List.cons_append], ?_, missing⟩
      rw [List.foldlM_cons, found]
      exact followed

/-- A path that cannot be followed is empty, or a segment of it names no member. -/
theorem follow_eq_error {model : Value} {text : String} {reason : BindingError}
    (failed : binders.follow model text = .error reason) :
    (text = "" ∧ reason = .emptyPath) ∨
      ∃ segment before after value, reason = .memberNotFound text segment ∧
        Text.splitAt '.' text = before ++ segment :: after ∧
        before.foldlM binders.member? model = some value ∧
        binders.member? value segment = none := by
  by_cases empty : text = ""
  · subst empty
    exact Or.inl ⟨rfl, (Except.error.inj failed).symm⟩
  · rw [follow_eq_foldlM binders model empty] at failed
    cases reason with
    | memberNotFound path segment =>
      obtain ⟨rfl, before, after, value, missing⟩ := exists_missing_segment binders failed
      exact Or.inr ⟨segment, before, after, value, rfl, missing⟩
    | emptyPath =>
      obtain ⟨name, -, value, failed'⟩ := Except.exists_of_foldlM_eq_error failed
      unfold step at failed'
      split at failed' <;> cases failed'

/-- A path that cannot be followed lacks a member for one of its segments. -/
theorem exists_segment_of_follow {model : Value} {path : String} {reason : BindingError}
    (nonempty : path ≠ "") (failed : binders.follow model path = .error reason) :
    ∃ segment, reason = .memberNotFound path segment := by
  rcases follow_eq_error binders failed with ⟨empty, -⟩ | ⟨segment, -, -, -, same, -⟩
  · exact (nonempty empty).elim
  · exact ⟨segment, same⟩

/-- Following two paths with a point between them is following the one and then the other. -/
theorem follow_append_point (model : Value) {front back : String} (first : front ≠ "")
    (second : back ≠ "") :
    binders.follow model (front ++ "." ++ back) =
      (binders.follow model front >>= fun part => binders.follow part back).mapError
        (.onPath (front ++ "." ++ back)) := by
  have nonempty : front ++ "." ++ back ≠ "" := by simp [first]
  have segments : Text.splitAt '.' (front ++ "." ++ back) =
      Text.splitAt '.' front ++ Text.splitAt '.' back := Text.splitAt_append '.' front back
  rw [follow_eq_foldlM binders model nonempty, segments, List.foldlM_append,
    ← foldlM_step_onPath binders front, follow_eq_foldlM binders model first]
  cases (Text.splitAt '.' front).foldlM (binders.step front) model with
  | error reason => rfl
  | ok part =>
    change (Text.splitAt '.' back).foldlM (binders.step _) part =
      (binders.follow part back).mapError _
    rw [follow_eq_foldlM binders part second, foldlM_step_onPath]

end Binders

/-! ## Positions in lists -/

namespace Binder

/-- The segment is written with these decimal digits, behind a plus sign or without one. -/
structure WrittenWith (segment : String) (digits : List Char) : Prop where
  whole : segment.toList = digits ∨ segment.toList = '+' :: digits
  some : digits ≠ []
  decimal : ∀ c ∈ digits, '0' ≤ c ∧ c ≤ '9'

/-- The position that decimal digits denote, the first of them weighing most. -/
def position (digits : List Char) : Nat :=
  Nat.ofDigits 10 (digits.reverse.map fun digit => digit.toNat - '0'.toNat)

theorem valueOfDigits_eq_position (digits : List Char) :
    Decimal.valueOfDigits digits = position digits := by
  induction digits using List.reverseRecOn with
  | nil => rfl
  | append_singleton digits digit ih =>
    rw [position, List.reverse_append, List.reverse_singleton, List.singleton_append,
      List.map_cons, Nat.ofDigits_cons, ← position, ← ih, Decimal.valueOfDigits,
      List.foldl_append, Nat.add_comm]
    rfl

theorem isDigit_iff {c : Char} : c.isDigit = true ↔ '0' ≤ c ∧ c ≤ '9' := by
  simp only [Char.isDigit, ge_iff_le, Bool.and_eq_true, decide_eq_true_eq]
  rfl

theorem withoutPlus_of_ne {c : Char} (cs : List Char) (other : c ≠ '+') :
    withoutPlus (c :: cs) = c :: cs := by
  unfold withoutPlus
  split
  · next same => exact (other (List.cons.inj same).1).elim
  · rfl

theorem eq_withoutPlus_or (cs : List Char) : cs = withoutPlus cs ∨ cs = '+' :: withoutPlus cs := by
  unfold withoutPlus
  split
  · exact Or.inr rfl
  · exact Or.inl rfl

theorem WrittenWith.withoutPlus_eq {segment : String} {digits : List Char}
    (written : WrittenWith segment digits) : withoutPlus segment.toList = digits := by
  rcases written.whole with whole | whole
  · obtain ⟨c, rest, rfl⟩ := List.exists_cons_of_ne_nil written.some
    have other : c ≠ '+' := by
      rintro rfl
      exact absurd (written.decimal '+' List.mem_cons_self) (by decide)
    rw [whole, withoutPlus_of_ne rest other]
  · rw [whole, withoutPlus]

theorem index?_of_written {segment : String} {digits : List Char}
    (written : WrittenWith segment digits) :
    index? segment = if position digits < UInt64.size then some (position digits) else none := by
  have nonempty : digits.isEmpty = false := by simpa using written.some
  have decimal : digits.all Char.isDigit = true :=
    List.all_eq_true.mpr fun c member => isDigit_iff.mpr (written.decimal c member)
  simp only [index?, written.withoutPlus_eq, nonempty, decimal, valueOfDigits_eq_position,
    Bool.not_false, Bool.true_and, decide_eq_true_eq]

theorem exists_written_of_index? {segment : String} {index : Nat}
    (read : index? segment = some index) : ∃ digits, WrittenWith segment digits := by
  simp only [index?, Option.ite_none_right_eq_some, Bool.and_eq_true, Bool.not_eq_true',
    List.isEmpty_eq_false_iff, List.all_eq_true] at read
  obtain ⟨⟨⟨nonempty, decimal⟩, -⟩, -⟩ := read
  exact ⟨_, eq_withoutPlus_or _, nonempty, fun c member => isDigit_iff.mp (decimal c member)⟩

/-- The item of a list at the position that a segment is written with. -/
theorem ofLists_of_written {items : List Value} {segment : String} {digits : List Char}
    (addressable : items.length ≤ UInt64.size) (written : WrittenWith segment digits) :
    ofLists (.list items) segment = items[position digits]? := by
  rw [ofLists, index?_of_written written]
  split
  · rfl
  · next beyond =>
    have outside : items.length ≤ position digits := by omega
    exact (List.getElem?_eq_none outside).symm

theorem ofLists_of_unwritten {items : List Value} {segment : String}
    (unwritten : ¬∃ digits, WrittenWith segment digits) :
    ofLists (.list items) segment = none := by
  cases read : index? segment with
  | none => rw [ofLists, read, Option.bind_none]
  | some index => exact (unwritten (exists_written_of_index? read)).elim

end Binder

/-- A path with a point in it leads where its back leads from where its front leads; if it leads
nowhere, the segment to blame is that of the front, or that of the back if the front leads
somewhere. In lists, of which no length goes beyond a word, the items are those at the positions
that segments are written with. -/
theorem Binders.follow_point (binders : Binders) (model : Value) {front back : String}
    (first : front ≠ "") (second : back ≠ "") :
    (∀ value, binders.follow model (front ++ "." ++ back) = .ok value ↔
      ∃ part, binders.follow model front = .ok part ∧ binders.follow part back = .ok value) ∧
    (∀ reason, binders.follow model (front ++ "." ++ back) = .error reason →
      ∃ segment, reason = .memberNotFound (front ++ "." ++ back) segment ∧
        (binders.follow model front = .error (.memberNotFound front segment) ∨
          ∃ part, binders.follow model front = .ok part ∧
            binders.follow part back = .error (.memberNotFound back segment))) ∧
    (binders.binder .list = .ofLists → ∀ (items : List Value) (segment : String),
      items.length ≤ UInt64.size →
      (∀ digits, Binder.WrittenWith segment digits →
        binders.member? (.list items) segment = items[Binder.position digits]? ∧
        ((binders.member? (.list items) segment).isSome = true ↔
          Binder.position digits < items.length)) ∧
      ((¬∃ digits, Binder.WrittenWith segment digits) →
        binders.member? (.list items) segment = none)) := by
  refine ⟨fun value => ?_, fun reason failed => ?_, fun builtin items segment addressable => ?_⟩
  · rw [follow_append_point binders model first second, ← Except.bind_eq_ok_iff]
    cases binders.follow model front >>= fun part => binders.follow part back with
    | error reason => simp [Except.mapError]
    | ok value' => simp [Except.mapError]
  · rw [follow_append_point binders model first second] at failed
    cases led : binders.follow model front with
    | error reason' =>
      obtain ⟨segment, rfl⟩ := exists_segment_of_follow binders first led
      rw [led] at failed
      exact ⟨segment, (Except.error.inj failed).symm, Or.inl rfl⟩
    | ok part =>
      rw [led] at failed
      cases led' : binders.follow part back with
      | error reason' =>
        obtain ⟨segment, rfl⟩ := exists_segment_of_follow binders second led'
        change (binders.follow part back).mapError _ = _ at failed
        rw [led'] at failed
        exact ⟨segment, (Except.error.inj failed).symm, Or.inr ⟨part, rfl, led'⟩⟩
      | ok value =>
        change (binders.follow part back).mapError _ = _ at failed
        rw [led'] at failed
        cases failed
  · have member : binders.member? (.list items) segment =
        Binder.ofLists (.list items) segment := by
      rw [member?, Value.shape, builtin]
    rw [member]
    refine ⟨fun digits written => ?_, Binder.ofLists_of_unwritten⟩
    rw [Binder.ofLists_of_written addressable written]
    simp

/-- A name in the second of two rows, where the position of the row is written with a sign and a
leading zero. -/
theorem Binders.follow_point_row :
    let row : Value := .map [("name", .string "Ann")]
    let model : Value := .map [("rows", .list [.null, row])]
    "rows.+01" ≠ "" ∧ "name" ≠ "" ∧
      Binders.standard.follow model ("rows.+01" ++ "." ++ "name") = .ok (.string "Ann") ∧
      Binders.standard.binder .list = .ofLists ∧ [Value.null, row].length ≤ UInt64.size ∧
      Binder.WrittenWith "+01" ['0', '1'] ∧
      (Binders.standard.member? (.list [.null, row]) "+01").isSome = true ∧
      (¬∃ digits, Binder.WrittenWith "name" digits) ∧
      Binders.standard.member? (.list [.null, row]) "name" = none := by
  intro row model
  have first : "rows.+01" ≠ "" := by decide
  have second : "name" ≠ "" := by decide
  obtain ⟨joins, -, lists⟩ := Binders.standard.follow_point model first second
  have addressable : [Value.null, row].length ≤ UInt64.size := by simp [UInt64.size]
  have written : Binder.WrittenWith "+01" ['0', '1'] := ⟨Or.inr rfl, by simp, by simp⟩
  have unwritten : ¬∃ digits, Binder.WrittenWith "name" digits := by
    rintro ⟨digits, whole | whole, -, decimal⟩
    · subst whole
      exact absurd (decimal 'n' List.mem_cons_self) (by decide)
    · exact absurd (List.cons.inj whole).1 (by decide)
  have led : Binders.standard.follow model "rows.+01" = .ok row := rfl
  have led' : Binders.standard.follow row "name" = .ok (.string "Ann") := rfl
  refine ⟨first, second, (joins _).mpr ⟨row, led, led'⟩, rfl, addressable, written, ?_,
    unwritten, ?_⟩
  · exact ((lists rfl _ _ addressable).1 _ written).2.mpr (by decide)
  · exact (lists rfl _ _ addressable).2 unwritten

end HtmlTemplate
