import HtmlTemplate.Node
import HtmlTemplate.Reading.Fault
import HtmlTemplate.Shorthand
import HtmlTemplate.Text.Character

/-!
# Well-formed documents

What the names, keys and values of a document have to look like for the document to have a source,
and how deep its statements may lie. Names are well formed when every shorthand has been taken out
of them, and values when some literal of their kind can hold them.
-/

set_option autoImplicit false

namespace HtmlTemplate

/-- The text is a head character followed by tail characters. -/
def IsIdentifier (text : String) : Prop :=
  ∃ head tail, text.toList = head :: tail ∧ Text.isNameHead head = true ∧
    ∀ c ∈ tail, Text.isNameTail c = true

theorem isIdentifier_iff {text : String} :
    IsIdentifier text ↔
      (match text.toList with
        | [] => false
        | head :: tail => Text.isNameHead head && tail.all Text.isNameTail) = true := by
  unfold IsIdentifier
  cases text.toList with
  | nil => simp
  | cons head tail =>
    simp only [Bool.and_eq_true, List.all_eq_true]
    constructor
    · intro identifier
      obtain ⟨first, rest, whole, starts, continues⟩ := identifier
      obtain ⟨rfl, rfl⟩ := List.cons.inj whole
      exact ⟨starts, continues⟩
    · intro ⟨starts, continues⟩
      exact ⟨head, tail, rfl, starts, continues⟩

instance (text : String) : Decidable (IsIdentifier text) :=
  decidable_of_iff _ isIdentifier_iff.symm

/-- The text is a name without signs of a shorthand. -/
structure IsTagName (text : String) : Prop where
  starts : ∃ head tail, text.toList = head :: tail ∧ (Text.isAlphabetic head = true ∨ head = '_')
  continues : ∀ c ∈ text.toList, Text.isNameTail c = true
  unsigned : '#' ∉ text.toList ∧ '.' ∉ text.toList

/-- The text has no line end. -/
def IsLine (text : String) : Prop :=
  ∀ c ∈ text.toList, Text.isLineEnd c = false

/-- The text can stand between quotes of one kind. -/
def IsQuotable (text : String) : Prop :=
  ¬('"' ∈ text.toList ∧ '\'' ∈ text.toList)

/-- The text can be written as a value of the kind. Paths are not written. -/
def ValueKind.Allows (text : String) : ValueKind → Prop
  | .keyword => IsIdentifier text
  | .quoted => IsLine text ∧ IsQuotable text
  | .multiline => IsQuotable text
  | .pipe => IsLine text
  | .path => False

def Parameter.WellFormed (p : Parameter) : Prop :=
  p.kind.Allows p.text

structure Attribute.WellFormed (a : Attribute) : Prop where
  key : IsIdentifier a.key
  value : a.kind.Allows a.text

/-- The parts of a statement itself are well formed. -/
structure Node.WellFormed (node : Node) : Prop where
  name : IsTagName node.name
  parameters : ∀ p ∈ node.parameters, p.WellFormed
  attributes : ∀ a ∈ node.attributes, a.WellFormed

mutual

/-- A statement that lies at some depth and all statements below it, each with its depth. -/
def Node.statements (depth : Nat) : Node → List (Nat × Node)
  | ⟨name, parameters, attributes, children⟩ =>
    (depth, ⟨name, parameters, attributes, children⟩) :: Node.statementsAll (depth + 1) children

def Node.statementsAll (depth : Nat) : List Node → List (Nat × Node)
  | [] => []
  | node :: rest => node.statements depth ++ Node.statementsAll depth rest

end

/-- Every statement is well formed and lies within the greatest depth, if this one lies at
`depth`. -/
def Node.WellFormedAt (depth : Nat) (node : Node) : Prop :=
  ∀ s ∈ node.statements depth, s.1 ≤ maxNesting ∧ s.2.WellFormed

def Node.AllWellFormedAt (depth : Nat) (nodes : List Node) : Prop :=
  ∀ s ∈ Node.statementsAll depth nodes, s.1 ≤ maxNesting ∧ s.2.WellFormed

/-- Every statement of the document is well formed and lies within the greatest depth. -/
def Document.WellFormed (d : Document) : Prop :=
  Node.AllWellFormedAt 0 d.roots

theorem Node.wellFormedAt_iff {depth : Nat} {node : Node} :
    node.WellFormedAt depth ↔ (depth ≤ maxNesting ∧ node.WellFormed) ∧
      Node.AllWellFormedAt (depth + 1) node.children := by
  cases node with
  | mk name parameters attributes children => exact List.forall_mem_cons

theorem Node.allWellFormedAt_cons {depth : Nat} {node : Node} {rest : List Node} :
    Node.AllWellFormedAt depth (node :: rest) ↔
      node.WellFormedAt depth ∧ Node.AllWellFormedAt depth rest :=
  List.forall_mem_append

theorem Node.allWellFormedAt_append {depth : Nat} (first second : List Node) :
    Node.AllWellFormedAt depth (first ++ second) ↔
      Node.AllWellFormedAt depth first ∧ Node.AllWellFormedAt depth second := by
  induction first with
  | nil =>
    have none : Node.AllWellFormedAt depth [] := by
      intro s member
      cases member
    simp [none]
  | cons node rest ih =>
    rw [List.cons_append, allWellFormedAt_cons, allWellFormedAt_cons, ih, and_assoc]

theorem IsTagName.isIdentifier {text : String} (name : IsTagName text) : IsIdentifier text := by
  obtain ⟨head, tail, whole, starts⟩ := name.starts
  refine ⟨head, tail, whole, ?_, fun c member => name.continues c (by simp [whole, member])⟩
  rcases starts with starts | rfl
  · simp [Text.isNameHead, starts]
  · simp [Text.isNameHead]

end HtmlTemplate
