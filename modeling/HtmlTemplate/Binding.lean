import HtmlTemplate.Node
import HtmlTemplate.Text.Lowercase
import HtmlTemplate.Text.Split
import HtmlTemplate.Value

/-!
# Binding written values

A written value becomes a model value: a literal is its text, a keyword is a truth value, null or a
path into the model, and a path is followed one segment at a time. How a segment is read depends on
the shape of the value reached so far, by the binder for that shape.
-/

set_option autoImplicit false

namespace HtmlTemplate

inductive BindingError
  | memberNotFound (path segment : String)
  | emptyPath
deriving DecidableEq, Repr

namespace BindingError

def message : BindingError → String
  | memberNotFound path segment =>
    "member `" ++ segment ++ "` not found while resolving `" ++ path ++ "`"
  | emptyPath => "empty model path"

end BindingError

/-- A way to read the member of a value that a segment names. -/
abbrev Binder : Type :=
  Value → String → Option Value

namespace Binder

/-- Entries of maps by key. -/
def ofMaps : Binder :=
  Value.get?

/-- Fields of records by name. -/
def ofRecords : Binder
  | .record _ _ field, name => field name
  | _, _ => none

/-- What stands behind a plus sign, or everything where there is none. -/
def withoutPlus : List Char → List Char
  | '+' :: rest => rest
  | cs => cs

/-- The number that decimal digits denote, with a plus sign or without. Numbers beyond a word of 64
bits are no positions. -/
def index? (segment : String) : Option Nat :=
  let digits := withoutPlus segment.toList
  let index := Decimal.valueOfDigits digits
  if !digits.isEmpty && digits.all Char.isDigit && index < UInt64.size then some index else none

/-- Items of lists by position. -/
def ofLists : Binder
  | .list items, segment => (index? segment).bind fun i => items[i]?
  | _, _ => none

/-- No value has members. -/
def noMembers : Binder :=
  fun _ _ => none

end Binder

/-- The binder for every shape. -/
structure Binders where
  binder : Shape → Binder

namespace Binders

def standard : Binders where
  binder
    | .map => .ofMaps
    | .record => .ofRecords
    | .list => .ofLists
    | .scalar | .absent => .noMembers

instance : Inhabited Binders := ⟨standard⟩

/-- The binders with another one for a shape. -/
def set (binders : Binders) (shape : Shape) (binder : Binder) : Binders where
  binder other := if other = shape then binder else binders.binder other

/-- The member of a value, read by the binder for its shape. -/
def member? (binders : Binders) (value : Value) (segment : String) : Option Value :=
  binders.binder value.shape value segment

/-- The value that a path leads to. A path is its segments with points between them. -/
def follow (binders : Binders) (model : Value) (path : String) : Except BindingError Value :=
  if path.isEmpty then .error .emptyPath
  else
    (Text.splitAt '.' path).foldlM (fun value segment =>
      match binders.member? value segment with
      | some next => .ok next
      | none => .error (.memberNotFound path segment)) model

/-- The value of a written value. A keyword that is no truth value and not null is null where there
is no model, and a path otherwise. -/
def resolve (binders : Binders) (model : Value) (kind : ValueKind) (text : String) :
    Except BindingError Value :=
  match kind with
  | .quoted | .multiline | .pipe => .ok (.string text)
  | .path => binders.follow model text
  | .keyword =>
    if Text.sameIgnoringAsciiCase text "true" then .ok (.bool true)
    else if Text.sameIgnoringAsciiCase text "false" then .ok (.bool false)
    else if Text.sameIgnoringAsciiCase text "null" || model.isNull then .ok .null
    else binders.follow model text

end Binders

end HtmlTemplate
