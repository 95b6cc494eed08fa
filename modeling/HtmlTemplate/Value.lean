import HtmlTemplate.Entries
import HtmlTemplate.Number.Double

/-!
# Model values

A template is rendered against a value: a scalar, a list, entries by key in their order, or a
record of the host, which answers for its fields by name. Null stands for the absence of a model.

Two records are equal only if they are one and the same, which their identity tells; maps are equal
whatever the order of their entries; an integer never equals a floating-point number.
-/

set_option autoImplicit false

namespace HtmlTemplate

inductive Value
  | null
  | bool (b : Bool)
  | int (n : Int64)
  | float (x : Double)
  | string (s : String)
  | list (items : List Value)
  | map (entries : List (String × Value))
  | record (identity : Nat) (typeName : String) (field : String → Option Value)

/-- The coarse form of a value, by which its members are read. -/
inductive Shape
  | absent
  | scalar
  | list
  | map
  | record
deriving DecidableEq, Repr

namespace Value

instance : Inhabited Value := ⟨null⟩

def shape : Value → Shape
  | null => .absent
  | bool _ | int _ | float _ | string _ => .scalar
  | list _ => .list
  | map _ => .map
  | record .. => .record

def isNull : Value → Bool
  | null => true
  | _ => false

/-- The value under `key` if this is a map. -/
def get? : Value → String → Option Value
  | map entries, key => Entries.find? entries key
  | _, _ => none

mutual

/-- The text that a value contributes to a page. -/
def text : Value → String
  | null => ""
  | bool b => if b then "true" else "false"
  | int n => toString n.toInt
  | float x => x.text
  | string s => s
  | list items => " ".intercalate (texts items)
  | map _ => "[map]"
  | record _ typeName _ => "[" ++ typeName ++ "]"

def texts : List Value → List String
  | [] => []
  | item :: rest => item.text :: texts rest

end

mutual

def same : Value → Value → Bool
  | null, null => true
  | bool a, bool b => a == b
  | int a, int b => a == b
  | float x, float y => x.same y
  | string a, string b => a == b
  | list as, list bs => sameItems as bs
  | map as, map bs => as.length == bs.length && sameEntries as bs
  | record i _ _, record j _ _ => i == j
  | _, _ => false

def sameItems : List Value → List Value → Bool
  | [], [] => true
  | a :: as, b :: bs => a.same b && sameItems as bs
  | _, _ => false

/-- Whether every entry has an equal one under the same key on the other side. -/
def sameEntries : List (String × Value) → List (String × Value) → Bool
  | [], _ => true
  | (key, a) :: rest, bs =>
    (match Entries.find? bs key with
      | some b => a.same b
      | none => false) && sameEntries rest bs

end

instance : BEq Value := ⟨same⟩

def ofOption : Option Value → Value
  | some value => value
  | none => null

/-- The map of some pairs, the last one of those with a common key. -/
def ofPairs (pairs : List (String × Value)) : Value :=
  map (Entries.ofPairs pairs)

/-- A whole number as an integer if it fits into a word of 64 bits. -/
def ofInt? (n : Int) : Option Value :=
  if -0x8000000000000000 ≤ n ∧ n < 0x8000000000000000 then some (int (.ofInt n)) else none

end Value

end HtmlTemplate
