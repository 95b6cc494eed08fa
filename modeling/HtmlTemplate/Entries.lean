/-!
# Ordered entries

Values by key, in the order in which the keys came. A key that comes again gets the new value and
keeps its place, so no key stands twice in entries built by insertion.
-/

set_option autoImplicit false

namespace HtmlTemplate

abbrev Entries (α : Type) : Type :=
  List (String × α)

namespace Entries

variable {α : Type}

def find? (entries : Entries α) (key : String) : Option α :=
  entries.lookup key

def contains (entries : Entries α) (key : String) : Bool :=
  (find? entries key).isSome

def keys (entries : Entries α) : List String :=
  entries.map (·.1)

/-- Puts the value that `update` makes of the earlier one under `key`. -/
def alter (key : String) (update : Option α → α) : Entries α → Entries α
  | [] => [(key, update none)]
  | (k, value) :: rest =>
    if k = key then (k, update (some value)) :: rest else (k, value) :: alter key update rest

def insert (entries : Entries α) (key : String) (value : α) : Entries α :=
  alter key (fun _ => value) entries

/-- The entries that remain when pairs are inserted one after the other. -/
def ofPairs (pairs : List (String × α)) : Entries α :=
  pairs.foldl (fun entries pair => insert entries pair.1 pair.2) []

end Entries

end HtmlTemplate
