import HtmlTemplate.Entries
import HtmlTemplate.Toml.Statement

/-!
# Tables of TOML

Statements build one table out of nested ones, and nothing is defined twice. Keys with points make
the tables on their way, and only keys with points add to those. A header makes the tables on its
way too; such a table may get a header of its own later, but only one, or keys with points may take
it over as one of theirs. Arrays and tables in braces are closed: nothing adds to them.
-/

set_option autoImplicit false

namespace HtmlTemplate.Toml

/-- How a table came to be. -/
inductive Origin
  /-- It lies on the way of a header. -/
  | implied
  /-- It lies on the way of a key with points. -/
  | dotted
  | defined
deriving DecidableEq, Repr

inductive Item
  | value (value : Toml)
  | table (origin : Origin) (entries : List (String × Item))
  /-- An array whose tables have headers, the newest one first. -/
  | tables (newest : List (List (String × Item)))

structure Table where
  origin : Origin
  entries : List (String × Item)

namespace Item

mutual

def toToml : Item → Toml
  | value v => v
  | table _ entries => .table (toEntries entries)
  | tables newest => .array (toTables newest).reverse

def toEntries : List (String × Item) → List (String × Toml)
  | [] => []
  | (key, item) :: rest => (key, item.toToml) :: toEntries rest

def toTables : List (List (String × Item)) → List Toml
  | [] => []
  | entries :: rest => .table (toEntries entries) :: toTables rest

end

end Item

namespace Table

def empty : Table :=
  ⟨.defined, []⟩

def toToml (t : Table) : Toml :=
  .table (Item.toEntries t.entries)

def put (t : Table) (name : String) (item : Item) : Table :=
  { t with entries := Entries.insert t.entries name item }

/-- Changes the table that a path leads to. Tables that are missing on the way are made. In an array
of tables the way goes through the newest one. A way of a key with points goes through no table with
a header, and takes over the tables that lie on the way of headers alone. -/
def alter (way : Origin) (change : Table → Option Table) : List String → Table → Option Table
  | [], t => change t
  | name :: path, t =>
    match Entries.find? t.entries name with
    | none => (alter way change path ⟨way, []⟩).map fun u => t.put name (.table u.origin u.entries)
    | some (.table origin entries) =>
      if way = .dotted ∧ origin = .defined then none
      else
        let origin := if way = .dotted then .dotted else origin
        (alter way change path ⟨origin, entries⟩).map fun u =>
          t.put name (.table u.origin u.entries)
    | some (.tables (newest :: earlier)) =>
      (alter way change path ⟨.defined, newest⟩).map fun u =>
        t.put name (.tables (u.entries :: earlier))
    | some _ => none

/-- Adds a value under a name that nothing has. -/
def add (t : Table) (name : String) (value : Toml) : Option Table :=
  match Entries.find? t.entries name with
  | none => some (t.put name (.value value))
  | some _ => none

/-- Adds a value under a key. With points in the key its table has to come from such keys alone. -/
def addPair (t : Table) (key : Key) (value : Toml) : Option Table :=
  match key.path with
  | [] => t.add key.name value
  | path =>
    alter .dotted (fun u => if u.origin = .dotted then u.add key.name value else none) path t

end Table

mutual

/-- The value of a written value, unless it defines something twice. -/
def Written.value? : Written → Option Toml
  | .scalar value => some value
  | .array items => (Written.values? items).map .array
  | .table pairs => (Written.addPairs? pairs .empty).map Table.toToml

def Written.values? : List Written → Option (List Toml)
  | [] => some []
  | item :: rest =>
    match item.value?, Written.values? rest with
    | some value, some values => some (value :: values)
    | _, _ => none

def Written.addPairs? : List (Key × Written) → Table → Option Table
  | [], t => some t
  | (key, written) :: rest, t =>
    match written.value? with
    | some value => (t.addPair key value).bind fun t => Written.addPairs? rest t
    | none => none

end

/-- A header and the pairs below it. -/
structure Section where
  key : Key
  /-- Whether the table is one more item of an array. -/
  isItem : Bool
  pairs : List (Key × Written)

/-- The pairs in front of the first header, and the sections behind it. -/
def sections : List Statement → List (Key × Written) × List Section
  | [] => ([], [])
  | .pair key value :: rest => ((key, value) :: (sections rest).1, (sections rest).2)
  | .header key :: rest => ([], ⟨key, false, (sections rest).1⟩ :: (sections rest).2)
  | .itemHeader key :: rest => ([], ⟨key, true, (sections rest).1⟩ :: (sections rest).2)

namespace Section

/-- Adds the table of a section to the table around it. -/
def addTo (s : Section) (around : Table) : Option Table :=
  match Entries.find? around.entries s.key.name, s.isItem with
  | none, true =>
    (Written.addPairs? s.pairs .empty).map fun t => around.put s.key.name (.tables [t.entries])
  | some (.tables newest), true =>
    (Written.addPairs? s.pairs .empty).map fun t =>
      around.put s.key.name (.tables (t.entries :: newest))
  | none, false =>
    (Written.addPairs? s.pairs .empty).map fun t =>
      around.put s.key.name (.table .defined t.entries)
  | some (.table .implied entries), false =>
    (Written.addPairs? s.pairs ⟨.defined, entries⟩).map fun t =>
      around.put s.key.name (.table .defined t.entries)
  | _, _ => none

/-- Adds a section to the table of the whole text. -/
def define (root : Table) (s : Section) : Option Table :=
  Table.alter .implied s.addTo s.key.path root

end Section

/-- The table that statements define. -/
def tableOf? (statements : List Statement) : Option Table := do
  let (pairs, sections) := sections statements
  sections.foldlM Section.define (← Written.addPairs? pairs .empty)

/-- The data that a text stands for. -/
def parse? (text : String) : Option Toml := do
  return (← tableOf? (← statements? text)).toToml

end HtmlTemplate.Toml
