namespace FrameStream.Toml

/-- How a table came into being, which decides what may still be added to it. -/
inductive Origin where
  /-- It has a header of its own, or is the document itself. -/
  | header
  /-- The header of a table inside it named it on the way. -/
  | implied
  /-- A dotted key named it on the way. -/
  | dotted
  /-- It was written between braces and is complete. -/
  | inline
  deriving DecidableEq, Repr, Inhabited

inductive Item where
  | string (value : String)
  | integer (value : Int)
  | float (value : Float)
  | boolean (value : Bool)
  /-- A date, a time of day or both. No setting is one, so its value is not kept. -/
  | moment
  | array (items : List Item)
  | table (origin : Origin) (entries : List (String × Item))
  /-- The tables whose headers have double brackets and one name. -/
  | tables (elements : List (List (String × Item)))
  deriving Inhabited

/-- A table with its entries in the order in which they were added. -/
structure Table where
  entries : List (String × Item) := []
  origin : Origin := .header
  deriving Inhabited

namespace Table

def find? (table : Table) (key : String) : Option Item :=
  (table.entries.find? fun entry => entry.1 == key).map (·.2)

def append (table : Table) (key : String) (item : Item) : Table :=
  { table with entries := table.entries ++ [(key, item)] }

/-- Appends an item under a key that is not in use. -/
def insertNew? (table : Table) (key : String) (item : Item) : Option Table :=
  match table.find? key with
  | none => some (table.append key item)
  | some _ => none

def replace (table : Table) (key : String) (item : Item) : Table :=
  { table with
    entries := table.entries.map fun entry => if entry.1 == key then (key, item) else entry }

def erase (table : Table) (key : String) : Table :=
  { table with entries := table.entries.filter fun entry => entry.1 != key }

/-- Changes the table at the end of a path, and finds something there. Tables missing on the way
are made. A path of dotted keys leads through none that has a header; a path of headers leads into
the last of several tables with one name. Nothing leads into a table written between braces, or
into any other item. -/
def within? (byDottedKey : Bool) (change : Table → Option (found × Table)) :
    (path : List String) → Table → Option (found × Table)
  | [], table => change table
  | key :: path, table =>
    match table.find? key with
    | none =>
      (within? byDottedKey change path ⟨[], if byDottedKey then .dotted else .implied⟩).map
        fun (result, inner) => (result, table.append key (.table inner.origin inner.entries))
    | some (.table origin entries) =>
      if origin = .inline ∨ (byDottedKey ∧ origin = .header) then none
      else
        (within? byDottedKey change path ⟨entries, origin⟩).map
          fun (result, inner) => (result, table.replace key (.table inner.origin inner.entries))
    | some (.tables elements) =>
      match elements.getLast? with
      | none => none
      | some last =>
        (within? byDottedKey change path ⟨last, .header⟩).map fun (result, inner) =>
          (result, table.replace key (.tables (elements.dropLast ++ [inner.entries])))
    | some _ => none

/-- Adds an item under a dotted key: a path and the last name. The path has to end in a table that
dotted keys made. -/
def insertDotted? (table : Table) (path : List String) (key : String) (item : Item) :
    Option Table :=
  let insert (inner : Table) : Option (Unit × Table) :=
    if path.isEmpty ∨ inner.origin = .dotted then (inner.insertNew? key item).map (((), ·))
    else none
  (within? true insert path table).map (·.2)

end Table

end FrameStream.Toml
