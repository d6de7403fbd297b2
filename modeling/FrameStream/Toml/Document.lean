import FrameStream.Toml.Value

/-!
Settings documents.

A document is a table. Its lines are entries, which belong to the table of the header before them,
and headers, which name the table that the entries after them belong to. A table has at most one
header, but a table that was only implied by the header of a table inside it may get its own
afterwards.
-/

namespace FrameStream.Toml

/-- A table whose header has been read: where it will be stored, and whether it is one of several
with its name. -/
private structure Header where
  path : List String
  name : String
  isElement : Bool

/-- What has been read of a document: the tables complete so far, and the one that the entries at
hand belong to. -/
private structure Draft where
  root : Table := {}
  header? : Option Header := none
  current : Table := {}

/-- Takes what an implied table holds out of its parent, for the table that gets its header. -/
private def Header.openTable? (header : Header) (parent : Table) :
    Option (List (String × Item) × Table) :=
  match parent.find? header.name with
  | none => some ([], parent)
  | some (.table .implied entries) => some (entries, parent.erase header.name)
  | some _ => none

/-- Makes room for one more of several tables with one name. -/
private def Header.openElement? (header : Header) (parent : Table) :
    Option (List (String × Item) × Table) :=
  match parent.find? header.name with
  | none => some ([], parent.append header.name (.tables []))
  | some (.tables _) => some ([], parent)
  | some _ => none

private def Header.store? (header : Header) (entries : List (String × Item)) (parent : Table) :
    Option (Unit × Table) :=
  match header.isElement, parent.find? header.name with
  | false, none => some ((), parent.append header.name (.table .header entries))
  | true, some (.tables elements) =>
    some ((), parent.replace header.name (.tables (elements ++ [entries])))
  | _, _ => none

namespace Draft

private def finish? (draft : Draft) : Option Table :=
  match draft.header? with
  | none => some draft.current
  | some header =>
    (Table.within? false (header.store? draft.current.entries) header.path draft.root).map (·.2)

private def start? (draft : Draft) (header : Header) : Option Draft := do
  let root ← draft.finish?
  let openings := if header.isElement then header.openElement? else header.openTable?
  let (entries, root) ← Table.within? false openings header.path root
  return { root, header? := some header, current := { entries } }

private def add? (draft : Draft) (path : List String) (name : String) (item : Item) :
    Option Draft := do
  return { draft with current := ← draft.current.insertDotted? path name item }

end Draft

namespace Reader

open FrameStream.Reader (word)

private def lineEnd : Reader Unit
  | [] => some ((), [])
  | text => newline text

/-- Blanks and a comment up to the end of the line. -/
private def trailing : Reader Unit := fun text =>
  let text := text.dropWhile isBlank
  lineEnd (((comment text).map (·.2)).getD text)

private def bracketed (opening closing : String) (isElement : Bool) : Reader Header :=
  fun text => do
    let (_, text) ← word opening text
    let ((path, name), text) ← key text
    let (_, text) ← word closing text
    return (⟨path, name, isElement⟩, text)

private def header : Reader Header
  | '[' :: '[' :: rest => bracketed "[[" "]]" true ('[' :: '[' :: rest)
  | text => bracketed "[" "]" false text

private def statement (draft : Draft) : Reader Draft
  | '[' :: rest => do
    let (header, text) ← header ('[' :: rest)
    return (← draft.start? header, text)
  | text => do
    let (((path, name), item), text) ← entry (value (nestingLimit - 1)) text
    return (← draft.add? path name item, text)

/-- At most `limit` lines, up to the end of the text. -/
private def lines : (limit : Nat) → Draft → List Char → Option Draft
  | _, draft, [] => some draft
  | 0, _, _ => none
  | limit + 1, draft, text =>
    match text.dropWhile isBlank with
    | [] => some draft
    | text =>
      match trailing text with
      | some (_, rest) => lines limit draft rest
      | none => do
        let (draft, text) ← statement draft text
        let (_, rest) ← trailing text
        lines limit draft rest

end Reader

/-- The document that a text is. A mark of the byte order before it does not matter. -/
def Table.ofText? (text : String) : Option Table := do
  let text :=
    match text.toList with
    | '\uFEFF' :: rest => rest
    | all => all
  let draft ← Reader.lines text.length {} text
  draft.finish?

end FrameStream.Toml
