import FrameStream.Toml.Number
import FrameStream.Toml.Quotation

namespace FrameStream.Toml

/-- How many values may be inside each other, and how many names a dotted key may have, is less
than this. -/
def nestingLimit : Nat := 80

namespace Reader

open FrameStream.Reader (character word)

private def isBareCharacter (candidate : Char) : Bool :=
  candidate.isAlphanum || candidate == '-' || candidate == '_'

/-- One name of a key: quoted, or bare letters, digits, dashes and underscores. -/
def name : Reader String
  | '"' :: rest => basic rest
  | '\'' :: rest => literal rest
  | text =>
    let bare := text.takeWhile isBareCharacter
    if bare.isEmpty then none else some (String.ofList bare, text.dropWhile isBareCharacter)

private def spacedName : Reader String := fun text => do
  let (name, text) ← name (text.dropWhile isBlank)
  return (name, text.dropWhile isBlank)

private def nextName : Reader String := fun text => do
  let (_, text) ← character '.' text
  spacedName text

def key : Reader (List String × String) := fun text => do
  let (first, text) ← spacedName text
  let (others, text) := FrameStream.Reader.many nextName text.length text
  let names := first :: others
  if names.length < nestingLimit then some ((names.dropLast, names.getLastD first), text) else none

def comment : Reader Unit
  | '#' :: rest => some ((), rest.dropWhile isText)
  | _ => none

/-- A line break of an array, with the comment before it. -/
private def arrayBreak : Reader Unit := fun text =>
  let text := text.dropWhile isBlank
  newline (((comment text).map (·.2)).getD text)

/-- What is left after blanks, line breaks and comments. -/
private def skipBreaks (text : List Char) : List Char :=
  (FrameStream.Reader.many arrayBreak text.length text).2.dropWhile isBlank

/-- The values of an array after its bracket or a comma, at most `limit` of them. -/
private def arrayItems (value : Reader Item) : (limit : Nat) → Reader (List Item)
  | 0, _ => none
  | limit + 1, text =>
    match skipBreaks text with
    | ']' :: rest => some ([], rest)
    | text => do
      let (item, text) ← value text
      match skipBreaks text with
      | ']' :: rest => some ([item], rest)
      | ',' :: rest =>
        let (items, rest) ← arrayItems value limit rest
        return (item :: items, rest)
      | _ => none

def entry (value : Reader Item) : Reader ((List String × String) × Item) := fun text => do
  let (key, text) ← key text
  let (_, text) ← character '=' text
  let (item, text) ← value (text.dropWhile isBlank)
  return ((key, item), text.dropWhile isBlank)

/-- The entries of a table between braces after its brace or a comma. -/
private def braceEntries (value : Reader Item) : (limit : Nat) → Table → Reader Table
  | 0, _, _ => none
  | limit + 1, table, text => do
    let (((path, name), item), text) ← entry value text
    let table ← table.insertDotted? path name item
    match text with
    | ',' :: rest => braceEntries value limit table rest
    | '\x7d' :: rest => some (table, rest)
    | _ => none

private def braceTable (value : Reader Item) : Reader Item := fun text =>
  let empty : Table := ⟨[], .inline⟩
  let read :=
    match text.dropWhile isBlank with
    | '\x7d' :: rest => some (empty, rest)
    | _ => braceEntries value text.length empty text
  read.map fun (table, rest) => (.table .inline table.entries, rest)

/-- A value, with at most `remaining` values around each other inside it. -/
def value (remaining : Nat) : Reader Item
  | '[' :: rest =>
    match remaining with
    | 0 => none
    | inner + 1 =>
      (arrayItems (value inner) rest.length rest).map fun (items, rest) => (.array items, rest)
  | '\x7b' :: rest =>
    match remaining with
    | 0 => none
    | inner + 1 => braceTable (value inner) rest
  | '"' :: rest => (string ('"' :: rest)).map fun (text, rest) => (.string text, rest)
  | '\'' :: rest => (string ('\'' :: rest)).map fun (text, rest) => (.string text, rest)
  | 't' :: rest => (word "true" ('t' :: rest)).map fun (_, rest) => (.boolean true, rest)
  | 'f' :: rest => (word "false" ('f' :: rest)).map fun (_, rest) => (.boolean false, rest)
  | text => number text

end Reader

end FrameStream.Toml
