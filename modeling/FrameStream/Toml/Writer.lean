import FrameStream.Text.Quoted
import FrameStream.Toml.Number

namespace FrameStream.Toml

private structure StringFeatures where
  /-- It has characters that can only be written as escapes. -/
  hasCodes : Bool
  hasBackslash : Bool
  hasNewline : Bool
  longestDoubles : Nat
  longestSingles : Nat

/-- The length of the longest run of a character. -/
private def longestRun (counted : Char) (text : List Char) : Nat :=
  (text.foldl (fun (run, longest) character =>
    if character = counted then (run + 1, max longest (run + 1)) else (0, longest)) (0, 0)).2

private def StringFeatures.ofText (text : List Char) : StringFeatures where
  hasCodes := text.any fun character =>
    character = '\x7f' || (character < ' ' && character != '\t' && character != '\n')
  hasBackslash := text.contains '\\'
  hasNewline := text.contains '\n'
  longestDoubles := longestRun '"' text
  longestSingles := longestRun '\'' text

private inductive QuoteStyle where
  | basic
  | literal
  | basicLines
  | literalLines

private def StringFeatures.style (features : StringFeatures) : QuoteStyle :=
  let plain := !features.hasCodes
  if plain && !features.hasBackslash && !features.hasNewline && features.longestDoubles = 0 then
    .basic
  else if plain && !features.hasNewline && features.longestSingles = 0 then .literal
  else if plain && !features.hasBackslash && features.longestDoubles ≤ 2 then .basicLines
  else if plain && features.longestSingles ≤ 2 then .literalLines
  else if features.hasNewline then .basicLines
  else .basic

private def padded (count : Nat) (digits : String) : String :=
  String.ofList (List.replicate (count - digits.length) '0') ++ digits

private def escape? (overLines : Bool) (character : Char) : Option String :=
  match character with
  | '\x08' => some "\\b"
  | '\t' => some "\\t"
  | '\n' => if overLines then none else some "\\n"
  | '\x0c' => some "\\f"
  | '\r' => some "\\r"
  | '\\' => some "\\\\"
  | other =>
    if other = '\x7f' ∨ other < ' ' then
      some ("\\u" ++ padded 4 (Text.hexadecimal other.toNat).toUpper)
    else none

/-- The inside of a basic string. Up to `allowed` double quotes in a row stay as they are, of
which `run` have just been written. -/
private def escaped (overLines : Bool) (allowed : Nat) : (run : Nat) → List Char → String
  | _, [] => ""
  | run, '"' :: rest =>
    if run < allowed then "\"" ++ escaped overLines allowed (run + 1) rest
    else "\\\"" ++ escaped overLines allowed 0 rest
  | _, head :: rest =>
    (escape? overLines head).getD head.toString ++ escaped overLines allowed 0 rest

/-- A string with its quotes. A string that has line breaks starts on a line of its own. -/
def quotedText (text : String) : String :=
  let characters := text.toList
  let features := StringFeatures.ofText characters
  let start := if features.hasNewline then "\n" else ""
  match features.style with
  | .basic => "\"" ++ escaped false 0 0 characters ++ "\""
  | .literal => "'" ++ text ++ "'"
  | .basicLines => "\"\"\"" ++ start ++ escaped true 2 0 characters ++ "\"\"\""
  | .literalLines => "'''" ++ start ++ text ++ "'''"

/-- The text of a string, a whole number of 64 bits or a truth value; settings have no others. -/
def Item.text? : Item → Option String
  | .string value => some (quotedText value)
  | .integer value => if fitsInteger value then some (toString value) else none
  | .boolean value => some (if value then "true" else "false")
  | _ => none

/-- One line for each entry, if every item can be written. -/
def Table.text? (table : Table) : Option String := do
  let lines ← table.entries.mapM fun (name, item) =>
    item.text?.map fun text => name ++ " = " ++ text ++ "\n"
  return String.join lines

end FrameStream.Toml
