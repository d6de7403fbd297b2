import FrameStream.Text.Reader

/-!
Quoted strings.

Basic strings stand between double quotes and have escapes; literal strings stand between single
quotes and have none. Either kind may span lines between three quotes. There the string may hold
one or two quotes in a row, also right before the closing three, and a line break right after the
opening ones does not belong to it.
-/

namespace FrameStream.Toml

def isBlank (character : Char) : Bool := character = ' ' ∨ character = '\t'

/-- Control characters other than the tab may stand nowhere, but for line breaks. -/
def isText (character : Char) : Bool :=
  character = '\t' ∨ (' ' ≤ character ∧ character ≠ '\x7f')

/-- A line break, which may start with a carriage return. -/
def newline : Reader Unit
  | '\n' :: rest => some ((), rest)
  | '\r' :: '\n' :: rest => some ((), rest)
  | _ => none

/-- What is left after blanks and line breaks. -/
def skipLines : List Char → List Char
  | '\r' :: '\n' :: rest => skipLines rest
  | head :: rest => if isBlank head || head == '\n' then skipLines rest else head :: rest
  | [] => []

namespace Reader

/-- The character with the code given by `count` hexadecimal digits. -/
def codePoint (count : Nat) : Reader Char := fun text =>
  let digits := (text.takeWhile (FrameStream.Reader.isDigit 16)).take count
  let code := FrameStream.Reader.digitsValue 16 digits
  if digits.length = count ∧ code.isValidChar then some (.ofNat code, text.drop count) else none

/-- What follows the backslash of an escape. -/
def escape : Reader Char
  | 'b' :: rest => some ('\x08', rest)
  | 't' :: rest => some ('\t', rest)
  | 'n' :: rest => some ('\n', rest)
  | 'f' :: rest => some ('\x0c', rest)
  | 'r' :: rest => some ('\r', rest)
  | '"' :: rest => some ('"', rest)
  | '\\' :: rest => some ('\\', rest)
  | 'u' :: rest => codePoint 4 rest
  | 'U' :: rest => codePoint 8 rest
  | _ => none

def basicPiece : Reader (List Char)
  | '"' :: _ => none
  | '\\' :: rest => (escape rest).map fun (value, rest) => ([value], rest)
  | head :: rest => if isText head then some ([head], rest) else none
  | [] => none

/-- One piece of a string of several lines that ends with three of the given quotes. -/
def linesPiece (quote : Char) (inner : Reader (List Char)) : Reader (List Char)
  | first :: second :: third :: rest =>
    if first = quote ∧ second = quote ∧ third = quote then none
    else piece (first :: second :: third :: rest)
  | text => piece text
where
  piece (text : List Char) : Option (List Char × List Char) :=
    match newline text with
    | some (_, rest) => some (['\n'], rest)
    | none =>
      match text with
      | head :: rest => if head = quote then some ([quote], rest) else inner (head :: rest)
      | [] => none

/-- A backslash at the end of a line stands for nothing, and takes what is blank after it along. -/
def continued (inner : Reader (List Char)) : Reader (List Char)
  | '\\' :: rest =>
    match newline (rest.dropWhile isBlank) with
    | some (_, rest) => some ([], skipLines rest)
    | none => inner ('\\' :: rest)
  | text => inner text

def literalPiece : Reader (List Char)
  | head :: rest => if head ≠ '\'' ∧ isText head then some ([head], rest) else none
  | [] => none

/-- The end of a string of several lines: three quotes, before which two more belong to it. -/
def linesEnd (quote : Char) : Reader (List Char) := fun text =>
  let quotes := (text.takeWhile (· = quote)).take 5
  if quotes.length < 3 then none else some (quotes.drop 3, text.drop quotes.length)

/-- Pieces up to an end that may itself add to the string. -/
def upTo (piece ending : Reader (List Char)) : Reader String := fun text => do
  let (pieces, text) := FrameStream.Reader.many piece text.length text
  let (last, text) ← ending text
  return (String.ofList (pieces.flatten ++ last), text)

private def quoteEnd (quote : Char) : Reader (List Char) := fun text =>
  (FrameStream.Reader.character quote text).map fun (_, rest) => ([], rest)

def basic : Reader String := upTo basicPiece (quoteEnd '"')

def literal : Reader String := upTo literalPiece (quoteEnd '\'')

private def skipNewline (text : List Char) : List Char := ((newline text).map (·.2)).getD text

def string : Reader String
  | '"' :: '"' :: '"' :: rest =>
    upTo (linesPiece '"' (continued basicPiece)) (linesEnd '"') (skipNewline rest)
  | '\'' :: '\'' :: '\'' :: rest =>
    upTo (linesPiece '\'' literalPiece) (linesEnd '\'') (skipNewline rest)
  | '"' :: rest => basic rest
  | '\'' :: rest => literal rest
  | _ => none

end Reader

end FrameStream.Toml
