namespace FrameStream

/-- A value read from the front of a text, with the rest of the text. -/
abbrev Reader (α : Type) := List Char → Option (α × List Char)

namespace Reader

def whole (reader : Reader α) (text : String) : Option α :=
  match reader text.toList with
  | some (value, []) => some value
  | _ => none

def character (expected : Char) : Reader Unit
  | head :: rest => if head = expected then some ((), rest) else none
  | [] => none

def word (expected : String) : Reader Unit := fun text =>
  let letters := expected.toList
  if letters.isPrefixOf text then some ((), text.drop letters.length) else none

/-- As many items as can be read, at most `limit` of them. -/
def many (reader : Reader α) : (limit : Nat) → List Char → List α × List Char
  | 0, text => ([], text)
  | limit + 1, text =>
    match reader text with
    | none => ([], text)
    | some (item, rest) =>
      let (items, rest) := many reader limit rest
      (item :: items, rest)

/-- The value of a digit; the letters follow the decimal digits in either case. -/
def digitValue? (radix : Nat) (digit : Char) : Option Nat :=
  let value? :=
    if '0' ≤ digit ∧ digit ≤ '9' then some (digit.toNat - '0'.toNat)
    else if 'a' ≤ digit ∧ digit ≤ 'z' then some (digit.toNat - 'a'.toNat + 10)
    else if 'A' ≤ digit ∧ digit ≤ 'Z' then some (digit.toNat - 'A'.toNat + 10)
    else none
  value?.filter (· < radix)

def isDigit (radix : Nat) (candidate : Char) : Bool := (digitValue? radix candidate).isSome

/-- The number that digits stand for. -/
def digitsValue (radix : Nat) (digits : List Char) : Nat :=
  digits.foldl (fun total digit => total * radix + (digitValue? radix digit).getD 0) 0

end Reader

end FrameStream
