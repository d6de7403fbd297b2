import FrameStream.Text.Printable

namespace FrameStream.Text

def hexadecimal (number : Nat) : String := String.ofList (Nat.toDigits 16 number)

/-- One character of a quotation: a short escape if there is one, the character itself if it is
printable, its code point otherwise. -/
def quotedCharacter (character : Char) : String :=
  match character with
  | '"' => "\\\""
  | '\\' => "\\\\"
  | '\n' => "\\n"
  | '\r' => "\\r"
  | '\t' => "\\t"
  | '\x00' => "\\0"
  | other =>
    if isPrintable other then other.toString
    else "\\u\x7b" ++ hexadecimal other.toNat ++ "\x7d"

def quoted (text : String) : String :=
  "\"" ++ String.join (text.toList.map quotedCharacter) ++ "\""

end FrameStream.Text
