import FrameStream.Decimal.Shortest
import FrameStream.Text.Record
import FrameStream.Toml.Item

namespace FrameStream

inductive SettingError where
  /-- The text is no document at all. -/
  | unreadable
  | unknownField (name : String) (known : List String)
  | missingField (name : String)
  | unknownVariant (name : String) (known : List String)
  /-- The item is of a kind from which the variant of a choice cannot be told. -/
  | noVariant
  | invalidType (found expected : String)
  | invalidValue (found expected : String)
  | invalidAddress
  deriving DecidableEq, Repr, Inhabited

/-- What messages call an item. Dates are shown as what they are stored as, and so are tables that
share a name. -/
def Toml.Item.description : Toml.Item → String
  | .string value => "string " ++ Text.quoted value
  | .integer value => "integer `" ++ toString value ++ "`"
  | .float value => "floating point `" ++ Decimal.floatText value ++ "`"
  | .boolean value => "boolean `" ++ Text.flag value ++ "`"
  | .moment | .table .. => "map"
  | .array _ | .tables _ => "sequence"

namespace SettingError

private def quotedName (name : String) : String := "`" ++ name ++ "`"

private def alternatives : List String → String
  | [] => "there are no names"
  | [only] => "expected " ++ quotedName only
  | [first, second] => "expected " ++ quotedName first ++ " or " ++ quotedName second
  | names => "expected one of " ++ ", ".intercalate (names.map quotedName)

/-- The message of an error that a document of the right form can have. -/
def message? : SettingError → Option String
  | .unreadable | .noVariant => none
  | .unknownField name known =>
    some ("unknown field " ++ quotedName name ++ ", " ++ alternatives known)
  | .missingField name => some ("missing field " ++ quotedName name)
  | .unknownVariant name known =>
    some ("unknown variant " ++ quotedName name ++ ", " ++ alternatives known)
  | .invalidType found expected => some ("invalid type: " ++ found ++ ", expected " ++ expected)
  | .invalidValue found expected =>
    some ("invalid value: " ++ found ++ ", expected " ++ expected)
  | .invalidAddress => some "invalid socket address syntax"

end SettingError

end FrameStream
