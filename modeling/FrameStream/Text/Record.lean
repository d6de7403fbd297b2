import FrameStream.Text.Quoted

namespace FrameStream.Text

/-- The name of a type and its fields in order. An `open` record says that it has more fields than
it shows. -/
def record (name : String) (fields : List (String × String)) (isOpen : Bool) : String :=
  let shown := fields.map fun field => field.1 ++ ": " ++ field.2
  let entries := if isOpen then shown ++ [".."] else shown
  name ++ " \x7b " ++ ", ".intercalate entries ++ " \x7d"

def flag (value : Bool) : String := if value then "true" else "false"

end FrameStream.Text
