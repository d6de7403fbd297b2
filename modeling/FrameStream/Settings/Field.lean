import FrameStream.Network.Address.Reader
import FrameStream.Settings.Error

namespace FrameStream

/-- How values of a type are stored. -/
structure Codec (value : Type) where
  decode : Toml.Item → Except SettingError value
  encode : value → Toml.Item

namespace Codec

private def wrongType (item : Toml.Item) (expected : String) : Except SettingError value :=
  .error (.invalidType item.description expected)

def text : Codec String where
  decode
    | .string value => .ok value
    | item => wrongType item "a string"
  encode := .string

def flag : Codec Bool where
  decode
    | .boolean value => .ok value
    | item => wrongType item "a boolean"
  encode := .boolean

def count (limit : Nat) (expected : String) (ofNat : Nat → value) (toNat : value → Nat) :
    Codec value where
  decode item :=
    match item with
    | .integer number =>
      if 0 ≤ number ∧ number < limit then .ok (ofNat number.toNat)
      else .error (.invalidValue item.description expected)
    | item => wrongType item expected
  encode value := .integer (toNat value)

def count16 : Codec UInt16 := count UInt16.size "u16" Nat.toUInt16 UInt16.toNat

def count32 : Codec UInt32 := count UInt32.size "u32" Nat.toUInt32 UInt32.toNat

def count64 : Codec UInt64 := count UInt64.size "u64" Nat.toUInt64 UInt64.toNat

/-- A size in bytes, on hosts that address 64 bits. -/
def size : Codec Nat := count UInt64.size "usize" id id

def address : Codec Network.SocketAddress where
  decode
    | .string value =>
      match Network.SocketAddress.ofText? value with
      | some address => .ok address
      | none => .error .invalidAddress
    | item => wrongType item "socket address"
  encode value := .string value.text

/-- One of some variants, by its name. The name may also be the only key of a table, if what it
holds is empty. -/
def choice (variants : List value) (keyword : value → String) : Codec value where
  decode
    | .string name => find name
    | .table _ [(name, content)] => do
      let variant ← find name
      if isEmpty content then .ok variant else .error .noVariant
    | _ => .error .noVariant
  encode value := .string (keyword value)
where
  find (name : String) : Except SettingError value :=
    match variants.find? fun variant => keyword variant == name with
    | some variant => .ok variant
    | none => .error (.unknownVariant name (variants.map keyword))
  isEmpty : Toml.Item → Bool
    | .table _ entries => entries.isEmpty
    | .array items => items.isEmpty
    | .tables elements => elements.isEmpty
    | _ => false

end Codec

/-- A named part of some settings. -/
structure Field (settings : Type) where
  name : String
  read : Toml.Item → settings → Except SettingError settings
  write : settings → Toml.Item

namespace Field

variable {settings : Type}

def ofCodec (name : String) (codec : Codec value) (get : settings → value)
    (set : value → settings → settings) : Field settings where
  name := name
  read item base := (codec.decode item).map fun value => set value base
  write base := codec.encode (get base)

/-- Reads the entries of a table in order, up to the first failure. What no entry names stays as
it is in `base`. -/
def readAll (fields : List (Field settings)) (isClosed : Bool) (table : Toml.Table)
    (base : settings) : Except SettingError settings :=
  table.entries.foldlM (fun current entry =>
    match fields.find? fun field => field.name == entry.1 with
    | some field => field.read entry.2 current
    | none =>
      if isClosed then .error (.unknownField entry.1 (fields.map (·.name))) else .ok current) base

def writeAll (fields : List (Field settings)) (current : settings) : Toml.Table where
  entries := fields.map fun field => (field.name, field.write current)

end Field

end FrameStream
