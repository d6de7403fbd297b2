import FrameStream.Network.Address
import FrameStream.Text.Reader

namespace FrameStream

namespace Reader

open Network

/-- All digits at the front as one number below `bound`. -/
def number (radix bound : Nat) (maximumDigits : Option Nat) (leadingZeros : Bool) : Reader Nat :=
  fun text =>
    let digits := text.takeWhile (isDigit radix)
    let value := digitsValue radix digits
    let tooLong := maximumDigits.any (· < digits.length)
    let padded := !leadingZeros && digits.head? == some '0' && digits.length > 1
    if digits.isEmpty || tooLong || padded || bound ≤ value then none
    else some (value, text.dropWhile (isDigit radix))

def octet : Reader UInt8 := fun text =>
  (number 10 256 (some 3) false text).map fun (value, rest) => (value.toUInt8, rest)

def port : Reader UInt16 := fun text =>
  (number 10 65536 none true text).map fun (value, rest) => (value.toUInt16, rest)

def group : Reader UInt16 := fun text =>
  (number 16 65536 (some 4) true text).map fun (value, rest) => (value.toUInt16, rest)

def scope : Reader UInt32 := fun text => do
  let (_, text) ← character '%' text
  let (value, text) ← number 10 UInt32.size none true text
  return (value.toUInt32, text)

def ipv4 : Reader IPv4 := fun text => do
  let (first, text) ← octet text
  let (_, text) ← character '.' text
  let (second, text) ← octet text
  let (_, text) ← character '.' text
  let (third, text) ← octet text
  let (_, text) ← character '.' text
  let (fourth, text) ← octet text
  return (⟨first, second, third, fourth⟩, text)

/-- A reader of an item that a colon precedes, unless it is the first. -/
private def separated (isFirst : Bool) (reader : Reader α) : Reader α := fun text =>
  if isFirst then reader text
  else do
    let (_, text) ← character ':' text
    reader text

/-- Reads up to `limit` groups, where dotted octets may stand for the last two. Also says whether
they did. -/
private def groups : (limit : Nat) → (isFirst : Bool) → List Char →
    (List UInt16 × Bool) × List Char
  | 0, _, text => (([], false), text)
  | limit + 1, isFirst, text =>
    let dotted? := if limit = 0 then none else separated isFirst ipv4 text
    match dotted? with
    | some (inner, rest) =>
      let high := inner.first.toUInt16 <<< 8 ||| inner.second.toUInt16
      let low := inner.third.toUInt16 <<< 8 ||| inner.fourth.toUInt16
      (([high, low], true), rest)
    | none =>
      match separated isFirst group text with
      | none => (([], false), text)
      | some (head, rest) =>
        let ((tail, dotted), rest) := groups limit false rest
        ((head :: tail, dotted), rest)

private def ofGroups? (groups : List UInt16) : Option IPv6 :=
  if enough : groups.toArray.size = 8 then some ⟨⟨groups.toArray, enough⟩⟩ else none

/-- Eight groups, or fewer with two colons where at least one zero group was left out. Dotted
octets may end the address but not precede the two colons. -/
def ipv6 : Reader IPv6 := fun text => do
  let ((head, dotted), text) := groups 8 true text
  if head.length = 8 then
    return (← ofGroups? head, text)
  else if dotted then none
  else
    let (_, text) ← character ':' text
    let (_, text) ← character ':' text
    let ((tail, _), text) := groups (7 - head.length) true text
    let zeros := List.replicate (8 - head.length - tail.length) 0
    return (← ofGroups? (head ++ zeros ++ tail), text)

def socketV4 : Reader SocketAddress := fun text => do
  let (address, text) ← ipv4 text
  let (_, text) ← character ':' text
  let (port, text) ← port text
  return (.v4 address port, text)

def socketV6 : Reader SocketAddress := fun text => do
  let (_, text) ← character '[' text
  let (address, text) ← ipv6 text
  let (zone, text) := (scope text).getD (0, text)
  let (_, text) ← character ']' text
  let (_, text) ← character ':' text
  let (port, text) ← port text
  return (.v6 address port zone, text)

end Reader

namespace Network

def IpAddress.ofText? (text : String) : Option IpAddress :=
  ((Reader.ipv4.whole text).map .v4).or ((Reader.ipv6.whole text).map .v6)

def SocketAddress.ofText? (text : String) : Option SocketAddress :=
  (Reader.socketV4.whole text).or (Reader.socketV6.whole text)

end Network

end FrameStream
