/-!
# Hexadecimal byte strings

Byte strings are shown as two lower-case hexadecimal digits per byte, and read back
from digits of either case.
-/

namespace VirtualMocap

namespace Bytes

def hexDigit (n : Nat) : Char :=
  if n < 10 then Char.ofNat ('0'.toNat + n) else Char.ofNat ('a'.toNat + n - 10)

def toHex (bytes : List UInt8) : String :=
  String.ofList (bytes.flatMap fun b => [hexDigit (b.toNat / 16), hexDigit (b.toNat % 16)])

def hexValue? (c : Char) : Option Nat :=
  if c.isDigit then some (c.toNat - '0'.toNat)
  else if 'a' ≤ c && c ≤ 'f' then some (c.toNat - 'a'.toNat + 10)
  else if 'A' ≤ c && c ≤ 'F' then some (c.toNat - 'A'.toNat + 10)
  else none

def ofHexChars : List Char → Option (List UInt8)
  | [] => some []
  | a :: b :: rest => do
    let hi ← hexValue? a
    let lo ← hexValue? b
    let tail ← ofHexChars rest
    pure ((hi * 16 + lo).toUInt8 :: tail)
  | [_] => none

def ofHex? (s : String) : Option (List UInt8) := ofHexChars s.toList

end Bytes

end VirtualMocap
