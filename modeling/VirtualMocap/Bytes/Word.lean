import VirtualMocap.Number.Power

/-!
# Big-endian words

OSC writes every number as a 32-bit big-endian word. `Bytes.word32` writes the low
32 bits of a natural number, most significant byte first; `Bytes.readWord32` reads the
first four bytes back. Signed words are two's complement.
-/

namespace VirtualMocap

namespace Bytes

/-- The low 32 bits of `n`, most significant byte first. -/
def word32 (n : Nat) : List UInt8 :=
  [(n / twoPow 24 % 256).toUInt8, (n / twoPow 16 % 256).toUInt8, (n / twoPow 8 % 256).toUInt8,
    (n % 256).toUInt8]

/-- The number in the first four bytes, most significant first; missing bytes count
as zero. -/
def readWord32 (bytes : List UInt8) : Nat :=
  match bytes with
  | a :: b :: c :: d :: _ => ((a.toNat * 256 + b.toNat) * 256 + c.toNat) * 256 + d.toNat
  | _ => 0

def signed32 (n : Nat) : Int := if n < twoPow 31 then n else (n : Int) - (twoPow 32 : Int)

def unsigned32 (i : Int) : Nat := if 0 ≤ i then i.toNat else (i + (twoPow 32 : Int)).toNat

def zeros (n : Nat) : List UInt8 := List.replicate n 0

theorem length_word32 (n : Nat) : (word32 n).length = 4 := rfl

end Bytes

end VirtualMocap
