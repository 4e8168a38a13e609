import VirtualMocap.Text.Quoted

/-!
# Lenient base64

`Base64.decode` reads ASCII text leniently: characters outside the alphabet are skipped,
four data characters give three bytes, and the padding that completes a group ends the
data. Data that stops inside a group without its padding is refused.
-/

namespace VirtualMocap

namespace Base64

def sextet? (c : Char) : Option Nat :=
  if 'A' ≤ c && c ≤ 'Z' then some (c.toNat - 'A'.toNat)
  else if 'a' ≤ c && c ≤ 'z' then some (c.toNat - 'a'.toNat + 26)
  else if '0' ≤ c && c ≤ '9' then some (c.toNat - '0'.toNat + 52)
  else if c == '+' then some 62
  else if c == '/' then some 63
  else none

/-- Why base64 text is refused. -/
inductive DecodeError where
  /-- One data character over whole groups; the number of data characters. -/
  | oneExtra (dataChars : Nat)
  /-- A group cut short without its padding. -/
  | badPadding
  deriving DecidableEq, Repr

def DecodeError.message : DecodeError → String
  | .oneExtra n =>
    s!"Invalid base64-encoded string: number of data characters ({n}) cannot be 1 more " ++
      "than a multiple of 4"
  | .badPadding => "Incorrect padding"

/-- The state of reading: the place in the current group of four, the bits left over
from its last character, the padding seen for it, and the bytes so far. -/
structure Reader where
  quad : Nat := 0
  carry : Nat := 0
  pads : Nat := 0
  bytes : List UInt8 := []
  deriving DecidableEq, Repr

def Reader.take (r : Reader) (v : Nat) : Reader :=
  match r.quad with
  | 0 => ⟨1, v, 0, r.bytes⟩
  | 1 => ⟨2, v % 16, 0, r.bytes ++ [(r.carry * 4 + v / 16).toUInt8]⟩
  | 2 => ⟨3, v % 4, 0, r.bytes ++ [((r.carry * 16 + v / 4) % 256).toUInt8]⟩
  | _ => ⟨0, 0, 0, r.bytes ++ [((r.carry * 64 + v) % 256).toUInt8]⟩

/-- Read characters; the state at the end, and whether padding ended the data. -/
def Reader.feed (r : Reader) : List Char → Reader × Bool
  | [] => (r, false)
  | c :: rest =>
    if c == '=' then
      if r.quad ≥ 2 then
        let r := { r with pads := r.pads + 1 }
        if r.quad + r.pads ≥ 4 then (r, true) else r.feed rest
      else r.feed rest
    else
      match sextet? c with
      | none => r.feed rest
      | some v => (r.take v).feed rest

/-- The bytes of base64 text, read leniently. -/
def decode (text : List Char) : Except DecodeError (List UInt8) :=
  match ({} : Reader).feed text with
  | (r, true) => .ok r.bytes
  | (r, false) =>
    match r.quad with
    | 0 => .ok r.bytes
    | 1 => .error (.oneExtra (r.bytes.length / 3 * 4 + 1))
    | _ => .error .badPadding

def nonAsciiRun (cs : List Nat) : Option (Nat × List Nat) :=
  let start := (cs.takeWhile fun c => c < 128).length
  match (cs.drop start).takeWhile fun c => c ≥ 128 with
  | [] => none
  | run => some (start, run)

def escapedCode (n : Nat) : String :=
  if n ≤ 0xff then "\\x" ++ Text.hexDigits n 2
  else if n ≤ 0xffff then "\\u" ++ Text.hexDigits n 4
  else "\\U" ++ Text.hexDigits n 8

/-- The message of text that is not plain ASCII, naming its first run of other
code points. -/
def asciiError? (cs : List Nat) : Option String :=
  (nonAsciiRun cs).map fun (start, run) =>
    match run with
    | [c] => s!"\x27ascii\x27 codec can\x27t encode character \x27{escapedCode c}\x27 in position {start}: " ++
      "ordinal not in range(128)"
    | _ => s!"\x27ascii\x27 codec can\x27t encode characters in position {start}-{start + run.length - 1}: " ++
      "ordinal not in range(128)"

end Base64

end VirtualMocap
