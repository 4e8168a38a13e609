import VirtualMocap.Text.CodePoint

/-!
# UTF-8

`Text.encodeUtf8` writes each code point of a text, refusing unpaired surrogates.
`Text.decodeUtf8` reads strictly and names the first fault as a strict decoder reports it,
with the bytes of the character that failed.
-/

namespace VirtualMocap

namespace Text

/-- The bytes of the scalars of a text in UTF-8; surrogates have none. -/
def utf8 (s : String) : List UInt8 :=
  (codePoints s).flatMap fun
    | .scalar c => String.utf8EncodeChar c
    | .surrogate _ => []

/-- A run of unpaired surrogates, which UTF-8 cannot write: where it starts and ends
(exclusive) in characters, and the first surrogate. -/
structure SurrogateRun where
  start : Nat
  stop : Nat
  first : Nat
  deriving DecidableEq, Repr

def hexPadded (n width : Nat) : String := String.ofList ((Nat.toDigits 16 n).leftpad width '0')

def codeEscape (n : Nat) : String :=
  if n ≤ 0xff then "\\x" ++ hexPadded n 2
  else if n ≤ 0xffff then "\\u" ++ hexPadded n 4
  else "\\U" ++ hexPadded n 8

def SurrogateRun.message (r : SurrogateRun) : String :=
  if r.stop - r.start ≤ 1 then
    s!"\x27utf-8\x27 codec can\x27t encode character \x27{codeEscape r.first}\x27 in position " ++
      s!"{r.start}: surrogates not allowed"
  else
    s!"\x27utf-8\x27 codec can\x27t encode characters in position {r.start}-{r.stop - 1}: " ++
      "surrogates not allowed"

def surrogateRun? (s : String) : Option SurrogateRun :=
  let ps := codePoints s
  let start := (ps.takeWhile fun p => !p.isSurrogate).length
  match ps.drop start with
  | [] => none
  | p :: rest =>
    let length := 1 + (rest.takeWhile CodePoint.isSurrogate).length
    some ⟨start, start + length, p.toNat⟩

/-- The bytes of a text in UTF-8, or the first run of surrogates it holds. -/
def encodeUtf8 (s : String) : Except SurrogateRun (List UInt8) :=
  match surrogateRun? s with
  | some r => .error r
  | none => .ok (utf8 s)

/-- The kind of fault of a byte string that is not UTF-8. -/
inductive Utf8Fault where
  | invalidStart
  | invalidContinuation
  | unexpectedEnd
  deriving DecidableEq, Repr

def Utf8Fault.reason : Utf8Fault → String
  | .invalidStart => "invalid start byte"
  | .invalidContinuation => "invalid continuation byte"
  | .unexpectedEnd => "unexpected end of data"

/-- The first fault of a byte string that is not UTF-8, and the bytes it spans: from
the start of the character that failed, up to the byte that broke it or the end. -/
structure Utf8Error where
  fault : Utf8Fault
  start : Nat
  stop : Nat
  deriving DecidableEq, Repr

def Utf8Error.reason (e : Utf8Error) : String := e.fault.reason

/-- The full message of a fault in `bytes`: the byte or the range of bytes, and why. -/
def Utf8Error.message (e : Utf8Error) (bytes : List UInt8) : String :=
  if e.stop - e.start ≤ 1 then
    let b := (bytes[e.start]?.getD 0).toNat
    s!"\x27utf-8\x27 codec can\x27t decode byte 0x{hexPadded b 2} " ++
      s!"in position {e.start}: {e.reason}"
  else
    s!"\x27utf-8\x27 codec can\x27t decode bytes in position {e.start}-{e.stop - 1}: {e.reason}"

def isContinuation (b : UInt8) : Bool := b &&& 0xC0 == 0x80

/-- Whether the second byte of a three-byte character is allowed after the first:
no overlong forms after `E0`, no surrogates after `ED`. -/
def secondOfThree (b1 b2 : UInt8) : Bool :=
  isContinuation b2 && (if b1 == 0xE0 then b2 ≥ 0xA0 else if b1 == 0xED then b2 < 0xA0 else true)

/-- Whether the second byte of a four-byte character is allowed after the first: no
overlong forms after `F0`, nothing beyond U+10FFFF after `F4`. -/
def secondOfFour (b1 b2 : UInt8) : Bool :=
  isContinuation b2 && (if b1 == 0xF0 then b2 ≥ 0x90 else if b1 == 0xF4 then b2 < 0x90 else true)

def low6 (b : UInt8) : Nat := (b &&& 0x3F).toNat

/-- Decode strictly from byte position `pos`, prepending the characters read so far in
reverse to `acc`. -/
def decodeUtf8Onto : List UInt8 → Nat → List Char → Except Utf8Error (List Char)
  | [], _, acc => .ok acc.reverse
  | b1 :: rest, pos, acc =>
    let fail (fault : Utf8Fault) (length : Nat) : Except Utf8Error (List Char) :=
      .error ⟨fault, pos, pos + length⟩
    if b1 < 0x80 then decodeUtf8Onto rest (pos + 1) (Char.ofNat b1.toNat :: acc)
    else if b1 < 0xC2 then fail .invalidStart 1
    else if b1 < 0xE0 then
      match rest with
      | [] => fail .unexpectedEnd 1
      | b2 :: rest =>
        if isContinuation b2 then
          decodeUtf8Onto rest (pos + 2) (Char.ofNat ((b1 &&& 0x1F).toNat * 64 + low6 b2) :: acc)
        else fail .invalidContinuation 1
    else if b1 < 0xF0 then
      match rest with
      | [] => fail .unexpectedEnd 1
      | [b2] => if secondOfThree b1 b2 then fail .unexpectedEnd 2 else fail .invalidContinuation 1
      | b2 :: b3 :: rest =>
        if !secondOfThree b1 b2 then fail .invalidContinuation 1
        else if !isContinuation b3 then fail .invalidContinuation 2
        else
          decodeUtf8Onto rest (pos + 3)
            (Char.ofNat ((b1 &&& 0x0F).toNat * 4096 + low6 b2 * 64 + low6 b3) :: acc)
    else if b1 < 0xF5 then
      match rest with
      | [] => fail .unexpectedEnd 1
      | [b2] => if secondOfFour b1 b2 then fail .unexpectedEnd 2 else fail .invalidContinuation 1
      | [b2, b3] =>
        if !secondOfFour b1 b2 then fail .invalidContinuation 1
        else if !isContinuation b3 then fail .invalidContinuation 2
        else fail .unexpectedEnd 3
      | b2 :: b3 :: b4 :: rest =>
        if !secondOfFour b1 b2 then fail .invalidContinuation 1
        else if !isContinuation b3 then fail .invalidContinuation 2
        else if !isContinuation b4 then fail .invalidContinuation 3
        else
          decodeUtf8Onto rest (pos + 4)
            (Char.ofNat ((b1 &&& 0x07).toNat * 262144 + low6 b2 * 4096 + low6 b3 * 64
              + low6 b4) :: acc)
    else fail .invalidStart 1

/-- Decode a byte string as UTF-8, strictly, into a text. -/
def decodeUtf8 (bytes : List UInt8) : Except Utf8Error String :=
  (decodeUtf8Onto bytes 0 []).map fun cs => ofCodePoints (cs.map .scalar)

end Text

end VirtualMocap
