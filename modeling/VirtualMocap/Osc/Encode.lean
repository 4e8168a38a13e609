import VirtualMocap.Osc.Packet
import VirtualMocap.Bytes.Word
import VirtualMocap.Text.Utf8

/-!
# Writing OSC packets

Every field is a whole number of 4-byte words: texts and blobs are padded with NULs,
numbers are big-endian words. A message is its address, its type tags after a comma and
its arguments; a bundle is `#bundle`, its time tag and its elements, each after its
length. Addresses must start with `/`, texts be UTF-8 and lengths fit their words.
-/

namespace VirtualMocap

namespace Osc

def pad4 (n : Int) : Int := (n + 3) / 4 * 4

/-- A text with its NUL and padding, or the first run of surrogates it holds. -/
def encodeString (s : String) : Except Text.SurrogateRun (List UInt8) :=
  (Text.encodeUtf8 s).map fun raw => raw ++ Bytes.zeros ((pad4 (raw.length + 1)).toNat - raw.length)

def encodeTime (t : TimeTag) : List UInt8 :=
  Bytes.word32 t.seconds.toNat ++ Bytes.word32 t.fraction.toNat

/-- Why a packet cannot be written. -/
inductive EncodeError where
  | badAddress (address : String)
  /-- A value that is no argument; `literal` is the value as messages quote it. -/
  | notAValue (literal : String)
  /-- A text holds unpaired surrogates. -/
  | notUtf8 (run : Text.SurrogateRun)
  /-- A blob or bundle element too long for its length word. -/
  | lengthRange (length : Nat)
  deriving DecidableEq, Repr

def EncodeError.message : EncodeError → String
  | .badAddress address => "OSC address must start with '/': " ++ Text.quoted address
  | .notAValue literal => "not an OSC value: " ++ literal
  | .notUtf8 run => run.message
  | .lengthRange _ => "\x27I\x27 format requires 0 <= number <= 4294967295"

/-- A length as an unsigned 32-bit word, which cannot hold `2³²` or more. -/
def lengthWord (n : Nat) : Except EncodeError (List UInt8) :=
  if n < twoPow 32 then .ok (Bytes.word32 n) else .error (.lengthRange n)

/-- A text with its NUL and padding, as a step of writing a packet. -/
def textField (s : String) : Except EncodeError (List UInt8) :=
  (encodeString s).mapError .notUtf8

namespace Arg

def encode : Arg → Except EncodeError (List UInt8)
  | .int v => .ok (Bytes.word32 (Bytes.unsigned32 v.toInt))
  | .float v => .ok (Bytes.word32 v.bits.toNat)
  | .str s => textField s
  | .blob bytes =>
    (lengthWord bytes.length).map fun size =>
      size ++ bytes ++ Bytes.zeros ((pad4 bytes.length).toNat - bytes.length)
  | .bool _ => .ok []
  | .time t => .ok (encodeTime t)

end Arg

/-- The bytes of arguments in order, stopping at the first that cannot be written. -/
def encodeArgs : List Arg → Except EncodeError (List UInt8)
  | [] => .ok []
  | a :: rest => do
    let head ← a.encode
    let tail ← encodeArgs rest
    pure (head ++ tail)

def bundleTag : List UInt8 := Text.utf8 "#bundle" ++ [0]

mutual

def Packet.encode : Packet → Except EncodeError (List UInt8)
  | .message address args =>
    if address.startsWith "/" then do
      let a ← textField address
      let t ← textField ("," ++ tagsOf args)
      let body ← encodeArgs args
      pure (a ++ t ++ body)
    else .error (.badAddress address)
  | .bundle time elements =>
    (encodeElements elements).map fun body => bundleTag ++ encodeTime time ++ body

def encodeElements : List Packet → Except EncodeError (List UInt8)
  | [] => .ok []
  | p :: rest => do
    let body ← p.encode
    let size ← lengthWord body.length
    let tail ← encodeElements rest
    pure (size ++ body ++ tail)

end

end Osc

end VirtualMocap
