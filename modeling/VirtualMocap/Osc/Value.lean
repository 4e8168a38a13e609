import VirtualMocap.Osc.Decode

/-!
# Reading one value at any position

`Osc.readValueAt` reads one argument at a position given as any integer. A position inside
the data reads as a message reads its arguments; a negative one counts from the end where
bytes are taken (`Osc.slice`, `Osc.unpackAt`), while the checks compare it as it is.
-/

namespace VirtualMocap

namespace Osc

/-- Why one value cannot be read. -/
inductive ValueError where
  | framing (e : DecodeError)
  | unpack (e : UnpackError)
  deriving DecidableEq, Repr

/-- The index a slice bound stands for in data of length `length`: a negative bound
counts from the end; both are clamped to the data. -/
def slicePoint (length : Nat) (i : Int) : Nat :=
  if i < 0 then (i + length).toNat else min i.toNat length

/-- The bytes from `i` up to `j`, as a slice takes them. -/
def slice (data : List UInt8) (i j : Int) : List UInt8 :=
  let a := slicePoint data.length i
  let b := slicePoint data.length j
  (data.drop a).take (b - a)

/-- The `size` bytes at `off`, a negative position counting from the end. -/
def unpackAt (data : List UInt8) (off : Int) (size : Nat) : Except ValueError (List UInt8) :=
  let length := data.length
  let position : Int := if off < 0 then off + length else off
  if position < 0 then .error (.unpack (.beforeStart off length))
  else if (length : Int) - position < size then .error (.unpack (.short size position.toNat length))
  else .ok ((data.drop position.toNat).take size)

/-- Check that a field of `size` bytes at `off` ends within the data. -/
def requireAt (data : List UInt8) (off : Int) (size : Nat) (what : Field) : Except ValueError Unit :=
  if off + size > data.length then .error (.framing ⟨.short size what (data.length - off).toNat, off⟩)
  else .ok ()

/-- Check that the bytes from `off` up to `stop` are there and are NUL; answer `stop`. -/
def skipPaddingAt (data : List UInt8) (off stop : Int) (what : Field) : Except ValueError Int :=
  if stop > data.length then .error (.framing ⟨.paddingPastEnd what, off⟩)
  else if (slice data off stop).any (· != 0) then .error (.framing ⟨.nonzeroPadding what, off⟩)
  else .ok stop

/-- Read one argument of the type named by `tag` at `off`: the argument and the position
after it and its padding. -/
def readValueAt (tag : String) (data : List UInt8) (off : Int) : Except ValueError (Arg × Int) :=
  match tag with
  | "i" => do
    requireAt data off 4 .int32
    let w ← unpackAt data off 4
    pure (.int (Int32.ofInt (Bytes.signed32 (Bytes.readWord32 w))), off + 4)
  | "f" => do
    requireAt data off 4 .float32
    let w ← unpackAt data off 4
    pure (.float (Binary32.quiet ⟨(Bytes.readWord32 w).toUInt32⟩), off + 4)
  | "s" => do
    let start := slicePoint data.length off
    match (data.drop start).findIdx? (· == 0) with
    | none => throw (.framing ⟨.unterminated .string, off⟩)
    | some i =>
      let nul : Int := start + i
      let stop ← skipPaddingAt data (nul + 1) (off + ((nul - off) / 4 + 1) * 4) .string
      match Text.decodeUtf8 (slice data off nul) with
      | .error reason => throw (.framing ⟨.notUtf8 .string reason, off⟩)
      | .ok s => pure (.str s, stop)
  | "b" => do
    requireAt data off 4 .blobSize
    let size := Bytes.readWord32 (← unpackAt data off 4)
    let start := off + 4
    requireAt data start size .blobData
    let padded ← skipPaddingAt data (start + size) (start + ((size + 3) / 4 * 4 : Nat)) .blob
    pure (.blob (slice data start (start + size)), padded)
  | "t" => do
    requireAt data off 8 .timeTag
    let w ← unpackAt data off 8
    pure (.time ⟨(Bytes.readWord32 w).toUInt32, (Bytes.readWord32 (w.drop 4)).toUInt32⟩, off + 8)
  | "T" => pure (.bool true, off)
  | "F" => pure (.bool false, off)
  | _ => throw (.framing ⟨.unsupported tag, off⟩)

end Osc

end VirtualMocap
