import VirtualMocap.Osc.Encode

/-!
# Reading OSC packets

`Osc.decode` reads one datagram as a packet, refusing a malformed framing with a
`DecodeError` that names the fault and its byte position in the datagram. Each read first
checks that its bytes are there. Decoding nests calls, and every step that nests one is
checked against the room left (`Calls`): the first step past it refuses the datagram
(`CallStep`).
-/

namespace VirtualMocap

namespace Osc

/-- The part of a packet being read. -/
inductive Field where
  | address
  | typeTags
  | string
  | blob
  | int32
  | float32
  | blobSize
  | blobData
  | timeTag
  | elementSize
  | element
  deriving DecidableEq, Repr

def Field.name : Field → String
  | .address => "address"
  | .typeTags => "type tag string"
  | .string => "string"
  | .blob => "blob"
  | .int32 => "int32"
  | .float32 => "float32"
  | .blobSize => "blob size"
  | .blobData => "blob data"
  | .timeTag => "time tag"
  | .elementSize => "bundle element size"
  | .element => "bundle element"

/-- The class of a framing fault. -/
inductive DecodeKind where
  | eof
  | invalidTypeTag
  | invalidAddress
  | paddingMismatch
  | unsupportedType
  | depthExceeded
  | invalidString
  deriving DecidableEq, Repr

def DecodeKind.name : DecodeKind → String
  | .eof => "EOF"
  | .invalidTypeTag => "INVALID_TYPE_TAG"
  | .invalidAddress => "INVALID_ADDRESS"
  | .paddingMismatch => "PADDING_MISMATCH"
  | .unsupportedType => "UNSUPPORTED_TYPE"
  | .depthExceeded => "DEPTH_EXCEEDED"
  | .invalidString => "INVALID_STRING"

/-- A limit on how deep bundles may nest, as a caller may give it: an integer, a float
or a truth value (counting as `0` or `1`), which the depth of each bundle is compared
with as a number and which messages show as it is written; a value of another kind,
named by its kind, cannot be compared with a depth at all. -/
inductive DepthLimit where
  | int (n : Int)
  | float (x : Binary64)
  | flag (b : Bool)
  | other (kind : String)
  deriving DecidableEq, Repr

/-- Whether a depth is beyond a limit: `none` when the limit is not a number. A depth is
beyond a float when it is greater as a number, so never beyond NaN or infinity, and
always beyond a negative float. -/
def DepthLimit.exceededBy (l : DepthLimit) (depth : Nat) : Option Bool :=
  match l with
  | .int n => some ((depth : Int) > n)
  | .flag b => some (depth > (if b then 1 else 0))
  | .float x =>
    if x.isNaN then some false
    else if x.isNegative then some true
    else
      match x.truncate? with
      | some t => some ((depth : Int) > t)
      | none => some false
  | .other _ => none

def DepthLimit.text : DepthLimit → String
  | .int n => toString n
  | .float x => x.toText
  | .flag b => if b then "True" else "False"
  | .other kind => kind

/-- The step at which nested calls went deeper than allowed; it names the failure. -/
inductive CallStep where
  /-- Entering a function. -/
  | enter
  /-- A call made from native code. -/
  | call
  /-- Comparing two values in the general way. -/
  | compare
  /-- Testing a value against several classes at once. -/
  | classTest
  /-- Writing a value as text. -/
  | text
  /-- Writing a value in its quoted form. -/
  | quoted
  deriving DecidableEq, Repr

def CallStep.message : CallStep → String
  | .enter => "maximum recursion depth exceeded"
  | .call => "maximum recursion depth exceeded while calling a Python object"
  | .compare => "maximum recursion depth exceeded in comparison"
  | .classTest => "maximum recursion depth exceeded in __instancecheck__"
  | .text => "maximum recursion depth exceeded while getting the str of an object"
  | .quoted => "maximum recursion depth exceeded while getting the repr of an object"

/-- Why a fixed number of bytes cannot be unpacked at a position. -/
inductive UnpackError where
  /-- A negative position further back than the start of the data. -/
  | beforeStart (offset : Int) (length : Nat)
  /-- Fewer than `size` bytes after the position `position` of data of length `length`. -/
  | short (size position length : Nat)
  deriving DecidableEq, Repr

def UnpackError.message : UnpackError → String
  | .beforeStart off length => s!"offset {off} out of range for {length}-byte buffer"
  | .short size position length =>
    s!"unpack_from requires a buffer of at least {size + position} bytes for unpacking {size} " ++
      s!"bytes at offset {position} (actual buffer size is {length})"

/-- A framing fault. -/
inductive DecodeFault where
  | emptyPacket
  /-- The datagram is a proper prefix of the bundle marker. -/
  | insideBundleTag
  /-- A datagram that starts with `#` but not with the bundle marker. -/
  | unknownHashTag
  /-- `size` bytes were needed for a part and only `left` remain. -/
  | short (size : Nat) (what : Field) (left : Nat)
  | paddingPastEnd (what : Field)
  | nonzeroPadding (what : Field)
  | unterminated (what : Field)
  | notUtf8 (what : Field) (reason : Text.Utf8Error)
  | noSlash (address : String)
  | noComma
  | unsupported (tag : String)
  | trailing (count : Nat)
  | tooDeep (limit : DepthLimit)
  /-- A bundle was met and the limit is a value of this kind, not a number. -/
  | incomparableLimit (kind : String)
  | elementSize (size : Nat)
  /-- Decoding nested its calls deeper than allowed, at a step of this kind. -/
  | callsTooDeep (step : CallStep)
  /-- Bytes were unpacked where the data has none: no framing fault, but the refusal of
  the unpacking itself. -/
  | unpack (e : UnpackError)
  deriving DecidableEq, Repr

namespace DecodeFault

def kind : DecodeFault → DecodeKind
  | .emptyPacket | .insideBundleTag | .short .. | .paddingPastEnd _ | .unterminated _ => .eof
  | .unknownHashTag | .noSlash _ => .invalidAddress
  | .nonzeroPadding _ | .trailing _ | .elementSize _ => .paddingMismatch
  | .notUtf8 .. => .invalidString
  | .noComma => .invalidTypeTag
  | .unsupported _ => .unsupportedType
  | .tooDeep _ | .incomparableLimit _ | .callsTooDeep _ => .depthExceeded
  | .unpack _ => .eof

def message : DecodeFault → String
  | .emptyPacket => "empty packet"
  | .insideBundleTag => "packet ends inside the bundle tag"
  | .unknownHashTag => "unknown '#' packet tag"
  | .short size what left => s!"need {size} bytes for {what.name}, {left} left"
  | .paddingPastEnd what => s!"{what.name} padding runs past end of buffer"
  | .nonzeroPadding what => s!"non-zero padding after {what.name}"
  | .unterminated what => s!"unterminated {what.name}"
  | .notUtf8 what reason => s!"{what.name} is not valid UTF-8: {reason.reason}"
  | .noSlash address => s!"address {Text.quoted address} does not start with '/'"
  | .noComma => "type tag string must start with ','"
  | .unsupported tag => s!"type tag {Text.quoted tag} is not supported"
  | .trailing count => s!"{count} trailing bytes after message arguments"
  | .tooDeep limit => s!"bundle nesting exceeds {limit.text} levels"
  | .incomparableLimit kind =>
    s!"\x27>\x27 not supported between instances of \x27int\x27 and {Text.quoted kind}"
  | .elementSize size => s!"bundle element size {size} is not a multiple of 4"
  | .callsTooDeep step => step.message
  | .unpack e => e.message

end DecodeFault

/-- A framing fault and the byte position where it lies. -/
structure DecodeError where
  fault : DecodeFault
  offset : Int
  deriving DecidableEq, Repr

namespace DecodeError

def kind (e : DecodeError) : DecodeKind := e.fault.kind

def message (e : DecodeError) : String := e.fault.message

def text (e : DecodeError) : String := s!"{e.kind.name} at byte {e.offset}: {e.message}"

def shift (base : Nat) (e : DecodeError) : DecodeError := ⟨e.fault, base + e.offset⟩

end DecodeError

def defaultMaxDepth : Int := 16

/-- Whether a number takes a single machine digit, so that comparing it with another
such number takes no general comparison. -/
def fitsDigit (n : Nat) : Bool := n < twoPow 30

/-- Whether comparing a depth with a limit takes a general comparison: always, except
with an integer limit that fits a single digit. -/
def DepthLimit.comparedGenerally : DepthLimit → Bool
  | .int n => !fitsDigit n.natAbs
  | _ => true

/-- The steps of writing a limit as text: an integer is written at once, any other
number through its own formatting. -/
def DepthLimit.textSteps : DepthLimit → List (Nat × CallStep)
  | .int _ => [(1, .text)]
  | _ => [(1, .call), (2, .text)]

/-- How deep the calls of a decoding may nest: at most `room` calls above the frame of
the datagram's packet (`none` for no bound), the current frame being `height` calls
above it. -/
structure Calls where
  room : Option Nat
  height : Nat := 0
  deriving DecidableEq, Repr

namespace Calls

/-- Steps taken in order, each some calls above the current frame: refused at the first
that goes past the room. -/
def reach (c : Calls) : List (Nat × CallStep) → Except DecodeError Unit
  | [] => .ok ()
  | (h, step) :: rest =>
    match c.room with
    | some room => if room < c.height + h then .error ⟨.callsTooDeep step, 0⟩ else c.reach rest
    | none => .ok ()

theorem reach_unbounded (height : Nat) (steps : List (Nat × CallStep)) :
    ({ room := none, height } : Calls).reach steps = .ok () := by
  cases steps with
  | nil => rfl
  | cons s rest => rfl

/-- Enter a function called from the current frame: the calls of its frame. -/
def enter (c : Calls) : Except DecodeError Calls := do
  c.reach [(1, .enter)]
  pure { c with height := c.height + 1 }

/-- Fail with a fault made in the current frame, after the steps of writing its
message: making the fault calls its class, enters its set-up and sets its fields. -/
def fail {α : Type} (c : Calls) (message : List (Nat × CallStep)) (e : DecodeError) :
    Except DecodeError α := do
  c.reach (message ++ [(1, .call), (2, .enter), (3, .call)])
  throw e

end Calls

/-- Making a time tag or an integer argument: the call to its class, its set-up, the
fields it sets, its check, and a general comparison with a bound beyond one digit. -/
def checkedSteps : List (Nat × CallStep) :=
  [(1, .call), (2, .enter), (3, .call), (3, .enter), (4, .compare)]

def floatSteps : List (Nat × CallStep) :=
  [(1, .call), (2, .enter), (3, .call), (3, .enter), (4, .enter)]

def plainSteps : List (Nat × CallStep) := [(1, .call), (2, .enter), (3, .call)]

def blobSteps : List (Nat × CallStep) :=
  [(1, .call), (2, .enter), (3, .call), (3, .enter), (4, .call), (5, .call)]

/-- Making a message of `n` arguments: its check wraps the arguments in a function and
a generator, which tests each argument against the value classes. -/
def messageSteps (n : Nat) : List (Nat × CallStep) :=
  [(1, .call), (2, .enter), (3, .call), (4, .enter), (5, .enter)] ++
    (if n = 0 then [] else [(6, .enter), (7, .classTest)])

def bundleSteps (n : Nat) : List (Nat × CallStep) :=
  [(1, .call), (2, .enter), (3, .call), (4, if n = 0 then .call else .classTest)]

/-- Check that `size` bytes are there at `off`, in a frame of its own; a position beyond
one digit takes a general comparison. -/
def require (c : Calls) (data : List UInt8) (off size : Nat) (what : Field) :
    Except DecodeError Unit := do
  if !fitsDigit (off + size) then c.reach [(1, .compare)]
  if off + size > data.length then
    c.fail [(1, .text), (1, .call), (2, .compare), (1, .text)]
      ⟨.short size what (data.length - off), off⟩
  else pure ()

/-- Check that the bytes from `off` up to `stop` are there and are NUL, in a frame of
its own; answer `stop`. -/
def skipPadding (c : Calls) (data : List UInt8) (off stop : Nat) (what : Field) :
    Except DecodeError Nat := do
  if stop > data.length then c.fail [] ⟨.paddingPastEnd what, off⟩
  else
    c.reach [(1, .call)]
    if ((data.drop off).take (stop - off)).any (· != 0) then
      c.fail [] ⟨.nonzeroPadding what, off⟩
    else pure stop

/-- Read a NUL-terminated, padded UTF-8 text at `off`, in a frame of its own: the text
and the position after its padding. -/
def readPaddedString (c : Calls) (data : List UInt8) (off : Nat) (what : Field) :
    Except DecodeError (String × Nat) := do
  let rest := data.drop off
  c.reach [(1, .call)]
  match rest.findIdx? (· == 0) with
  | none => c.fail [] ⟨.unterminated what, off⟩
  | some i =>
    let stop ← skipPadding (← c.enter) data (off + i + 1) (off + (i / 4 + 1) * 4) what
    match Text.decodeUtf8 (rest.take i) with
    | .error reason => c.fail [(1, .call)] ⟨.notUtf8 what reason, off⟩
    | .ok s => pure (s, stop)

/-- The `size` bytes at `off`, as unpacking takes them: refused when the data ends
before them. -/
def unpackFrom (data : List UInt8) (off size : Nat) : Except DecodeError (List UInt8) :=
  if off + size ≤ data.length then .ok ((data.drop off).take size)
  else .error ⟨.unpack (.short size off data.length), off⟩

/-- Read one argument of a known type tag at `off`, in a frame of its own entered from
the frame whose calls are `c`: the argument and the position after it and its padding. -/
def readArg (c : Calls) (tag : Char) (data : List UInt8) (off : Nat) :
    Option (Except DecodeError (Arg × Nat)) :=
  let reading (body : Calls → Except DecodeError (Arg × Nat)) := some (c.enter >>= body)
  if tag == 'i' then reading fun c => do
    require (← c.enter) data off 4 .int32
    let w ← unpackFrom data off 4
    c.reach checkedSteps
    pure (.int (Int32.ofInt (Bytes.signed32 (Bytes.readWord32 w))), off + 4)
  else if tag == 'f' then reading fun c => do
    require (← c.enter) data off 4 .float32
    let w ← unpackFrom data off 4
    c.reach floatSteps
    pure (.float (Binary32.quiet ⟨(Bytes.readWord32 w).toUInt32⟩), off + 4)
  else if tag == 's' then reading fun c => do
    let (s, stop) ← readPaddedString (← c.enter) data off .string
    c.reach plainSteps
    pure (.str s, stop)
  else if tag == 'b' then reading fun c => do
    require (← c.enter) data off 4 .blobSize
    let size := Bytes.readWord32 (← unpackFrom data off 4)
    let start := off + 4
    require (← c.enter) data start size .blobData
    let stop ← skipPadding (← c.enter) data (start + size) (start + (size + 3) / 4 * 4) .blob
    c.reach blobSteps
    pure (.blob ((data.drop start).take size), stop)
  else if tag == 't' then reading fun c => do
    require (← c.enter) data off 8 .timeTag
    let w ← unpackFrom data off 8
    c.reach checkedSteps
    pure (.time ⟨(Bytes.readWord32 w).toUInt32, (Bytes.readWord32 (w.drop 4)).toUInt32⟩, off + 8)
  else if tag == 'T' then reading fun c => do
    c.reach plainSteps
    pure (.bool true, off)
  else if tag == 'F' then reading fun c => do
    c.reach plainSteps
    pure (.bool false, off)
  else none

/-- Read the arguments of a message, one per type tag, with `c` the calls of the
message's frame; `at` is the position of the first tag, reported for a tag that is not
known (`tagAt`). -/
def readArgs (c : Calls) (data : List UInt8) : List Char → Nat → Nat → List Arg →
    Except DecodeError (List Arg × Nat)
  | [], _, off, acc => .ok (acc.reverse, off)
  | tag :: tags, tagAt, off, acc =>
    match readArg c tag data off with
    | none => c.fail [(1, .quoted)] ⟨.unsupported (Text.hold tag.toString), tagAt⟩
    | some (.error e) => .error e
    | some (.ok (arg, off)) => readArgs c data tags (tagAt + 1) off (arg :: acc)

def decodeMessage (c : Calls) (data : List UInt8) : Except DecodeError Packet := do
  let (address, off) ← readPaddedString (← c.enter) data 0 .address
  c.reach [(1, .call)]
  if !address.startsWith "/" then c.fail [(1, .quoted)] ⟨.noSlash address, 0⟩
  if off = data.length then
    c.reach (messageSteps 0)
    return .message address []
  c.reach [(1, .compare)]
  if (data.drop off).head? != some 0x2C then c.fail [] ⟨.noComma, off⟩
  let (tags, stop) ← readPaddedString (← c.enter) data off .typeTags
  let (args, stop) ← readArgs c data ((Text.release tags).toList.drop 1) (off + 1) stop []
  if stop ≠ data.length then c.fail [(1, .text)] ⟨.trailing (data.length - stop), stop⟩
  c.reach (messageSteps args.length)
  return .message address args

mutual

/-- Read a packet that fills `data`, inside `depth` enclosing bundles, in the frame
whose calls are `c`; `fuel` bounds the nesting and is never the limit for a datagram
given at least its length plus one. -/
def decodeWith : Nat → List UInt8 → Nat → DepthLimit → Calls → Except DecodeError Packet
  | 0, _, _, _, _ => .error ⟨.emptyPacket, 0⟩
  | fuel + 1, data, depth, maxDepth, c =>
    if data.isEmpty then c.fail [] ⟨.emptyPacket, 0⟩
    else do
      c.reach [(1, .call)]
      if bundleTag.isPrefixOf data then
        let b ← c.enter
        if maxDepth.comparedGenerally then b.reach [(1, .compare)]
        match maxDepth.exceededBy (depth + 1) with
        | none => throw ⟨.incomparableLimit maxDepth.text, 0⟩
        | some true => b.fail maxDepth.textSteps ⟨.tooDeep maxDepth, 0⟩
        | some false =>
          let t ← b.enter
          require (← t.enter) data 8 8 .timeTag
          let w ← unpackFrom data 8 8
          t.reach checkedSteps
          let time : TimeTag := ⟨(Bytes.readWord32 w).toUInt32, (Bytes.readWord32 (w.drop 4)).toUInt32⟩
          let elements ← decodeElements fuel data.length data 16 (depth + 1) maxDepth b []
          b.reach (bundleSteps elements.length)
          pure (.bundle time elements)
      else
        c.reach [(1, .call)]
        if data.isPrefixOf bundleTag then c.fail [] ⟨.insideBundleTag, data.length⟩
        else
          c.reach [(1, .compare)]
          if data.head? == some 0x23 then c.fail [] ⟨.unknownHashTag, 0⟩
          else decodeMessage (← c.enter) data
termination_by fuel => (fuel, 0)

/-- Read the elements of a bundle from `off` to the end of `data`, with `c` the calls
of the bundle's frame; `loop` bounds the number of elements. -/
def decodeElements (fuel : Nat) : Nat → List UInt8 → Nat → Nat → DepthLimit → Calls →
    List Packet → Except DecodeError (List Packet)
  | 0, _, _, _, _, _, acc => .ok acc.reverse
  | loop + 1, data, off, depth, maxDepth, c, acc =>
    if off < data.length then do
      require (← c.enter) data off 4 .elementSize
      let size := Bytes.readWord32 (← unpackFrom data off 4)
      if size % 4 ≠ 0 then c.fail [(1, .text)] ⟨.elementSize size, off⟩
      require (← c.enter) data (off + 4) size .element
      let element := (data.drop (off + 4)).take size
      let inner ← c.enter
      match decodeWith fuel element depth maxDepth inner with
      | .error e => throw (e.shift (off + 4))
      | .ok p => decodeElements fuel loop data (off + 4 + size) depth maxDepth c (p :: acc)
    else .ok acc.reverse
termination_by loop => (fuel, loop + 1)

end

/-- How many calls above the frame of a datagram's packet decoding may go when it is
asked for directly: the deepest nesting allowed is a thousand calls, and that frame
lies six calls deep. -/
def callRoom : Nat := 994

/-- Read one datagram as a packet, with the nesting of bundles bounded by a limit and
the nesting of calls by a room (`none` for no bound). -/
def decodeWithin (data : List UInt8) (limit : DepthLimit) (room : Option Nat) :
    Except DecodeError Packet :=
  decodeWith (data.length + 1) data 0 limit { room }

/-- Read one datagram as a packet, with bundles nested at most `maxDepth` deep and no
bound on the nesting of calls. -/
def decode (data : List UInt8) (maxDepth : Int := defaultMaxDepth) : Except DecodeError Packet :=
  decodeWithin data (.int maxDepth) none

end Osc

end VirtualMocap
