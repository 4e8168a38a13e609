import VirtualMocap.Osc.Encode
import VirtualMocap.Motion.Parse
import VirtualMocap.Proofs.Text.Utf8

/-!
# The layout of written packets

What `Packet.encode` writes, read off the packet itself: how many bytes each part takes
(`Packet.size`), where each bundle begins and how deep it lies (`Packet.bundleSites`),
and which packets the classes can make at all (`Packet.Valid`). A written text is its
UTF-8 and one to four NULs, so every part is a whole number of words.
-/

namespace VirtualMocap

section ExceptSteps

variable {ε α β : Type}

@[simp] theorem except_ok_bind (a : α) (f : α → Except ε β) : (Except.ok a >>= f) = f a := rfl

@[simp] theorem except_error_bind (e : ε) (f : α → Except ε β) :
    (Except.error e >>= f) = .error e := rfl

theorem except_bind_eq_ok {x : Except ε α} {f : α → Except ε β} {b : β} :
    x >>= f = .ok b ↔ ∃ a, x = .ok a ∧ f a = .ok b := by
  cases x <;> simp

theorem except_bind_eq_error {x : Except ε α} {f : α → Except ε β} {e : ε} :
    x >>= f = .error e ↔ x = .error e ∨ ∃ a, x = .ok a ∧ f a = .error e := by
  cases x <;> simp

@[simp] theorem except_pure_eq_ok {a b : α} : (pure a : Except ε α) = .ok b ↔ a = b := by
  simp [pure, Except.pure]

theorem except_map_eq_ok {f : α → β} {x : Except ε α} {b : β} :
    x.map f = .ok b ↔ ∃ a, x = .ok a ∧ f a = b := by
  cases x <;> simp [Except.map]

end ExceptSteps

namespace Osc

open Motion (messagesOf messagesOfAll)

/-! ## Packets the classes make -/

/-- An argument as its class makes it: a text is held and holds no NUL; a number is a
single whose NaNs are quiet, as every single held as a double is. -/
def Arg.Valid : Arg → Prop
  | .float x => x.quiet = x
  | .str s => Text.Held s ∧ '\x00' ∉ s.toList
  | _ => True

/-- A packet as the classes make it: every address is held and every argument valid.
No class looks for NUL in an address. -/
def Packet.Valid (p : Packet) : Prop :=
  ∀ m ∈ messagesOf p, Text.Held m.1 ∧ ∀ a ∈ m.2, a.Valid

instance Text.decidableHeld : DecidablePred Text.Held := fun s =>
  inferInstanceAs (Decidable (Text.ofCodePoints (Text.codePoints s) = s))

instance Arg.decidableValid : DecidablePred Arg.Valid
  | .float x => inferInstanceAs (Decidable (x.quiet = x))
  | .str s => inferInstanceAs (Decidable (Text.Held s ∧ '\x00' ∉ s.toList))
  | .int _ | .blob _ | .bool _ | .time _ => isTrue trivial

instance Packet.decidableValid : DecidablePred Packet.Valid := fun p =>
  inferInstanceAs (Decidable (∀ m ∈ messagesOf p, Text.Held m.1 ∧ ∀ a ∈ m.2, a.Valid))

theorem messagesOfAll_eq_flatMap (ps : List Packet) :
    messagesOfAll ps = ps.flatMap messagesOf := by
  induction ps with
  | nil => simp [messagesOfAll]
  | cons p ps ih => simp [messagesOfAll, ih]

theorem Packet.valid_message {address : String} {args : List Arg} :
    (Packet.message address args).Valid ↔ Text.Held address ∧ ∀ a ∈ args, a.Valid := by
  simp [Packet.Valid, messagesOf]

theorem Packet.valid_bundle {time : TimeTag} {ps : List Packet} :
    (Packet.bundle time ps).Valid ↔ ∀ p ∈ ps, p.Valid := by
  simp only [Packet.Valid, messagesOf, messagesOfAll_eq_flatMap, List.mem_flatMap]
  constructor
  · intro h p hp m hm
    exact h m ⟨p, hp, hm⟩
  · rintro h m ⟨p, hp, hm⟩
    exact h p hp m hm

def Packet.PlainAddresses (p : Packet) : Prop := ∀ m ∈ messagesOf p, '\x00' ∉ m.1.toList

instance Packet.decidablePlainAddresses : DecidablePred Packet.PlainAddresses := fun p =>
  inferInstanceAs (Decidable (∀ m ∈ messagesOf p, '\x00' ∉ m.1.toList))

theorem Packet.plainAddresses_message {address : String} {args : List Arg} :
    (Packet.message address args).PlainAddresses ↔ '\x00' ∉ address.toList := by
  simp [Packet.PlainAddresses, messagesOf]

theorem Packet.plainAddresses_bundle {time : TimeTag} {ps : List Packet} :
    (Packet.bundle time ps).PlainAddresses ↔ ∀ p ∈ ps, p.PlainAddresses := by
  simp only [Packet.PlainAddresses, messagesOf, messagesOfAll_eq_flatMap, List.mem_flatMap]
  constructor
  · intro h p hp m hm
    exact h m ⟨p, hp, hm⟩
  · rintro h m ⟨p, hp, hm⟩
    exact h p hp m hm

/-! ## Sizes -/

/-- The bytes a text takes: its UTF-8, a NUL and NULs up to the next word. -/
def textSize (s : String) : Nat := ((Text.utf8 s).length / 4 + 1) * 4

/-- The bytes an argument takes. -/
def Arg.size : Arg → Nat
  | .int _ | .float _ => 4
  | .str s => textSize s
  | .blob bytes => 4 + (bytes.length + 3) / 4 * 4
  | .bool _ => 0
  | .time _ => 8

mutual

/-- The bytes a packet takes. -/
def Packet.size : Packet → Nat
  | .message address args =>
    textSize address + textSize ("," ++ tagsOf args) + (args.map Arg.size).sum
  | .bundle _ elements => 16 + elementsSize elements

/-- The bytes the elements of a bundle take, each with its length word. -/
def elementsSize : List Packet → Nat
  | [] => 0
  | p :: rest => 4 + p.size + elementsSize rest

end

theorem four_dvd_textSize (s : String) : 4 ∣ textSize s := Nat.dvd_mul_left 4 _

theorem Arg.four_dvd_size (a : Arg) : 4 ∣ a.size := by
  cases a with
  | str s => exact four_dvd_textSize s
  | blob b =>
    simp only [Arg.size]
    omega
  | int | float | bool | time => simp [Arg.size]

theorem four_dvd_sum_size (args : List Arg) : 4 ∣ (args.map Arg.size).sum := by
  induction args with
  | nil => simp
  | cons a args ih =>
    rw [List.map_cons, List.sum_cons]
    exact Nat.dvd_add (Arg.four_dvd_size a) ih

mutual

theorem Packet.four_dvd_size : (p : Packet) → 4 ∣ p.size
  | .message address args =>
    Nat.dvd_add (Nat.dvd_add (four_dvd_textSize _) (four_dvd_textSize _)) (four_dvd_sum_size args)
  | .bundle _ elements => Nat.dvd_add (by decide) (four_dvd_elementsSize elements)

theorem four_dvd_elementsSize : (ps : List Packet) → 4 ∣ elementsSize ps
  | [] => by simp [elementsSize]
  | p :: ps => Nat.dvd_add (Nat.dvd_add (by decide) (Packet.four_dvd_size p)) (four_dvd_elementsSize ps)

end

theorem length_le_elementsSize (ps : List Packet) : ps.length ≤ elementsSize ps := by
  induction ps with
  | nil => simp [elementsSize]
  | cons p ps ih =>
    simp only [List.length_cons, elementsSize]
    omega

/-! ## Where bundles begin -/

/-- A bundle of a written packet: the byte where it begins, and how many bundles hold
it, itself included. -/
structure BundleSite where
  start : Nat
  level : Nat
  deriving DecidableEq, Repr

mutual

/-- The bundles of a packet written at `start` inside `depth` bundles, depth-first in
element order. -/
def Packet.bundleSites : Packet → Nat → Nat → List BundleSite
  | .message .., _, _ => []
  | .bundle _ elements, start, depth =>
    ⟨start, depth + 1⟩ :: elementSites elements (start + 16) (depth + 1)

/-- The bundles of elements written from `start`, each after its length word. -/
def elementSites : List Packet → Nat → Nat → List BundleSite
  | [], _, _ => []
  | p :: rest, start, depth =>
    p.bundleSites (start + 4) depth ++ elementSites rest (start + 4 + p.size) depth

end

mutual

/-- How deep bundles nest in a packet: a message is no bundle, a bundle is one deeper
than its deepest element. -/
def Packet.nesting : Packet → Nat
  | .message .. => 0
  | .bundle _ elements => elementsNesting elements + 1

def elementsNesting : List Packet → Nat
  | [] => 0
  | p :: rest => max p.nesting (elementsNesting rest)

end

/-- What reading a written value back gives when bundles may lie no deeper than
`limit`: the value, or a refusal at the first bundle, depth-first, that lies deeper. -/
def depthChecked {α : Type} (sites : List BundleSite) (limit : Int) (x : α) :
    Except DecodeError α :=
  match sites.find? fun b => limit < b.level with
  | none => .ok x
  | some b => .error ⟨.tooDeep (.int limit), b.start⟩

mutual

theorem Packet.level_le_nesting : (p : Packet) → (start depth : Nat) →
    ∀ b ∈ p.bundleSites start depth, b.level ≤ depth + p.nesting
  | .message .., _, _, b, hb => by simp [Packet.bundleSites] at hb
  | .bundle _ ps, start, depth, b, hb => by
    simp only [Packet.bundleSites, List.mem_cons] at hb
    simp only [Packet.nesting]
    rcases hb with rfl | hb
    · simp only
      omega
    · have := level_le_elementsNesting ps (start + 16) (depth + 1) b hb
      omega

theorem level_le_elementsNesting : (ps : List Packet) → (start depth : Nat) →
    ∀ b ∈ elementSites ps start depth, b.level ≤ depth + elementsNesting ps
  | [], _, _, b, hb => by simp [elementSites] at hb
  | p :: ps, start, depth, b, hb => by
    simp only [elementSites, List.mem_append] at hb
    simp only [elementsNesting]
    rcases hb with hb | hb
    · have := Packet.level_le_nesting p (start + 4) depth b hb
      omega
    · have := level_le_elementsNesting ps (start + 4 + p.size) depth b hb
      omega

end

theorem depthChecked_of_nesting_le {α : Type} {p : Packet} {limit : Int}
    (h : (p.nesting : Int) ≤ limit) (x : α) : depthChecked (p.bundleSites 0 0) limit x = .ok x := by
  have hnone : (p.bundleSites 0 0).find? (fun b => limit < b.level) = none := by
    rw [List.find?_eq_none]
    intro b hb
    have := Packet.level_le_nesting p 0 0 b hb
    simp only [decide_eq_true_eq]
    omega
  simp [depthChecked, hnone]

mutual

theorem Packet.exists_level_eq_nesting : (p : Packet) → (start depth : Nat) →
    p.nesting = 0 ∨ ∃ b ∈ p.bundleSites start depth, b.level = depth + p.nesting
  | .message .., _, _ => .inl rfl
  | .bundle _ ps, start, depth => by
    refine .inr ?_
    simp only [Packet.bundleSites, List.mem_cons, Packet.nesting]
    rcases exists_level_eq_elementsNesting ps (start + 16) (depth + 1) with h0 | ⟨b, hb, hl⟩
    · -- no element is a bundle: the bundle itself is the deepest
      exact ⟨_, .inl rfl, by simp only [h0]⟩
    · exact ⟨b, .inr hb, by omega⟩

theorem exists_level_eq_elementsNesting : (ps : List Packet) → (start depth : Nat) →
    elementsNesting ps = 0 ∨ ∃ b ∈ elementSites ps start depth, b.level = depth + elementsNesting ps
  | [], _, _ => .inl rfl
  | p :: ps, start, depth => by
    simp only [elementsNesting, elementSites, List.mem_append]
    rcases Packet.exists_level_eq_nesting p (start + 4) depth with hp | ⟨b, hb, hl⟩ <;>
      rcases exists_level_eq_elementsNesting ps (start + 4 + p.size) depth with hps | ⟨c, hc, hcl⟩
    · exact .inl (by omega)
    · exact .inr ⟨c, .inr hc, by omega⟩
    · exact .inr ⟨b, .inl hb, by omega⟩
    · -- the deeper of the two, the first on a tie
      by_cases hle : elementsNesting ps ≤ p.nesting
      · exact .inr ⟨b, .inl hb, by omega⟩
      · exact .inr ⟨c, .inr hc, by omega⟩

end

theorem Packet.exists_tooDeep {time : TimeTag} {ps : List Packet} {limit : Int}
    (h : limit < ((Packet.bundle time ps).nesting : Int)) :
    ∃ b, ((Packet.bundle time ps).bundleSites 0 0).find? (fun b => limit < b.level) = some b := by
  rcases Packet.exists_level_eq_nesting (.bundle time ps) 0 0 with h0 | ⟨b, hb, hl⟩
  · simp [Packet.nesting] at h0
  · apply Option.isSome_iff_exists.1
    rw [List.find?_isSome]
    exact ⟨b, hb, by simp only [decide_eq_true_eq]; omega⟩

def BundleSite.shift (k : Nat) (b : BundleSite) : BundleSite := ⟨k + b.start, b.level⟩

theorem find?_shift (k : Nat) (sites : List BundleSite) (limit : Int) :
    (sites.map (BundleSite.shift k)).find? (fun b => limit < b.level) =
      (sites.find? fun b => limit < b.level).map (BundleSite.shift k) := by
  rw [List.find?_map]
  rfl

mutual

theorem Packet.bundleSites_add : (p : Packet) → (k start depth : Nat) →
    p.bundleSites (k + start) depth = (p.bundleSites start depth).map (BundleSite.shift k)
  | .message .., _, _, _ => rfl
  | .bundle _ elements, k, start, depth => by
    rw [Packet.bundleSites, Packet.bundleSites, List.map_cons, Nat.add_assoc,
      elementSites_add elements k (start + 16) (depth + 1)]
    rfl

theorem elementSites_add : (ps : List Packet) → (k start depth : Nat) →
    elementSites ps (k + start) depth = (elementSites ps start depth).map (BundleSite.shift k)
  | [], _, _, _ => rfl
  | p :: rest, k, start, depth => by
    rw [elementSites, elementSites, List.map_append, Nat.add_assoc,
      Packet.bundleSites_add p k (start + 4) depth, Nat.add_assoc k (start + 4),
      elementSites_add rest k (start + 4 + p.size) depth]

end

/-! ## What encoding writes -/

theorem bundleTag_eq : bundleTag = [0x23, 0x62, 0x75, 0x6E, 0x64, 0x6C, 0x65, 0x00] := by
  have h : Text.codePoints "#bundle" = ['#', 'b', 'u', 'n', 'd', 'l', 'e'].map .scalar := by
    simp [Text.codePoints, Text.codePointsOf, Text.escapeChar, Text.isStandIn]
  simp [bundleTag, Text.utf8, h, String.utf8EncodeChar]

theorem eq_utf8_of_encodeUtf8 {s : String} {raw : List UInt8} (h : Text.encodeUtf8 s = .ok raw) :
    raw = Text.utf8 s := by
  unfold Text.encodeUtf8 at h
  split at h
  · cases h
  · exact (Except.ok.inj h).symm

theorem textField_eq_ok {s : String} {bytes : List UInt8} :
    textField s = .ok bytes ↔ ∃ raw, Text.encodeUtf8 s = .ok raw ∧
      bytes = raw ++ Bytes.zeros ((raw.length / 4 + 1) * 4 - raw.length) := by
  unfold textField encodeString
  cases h : Text.encodeUtf8 s with
  | error r => simp [Except.map, Except.mapError]
  | ok raw =>
    have hpad : (pad4 ((raw.length : Int) + 1)).toNat = (raw.length / 4 + 1) * 4 := by
      simp only [pad4]
      omega
    simp only [Except.map, Except.mapError, Except.ok.injEq, hpad]
    constructor
    · rintro rfl
      exact ⟨raw, rfl, rfl⟩
    · rintro ⟨_, rfl, rfl⟩
      rfl

theorem length_of_textField {s : String} {bytes : List UInt8} (h : textField s = .ok bytes) :
    bytes.length = textSize s := by
  obtain ⟨raw, hraw, rfl⟩ := textField_eq_ok.1 h
  rw [textSize, ← eq_utf8_of_encodeUtf8 hraw, List.length_append, Bytes.zeros,
    List.length_replicate]
  omega

theorem textField_ok_iff {s : String} :
    (∃ bytes, textField s = .ok bytes) ↔ Text.hasSurrogate s = false := by
  rw [← Text.encodeUtf8_ok_iff]
  constructor
  · rintro ⟨bytes, h⟩
    obtain ⟨raw, hraw, -⟩ := textField_eq_ok.1 h
    exact ⟨raw, hraw⟩
  · rintro ⟨raw, hraw⟩
    exact ⟨_, textField_eq_ok.2 ⟨raw, hraw, rfl⟩⟩

theorem lengthWord_eq_ok {n : Nat} {w : List UInt8} :
    lengthWord n = .ok w ↔ n < twoPow 32 ∧ w = Bytes.word32 n := by
  by_cases h : n < twoPow 32 <;> simp [lengthWord, h, eq_comm]

theorem Arg.length_of_encode {a : Arg} {bytes : List UInt8} (h : a.encode = .ok bytes) :
    bytes.length = a.size := by
  cases a with
  | str s => exact length_of_textField h
  | blob b =>
    obtain ⟨size, hs, rfl⟩ := except_map_eq_ok.1 h
    obtain ⟨-, rfl⟩ := lengthWord_eq_ok.1 hs
    simp only [List.length_append, Bytes.length_word32, Bytes.zeros, List.length_replicate,
      Arg.size, pad4]
    omega
  | int | float | bool | time => cases h; rfl

theorem encodeArgs_cons_eq_ok {a : Arg} {args : List Arg} {bytes : List UInt8} :
    encodeArgs (a :: args) = .ok bytes ↔
      ∃ head tail, a.encode = .ok head ∧ encodeArgs args = .ok tail ∧ bytes = head ++ tail := by
  simp only [encodeArgs, except_bind_eq_ok, except_pure_eq_ok]
  constructor
  · rintro ⟨head, ha, tail, ht, rfl⟩
    exact ⟨head, tail, ha, ht, rfl⟩
  · rintro ⟨head, tail, ha, ht, rfl⟩
    exact ⟨head, ha, tail, ht, rfl⟩

theorem length_of_encodeArgs {args : List Arg} {bytes : List UInt8}
    (h : encodeArgs args = .ok bytes) : bytes.length = (args.map Arg.size).sum := by
  induction args generalizing bytes with
  | nil => cases h; rfl
  | cons a args ih =>
    obtain ⟨head, tail, ha, hargs, rfl⟩ := encodeArgs_cons_eq_ok.1 h
    rw [List.length_append, Arg.length_of_encode ha, ih hargs, List.map_cons, List.sum_cons]

theorem Packet.encode_message_eq_ok {address : String} {args : List Arg} {bytes : List UInt8} :
    (Packet.message address args).encode = .ok bytes ↔ address.startsWith "/" = true ∧
      ∃ a t body, textField address = .ok a ∧ textField ("," ++ tagsOf args) = .ok t ∧
        encodeArgs args = .ok body ∧ bytes = a ++ t ++ body := by
  simp only [Packet.encode]
  split
  · next h =>
    simp only [h, true_and, except_bind_eq_ok, except_pure_eq_ok]
    constructor
    · rintro ⟨a, ha, t, ht, body, hbody, rfl⟩
      exact ⟨a, t, body, ha, ht, hbody, rfl⟩
    · rintro ⟨a, t, body, ha, ht, hbody, rfl⟩
      exact ⟨a, ha, t, ht, body, hbody, rfl⟩
  · next h => simp [h]

theorem Packet.encode_bundle_eq_ok {time : TimeTag} {ps : List Packet} {bytes : List UInt8} :
    (Packet.bundle time ps).encode = .ok bytes ↔
      ∃ body, encodeElements ps = .ok body ∧ bytes = bundleTag ++ encodeTime time ++ body := by
  simp only [Packet.encode, except_map_eq_ok]
  constructor
  · rintro ⟨body, hps, rfl⟩
    exact ⟨body, hps, rfl⟩
  · rintro ⟨body, hps, rfl⟩
    exact ⟨body, hps, rfl⟩

theorem encodeElements_cons_eq_ok {p : Packet} {ps : List Packet} {bytes : List UInt8} :
    encodeElements (p :: ps) = .ok bytes ↔ ∃ body tail, p.encode = .ok body ∧
      body.length < twoPow 32 ∧ encodeElements ps = .ok tail ∧
        bytes = Bytes.word32 body.length ++ body ++ tail := by
  simp only [encodeElements, except_bind_eq_ok, except_pure_eq_ok, lengthWord_eq_ok]
  constructor
  · rintro ⟨body, hp, _, ⟨hlt, rfl⟩, tail, ht, rfl⟩
    exact ⟨body, tail, hp, hlt, ht, rfl⟩
  · rintro ⟨body, tail, hp, hlt, ht, rfl⟩
    exact ⟨body, hp, _, ⟨hlt, rfl⟩, tail, ht, rfl⟩

mutual

theorem Packet.length_of_encode : {p : Packet} → {bytes : List UInt8} →
    p.encode = .ok bytes → bytes.length = p.size
  | .message address args, bytes, h => by
    obtain ⟨-, a, t, body, ha, ht, hbody, rfl⟩ := Packet.encode_message_eq_ok.1 h
    simp only [List.length_append, length_of_textField ha, length_of_textField ht,
      length_of_encodeArgs hbody, Packet.size]
  | .bundle time ps, bytes, h => by
    obtain ⟨body, hps, rfl⟩ := Packet.encode_bundle_eq_ok.1 h
    simp only [List.length_append, length_of_encodeElements hps, Packet.size, bundleTag_eq]
    rfl

theorem length_of_encodeElements : {ps : List Packet} → {bytes : List UInt8} →
    encodeElements ps = .ok bytes → bytes.length = elementsSize ps
  | [], bytes, h => by
    simp only [encodeElements, Except.ok.injEq] at h
    rw [← h]
    rfl
  | p :: ps, bytes, h => by
    obtain ⟨body, tail, hp, -, hps, rfl⟩ := encodeElements_cons_eq_ok.1 h
    simp only [List.length_append, Bytes.length_word32, Packet.length_of_encode hp,
      length_of_encodeElements hps, elementsSize]

end

end Osc

end VirtualMocap
