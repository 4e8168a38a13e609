import VirtualMocap.Proofs.Motion.Catalog
import VirtualMocap.Proofs.Osc.RoundTrip
import VirtualMocap.Session.Performer

/-!
# Messages survive the wire

A message becomes an OSC message exactly when none of its texts holds a NUL, and the
catalog reads it back as the message, bit for bit; its datagram parses to the message
alone. Each kind is checked once, for the variant its arguments fill
(`Message.tagsOf_args`) and what its entry reads from them (`Message.decode_args`).
-/

namespace VirtualMocap

namespace Motion

open Osc

section ExceptSteps

variable {ε α β : Type}

@[simp] theorem except_map_ok (f : α → β) (a : α) : (f <$> (Except.ok a : Except ε α)) = .ok (f a) :=
  rfl

theorem mapM_id_eq_ok {rs : List (Except ε α)} {xs : List α} (h : rs.mapM id = .ok xs) :
    ∀ r ∈ rs, ∃ a, r = .ok a := by
  induction rs generalizing xs with
  | nil => simp
  | cons r rs ih =>
    rw [List.mapM_cons] at h
    obtain ⟨a, ha, h⟩ := except_bind_eq_ok.1 h
    obtain ⟨ys, hys, -⟩ := except_bind_eq_ok.1 h
    rintro r' (_ | ⟨_, hr'⟩)
    · exact ⟨a, ha⟩
    · exact ih hys r' hr'

end ExceptSteps

/-! ## Each kind of message -/

section Args

variable (m : Message)

/-- A message's arguments fill the variant of its signature with the groups it has. -/
theorem Message.tagsOf_args : tagsOf m.args = String.ofList (m.route.signature.variant m.groups) := by
  rcases m with ⟨_, _, _ | _⟩ | _ | _ | _ | _ | ⟨_, _ | ⟨_, _, _ | _⟩⟩ | _ | _ | _ | _ | _ | _ | _ | _ |
    ⟨_, _, _ | _⟩ | _ | _ | _ | _ | ⟨_, _, _ | _⟩
  all_goals simp [Message.args, Message.route, Message.groups, tagsOf, floats, code, flag, Arg.tag,
    Vec3.toList, Quat.toList, Color.toList, Signature.variant, Route.signature, Route.pose]

/-- A message's entry reads its arguments back as the message. -/
theorem Message.decode_args : m.route.decode (.ofArgs m.args) m.groups = .ok m := by
  rcases m with ⟨_, _, _ | _⟩ | _ | _ | _ | _ | ⟨_, _ | ⟨_, _, _ | _⟩⟩ | _ | _ | _ | _ | _ | _ | _ | _ |
    ⟨_, _, _ | _⟩ | _ | _ | _ | _ | ⟨_, _, _ | _⟩
  all_goals simp [Message.args, Message.route, Message.groups, Route.decode, ArgReader.ofArgs, intAt,
    floatAt, strAt, ArgReader.vec, ArgReader.quat, ArgReader.member, ArgReader.flag, floats, code, flag,
    Vec3.toList, Quat.toList, Color.toList, ModelState.ofCode?_code, CalibrationState.ofCode?_code,
    CalibrationMode.ofCode?_code, TrackingState.ofCode?_code, InputAction.ofCode?_code, flag_ne_zero,
    Except.map, -Int32.toInt_ofInt]

end Args

/-- The OSC form of a message whose texts hold no NUL: at its entry's address, with the
tags of the variant its optional fields fill, and read by its entry as itself. -/
theorem toOsc_spec {m : Message} (h : m.PlainTexts) : ∃ args,
    m.toOsc = .ok (.message m.route.address args) ∧
      tagsOf args = String.ofList (m.route.signature.variant m.groups) ∧
      m.route.decode (.ofArgs args) m.groups = .ok m ∧
      (∀ a ∈ args, m.Carries a) ∧ ∀ s ∈ m.texts, Arg.str s ∈ args :=
  ⟨m.args, Message.toOsc_eq_ok (Message.plain_args h), m.tagsOf_args, m.decode_args, m.carries_args,
    m.texts_args⟩

theorem strArg?_mem_toOscParts {m : Message} : ∀ s ∈ m.texts, strArg? s ∈ m.toOscParts.2 := by
  intro s hs
  rw [m.toOscParts_eq]
  exact List.mem_map.2 ⟨.str s, m.texts_args s hs, rfl⟩

theorem groups_le (m : Message) : m.groups ≤ m.route.signature.optional.length := by
  rcases m with ⟨_, _, _ | _⟩ | _ | _ | _ | _ | ⟨_, _ | ⟨_, _, _ | _⟩⟩ | _ | _ | _ | _ | _ | _ | _ | _ |
    ⟨_, _, _ | _⟩ | _ | _ | _ | _ | ⟨_, _, _ | _⟩
  all_goals simp [Message.groups, Message.route, Route.signature]

/-! ## Every kind alike -/

section Kinds

variable {m : Message}

theorem toOsc_ok_iff : (∃ p, m.toOsc = .ok p) ↔ m.PlainTexts := by
  constructor
  · rintro ⟨p, hp⟩ s hs hnul
    -- the text's own check is among the results collected, and it failed
    rcases hparts : m.toOscParts with ⟨address, rs⟩
    simp only [Message.toOsc, hparts] at hp
    obtain ⟨args, hargs, -⟩ := except_bind_eq_ok.1 hp
    have hmem : strArg? s ∈ rs := by
      simpa [hparts] using strArg?_mem_toOscParts s hs
    obtain ⟨a, ha⟩ := mapM_id_eq_ok hargs _ hmem
    simp [strArg?, hnul] at ha
  · intro h
    obtain ⟨args, hargs, -⟩ := toOsc_spec h
    exact ⟨_, hargs⟩

theorem fromOsc_route {args : List Arg}
    (htags : tagsOf args = String.ofList (m.route.signature.variant m.groups))
    (hdecode : m.route.decode (.ofArgs args) m.groups = .ok m) :
    fromOsc m.route.address args = .ok (.recognized m) := by
  rw [fromOsc, m.route.lookup_address]
  simp only [htags, m.route.groups?_variant (groups_le m), hdecode, Except.map]

theorem valid_of_carries (hm : m.Valid) (hplain : m.PlainTexts) {args : List Arg}
    (hargs : ∀ a ∈ args, m.Carries a) :
    (Packet.message m.route.address args).Valid ∧
      (Packet.message m.route.address args).PlainAddresses := by
  obtain ⟨-, haddr, hnul, -⟩ := m.route.address_plain
  refine ⟨Packet.valid_message.2 ⟨haddr, ?_⟩, Packet.plainAddresses_message.2 hnul⟩
  intro a ha
  have hc := hargs a ha
  cases a with
  | str s =>
    rcases hc with hs | rfl
    · exact ⟨hm.2 s hs, hplain s hs⟩
    · decide
  | float x => exact hm.1 x hc
  | int v => trivial
  | blob _ | bool _ | time _ => exact hc.elim

theorem encodeArgs_ok_iff {args : List Arg} :
    (∃ bytes, encodeArgs args = .ok bytes) ↔ ∀ a ∈ args, ∃ bytes, a.encode = .ok bytes := by
  induction args with
  | nil => simp [encodeArgs]
  | cons a args ih =>
    simp only [encodeArgs_cons_eq_ok, List.forall_mem_cons, ← ih]
    constructor
    · rintro ⟨-, head, tail, ha, ht, -⟩
      exact ⟨⟨head, ha⟩, ⟨tail, ht⟩⟩
    · rintro ⟨⟨head, ha⟩, ⟨tail, ht⟩⟩
      exact ⟨_, head, tail, ha, ht, rfl⟩

theorem tagString_utf8 (args : List Arg) : Text.hasSurrogate ("," ++ tagsOf args) = false := by
  rw [tagString_eq, Text.hasSurrogate, Text.codePoints_ofCodePoints _ (by simp)]
  simp [Text.CodePoint.isSurrogate]

theorem encode_ok_iff {args : List Arg} (hargs : ∀ a ∈ args, m.Carries a)
    (htexts : ∀ s ∈ m.texts, Arg.str s ∈ args) :
    (∃ bytes, (Packet.message m.route.address args).encode = .ok bytes) ↔ m.Utf8Texts := by
  obtain ⟨hslash, -, -, hsur⟩ := m.route.address_plain
  -- address and tags can always be written, so only the arguments decide
  have hmessage : (∃ bytes, (Packet.message m.route.address args).encode = .ok bytes) ↔
      ∀ a ∈ args, ∃ bytes, a.encode = .ok bytes := by
    constructor
    · rintro ⟨bytes, h⟩
      obtain ⟨-, -, -, body, -, -, hbody, -⟩ := Packet.encode_message_eq_ok.1 h
      exact encodeArgs_ok_iff.1 ⟨body, hbody⟩
    · intro h
      obtain ⟨a, ha⟩ := textField_ok_iff.2 hsur
      obtain ⟨t, ht⟩ := textField_ok_iff.2 (tagString_utf8 args)
      obtain ⟨body, hbody⟩ := encodeArgs_ok_iff.2 h
      exact ⟨_, Packet.encode_message_eq_ok.2 ⟨hslash, a, t, body, ha, ht, hbody, rfl⟩⟩
  rw [hmessage]
  constructor
  · intro h s hs
    exact textField_ok_iff.1 (h _ (htexts s hs))
  · intro h a ha
    have hc := hargs a ha
    cases a with
    | str s =>
      rcases hc with hs | rfl
      · exact textField_ok_iff.2 (h s hs)
      · exact textField_ok_iff.2 (by decide)
    | float x => exact ⟨_, rfl⟩
    | int v => exact ⟨_, rfl⟩
    | blob _ | bool _ | time _ => exact hc.elim

theorem parse_message (hm : m.Valid) (hplain : m.PlainTexts) {args : List Arg}
    (htags : tagsOf args = String.ofList (m.route.signature.variant m.groups))
    (hdecode : m.route.decode (.ofArgs args) m.groups = .ok m) (hargs : ∀ a ∈ args, m.Carries a)
    {bytes : List UInt8} (h : (Packet.message m.route.address args).encode = .ok bytes) :
    parse bytes = .ok [.recognized m] := by
  obtain ⟨hvalid, haddr⟩ := valid_of_carries hm hplain hargs
  rw [parse, decode_of_encode hvalid haddr h]
  simp [depthChecked, Packet.bundleSites, Except.map, outcomes, messagesOf, outcomeOf,
    fromOsc_route htags hdecode]

/-- Valid messages whose texts the wire can carry and whose datagrams fit a bundle
element become elements that can be written, valid and plain, with no bundle among
them, whose outcomes are the messages in order. -/
theorem bundle_elements : ∀ {ms : List Message},
    (∀ m ∈ ms, m.Valid ∧ m.PlainTexts ∧ m.Utf8Texts ∧ m.Fits) →
    ∃ ps body, ms.mapM Message.toOsc = .ok ps ∧ encodeElements ps = .ok body ∧
      (∀ p ∈ ps, p.Valid ∧ p.PlainAddresses) ∧ (∀ start, elementSites ps start 1 = []) ∧
      (messagesOfAll ps).map (fun x => outcomeOf x.1 x.2) = ms.map .recognized
  | [], _ => ⟨[], [], rfl, rfl, by simp, fun _ => rfl, rfl⟩
  | m :: ms, h => by
    obtain ⟨hm, hplain, hutf8, hfits⟩ := h m (List.mem_cons_self ..)
    obtain ⟨ps, body, hps, hbody, hvalid, hsites, houtcomes⟩ :=
      bundle_elements fun m' hm' => h m' (List.mem_cons_of_mem _ hm')
    obtain ⟨args, htoOsc, htags, hdecode, hcarries, htexts⟩ := toOsc_spec hplain
    obtain ⟨bytes, hbytes⟩ := (encode_ok_iff hcarries htexts).2 hutf8
    have hlen : bytes.length < twoPow 32 := by
      rw [Packet.length_of_encode hbytes]
      simpa [Message.Fits, htoOsc] using hfits
    refine ⟨.message m.route.address args :: ps, Bytes.word32 bytes.length ++ bytes ++ body,
      ?_, ?_, ?_, ?_, ?_⟩
    · simp [List.mapM_cons, htoOsc, hps]
    · exact encodeElements_cons_eq_ok.2 ⟨bytes, body, hbytes, hlen, hbody, rfl⟩
    · rintro p (_ | ⟨_, hp⟩)
      · exact valid_of_carries hm hplain hcarries
      · exact hvalid p hp
    · intro start
      simp [elementSites, Packet.bundleSites, hsites]
    · have hhead : outcomeOf m.route.address args = .recognized m := by
        simp [outcomeOf, fromOsc_route htags hdecode]
      simp only [messagesOfAll, messagesOf, List.cons_append, List.nil_append, List.map_cons, hhead,
        houtcomes]

/-- A bundle that can be written has each message's datagram within the size word: what
`Message.Fits` asks of a bundle's messages is also needed. -/
theorem fits_of_encodeElements : ∀ {ms : List Message} {ps : List Packet} {body : List UInt8},
    ms.mapM Message.toOsc = .ok ps → encodeElements ps = .ok body → ∀ m ∈ ms, m.Fits
  | [], _, _, _, _ => by simp
  | m :: ms, ps, body, hps, hbody => by
    rw [List.mapM_cons] at hps
    obtain ⟨p, hp, hps⟩ := except_bind_eq_ok.1 hps
    obtain ⟨ps', hps', hrest⟩ := except_bind_eq_ok.1 hps
    cases hrest
    obtain ⟨b, tail, hb, hlen, htail, -⟩ := encodeElements_cons_eq_ok.1 hbody
    rintro m' (_ | ⟨_, hm'⟩)
    · simpa [Message.Fits, hp, ← Packet.length_of_encode hb] using hlen
    · exact fits_of_encodeElements hps' htail m' hm'

theorem fits_of_bundle {ms : List Message} {t : TimeTag} {q : Packet} {bytes : List UInt8}
    (hq : Session.bundle ms t = .ok q) (h : q.encode = .ok bytes) : ∀ m ∈ ms, m.Fits := by
  obtain ⟨ps, hps, rfl⟩ := except_map_eq_ok.1 hq
  obtain ⟨body, hbody, -⟩ := Packet.encode_bundle_eq_ok.1 h
  exact fits_of_encodeElements hps hbody

end Kinds

/-- A message goes to the wire and back unchanged. It becomes an OSC message exactly
when none of its texts holds a NUL, and the catalog reads that OSC message back as the
message; the OSC message can be written exactly when no text holds an unpaired
surrogate, and the datagram of a valid message parses to the message alone. Valid
messages whose texts have neither, and whose datagrams fit the 32-bit size word of a
bundle element, travel together in a bundle with any time tag and parse to themselves in
order. -/
theorem wire_roundtrip :
    (∀ m : Message, ((∃ p, m.toOsc = .ok p) ↔ m.PlainTexts) ∧
      (m.PlainTexts → ∃ address args, m.toOsc = .ok (.message address args) ∧
        fromOsc address args = .ok (.recognized m) ∧
        ((∃ bytes, (Packet.message address args).encode = .ok bytes) ↔ m.Utf8Texts) ∧
        (m.Valid → ∀ bytes, (Packet.message address args).encode = .ok bytes →
          parse bytes = .ok [.recognized m]))) ∧
    ∀ (ms : List Message) (t : TimeTag), (∀ m ∈ ms, m.Valid ∧ m.PlainTexts ∧ m.Utf8Texts ∧ m.Fits) →
      ∃ p bytes, Session.bundle ms t = .ok p ∧ p.encode = .ok bytes ∧
        parse bytes = .ok (ms.map .recognized) := by
  refine ⟨fun m => ⟨toOsc_ok_iff, fun hplain => ?_⟩, fun ms t hms => ?_⟩
  · obtain ⟨args, htoOsc, htags, hdecode, hcarries, htexts⟩ := toOsc_spec hplain
    exact ⟨_, args, htoOsc, fromOsc_route htags hdecode, encode_ok_iff hcarries htexts,
      fun hm _ h => parse_message hm hplain htags hdecode hcarries h⟩
  · obtain ⟨ps, body, hps, hbody, hvalid, hsites, houtcomes⟩ := bundle_elements hms
    have hvalid' : (Packet.bundle t ps).Valid ∧ (Packet.bundle t ps).PlainAddresses :=
      ⟨Packet.valid_bundle.2 fun p hp => (hvalid p hp).1,
        Packet.plainAddresses_bundle.2 fun p hp => (hvalid p hp).2⟩
    have hencode : (Packet.bundle t ps).encode = .ok (bundleTag ++ encodeTime t ++ body) :=
      Packet.encode_bundle_eq_ok.2 ⟨body, hbody, rfl⟩
    refine ⟨.bundle t ps, _, by simp [Session.bundle, hps, Except.map], hencode, ?_⟩
    rw [parse, decode_of_encode hvalid'.1 hvalid'.2 hencode]
    simp [depthChecked, Packet.bundleSites, hsites, defaultMaxDepth, Except.map, outcomes,
      messagesOf, houtcomes]

theorem wire_roundtrip_pair :
    ∃ p bytes, Session.bundle [.configRequest "x", .state .loaded none] ⟨1, 0⟩ = .ok p ∧
      p.encode = .ok bytes ∧
      parse bytes = .ok [.recognized (.configRequest "x"), .recognized (.state .loaded none)] :=
  wire_roundtrip.2 _ _ (by decide +kernel)

/-! ## Where the round trip stops

Each condition above is needed: a text with a NUL is refused by `strArg?`, one with an
unpaired surrogate by the UTF-8 writer, and a datagram of `2³²` bytes or more by the size
word of a bundle element. -/

theorem utf8_letters_length (n : Nat) :
    (Text.utf8 (String.ofList (List.replicate n 'a'))).length = n := by
  have hcp : ∀ k, Text.codePointsOf (List.replicate k 'a') = List.replicate k (.scalar 'a') := by
    intro k
    induction k with
    | zero => rfl
    | succ k ih =>
      have hesc : ('a' == Text.escapeChar) = false := by decide
      have hstand : Text.isStandIn 'a' = false := by decide
      rw [List.replicate_succ, Text.codePointsOf.eq_def]
      simp [hesc, hstand, ih, List.replicate_succ]
  have hsize : 'a'.utf8Size = 1 := rfl
  simp [Text.utf8, Text.codePoints, hcp, hsize]

theorem bundle_oversized {s : String} (hnul : '\x00' ∉ s.toList)
    (hlong : twoPow 32 ≤ (Text.utf8 s).length) (t : TimeTag) :
    ∃ p, Session.bundle [.configRequest s] t = .ok p ∧ ∀ bytes, p.encode ≠ .ok bytes := by
  have hosc : (Message.configRequest s).toOsc = .ok (.message Route.config.address [.str s]) := by
    simp [Message.toOsc, Message.toOscParts, strArg?, hnul]
  have hbundle :
      Session.bundle [.configRequest s] t = .ok (.bundle t [.message Route.config.address [.str s]]) := by
    simp [Session.bundle, List.mapM_cons, hosc, Except.map]
  refine ⟨_, hbundle, fun bytes h => ?_⟩
  have hfits := fits_of_bundle hbundle h _ (List.mem_singleton_self _)
  simp only [Message.Fits, hosc, Packet.size, List.map_cons, List.map_nil, List.sum_cons,
    List.sum_nil, Arg.size, textSize] at hfits
  omega

theorem wire_roundtrip_limits :
    (Message.configRequest "a\x00b").toOsc = .error .strNul ∧
    (∃ p, (Message.configRequest (Text.ofCodePoints [.surrogate 0xD800])).toOsc = .ok p ∧
      p.encode = .error (.notUtf8 ⟨0, 1, 0xD800⟩)) ∧
    ∃ p, Session.bundle [.configRequest (String.ofList (List.replicate (twoPow 32) 'a'))] ⟨0, 0⟩ =
      .ok p ∧ ∀ bytes, p.encode ≠ .ok bytes :=
  ⟨by rfl, ⟨_, by rfl, by decide +kernel⟩,
    bundle_oversized (by simp) (by rw [utf8_letters_length]) ⟨0, 0⟩⟩

end Motion

end VirtualMocap
