import VirtualMocap.Proofs.Osc.Decoded

/-!
# Decoding undoes encoding

`decode` reads back every packet the encoder writes, bundles nested to any depth, when no
address holds a NUL; under a depth limit it refuses the packet at the first bundle,
depth-first, that lies deeper (`depthChecked`). A bundle's elements are read each from its
own bytes, refusals moved to where the element begins.
-/

namespace VirtualMocap.Osc

open Motion (messagesOf messagesOfAll)

mutual

theorem decodeWith_encode : (p : Packet) → p.Valid → p.PlainAddresses →
    ∀ {bytes : List UInt8}, p.encode = .ok bytes → ∀ {fuel : Nat}, bytes.length < fuel →
    ∀ (depth height : Nat) (limit : Int),
      decodeWith fuel bytes depth (.int limit) { room := none, height } =
        depthChecked (p.bundleSites 0 depth) limit p
  | _, _, _, _, _, 0, hfuel, _, _, _ => absurd hfuel (Nat.not_lt_zero _)
  | .message address args, hp, hplain, bytes, h, fuel + 1, _, depth, height, limit => by
    have hmsg : decodeMessage { room := none, height := height + 1 } bytes =
        .ok (.message address args) :=
      decodeMessage_encode hp (Packet.plainAddresses_message.1 hplain) h
    obtain ⟨hslash, a, t, body, ha, ht, hbody, rfl⟩ := Packet.encode_message_eq_ok.1 h
    -- a message starts with its address, hence with a slash: neither empty nor a bundle
    obtain ⟨rest, hrest⟩ : ∃ rest, a ++ t ++ body = 0x2F :: rest := by
      have := head_of_textField_slash hslash ha (t ++ body)
      rw [← List.append_assoc] at this
      exact List.head?_eq_some_iff.1 this
    have hne : (a ++ t ++ body).isEmpty = false := by rw [hrest]; rfl
    have hnotBundle : bundleTag.isPrefixOf (a ++ t ++ body) = false := by
      rw [hrest, bundleTag_eq]
      rfl
    have hnotTag : (a ++ t ++ body).isPrefixOf bundleTag = false := by
      rw [hrest, bundleTag_eq]
      rfl
    have hhead : (a ++ t ++ body).head? = some 0x2F := by rw [hrest]; rfl
    rw [decodeWith]
    simp only [hne, hnotBundle, hnotTag, hhead, Bool.false_eq_true, if_false,
      Calls.reach_unbounded, except_ok_bind, Calls.enter_none, hmsg]
    simp [depthChecked, Packet.bundleSites]
  | .bundle time ps, hp, hplain, bytes, h, fuel + 1, hfuel, depth, height, limit => by
    obtain ⟨body, hps, rfl⟩ := Packet.encode_bundle_eq_ok.1 h
    have hbody := length_of_encodeElements hps
    have hcount := length_le_elementsSize ps
    have hlen : (bundleTag ++ encodeTime time ++ body).length = 16 + body.length := by
      simp only [List.length_append, bundleTag_eq, length_encodeTime, List.length_cons,
        List.length_nil]
    have hne : (bundleTag ++ encodeTime time ++ body).isEmpty = false := by
      rw [bundleTag_eq]
      rfl
    have hbundle : bundleTag.isPrefixOf (bundleTag ++ encodeTime time ++ body) = true := by
      rw [List.append_assoc, List.isPrefixOf_iff_prefix]
      exact List.prefix_append _ _
    have htime : (bundleTag ++ encodeTime time ++ body).drop 8 = encodeTime time ++ body := by
      rw [List.append_assoc]
      exact List.drop_left' (by rw [bundleTag_eq]; rfl)
    have helems : (bundleTag ++ encodeTime time ++ body).drop 16 = body :=
      List.drop_left' (by simp [bundleTag_eq, length_encodeTime])
    have hrec := decodeElements_encode ps (Packet.valid_bundle.1 hp)
      (Packet.plainAddresses_bundle.1 hplain) hps helems (by omega) (by omega : body.length < fuel)
      (by omega : ps.length ≤ (bundleTag ++ encodeTime time ++ body).length)
      (depth + 1) (height + 1) limit []
    rw [decodeWith]
    simp only [hne, hbundle, Bool.false_eq_true, if_false, if_true, Calls.reach_unbounded,
      except_ok_bind, Calls.enter_none, ite_self, except_pure]
    by_cases hdeep : limit < depth + 1
    · -- the bundle itself lies too deep
      simp [DepthLimit.exceededBy, hdeep, depthChecked, Packet.bundleSites]
    · rw [require_at htime (by omega) (by simp [length_encodeTime]), except_ok_bind,
        unpackFrom_at htime (by omega) (length_encodeTime time), except_ok_bind,
        readTime_encodeTime, hrec]
      have hd : ¬limit < ((depth + 1 : Nat) : Int) := by
        push_cast
        exact hdeep
      simp only [DepthLimit.exceededBy, depthChecked, Packet.bundleSites, List.find?_cons,
        gt_iff_lt, hd, decide_false, Nat.zero_add, List.reverse_nil, List.nil_append]
      cases List.find? (fun b => decide (limit < (b.level : Int))) (elementSites ps 16 (depth + 1))
      <;> rfl

theorem decodeElements_encode : (ps : List Packet) → (∀ p ∈ ps, p.Valid) →
    (∀ p ∈ ps, p.PlainAddresses) → ∀ {body : List UInt8}, encodeElements ps = .ok body →
    ∀ {data : List UInt8} {off : Nat}, data.drop off = body → off ≤ data.length →
    ∀ {fuel : Nat}, body.length < fuel → ∀ {loop : Nat}, ps.length ≤ loop →
    ∀ (depth height : Nat) (limit : Int) (acc : List Packet),
      decodeElements fuel loop data off depth (.int limit) { room := none, height } acc =
        depthChecked (elementSites ps off depth) limit (acc.reverse ++ ps)
  | [], _, _, body, h, data, off, hx, hoff, fuel, hfuel, loop, hloop, depth, height, limit, acc => by
    have hbody : body = [] := (Except.ok.inj h).symm
    have hend : off = data.length := by
      have := congrArg List.length hx
      simp only [hbody, List.length_drop, List.length_nil] at this
      omega
    cases loop with
    | zero => simp [decodeElements, depthChecked, elementSites]
    | succ loop => simp [decodeElements, hend, depthChecked, elementSites]
  | p :: rest, hp, hplain, body, h, data, off, hx, hoff, fuel, hfuel, loop, hloop, depth, height,
      limit, acc => by
    obtain ⟨pb, tail, hpb, hsize, htail, rfl⟩ := encodeElements_cons_eq_ok.1 h
    obtain ⟨loop, rfl⟩ : ∃ l, loop = l + 1 := ⟨loop - 1, by simp at hloop; omega⟩
    have hplen := Packet.length_of_encode hpb
    have hdvd : pb.length % 4 = 0 := by
      rw [hplen]
      exact Nat.mod_eq_zero_of_dvd (Packet.four_dvd_size p)
    rw [List.append_assoc] at hx
    have hel := drop_add_of_drop hx
    rw [Bytes.length_word32] at hel
    have hnext := drop_add_of_drop hel
    have hlen := length_of_drop hx hoff
    simp only [List.length_append, Bytes.length_word32] at hlen hfuel
    have helement : (data.drop (off + 4)).take pb.length = pb := by rw [hel, List.take_left]
    have hhead := decodeWith_encode p (hp p (List.mem_cons_self ..))
      (hplain p (List.mem_cons_self ..)) hpb (by omega : pb.length < fuel) depth (height + 1) limit
    have htail' := decodeElements_encode rest (fun q hq => hp q (List.mem_cons_of_mem _ hq))
      (fun q hq => hplain q (List.mem_cons_of_mem _ hq)) htail hnext
      (by omega : off + 4 + pb.length ≤ data.length) (by omega : tail.length < fuel)
      (by simp at hloop; omega : rest.length ≤ loop) depth height limit (p :: acc)
    rw [decodeElements, if_pos (by omega)]
    simp only [Calls.enter_none, except_ok_bind]
    rw [require_at hx hoff (by simp [Bytes.length_word32]), except_ok_bind,
      unpackFrom_at hx hoff (Bytes.length_word32 _), except_ok_bind,
      Bytes.readWord32_word32 hsize, if_neg (by simp [hdvd]),
      require_at hel (by omega) le_rfl, except_ok_bind, helement, hhead]
    -- the element's bundles are its own, moved to where the element begins
    have hsites : p.bundleSites (off + 4) depth = (p.bundleSites 0 depth).map (BundleSite.shift (off + 4)) := by
      simpa using Packet.bundleSites_add p (off + 4) 0 depth
    simp only [depthChecked, elementSites, ← hplen, hsites, List.find?_append, find?_shift]
    cases hq : (p.bundleSites 0 depth).find? fun b => limit < b.level with
    | none =>
      simp only [depthChecked] at htail'
      simp [htail']
    | some b =>
      simp [DecodeError.shift, BundleSite.shift]
      rfl
end

theorem decode_of_encode {p : Packet} {bytes : List UInt8} (hp : p.Valid)
    (hplain : p.PlainAddresses) (h : p.encode = .ok bytes) (limit : Int) :
    decode bytes limit = depthChecked (p.bundleSites 0 0) limit p :=
  decodeWith_encode p hp hplain h (Nat.lt_succ_self _) 0 0 limit

/-- Decoding reads a written packet back, bundles nested to any depth, exactly when no
address of it holds a NUL; under a depth limit it refuses the packet at the first bundle,
depth-first, that lies deeper, at the byte where that bundle begins. -/
theorem decode_encode {p : Packet} {bytes : List UInt8} (hp : p.Valid)
    (h : p.encode = .ok bytes) (limit : Int) :
    (p.PlainAddresses → decode bytes limit = depthChecked (p.bundleSites 0 0) limit p) ∧
      (decode bytes limit = .ok p → p.PlainAddresses) :=
  ⟨fun hplain => decode_of_encode hp hplain h limit, fun hdecode => (decode_ok hdecode).2⟩

/-- A bundle nested in a bundle reads back whole under a limit of two levels, and under
a limit of one is refused where the nested bundle begins, at byte 20. -/
theorem decode_encode_nested :
    (Packet.bundle ⟨0, 1⟩ [.bundle ⟨2, 3⟩ [.message "/a" [.str "x", .float ⟨0x3F800000⟩]]]).Valid ∧
      (Packet.bundle ⟨0, 1⟩ [.bundle ⟨2, 3⟩ [.message "/a" [.str "x", .float ⟨0x3F800000⟩]]]).encode =
        .ok [35, 98, 117, 110, 100, 108, 101, 0, 0, 0, 0, 0, 0, 0, 0, 1, 0, 0, 0, 36,
          35, 98, 117, 110, 100, 108, 101, 0, 0, 0, 0, 2, 0, 0, 0, 3, 0, 0, 0, 16,
          47, 97, 0, 0, 44, 115, 102, 0, 120, 0, 0, 0, 63, 128, 0, 0] ∧
      decode [35, 98, 117, 110, 100, 108, 101, 0, 0, 0, 0, 0, 0, 0, 0, 1, 0, 0, 0, 36,
          35, 98, 117, 110, 100, 108, 101, 0, 0, 0, 0, 2, 0, 0, 0, 3, 0, 0, 0, 16,
          47, 97, 0, 0, 44, 115, 102, 0, 120, 0, 0, 0, 63, 128, 0, 0] 2 =
        .ok (.bundle ⟨0, 1⟩ [.bundle ⟨2, 3⟩ [.message "/a" [.str "x", .float ⟨0x3F800000⟩]]]) ∧
      decode [35, 98, 117, 110, 100, 108, 101, 0, 0, 0, 0, 0, 0, 0, 0, 1, 0, 0, 0, 36,
          35, 98, 117, 110, 100, 108, 101, 0, 0, 0, 0, 2, 0, 0, 0, 3, 0, 0, 0, 16,
          47, 97, 0, 0, 44, 115, 102, 0, 120, 0, 0, 0, 63, 128, 0, 0] 1 =
        .error ⟨.tooDeep (.int 1), 20⟩ := by
  have hv : (Packet.bundle ⟨0, 1⟩ [.bundle ⟨2, 3⟩
      [.message "/a" [.str "x", .float ⟨0x3F800000⟩]]]).Valid := by
    decide +kernel
  have he : (Packet.bundle ⟨0, 1⟩ [.bundle ⟨2, 3⟩
      [.message "/a" [.str "x", .float ⟨0x3F800000⟩]]]).encode =
        .ok [35, 98, 117, 110, 100, 108, 101, 0, 0, 0, 0, 0, 0, 0, 0, 1, 0, 0, 0, 36,
          35, 98, 117, 110, 100, 108, 101, 0, 0, 0, 0, 2, 0, 0, 0, 3, 0, 0, 0, 16,
          47, 97, 0, 0, 44, 115, 102, 0, 120, 0, 0, 0, 63, 128, 0, 0] := by
    decide +kernel
  have hplain : (Packet.bundle ⟨0, 1⟩ [.bundle ⟨2, 3⟩
      [.message "/a" [.str "x", .float ⟨0x3F800000⟩]]]).PlainAddresses := by
    decide +kernel
  -- the nested bundle is the first, and only, bundle deeper than one level
  have hdeep1 : ((Packet.bundle ⟨0, 1⟩ [.bundle ⟨2, 3⟩
      [.message "/a" [.str "x", .float ⟨0x3F800000⟩]]]).bundleSites 0 0).find?
        (fun b => (1 : Int) < b.level) = some ⟨20, 2⟩ := by
    decide +kernel
  have hdeep2 : ((Packet.bundle ⟨0, 1⟩ [.bundle ⟨2, 3⟩
      [.message "/a" [.str "x", .float ⟨0x3F800000⟩]]]).bundleSites 0 0).find?
        (fun b => (2 : Int) < b.level) = none := by
    decide +kernel
  refine ⟨hv, he, ?_, ?_⟩
  · rw [(decode_encode hv he 2).1 hplain]
    simp only [depthChecked, hdeep2]
  · rw [(decode_encode hv he 1).1 hplain]
    simp only [depthChecked, hdeep1]
    rfl

end VirtualMocap.Osc
