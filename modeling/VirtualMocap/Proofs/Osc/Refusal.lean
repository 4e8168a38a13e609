import VirtualMocap.Proofs.Osc.Decoded

/-!
# How decoding refuses a datagram

`decode` gives a valid packet or refuses the datagram with a fault of the framing
(`DecodeError.Framed`): never a failed unpacking, and always at a byte of the data or just
after it, counted from the start of the datagram also inside bundle elements
(`DecodeError.Framed.shift`). An unknown type tag is reported at its character's first
byte (`TagsAt`).
-/

namespace VirtualMocap

namespace Osc

/-! ## Refusals -/

/-- Faults of the framing. The others are the refusals of steps beneath it: bytes
unpacked past the end of the data, calls nested too deep, a limit that is no number. -/
def DecodeFault.framing : DecodeFault → Bool
  | .unpack _ | .callsTooDeep _ | .incomparableLimit _ => false
  | _ => true

/-- The type tag `tag`, which no argument has, at byte `o` of `data`: the UTF-8 of its
character starts there, right after a comma at `s` and tags of arguments. -/
def UnknownTagAt (data : List UInt8) (o : Nat) (tag : String) : Prop :=
  ∃ (c : Char) (known : List Char) (s : Nat), tag = Text.hold c.toString ∧
    (∀ a : Arg, a.tag ≠ c) ∧ (∀ d ∈ known, ∃ a : Arg, a.tag = d) ∧
    s + ((',' :: known).flatMap String.utf8EncodeChar).length = o ∧
    (',' :: known ++ [c]).flatMap String.utf8EncodeChar <+: data.drop s

/-- A refusal as decoding makes it: a fault of the framing, at a byte of the data or
right after its last; an unknown type tag at its character's first byte. -/
structure DecodeError.Framed (data : List UInt8) (e : DecodeError) : Prop where
  framing : e.fault.framing = true
  nonneg : 0 ≤ e.offset
  le_length : e.offset ≤ data.length
  unknownTag : ∀ t, e.fault = .unsupported t → UnknownTagAt data e.offset.toNat t

section Framed

variable {data : List UInt8}

theorem DecodeError.framed_of_le {f : DecodeFault} {o : Nat} (hf : f.framing = true)
    (ht : ∀ t, f ≠ .unsupported t) (ho : o ≤ data.length) :
    DecodeError.Framed data ⟨f, o⟩ where
  framing := hf
  nonneg := Int.natCast_nonneg o
  le_length := Int.ofNat_le.2 ho
  unknownTag t h := absurd h (ht t)

theorem UnknownTagAt.shift {a n o : Nat} {t : String}
    (h : UnknownTagAt ((data.drop a).take n) o t) : UnknownTagAt data (a + o) t := by
  obtain ⟨c, known, s, ht, hc, hknown, hs, hpre⟩ := h
  refine ⟨c, known, a + s, ht, hc, hknown, by omega, ?_⟩
  rw [List.drop_take, List.drop_drop] at hpre
  exact hpre.trans (List.take_prefix _ _)

/-- A refusal inside the element of `n` bytes at `a` is a refusal of the whole data once
moved by `a`. -/
theorem DecodeError.Framed.shift {e : DecodeError} {a n : Nat}
    (he : e.Framed ((data.drop a).take n)) (hn : a + n ≤ data.length) :
    (e.shift a).Framed data := by
  have hlen : ((data.drop a).take n).length = n := by
    simp only [List.length_take, List.length_drop]
    omega
  have hle := he.le_length
  have hnonneg := he.nonneg
  rw [hlen] at hle
  refine ⟨he.framing, by simp [DecodeError.shift]; omega, by simp [DecodeError.shift]; omega, ?_⟩
  intro t ht
  have hto : (e.shift a).offset.toNat = a + e.offset.toNat := by
    simp only [DecodeError.shift]
    omega
  rw [hto]
  exact (he.unknownTag t ht).shift

end Framed

/-! ## Type tags at their bytes -/

/-- The tags `tags` still to read lie at byte `tagAt` of `data`, after a comma at `s`
and tags of arguments. -/
def TagsAt (data : List UInt8) (tagAt : Nat) (tags : List Char) : Prop :=
  ∃ (known : List Char) (s : Nat), (∀ d ∈ known, ∃ a : Arg, a.tag = d) ∧
    s + ((',' :: known).flatMap String.utf8EncodeChar).length = tagAt ∧
    (',' :: known ++ tags).flatMap String.utf8EncodeChar <+: data.drop s

theorem utf8EncodeChar_tag (a : Arg) : String.utf8EncodeChar a.tag = [a.tag.toUInt8] := by
  cases a with
  | bool b => cases b <;> decide
  | int | float | str | blob | time =>
    simp only [Arg.tag]
    decide

theorem utf8EncodeChar_of_head {c : Char} {b : UInt8} (hb : b.toNat < 0x80)
    (h : (String.utf8EncodeChar c).head? = some b) : String.utf8EncodeChar c = [b] := by
  by_cases hc : c.toNat < 0x80
  · rw [Text.utf8EncodeChar_one hc] at h ⊢
    simp only [List.head?_cons, Option.some.injEq] at h
    rw [h]
  · have hmem : b ∈ String.utf8EncodeChar c := List.mem_of_head? h
    have := Text.le_toNat_of_mem_utf8EncodeChar hmem (by omega)
    omega

theorem TagsAt.next {data : List UInt8} {tagAt : Nat} {c : Char} {tags : List Char}
    (h : TagsAt data tagAt (c :: tags)) (hc : ∃ a : Arg, a.tag = c) :
    TagsAt data (tagAt + 1) tags := by
  obtain ⟨known, s, hknown, hs, hpre⟩ := h
  obtain ⟨a, rfl⟩ := hc
  refine ⟨known ++ [a.tag], s, ?_, ?_, ?_⟩
  · intro d hd
    rcases List.mem_append.1 hd with hd | hd
    · exact hknown d hd
    · exact ⟨a, (List.mem_singleton.1 hd).symm⟩
  · simp only [List.flatMap_cons, List.flatMap_append, List.flatMap_nil, List.append_nil,
      List.length_append, utf8EncodeChar_tag, List.length_singleton] at hs ⊢
    omega
  · simpa using hpre

theorem TagsAt.framed {data : List UInt8} {tagAt : Nat} {c : Char} {tags : List Char}
    (h : TagsAt data tagAt (c :: tags)) (hc : ∀ a : Arg, a.tag ≠ c) :
    DecodeError.Framed data ⟨.unsupported (Text.hold c.toString), tagAt⟩ := by
  obtain ⟨known, s, hknown, hs, hpre⟩ := h
  -- the tag's own bytes are there, so it starts before the end
  have hlt : tagAt < data.length := by
    have hlen := hpre.length_le
    have hc1 : 0 < (String.utf8EncodeChar c).length := by
      rw [String.length_utf8EncodeChar]
      exact Char.utf8Size_pos c
    simp only [List.cons_append, List.flatMap_cons, List.flatMap_append, List.length_append,
      List.length_drop] at hlen hs
    omega
  refine ⟨rfl, Int.natCast_nonneg _, Int.ofNat_le.2 hlt.le, ?_⟩
  intro t ht
  cases ht
  rw [Int.toNat_natCast]
  refine ⟨c, known, s, rfl, hc, hknown, hs, List.IsPrefix.trans ?_ hpre⟩
  simp only [List.cons_append, List.flatMap_cons, List.flatMap_append]
  refine List.prefix_append_right_inj _ |>.2 (List.prefix_append_right_inj _ |>.2 ?_)
  simp

/-! ## Readers -/

section Readers

variable {height : Nat} {data : List UInt8} {off size : Nat} {what : Field} {e : DecodeError}

theorem require_short (h : data.length < off + size) :
    require { room := none, height } data off size what =
      .error ⟨.short size what (data.length - off), off⟩ := by
  simp [require, h]

theorem unpackFrom_of_le (h : off + size ≤ data.length) :
    unpackFrom data off size = .ok ((data.drop off).take size) := by
  rw [unpackFrom, if_pos h]

theorem require_error (h : require { room := none, height } data off size what = .error e)
    (hoff : off ≤ data.length) : e.Framed data := by
  by_cases hfit : off + size ≤ data.length
  · rw [require_of_le hfit] at h
    cases h
  · rw [require_short (by omega)] at h
    cases h
    exact DecodeError.framed_of_le rfl (by simp) hoff

theorem skipPadding_error {stop : Nat}
    (h : skipPadding { room := none, height } data off stop what = .error e)
    (hoff : off ≤ data.length) : e.Framed data := by
  rw [skipPadding_none] at h
  split at h
  · cases h
    exact DecodeError.framed_of_le rfl (by simp) hoff
  · split at h
    · cases h
      exact DecodeError.framed_of_le rfl (by simp) hoff
    · cases h

theorem readPaddedString_error (h : readPaddedString { room := none, height } data off what = .error e)
    (hoff : off ≤ data.length) : e.Framed data := by
  simp only [readPaddedString, Calls.reach_unbounded, except_ok_bind] at h
  split at h
  · -- no NUL up to the end
    rw [Calls.fail_none] at h
    cases h
    exact DecodeError.framed_of_le rfl (by simp) hoff
  · next i hfind =>
    -- the NUL lies within the data, so the padding after it starts there too
    have hi : off + i + 1 ≤ data.length := by
      obtain ⟨hlt, -⟩ := List.findIdx?_eq_some_iff_getElem.1 hfind
      rw [List.length_drop] at hlt
      omega
    simp only [Calls.enter_none, except_ok_bind] at h
    rcases except_bind_eq_error.1 h with hpad | ⟨r, -, h⟩
    · exact skipPadding_error hpad hi
    · split at h
      · rw [Calls.fail_none] at h
        cases h
        exact DecodeError.framed_of_le rfl (by simp) hoff
      · cases h

theorem readArg_error {tag : Char}
    (h : readArg { room := none, height } tag data off = some (.error e))
    (hoff : off ≤ data.length) : e.Framed data := by
  simp only [readArg, Calls.enter_none, except_ok_bind] at h
  split_ifs at h
  · -- a 32-bit integer
    by_cases hfit : off + 4 ≤ data.length
    · simp [require_of_le hfit, unpackFrom_of_le hfit] at h
    · rw [require_short (by omega)] at h
      cases h
      exact DecodeError.framed_of_le rfl (by simp) hoff
  · -- a single
    by_cases hfit : off + 4 ≤ data.length
    · simp [require_of_le hfit, unpackFrom_of_le hfit] at h
    · rw [require_short (by omega)] at h
      cases h
      exact DecodeError.framed_of_le rfl (by simp) hoff
  · -- a text
    rcases except_bind_eq_error.1 (Option.some.inj h) with hs | ⟨r, -, h⟩
    · exact readPaddedString_error hs hoff
    · simp at h
  · -- a blob: its size, then its bytes, then its padding
    by_cases hfit : off + 4 ≤ data.length
    · simp only [require_of_le hfit, unpackFrom_of_le hfit, except_ok_bind] at h
      set size := Bytes.readWord32 ((data.drop off).take 4)
      by_cases hbytes : off + 4 + size ≤ data.length
      · rw [require_of_le hbytes, except_ok_bind] at h
        rcases except_bind_eq_error.1 (Option.some.inj h) with hpad | ⟨r, -, h⟩
        · exact skipPadding_error hpad hbytes
        · simp at h
      · rw [require_short (by omega)] at h
        cases h
        exact DecodeError.framed_of_le rfl (by simp) hfit
    · rw [require_short (by omega)] at h
      cases h
      exact DecodeError.framed_of_le rfl (by simp) hoff
  · -- a time tag
    by_cases hfit : off + 8 ≤ data.length
    · simp [require_of_le hfit, unpackFrom_of_le hfit] at h
    · rw [require_short (by omega)] at h
      cases h
      exact DecodeError.framed_of_le rfl (by simp) hoff
  · simp at h
  · simp at h

theorem readArg_eq_none_iff {tag : Char} :
    readArg { room := none, height } tag data off = none ↔ ∀ a : Arg, a.tag ≠ tag := by
  constructor
  · intro h a ha
    subst ha
    cases a with
    | bool b => cases b <;> simp [readArg, Arg.tag] at h
    | int | float | str | blob | time => simp [readArg, Arg.tag] at h
  · intro h
    have hi := h (.int 0)
    have hf := h (.float ⟨0⟩)
    have hs := h (.str "")
    have hb := h (.blob [])
    have ht := h (.time ⟨0, 0⟩)
    have hT := h (.bool true)
    have hF := h (.bool false)
    simp only [Arg.tag] at hi hf hs hb ht hT hF
    simp [readArg, Ne.symm hi, Ne.symm hf, Ne.symm hs, Ne.symm hb, Ne.symm ht, Ne.symm hT,
      Ne.symm hF]

theorem readPaddedString_chars {s : String} {stop : Nat}
    (h : readPaddedString { room := none, height } data off what = .ok (s, stop)) :
    ∃ cs : List Char, Text.release s = String.ofList cs ∧
      cs.flatMap String.utf8EncodeChar <+: data.drop off := by
  simp only [readPaddedString, Calls.reach_unbounded, except_ok_bind] at h
  split at h
  · simp at h
  · next i hfind =>
    simp only [Calls.enter_none, except_ok_bind] at h
    obtain ⟨r, -, h⟩ := except_bind_eq_ok.1 h
    split at h
    · simp at h
    · next t hdec =>
      simp only [except_pure, Except.ok.injEq, Prod.mk.injEq] at h
      obtain ⟨rfl, -⟩ := h
      unfold Text.decodeUtf8 at hdec
      obtain ⟨cs, hcs, rfl⟩ := except_map_eq_ok.1 hdec
      obtain ⟨chars, hout, hbytes⟩ := Text.decodeUtf8Onto_sound hcs
      rw [List.reverse_nil, List.nil_append] at hout
      refine ⟨chars, ?_, ?_⟩
      · rw [hout]
        exact release_ofScalars chars
      · rw [hbytes]
        exact List.take_prefix _ _

theorem tagsAt_of_readPaddedString {tags : String} {stop : Nat}
    (h : readPaddedString { room := none, height } data off what = .ok (tags, stop))
    (hcomma : (data.drop off).head? = some 0x2C) :
    TagsAt data (off + 1) ((Text.release tags).toList.drop 1) := by
  obtain ⟨cs, hcs, hpre⟩ := readPaddedString_chars h
  rw [hcs, String.toList_ofList]
  obtain ⟨post, hpost⟩ := hpre
  refine ⟨[], off, by simp, rfl, ?_⟩
  cases cs with
  | nil =>
    obtain ⟨rest, hrest⟩ : ∃ rest, data.drop off = 0x2C :: rest :=
      List.head?_eq_some_iff.1 hcomma
    rw [hrest]
    exact ⟨rest, rfl⟩
  | cons c cs =>
    have hhead : (String.utf8EncodeChar c).head? = some 0x2C := by
      rw [← hpost, List.flatMap_cons, List.append_assoc] at hcomma
      cases hu : String.utf8EncodeChar c with
      | nil => exact absurd hu String.utf8EncodeChar_ne_nil
      | cons b bs =>
        rw [hu] at hcomma
        simpa using hcomma
    have hc := utf8EncodeChar_of_head (by decide) hhead
    have hcomma : String.utf8EncodeChar ',' = [0x2C] := by decide
    refine ⟨post, ?_⟩
    rw [← hpost]
    simp [hc, hcomma]

theorem readArgs_error {tags : List Char} {tagAt : Nat} {acc : List Arg}
    (h : readArgs { room := none, height } data tags tagAt off acc = .error e)
    (htags : TagsAt data tagAt tags) (hoff : off ≤ data.length) : e.Framed data := by
  induction tags generalizing tagAt off acc with
  | nil => simp [readArgs] at h
  | cons tag tags ih =>
    rw [readArgs] at h
    split at h
    · next hnone =>
      rw [Calls.fail_none] at h
      cases h
      exact htags.framed (readArg_eq_none_iff.1 hnone)
    · next e' hread =>
      cases h
      exact readArg_error hread hoff
    · next a off' hread =>
      have hknown : ∃ a : Arg, a.tag = tag := by
        by_contra hno
        simp only [not_exists] at hno
        rw [readArg_eq_none_iff.2 hno] at hread
        cases hread
      exact ih h (htags.next hknown) ((readArg_ok hread).2 hoff)

theorem decodeMessage_error (h : decodeMessage { room := none, height } data = .error e) :
    e.Framed data := by
  simp only [decodeMessage, Calls.enter_none, except_ok_bind] at h
  rcases except_bind_eq_error.1 h with haddr | ⟨⟨address, off⟩, haddr, h⟩
  · exact readPaddedString_error haddr (Nat.zero_le _)
  obtain ⟨-, -, hoff⟩ := readPaddedString_ok haddr
  simp only [Calls.reach_unbounded, except_ok_bind] at h
  split at h
  · -- an address without the slash
    simp only [Calls.fail_none, except_error_bind] at h
    cases h
    exact DecodeError.framed_of_le rfl (by simp) (Nat.zero_le _)
  split at h
  · simp at h
  split at h
  · -- no comma where the type tags begin
    simp only [Calls.fail_none, except_error_bind] at h
    cases h
    exact DecodeError.framed_of_le rfl (by simp) hoff
  · next hcomma =>
    have hcomma' : (data.drop off).head? = some 0x2C := by simpa using hcomma
    rcases except_bind_eq_error.1 h with htags | ⟨⟨tags, stop⟩, htags, h⟩
    · exact readPaddedString_error htags hoff
    obtain ⟨-, -, hstop⟩ := readPaddedString_ok htags
    rcases except_bind_eq_error.1 h with hargs | ⟨⟨args, stop'⟩, hargs, h⟩
    · exact readArgs_error hargs (tagsAt_of_readPaddedString htags hcomma') hstop
    obtain ⟨-, hstop'⟩ := readArgs_ok hargs (by simp) hstop
    split at h
    · -- bytes after the last argument
      simp only [Calls.fail_none, except_error_bind] at h
      cases h
      exact DecodeError.framed_of_le rfl (by simp) hstop'
    · simp at h

end Readers

/-! ## Packets -/

section Packets

variable {limit : Int}

theorem decodeElements_error {fuel : Nat}
    (hwith : ∀ data depth height e, decodeWith fuel data depth (.int limit)
      { room := none, height } = .error e → e.Framed data) :
    ∀ {loop : Nat} {data : List UInt8} {off depth height : Nat} {acc : List Packet}
      {e : DecodeError},
      decodeElements fuel loop data off depth (.int limit) { room := none, height } acc =
        .error e → e.Framed data := by
  intro loop
  induction loop with
  | zero =>
    intro data off depth height acc e h
    simp [decodeElements] at h
  | succ loop ih =>
    intro data off depth height acc e h
    rw [decodeElements] at h
    split at h
    · next hoff =>
      simp only [Calls.enter_none, except_ok_bind] at h
      by_cases hsize : off + 4 ≤ data.length
      · -- the size word is there
        simp only [require_of_le hsize, unpackFrom_of_le hsize, except_ok_bind] at h
        set size := Bytes.readWord32 ((data.drop off).take 4)
        split at h
        · simp only [Calls.fail_none, except_error_bind] at h
          cases h
          exact DecodeError.framed_of_le rfl (by simp) hoff.le
        by_cases helem : off + 4 + size ≤ data.length
        · -- the element is there: a refusal inside it is moved by its start
          simp only [require_of_le helem, except_ok_bind] at h
          split at h
          · next e' he' =>
            cases h
            exact (hwith _ _ _ _ he').shift helem
          · exact ih h
        · rw [require_short (by omega)] at h
          cases h
          exact DecodeError.framed_of_le rfl (by simp) hsize
      · rw [require_short (by omega)] at h
        cases h
        exact DecodeError.framed_of_le rfl (by simp) hoff.le
    · cases h

theorem decodeWith_error : ∀ {fuel : Nat} {data : List UInt8} {depth height : Nat}
    {e : DecodeError},
    decodeWith fuel data depth (.int limit) { room := none, height } = .error e →
      e.Framed data := by
  intro fuel
  induction fuel with
  | zero =>
    intro data depth height e h
    rw [decodeWith] at h
    cases h
    exact DecodeError.framed_of_le rfl (by simp) (Nat.zero_le _)
  | succ fuel ih =>
    intro data depth height e h
    rw [decodeWith] at h
    split at h
    · rw [Calls.fail_none] at h
      cases h
      exact DecodeError.framed_of_le rfl (by simp) (Nat.zero_le _)
    simp only [Calls.reach_unbounded, except_ok_bind, Calls.enter_none] at h
    split at h
    · next hbundle =>
      -- a bundle: its marker is there, so its time tag is asked for within the data
      have h8 : 8 ≤ data.length := by
        have := (List.isPrefixOf_iff_prefix.1 hbundle).length_le
        rwa [bundleTag_eq] at this
      simp only [ite_self] at h
      split at h
      · next hnone => simp [DepthLimit.exceededBy] at hnone
      · simp only [Calls.fail_none] at h
        cases h
        exact DecodeError.framed_of_le rfl (by simp) (Nat.zero_le _)
      · by_cases htime : 8 + 8 ≤ data.length
        · simp only [require_of_le htime, unpackFrom_of_le htime, except_ok_bind] at h
          rcases except_bind_eq_error.1 h with helements | ⟨elements, -, h⟩
          · exact decodeElements_error (fun _ _ _ _ he => ih he) helements
          · simp at h
        · rw [require_short (by omega)] at h
          cases h
          exact DecodeError.framed_of_le rfl (by simp) h8
    · split at h
      · -- a datagram that ends inside the marker
        rw [Calls.fail_none] at h
        cases h
        exact DecodeError.framed_of_le rfl (by simp) le_rfl
      · split at h
        · rw [Calls.fail_none] at h
          cases h
          exact DecodeError.framed_of_le rfl (by simp) (Nat.zero_le _)
        · exact decodeMessage_error h

end Packets

/-- Decoding never fails but by refusing the framing: for every datagram and every
limit it gives a packet the classes can hold, or a fault of the framing at a byte of
the datagram or right after its last, counted from the datagram's start even inside
nested bundles, an unknown type tag at the first byte of its character. -/
theorem decode_total (data : List UInt8) (maxDepth : Int) :
    match decode data maxDepth with
    | .ok q => q.Valid
    | .error e => e.Framed data := by
  cases h : decode data maxDepth with
  | ok q => exact (decode_ok h).1
  | error e => exact decodeWith_error h

end Osc

end VirtualMocap
