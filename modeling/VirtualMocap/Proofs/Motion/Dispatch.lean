import VirtualMocap.Proofs.Motion.Catalog
import VirtualMocap.Proofs.Osc.CallRoom

/-!
# Parsing converts each message on its own

A datagram is refused only as decoding refuses it; otherwise each message of its packet,
depth-first, gives the outcome of its own conversion. When its tags fit, an entry reads
only the arguments of the variant they match, each at its tag's kind
(`fromOsc_matched`).
-/

namespace VirtualMocap

namespace Motion

open Osc

/-! ## Signatures -/

theorem append_drop_of_isPrefixOf {s : String} {cs : List Char} (h : s.toList.isPrefixOf cs = true) :
    s.toList ++ cs.drop s.length = cs := by
  rw [← String.length_toList]
  exact List.prefix_iff_eq_append.1 (List.isPrefixOf_iff_prefix.1 h)

theorem Signature.takeGroups_spec : ∀ (gs : List String) (rest : List Char),
    (Signature.takeGroups gs rest).1 ≤ gs.length ∧
      (gs.take (Signature.takeGroups gs rest).1).flatMap String.toList ++
        (Signature.takeGroups gs rest).2 = rest
  | [], rest => by simp [Signature.takeGroups]
  | g :: gs, rest => by
    unfold Signature.takeGroups
    split
    · next hpre =>
      obtain ⟨hle, heq⟩ := takeGroups_spec gs (rest.drop g.length)
      have hrest := append_drop_of_isPrefixOf hpre
      refine ⟨by simpa using hle, ?_⟩
      simp only [List.take_succ_cons, List.flatMap_cons, List.append_assoc, heq, hrest]
    · simp

/-- A signature accepts tags that start with the variant of the groups it counts, and
that are nothing more unless it takes trailing arguments. -/
theorem Signature.groups?_eq_some {sig : Signature} {tags : String} {k : Nat}
    (h : sig.groups? tags = some k) :
    k ≤ sig.optional.length ∧ sig.variant k <+: tags.toList ∧
      (sig.trailing = false → sig.variant k = tags.toList) := by
  unfold Signature.groups? at h
  dsimp only at h
  split at h
  · cases h
  · next hreq =>
    have hrest : sig.required.toList ++ tags.toList.drop sig.required.length = tags.toList :=
      append_drop_of_isPrefixOf (by simpa using hreq)
    have hspec := takeGroups_spec sig.optional (tags.toList.drop sig.required.length)
    generalize Signature.takeGroups sig.optional (tags.toList.drop sig.required.length) = res at h hspec
    obtain ⟨n, after⟩ := res
    obtain ⟨hle, heq⟩ := hspec
    dsimp only at h heq hle
    split at h
    · next hend =>
      cases h
      have htags : sig.variant k ++ after = tags.toList := by
        rw [Signature.variant, List.append_assoc, heq, hrest]
      refine ⟨hle, ⟨after, htags⟩, fun htr => ?_⟩
      simp only [htr, Bool.or_false, List.isEmpty_iff] at hend
      simpa [hend] using htags
    · cases h

/-! ## What an entry reads -/

def ArgReader.AgreeFrom (r r' : ArgReader) : Nat → List Char → Prop
  | _, [] => True
  | i, c :: cs => (c = 'i' → r.int i = r'.int i) ∧ (c = 'f' → r.float i = r'.float i) ∧
      (c = 's' → r.str i = r'.str i) ∧ AgreeFrom r r' (i + 1) cs

/-- A reader gives the argument at each position of type tags from `i` on, read as the
kind its tag names. At other positions, and at other kinds, it may give anything. -/
def ArgReader.Reads (r : ArgReader) (args : List Arg) : Nat → List Char → Prop
  | _, [] => True
  | i, c :: cs => (c = 'i' → args[i]? = some (.int (r.int i))) ∧
      (c = 'f' → args[i]? = some (.float (r.float i))) ∧
      (c = 's' → args[i]? = some (.str (r.str i))) ∧ Reads r args (i + 1) cs

theorem ArgReader.Reads.agree {r r' : ArgReader} {args : List Arg} :
    ∀ {i : Nat} {cs : List Char}, r.Reads args i cs → r'.Reads args i cs → r.AgreeFrom r' i cs
  | _, [], _, _ => trivial
  | i, c :: cs, ⟨hi, hf, hs, h⟩, ⟨hi', hf', hs', h'⟩ =>
    ⟨fun hc => by simpa using (hi hc).symm.trans (hi' hc),
      fun hc => by simpa using (hf hc).symm.trans (hf' hc),
      fun hc => by simpa using (hs hc).symm.trans (hs' hc), Reads.agree h h'⟩

theorem Arg.of_tag (a : Arg) : (a.tag = 'i' → ∃ v, a = .int v) ∧ (a.tag = 'f' → ∃ x, a = .float x) ∧
    (a.tag = 's' → ∃ s, a = .str s) := by
  cases a with
  | bool b => cases b <;> simp [Arg.tag]
  | _ => simp [Arg.tag]

theorem ArgReader.ofArgs_reads (args : List Arg) : ∀ (cs : List Char) (i : Nat),
    cs <+: (args.drop i).map Arg.tag → (ArgReader.ofArgs args).Reads args i cs
  | [], _, _ => trivial
  | c :: cs, i, hpre => by
    cases hd : args.drop i with
    | nil => simp [hd] at hpre
    | cons a rest =>
      have ha : args[i]? = some a := by rw [← List.head?_drop, hd, List.head?_cons]
      have hrest : args.drop (i + 1) = rest := by rw [← List.drop_drop, hd, List.drop_one, List.tail_cons]
      rw [hd, List.map_cons, List.cons_prefix_cons] at hpre
      obtain ⟨rfl, hpre⟩ := hpre
      refine ⟨fun hc => ?_, fun hc => ?_, fun hc => ?_, ofArgs_reads args cs (i + 1) (hrest ▸ hpre)⟩
      · obtain ⟨v, rfl⟩ := (Arg.of_tag a).1 hc
        simp [ArgReader.ofArgs, intAt, ha]
      · obtain ⟨x, rfl⟩ := (Arg.of_tag a).2.1 hc
        simp [ArgReader.ofArgs, floatAt, ha]
      · obtain ⟨s, rfl⟩ := (Arg.of_tag a).2.2 hc
        simp [ArgReader.ofArgs, strAt, ha]

/-- An entry reads only the arguments of the variant its signature matched, each at the
kind of its tag: readers that agree there give the same message. -/
theorem Route.decode_congr (route : Route) {k : Nat} (hk : k ≤ route.signature.optional.length)
    {r r' : ArgReader} (h : r.AgreeFrom r' 0 (route.signature.variant k)) :
    route.decode r k = route.decode r' k := by
  have hk2 : k = 0 ∨ k = 1 ∨ k = 2 := by
    cases route <;> simp [Route.signature] at hk <;> omega
  rcases hk2 with rfl | rfl | rfl <;> cases route <;> simp [Route.signature] at hk
  all_goals
    simp [Signature.variant, Route.signature, Route.pose, ArgReader.AgreeFrom] at h
    simp [Route.decode, ArgReader.vec, ArgReader.quat, ArgReader.flag, ArgReader.member, h]

theorem ArgReader.member_error {α : Type} {r : ArgReader} {route : Route} {field : String}
    {ofCode? : Int → Option α} {i : Nat} {e : MessageError}
    (h : r.member route field ofCode? i = .error e) :
    e = .invalidArgument route.address field (r.int i).toInt := by
  unfold ArgReader.member at h
  dsimp only at h
  split at h <;> cases h
  rfl

theorem Route.decode_error {route : Route} {r : ArgReader} {k : Nat} {e : MessageError}
    (h : route.decode r k = .error e) : ∃ field n, e = .invalidArgument route.address field n := by
  cases route <;> simp only [Route.decode, reduceCtorEq] at h
  case state =>
    rcases except_bind_eq_error.1 h with h | ⟨_, -, h⟩
    · exact ⟨_, _, ArgReader.member_error h⟩
    split at h
    · cases h
    rcases except_bind_eq_error.1 h with h | ⟨_, -, h⟩
    · exact ⟨_, _, ArgReader.member_error h⟩
    rcases except_bind_eq_error.1 h with h | ⟨_, -, h⟩
    · exact ⟨_, _, ArgReader.member_error h⟩
    split at h
    · rcases except_bind_eq_error.1 h with h | ⟨_, -, h⟩
      · cases hm : r.member Route.state "tracking_state" TrackingState.ofCode? 3 with
        | error x =>
          simp only [hm, Except.map, Except.error.injEq] at h
          subst h
          exact ⟨_, _, ArgReader.member_error hm⟩
        | ok v => simp [hm, Except.map] at h
      · cases h
    · cases h
  all_goals
    rcases except_bind_eq_error.1 h with h | ⟨_, -, h⟩
    · exact ⟨_, _, ArgReader.member_error h⟩
    · cases h

/-! ## Converting a message -/

theorem lookup_address_eq {address : String} {route : Route} (h : lookup address = some route) :
    route.address = address := by
  simpa using List.find?_some h

theorem fromOsc_unrecognized {address a : String} {args xs : List Arg}
    (h : fromOsc address args = .ok (.unrecognized a xs)) :
    lookup address = none ∧ a = address ∧ xs = args := by
  unfold fromOsc at h
  split at h
  · next hnone =>
    cases h
    exact ⟨hnone, rfl, rfl⟩
  · next route _ =>
    dsimp only at h
    split at h
    · cases h
    · next k _ =>
      cases hd : route.decode (ArgReader.ofArgs args) k <;> simp [hd, Except.map] at h

/-- At a catalog address whose signature the tags match, the arguments carry the tags
of the variant matched, and the message is what the entry reads from any reader that
gives those arguments: nothing past them and nothing of another kind is read. -/
theorem fromOsc_matched {address : String} {args : List Arg} {route : Route} {k : Nat}
    (hroute : lookup address = some route) (hk : route.signature.groups? (tagsOf args) = some k) :
    k ≤ route.signature.optional.length ∧ route.signature.variant k <+: args.map Arg.tag ∧
      (ArgReader.ofArgs args).Reads args 0 (route.signature.variant k) ∧
      ∀ r : ArgReader, r.Reads args 0 (route.signature.variant k) →
        fromOsc address args = (route.decode r k).map .recognized := by
  obtain ⟨hle, hpre, -⟩ := Signature.groups?_eq_some hk
  rw [tagsOf, String.toList_ofList] at hpre
  have hreads := ArgReader.ofArgs_reads args _ 0 (by simpa using hpre)
  refine ⟨hle, hpre, hreads, fun r hr => ?_⟩
  simp only [fromOsc, hroute, hk]
  rw [route.decode_congr hle (hreads.agree hr)]

/-- A conversion refuses a message only at a catalog address: for tags that fit no variant
of its signature, or for an enumeration code it does not know. -/
theorem fromOsc_error {address : String} {args : List Arg} {e : MessageError}
    (h : fromOsc address args = .error e) :
    ∃ route, lookup address = some route ∧
      (e = .signatureMismatch address route.signature.variants (tagsOf args) ∨
        ∃ field n, e = .invalidArgument address field n) := by
  unfold fromOsc at h
  split at h
  · cases h
  · next route hroute =>
    refine ⟨route, hroute, ?_⟩
    dsimp only at h
    split at h
    · cases h
      exact .inl rfl
    · next k _ =>
      cases hd : route.decode (ArgReader.ofArgs args) k with
      | error x =>
        simp only [hd, Except.map, Except.error.injEq] at h
        subst h
        rw [← lookup_address_eq hroute]
        exact .inr (Route.decode_error hd)
      | ok m => simp [hd, Except.map] at h

theorem outcomeOf_cases (address : String) (args : List Arg) :
    (∃ m, fromOsc address args = .ok (.recognized m) ∧ outcomeOf address args = .recognized m) ∨
    (lookup address = none ∧ fromOsc address args = .ok (.unrecognized address args) ∧
      outcomeOf address args = .unrecognized address args) ∨
    (∃ e, fromOsc address args = .error e ∧ outcomeOf address args = .invalid e) := by
  cases h : fromOsc address args with
  | ok conversion =>
    cases conversion with
    | recognized m => exact .inl ⟨m, rfl, by simp [outcomeOf, h]⟩
    | unrecognized a xs =>
      obtain ⟨hnone, rfl, rfl⟩ := fromOsc_unrecognized h
      exact .inr (.inl ⟨hnone, rfl, by simp [outcomeOf, h]⟩)
  | error e => exact .inr (.inr ⟨e, rfl, by simp [outcomeOf, h]⟩)

/-! ## Parsing a datagram -/

section Parsing

variable {data : List UInt8} {limit : DepthLimit} {room : Option Nat}

theorem parseWithin_error_iff {e : DecodeError} :
    parseWithin data limit room = .error e ↔ decodeWithin data limit room = .error e := by
  unfold parseWithin
  cases decodeWithin data limit room <;> simp [Except.map]

theorem parseWithin_ok {os : List Outcome} (h : parseWithin data limit room = .ok os) :
    ∃ p, decodeWithin data limit none = .ok p ∧ os = (messagesOf p).map fun m => outcomeOf m.1 m.2 := by
  obtain ⟨p, hp, rfl⟩ := except_map_eq_ok.1 h
  refine ⟨p, ?_, rfl⟩
  -- within a room, a decoding that gives a packet gives the unbounded one's
  rcases (decodeWithin_upToDepth data limit room).eq_or_tooDeep with heq | ⟨step, offset, hdeep⟩
  · rw [← heq, hp]
  · rw [hp] at hdeep
    cases hdeep

end Parsing

/-- Parsing refuses a datagram exactly as decoding it within the same room of calls does,
and only for its framing or for calls nested past the room; otherwise it gives one
outcome for each message of the decoded packet, depth-first, each the outcome of that
message alone. A message's outcome is its conversion or its refusal, and a conversion
refuses only at a catalog address, for tags that fit no variant of its signature or an
unknown enumeration code; when the tags fit, the entry reads nothing but the arguments
of the variant they match, each at the kind its tag names. -/
theorem parse_isolates (data : List UInt8) (maxDepth : Int) (room : Option Nat) :
    (∀ e, parseWithin data (.int maxDepth) room = .error e ↔
      decodeWithin data (.int maxDepth) room = .error e) ∧
    (∀ e, parseWithin data (.int maxDepth) room = .error e →
      e.Framed data ∨ ∃ step, e.fault = .callsTooDeep step) ∧
    (∀ os, parseWithin data (.int maxDepth) room = .ok os → ∃ p,
      decode data maxDepth = .ok p ∧ os = (messagesOf p).map fun m => outcomeOf m.1 m.2) ∧
    (∀ address args,
      (∃ m, fromOsc address args = .ok (.recognized m) ∧ outcomeOf address args = .recognized m) ∨
      (lookup address = none ∧ fromOsc address args = .ok (.unrecognized address args) ∧
        outcomeOf address args = .unrecognized address args) ∨
      (∃ e, fromOsc address args = .error e ∧ outcomeOf address args = .invalid e)) ∧
    (∀ address args e, fromOsc address args = .error e → ∃ route, lookup address = some route ∧
      (e = .signatureMismatch address route.signature.variants (tagsOf args) ∨
        ∃ field n, e = .invalidArgument address field n)) ∧
    ∀ address args route k, lookup address = some route →
      route.signature.groups? (tagsOf args) = some k →
      route.signature.variant k <+: args.map Arg.tag ∧
      (ArgReader.ofArgs args).Reads args 0 (route.signature.variant k) ∧
      ∀ r : ArgReader, r.Reads args 0 (route.signature.variant k) →
        fromOsc address args = (route.decode r k).map .recognized := by
  refine ⟨fun e => parseWithin_error_iff, fun e h => decodeWithin_error (parseWithin_error_iff.1 h),
    fun os h => parseWithin_ok h, outcomeOf_cases, fun _ _ _ h => fromOsc_error h, ?_⟩
  intro address args route k hroute hk
  obtain ⟨-, hpre, hreads, hread⟩ := fromOsc_matched hroute hk
  exact ⟨hpre, hreads, hread⟩

theorem parse_isolates_state :
    fromOsc "/VMC/Ext/OK" [.int 7] =
      (Route.state.decode ⟨fun _ => 7, fun _ => default, fun _ => ""⟩ 0).map .recognized :=
  ((parse_isolates [] 0 none).2.2.2.2.2 "/VMC/Ext/OK" [.int 7] .state 0 (Route.lookup_address .state)
    (by decide +kernel)).2.2 _ (by simp [ArgReader.Reads, Signature.variant, Route.signature])

end Motion

end VirtualMocap
