import VirtualMocap.Proofs.Motion.Dispatch

/-!
# What a signature accepts

A signature's variants are its required tags followed by the first `k` optional groups
(`Signature.variants_eq`), each a prefix of the next, so `Signature.groups?` lands on the
largest variant the tags fit (`Signature.groups?_eq_some_iff`) and never on a group the
tags stop inside (`Signature.groups?_partial`). `fromOsc_mismatch_iff` says which tags a
catalog address refuses.
-/

namespace VirtualMocap

namespace Motion

open Osc

namespace Signature

/-- Whether tags fit the variant with `k` groups: they are that variant or, when the
signature tolerates trailing arguments, they start with it. -/
def Fits (sig : Signature) (tags : List Char) (k : Nat) : Prop :=
  if sig.trailing then sig.variant k <+: tags else sig.variant k = tags

instance (sig : Signature) (tags : List Char) : DecidablePred (sig.Fits tags) := fun k =>
  inferInstanceAs (Decidable (if sig.trailing then sig.variant k <+: tags else sig.variant k = tags))

/-! ## The chain of variants -/

theorem variant_prefix (sig : Signature) {j k : Nat} (h : j ≤ k) :
    sig.variant j <+: sig.variant k := by
  obtain ⟨d, rfl⟩ := Nat.exists_eq_add_of_le h
  simp only [variant, List.take_add, List.flatMap_append, ← List.append_assoc]
  exact List.prefix_append _ _

theorem variant_succ (sig : Signature) {k : Nat} (hk : k < sig.optional.length) :
    sig.variant (k + 1) = sig.variant k ++ sig.optional[k].toList := by
  rw [variant, variant, List.take_add_one, List.getElem?_eq_getElem hk, Option.toList_some,
    List.flatMap_append, List.flatMap_singleton, List.append_assoc]

theorem length_variant_le (sig : Signature) {j k : Nat} (h : j ≤ k) :
    (sig.variant j).length ≤ (sig.variant k).length :=
  (sig.variant_prefix h).length_le

theorem prefix_of_fits {sig : Signature} {tags : List Char} {k : Nat} (h : sig.Fits tags k) :
    sig.variant k <+: tags := by
  unfold Fits at h
  split at h
  · exact h
  · exact h ▸ List.prefix_refl _

theorem fits_iff {sig : Signature} {tags : List Char} {k : Nat} :
    sig.Fits tags k ↔ sig.variant k <+: tags ∧ (sig.trailing = false → (sig.variant k).length = tags.length) := by
  unfold Fits
  cases sig.trailing with
  | true => simp
  | false =>
    simp only [Bool.false_eq_true, if_false, forall_const]
    exact ⟨fun h => ⟨h ▸ List.prefix_refl _, h ▸ rfl⟩, fun ⟨hp, hl⟩ => hp.eq_of_length hl⟩

/-! ## The scan -/

/-- The scan counts exactly the groups that start `rest` together: a count within their
number starts `rest` if and only if it is at most the scan's. -/
theorem prefix_iff_le_takeGroups : ∀ (gs : List String) (rest : List Char) {j : Nat},
    j ≤ gs.length → ((gs.take j).flatMap String.toList <+: rest ↔ j ≤ (takeGroups gs rest).1)
  | [], rest, j, hj => by
    obtain rfl : j = 0 := by simpa using hj
    simp
  | g :: gs, rest, 0, _ => by simp
  | g :: gs, rest, j + 1, hj => by
    rw [List.take_succ_cons, List.flatMap_cons]
    unfold takeGroups
    split
    · next hpre =>
      have ih := prefix_iff_le_takeGroups gs (rest.drop g.length) (j := j) (by simpa using hj)
      rw [← List.prefix_append_right_inj g.toList, append_drop_of_isPrefixOf hpre] at ih
      rw [ih]
      generalize takeGroups gs (rest.drop g.length) = res
      obtain ⟨n, after⟩ := res
      simp
    · next hpre =>
      -- the group is missing, and with it every longer count
      refine ⟨fun h => absurd (List.isPrefixOf_iff_prefix.2 ((List.prefix_append _ _).trans h)) hpre,
        fun h => ?_⟩
      simp at h

theorem groups?_greatest (sig : Signature) (tags : String) :
    match sig.groups? tags with
    | some k => k ≤ sig.optional.length ∧ sig.Fits tags.toList k ∧
        ∀ j, k < j → j ≤ sig.optional.length → ¬ sig.Fits tags.toList j
    | none => ∀ k ≤ sig.optional.length, ¬ sig.Fits tags.toList k := by
  generalize hg : sig.groups? tags = res
  unfold groups? at hg
  dsimp only at hg
  split at hg
  · next hreq =>
    -- every variant starts with the required tags, which the tags do not
    subst hg
    intro k _ hfit
    have hpre := (List.prefix_append _ _).trans (prefix_of_fits hfit)
    rw [← List.isPrefixOf_iff_prefix] at hpre
    simp [hpre] at hreq
  · next hreq =>
    have hrest : sig.required.toList ++ tags.toList.drop sig.required.length = tags.toList :=
      append_drop_of_isPrefixOf (by revert hreq; cases sig.required.toList.isPrefixOf tags.toList <;> simp)
    -- a variant starts the tags exactly when its groups start what follows the required tags
    have hvar : ∀ j ≤ sig.optional.length, (sig.variant j <+: tags.toList ↔
        j ≤ (takeGroups sig.optional (tags.toList.drop sig.required.length)).1) := by
      intro j hj
      rw [← prefix_iff_le_takeGroups _ _ hj, variant]
      conv => rhs; rw [← List.prefix_append_right_inj sig.required.toList, hrest]
    have hspec := takeGroups_spec sig.optional (tags.toList.drop sig.required.length)
    generalize takeGroups sig.optional (tags.toList.drop sig.required.length) = res' at hvar hspec hg
    obtain ⟨n, after⟩ := res'
    obtain ⟨hle, heq⟩ := hspec
    dsimp only at hvar heq hle hg
    have htags : sig.variant n ++ after = tags.toList := by
      rw [variant, List.append_assoc, heq, hrest]
    have hlen : (sig.variant n).length + after.length = tags.toList.length := by
      rw [← htags, List.length_append]
    split at hg
    · next hend =>
      subst hg
      refine ⟨hle, fits_iff.2 ⟨(hvar n hle).2 le_rfl, fun htr => ?_⟩, fun j hj hjle hfit => ?_⟩
      · simp only [htr, Bool.or_false, List.isEmpty_iff] at hend
        simp only [hend, List.length_nil, Nat.add_zero] at hlen
        exact hlen
      · exact absurd ((hvar j hjle).1 (prefix_of_fits hfit)) (by omega)
    · next hend =>
      -- the tags run on past the largest variant that starts them, and nothing may trail
      subst hg
      simp only [Bool.or_eq_true, List.isEmpty_iff, not_or, Bool.not_eq_true] at hend
      obtain ⟨hafter, htr⟩ := hend
      intro k hk hfit
      obtain ⟨hpre, hl⟩ := fits_iff.1 hfit
      have hkn := (hvar k hk).1 hpre
      have := sig.length_variant_le hkn
      have := List.length_pos_iff.2 hafter
      have := hl htr
      omega

theorem groups?_eq_some_iff {sig : Signature} {tags : String} {k : Nat} :
    sig.groups? tags = some k ↔ k ≤ sig.optional.length ∧ sig.Fits tags.toList k ∧
      ∀ j, k < j → j ≤ sig.optional.length → ¬ sig.Fits tags.toList j := by
  have h := groups?_greatest sig tags
  constructor
  · intro hk
    rw [hk] at h
    exact h
  · rintro ⟨hle, hfit, hmax⟩
    cases hg : sig.groups? tags with
    | none =>
      rw [hg] at h
      exact absurd hfit (h k hle)
    | some k' =>
      rw [hg] at h
      obtain ⟨hle', hfit', hmax'⟩ := h
      rcases Nat.lt_trichotomy k' k with hlt | heq | hlt
      · exact absurd hfit (hmax' k hlt hle)
      · rw [heq]
      · exact absurd hfit' (hmax k' hlt hle')

theorem groups?_eq_none_iff {sig : Signature} {tags : String} :
    sig.groups? tags = none ↔ ∀ k ≤ sig.optional.length, ¬ sig.Fits tags.toList k := by
  have h := groups?_greatest sig tags
  constructor
  · intro hn
    rw [hn] at h
    exact h
  · intro hnone
    cases hg : sig.groups? tags with
    | none => rfl
    | some k =>
      rw [hg] at h
      exact absurd h.2.1 (hnone k h.1)

/-- Tags that stop short inside the group after the first `k`, or run on past the first
`k` groups by less than the next group, are never read as carrying it: with trailing
arguments tolerated the first `k` groups are read, else the tags are refused. -/
theorem groups?_partial {sig : Signature} {k : Nat} (hk : k < sig.optional.length)
    {p : List Char} (hne : p ≠ []) (hshort : p.length < sig.optional[k].length) :
    sig.groups? (String.ofList (sig.variant k ++ p)) = if sig.trailing then some k else none := by
  -- no variant past the first `k` groups starts the tags: it would hold the whole group
  have hlater : ∀ j, k < j → j ≤ sig.optional.length → ¬ sig.variant j <+: sig.variant k ++ p := by
    intro j hj hjle hpre
    have hnext := (sig.variant_prefix (show k + 1 ≤ j by omega)).trans hpre
    rw [sig.variant_succ hk, List.prefix_append_right_inj] at hnext
    have := hnext.length_le
    simp only [String.length_toList] at this
    omega
  have hnonempty := List.length_pos_iff.2 hne
  cases htr : sig.trailing with
  | true =>
    rw [if_pos rfl, groups?_eq_some_iff]
    simp only [fits_iff, String.toList_ofList, htr, Bool.true_eq_false, false_implies, and_true]
    exact ⟨hk.le, List.prefix_append _ _, fun j hj hjle => hlater j hj hjle⟩
  | false =>
    rw [if_neg Bool.false_ne_true, groups?_eq_none_iff]
    intro j hj hfit
    obtain ⟨hpre, hl⟩ := fits_iff.1 hfit
    rw [String.toList_ofList] at hpre hl
    by_cases hjk : j ≤ k
    · have := sig.length_variant_le hjk
      have := hl htr
      simp only [List.length_append] at this
      omega
    · exact hlater j (by omega) hj hpre

/-! ## The list of variants -/

theorem prefixes_eq : ∀ (required : String) (gs : List String),
    prefixes required gs = (List.range (gs.length + 1)).map fun k =>
      String.ofList (required.toList ++ (gs.take k).flatMap String.toList)
  | required, [] => by simp [prefixes, String.ofList_toList]
  | required, g :: gs => by
    rw [prefixes, prefixes_eq (required ++ g) gs, List.length_cons,
      List.range_succ_eq_map (n := gs.length + 1), List.map_cons, List.map_map]
    congr 1
    · simp [String.ofList_toList]
    · apply List.map_congr_left
      intro k _
      simp [String.toList_append]

/-- The variants are the required tags followed by the first `k` groups, for every `k`
from none to all, each marked with `*` when trailing arguments are tolerated. -/
theorem variants_eq (sig : Signature) :
    sig.variants = (List.range (sig.optional.length + 1)).map fun k =>
      String.ofList (sig.variant k) ++ if sig.trailing then "*" else "" := by
  unfold variants
  rw [prefixes_eq]
  cases sig.trailing <;> simp [variant, Function.comp_def]

end Signature

/-! ## Refusals -/

/-- Whether a variant of a refusal's list admits tags: every variant admits itself, and
one marked with `*` admits every tag string that starts with what precedes the mark. -/
def admits (variant tags : String) : Prop :=
  variant = tags ∨ ∃ shown, variant = shown ++ "*" ∧ shown.toList <+: tags.toList

theorem star_not_mem_tagsOf (args : List Arg) : '*' ∉ (tagsOf args).toList := by
  simp only [tagsOf, String.toList_ofList, List.mem_map, not_exists, not_and]
  intro a _
  cases a with
  | bool b => cases b <;> simp [Arg.tag]
  | _ => simp [Arg.tag]

namespace Signature

theorem exists_admits_iff {sig : Signature} {tags : String} (htags : '*' ∉ tags.toList)
    (hsig : ∀ k, '*' ∉ sig.variant k) :
    (∃ v ∈ sig.variants, admits v tags) ↔ ∃ k ≤ sig.optional.length, sig.Fits tags.toList k := by
  simp only [variants_eq, List.mem_map, List.mem_range, Nat.lt_succ_iff]
  constructor
  · rintro ⟨_, ⟨k, hk, rfl⟩, hadmits⟩
    refine ⟨k, hk, ?_⟩
    unfold Fits
    cases htr : sig.trailing with
    | true =>
      simp only [htr, if_true] at hadmits ⊢
      rcases hadmits with heq | ⟨shown, hshown, hpre⟩
      · exact absurd (by simp [← heq, String.toList_append]) htags
      · rw [← String.toList_inj] at hshown
        simp only [String.toList_append, String.toList_ofList] at hshown
        rw [List.append_cancel_right hshown]
        exact hpre
    | false =>
      simp only [htr, Bool.false_eq_true, if_false, String.append_empty] at hadmits ⊢
      rcases hadmits with heq | ⟨shown, hshown, -⟩
      · rw [← heq, String.toList_ofList]
      · exact absurd (by simp [← String.toList_inj, String.toList_append] at hshown; simp [hshown])
          (hsig k)
  · rintro ⟨k, hk, hfit⟩
    refine ⟨_, ⟨k, hk, rfl⟩, ?_⟩
    unfold Fits at hfit
    cases htr : sig.trailing with
    | true =>
      simp only [htr, if_true] at hfit ⊢
      exact .inr ⟨String.ofList (sig.variant k), rfl, by rw [String.toList_ofList]; exact hfit⟩
    | false =>
      simp only [htr, Bool.false_eq_true, if_false, String.append_empty] at hfit ⊢
      exact .inl (by rw [hfit, String.ofList_toList])

end Signature

theorem Route.variant_kinds (route : Route) (k : Nat) :
    ∀ c ∈ route.signature.variant k, c = 'i' ∨ c = 'f' ∨ c = 's' := by
  have hreq : ∀ c ∈ route.signature.required.toList, c = 'i' ∨ c = 'f' ∨ c = 's' := by
    cases route <;> simp [Route.signature, Route.pose]
  have hopt : ∀ g ∈ route.signature.optional, ∀ c ∈ g.toList, c = 'i' ∨ c = 'f' ∨ c = 's' := by
    cases route <;> simp [Route.signature, Route.pose]
  simp only [Signature.variant, List.mem_append, List.mem_flatMap]
  rintro c (hc | ⟨g, hg, hc⟩)
  · exact hreq c hc
  · exact hopt g (List.mem_of_mem_take hg) c hc

theorem Route.star_not_mem_variant (route : Route) (k : Nat) : '*' ∉ route.signature.variant k := by
  intro h
  rcases route.variant_kinds k '*' h with h | h | h <;> simp at h

/-- At a catalog address the conversion refuses the tags as fitting none of the
signature's variants, and lists those variants, exactly when no variant of the list
admits them. -/
theorem fromOsc_mismatch_iff (route : Route) (args : List Arg) :
    fromOsc route.address args =
        .error (.signatureMismatch route.address route.signature.variants (tagsOf args)) ↔
      ∀ v ∈ route.signature.variants, ¬ admits v (tagsOf args) := by
  have hfits : (∀ v ∈ route.signature.variants, ¬ admits v (tagsOf args)) ↔
      route.signature.groups? (tagsOf args) = none := by
    have h := Signature.exists_admits_iff (star_not_mem_tagsOf args) route.star_not_mem_variant
    rw [Signature.groups?_eq_none_iff]
    constructor
    · intro hall k hk hfit
      obtain ⟨v, hv, hadmits⟩ := h.2 ⟨k, hk, hfit⟩
      exact hall v hv hadmits
    · intro hnone v hv hadmits
      obtain ⟨k, hk, hfit⟩ := h.1 ⟨v, hv, hadmits⟩
      exact hnone k hk hfit
  rw [hfits]
  simp only [fromOsc, Route.lookup_address]
  cases hg : route.signature.groups? (tagsOf args) with
  | none => simp
  | some k =>
    -- an entry that reads the arguments refuses only an unknown enumeration code
    simp only [reduceCtorEq, iff_false]
    cases hd : route.decode (ArgReader.ofArgs args) k with
    | ok m => simp [Except.map]
    | error e =>
      obtain ⟨field, n, rfl⟩ := Route.decode_error hd
      simp [Except.map]

/-- A signature's scan agrees with its list of variants. The variants are the required
tags followed by the first `k` optional groups, for `k` from none to all, marked with `*`
when trailing arguments are tolerated; the scan answers the largest `k` whose variant
the tags fit, and `none` when they fit none; tags that stop short inside the next group
are read without it, or refused when nothing may trail. At a catalog address the
conversion refuses the tags, listing those variants, exactly when no variant of the list
admits them. -/
theorem Signature.groups?_largest_variant (sig : Signature) :
    sig.variants = (List.range (sig.optional.length + 1)).map (fun k =>
      String.ofList (sig.variant k) ++ if sig.trailing then "*" else "") ∧
    (∀ tags k, sig.groups? tags = some k ↔ k ≤ sig.optional.length ∧ sig.Fits tags.toList k ∧
      ∀ j, k < j → j ≤ sig.optional.length → ¬ sig.Fits tags.toList j) ∧
    (∀ tags, sig.groups? tags = none ↔ ∀ k ≤ sig.optional.length, ¬ sig.Fits tags.toList k) ∧
    (∀ k (hk : k < sig.optional.length) (p : List Char), p ≠ [] →
      p.length < sig.optional[k].length →
      sig.groups? (String.ofList (sig.variant k ++ p)) = if sig.trailing then some k else none) ∧
    ∀ (route : Route) (args : List Arg),
      fromOsc route.address args =
          .error (.signatureMismatch route.address route.signature.variants (tagsOf args)) ↔
        ∀ v ∈ route.signature.variants, ¬ admits v (tagsOf args) :=
  ⟨sig.variants_eq, fun _ _ => Signature.groups?_eq_some_iff, fun _ => Signature.groups?_eq_none_iff,
    fun _ hk _ hne hshort => Signature.groups?_partial hk hne hshort, fromOsc_mismatch_iff⟩

/-- The model state's signature reads tags `iii` as one optional group, and tags `ii`,
which stop inside the group `ii`, as none; a strict signature `sf` with the group `ii`
refuses `sfi`. -/
theorem Signature.groups?_state_and_strict :
    Route.state.signature.groups? "iii" = some 1 ∧
      Route.state.signature.groups? "ii" = some 0 ∧
      ({ required := "sf", optional := ["ii"] } : Signature).groups? "sfi" = none := by
  refine ⟨((Signature.groups?_largest_variant Route.state.signature).2.1 "iii" 1).2
    ⟨by decide, by decide +kernel, fun j hj hjle => ?_⟩, ?_, ?_⟩
  · -- the only longer count is both groups, `iiii`, which `iii` does not start with
    obtain rfl : j = 2 := by
      simp only [Route.signature, List.length_cons, List.length_nil] at hjle
      omega
    decide +kernel
  · simpa [Route.signature, Signature.variant] using
      (Signature.groups?_largest_variant Route.state.signature).2.2.2.1 0 (by decide) ['i']
        (by simp) (by decide +kernel)
  · simpa [Signature.variant] using
      (Signature.groups?_largest_variant { required := "sf", optional := ["ii"] }).2.2.2.1 0
        (by decide) ['i'] (by simp) (by decide +kernel)

end Motion

end VirtualMocap
