import Mathlib
import VirtualMocap.Config.Merge

/-!
# What a merged configuration holds

A layer is a dictionary of distinct keys, nested (`Json.Keyed`), read along a path of
keys (`Json.valueAt`). `deepMerge_paths` says, path by path, what merging an override
onto a base holds: the override's non-dictionary values, the base's where the override
holds nothing, and nothing else; merging twice changes nothing. It rests on
`lookup_mergeFields_of_none` and `lookup_mergeFields_of_some`.
-/

namespace VirtualMocap

namespace Json

def isObj : Json → Bool
  | .obj _ => true
  | _ => false

/-- The value reached by following a path of keys through nested objects. -/
def valueAt : Json → List String → Option Json
  | v, [] => some v
  | .obj fields, k :: path => (lookup fields k).bind fun v => v.valueAt path
  | _, _ :: _ => none

/-- Every object reachable along key paths has distinct keys, as a dictionary does. Arrays
are not looked into: no key path enters them. -/
inductive Keyed : Json → Prop
  | obj {fields : List (String × Json)} :
      (fields.map Prod.fst).Nodup → (∀ kv ∈ fields, Keyed kv.2) → Keyed (.obj fields)
  | leaf {v : Json} : v.isObj = false → Keyed v

@[simp] theorem valueAt_nil (v : Json) : v.valueAt [] = some v := by
  cases v <;> rfl

@[simp] theorem valueAt_obj_cons (fields : List (String × Json)) (k : String) (path : List String) :
    (Json.obj fields).valueAt (k :: path) = (lookup fields k).bind fun v => v.valueAt path := rfl

theorem valueAt_cons_eq_some {y u : Json} {k : String} {path : List String}
    (h : y.valueAt (k :: path) = some u) :
    ∃ f w, y = .obj f ∧ lookup f k = some w ∧ w.valueAt path = some u := by
  cases y with
  | obj f =>
    obtain ⟨w, hw, hu⟩ := Option.bind_eq_some_iff.mp h
    exact ⟨f, w, rfl, hw, hu⟩
  | _ => cases h

@[simp] theorem keyed_obj_iff {fields : List (String × Json)} :
    Keyed (.obj fields) ↔ (fields.map Prod.fst).Nodup ∧ ∀ kv ∈ fields, Keyed kv.2 := by
  constructor
  · intro h
    cases h with
    | obj hnodup hall => exact ⟨hnodup, hall⟩
    | leaf h => simp [isObj] at h
  · exact fun ⟨hnodup, hall⟩ => .obj hnodup hall

/-! ## Lookups in a list of fields -/

section Fields

variable {fields rest : List (String × Json)} {k k' : String} {v w : Json}

@[simp] theorem lookup_nil (k : String) : lookup [] k = none := rfl

@[simp] theorem lookup_cons (k' : String) (w : Json) (rest : List (String × Json)) (k : String) :
    lookup ((k', w) :: rest) k = if k' = k then some w else lookup rest k := by
  by_cases h : k' = k <;> simp [lookup, h]

theorem mem_of_lookup (h : lookup fields k = some v) : (k, v) ∈ fields := by
  induction fields with
  | nil => simp at h
  | cons kv rest ih =>
    obtain ⟨k', w⟩ := kv
    by_cases hk : k' = k
    · subst hk
      simp at h
      simp [h]
    · simp only [lookup_cons, hk, if_false] at h
      exact List.mem_cons_of_mem _ (ih h)

theorem lookup_of_mem (hnodup : (fields.map Prod.fst).Nodup) (h : (k, v) ∈ fields) :
    lookup fields k = some v := by
  induction fields with
  | nil => simp at h
  | cons kv rest ih =>
    obtain ⟨k', w⟩ := kv
    simp only [List.map_cons, List.nodup_cons] at hnodup
    rcases List.mem_cons.mp h with same | later
    · cases same
      simp
    · have hne : k' ≠ k := fun hk => hnodup.1 (hk ▸ List.mem_map_of_mem later)
      simpa [hne] using ih hnodup.2 later

theorem setField_of_mem (h : k ∈ fields.map Prod.fst) :
    setField fields k v = fields.map fun kv => if kv.1 == k then (k, v) else kv := by
  have hany : fields.any (·.1 == k) = true := by
    obtain ⟨kv, hkv, rfl⟩ := List.mem_map.mp h
    exact List.any_eq_true.mpr ⟨kv, hkv, by simp⟩
  simp [setField, hany]

theorem setField_of_not_mem (h : k ∉ fields.map Prod.fst) :
    setField fields k v = fields ++ [(k, v)] := by
  have hany : fields.any (·.1 == k) = false := by
    rw [List.any_eq_false]
    intro kv hkv hk
    exact h (List.mem_map.mpr ⟨kv, hkv, beq_iff_eq.mp hk⟩)
  simp [setField, hany]

theorem lookup_map_replace (fields : List (String × Json)) (k : String) (v : Json) (k' : String) :
    lookup (fields.map fun kv => if kv.1 == k then (k, v) else kv) k' =
      if k' = k then (lookup fields k').map fun _ => v else lookup fields k' := by
  induction fields with
  | nil => simp
  | cons kv rest ih =>
    obtain ⟨k'', w⟩ := kv
    by_cases h1 : k'' = k <;> by_cases h2 : k' = k <;> by_cases h3 : k'' = k' <;> simp_all

theorem lookup_append_single (fields : List (String × Json)) (k : String) (v : Json) (k' : String) :
    lookup (fields ++ [(k, v)]) k' = (lookup fields k').or (if k = k' then some v else none) := by
  induction fields with
  | nil => by_cases h : k = k' <;> simp [h]
  | cons kv rest ih =>
    obtain ⟨k'', w⟩ := kv
    by_cases h : k'' = k' <;> simp [h, ih]

theorem lookup_append (fields rest : List (String × Json)) (k : String) :
    lookup (fields ++ rest) k = (lookup fields k).or (lookup rest k) := by
  induction fields with
  | nil => simp
  | cons kv fields ih =>
    obtain ⟨k', w⟩ := kv
    by_cases h : k' = k <;> simp [h, ih]

theorem lookup_eq_none_iff : lookup fields k = none ↔ k ∉ fields.map Prod.fst := by
  induction fields with
  | nil => simp
  | cons kv rest ih =>
    obtain ⟨k', w⟩ := kv
    by_cases h : k' = k
    · simp [h]
    · have h' : k ≠ k' := fun e => h e.symm
      simp only [lookup_cons, h, if_false, List.map_cons, List.mem_cons, h', false_or]
      exact ih

@[simp] theorem lookup_setField_self (fields : List (String × Json)) (k : String) (v : Json) :
    lookup (setField fields k v) k = some v := by
  by_cases h : k ∈ fields.map Prod.fst
  · have hsome : lookup fields k ≠ none := fun hnone => lookup_eq_none_iff.mp hnone h
    obtain ⟨u, hu⟩ := Option.ne_none_iff_exists'.mp hsome
    rw [setField_of_mem h, lookup_map_replace]
    simp [hu]
  · rw [setField_of_not_mem h, lookup_append_single, lookup_eq_none_iff.mpr h]
    simp

theorem lookup_setField_of_ne (fields : List (String × Json)) (v : Json) (h : k' ≠ k) :
    lookup (setField fields k v) k' = lookup fields k' := by
  by_cases hk : k ∈ fields.map Prod.fst
  · rw [setField_of_mem hk, lookup_map_replace]
    simp [h]
  · rw [setField_of_not_mem hk, lookup_append_single]
    simp [Ne.symm h]

theorem mem_setField (h : (k', w) ∈ setField fields k v) :
    (k' = k ∧ w = v) ∨ (k' ≠ k ∧ (k', w) ∈ fields) := by
  by_cases hk : k ∈ fields.map Prod.fst
  · rw [setField_of_mem hk] at h
    obtain ⟨⟨k'', u⟩, hmem, heq⟩ := List.mem_map.mp h
    by_cases h'' : k'' = k
    · simp only [h'', beq_self_eq_true, if_true, Prod.mk.injEq] at heq
      exact .inl ⟨heq.1.symm, heq.2.symm⟩
    · simp only [beq_iff_eq, h'', if_false, Prod.mk.injEq] at heq
      obtain ⟨rfl, rfl⟩ := heq
      exact .inr ⟨h'', hmem⟩
  · rw [setField_of_not_mem hk] at h
    rcases List.mem_append.mp h with old | new
    · exact .inr ⟨fun e => hk (e ▸ List.mem_map_of_mem old), old⟩
    · simp only [List.mem_singleton, Prod.mk.injEq] at new
      exact .inl new

theorem setField_of_fixed (hk : lookup fields k = some v) (hall : ∀ w, (k, w) ∈ fields → w = v) :
    setField fields k v = fields := by
  rw [setField_of_mem (List.mem_map_of_mem (mem_of_lookup hk))]
  conv_rhs => rw [← List.map_id' fields]
  refine List.map_congr_left fun kv hkv => ?_
  obtain ⟨k', w⟩ := kv
  by_cases h : k' = k
  · subst h
    simp [hall w hkv]
  · simp [h]

end Fields

end Json

namespace Config

open Json

/-! ## One merge of fields -/

section Merge

variable {c f : List (String × Json)} {k : String} {v w : Json} {x : Option Json}

@[simp] theorem mergeValue_obj (c f : List (String × Json)) :
    mergeValue (some (.obj c)) (.obj f) = .obj (mergeFields c f) := by
  rw [mergeValue]

theorem mergeValue_cases (x : Option Json) (v : Json) :
    mergeValue x v = v ∨
      ∃ c f, x = some (.obj c) ∧ v = .obj f ∧ mergeValue x v = .obj (mergeFields c f) := by
  rw [mergeValue.eq_def]
  split
  · next c f => exact .inr ⟨c, f, rfl, rfl, rfl⟩
  · exact .inl rfl

@[simp] theorem mergeValue_none (v : Json) : mergeValue none v = v := by
  rcases mergeValue_cases none v with h | ⟨c, f, hx, -⟩
  · exact h
  · cases hx

theorem mergeValue_of_not_obj (h : v.isObj = false) (x : Option Json) : mergeValue x v = v := by
  rcases mergeValue_cases x v with hv | ⟨c, f, -, rfl, -⟩
  · exact hv
  · simp [isObj] at h

@[simp] theorem mergeFields_nil (c : List (String × Json)) : mergeFields c [] = c := by
  rw [mergeFields]

theorem mergeFields_cons (c : List (String × Json)) (k : String) (v : Json)
    (rest : List (String × Json)) :
    mergeFields c ((k, v) :: rest) = mergeFields (setField c k (mergeValue (lookup c k) v)) rest := by
  rw [mergeFields]

/-- A key the override does not name keeps its lookup. The induction is on the override,
over every base. -/
theorem lookup_mergeFields_of_none (h : lookup f k = none) :
    lookup (mergeFields c f) k = lookup c k := by
  induction f generalizing c with
  | nil => simp
  | cons kv rest ih =>
    obtain ⟨k', w'⟩ := kv
    have hne : k ≠ k' := fun e => by simp [e] at h
    simp only [lookup_cons, Ne.symm hne, if_false] at h
    rw [mergeFields_cons, ih h, lookup_setField_of_ne _ _ hne]

/-- A key the override names is looked up as the override's value merged onto the base's. -/
theorem lookup_mergeFields_of_some (hf : (f.map Prod.fst).Nodup) (h : lookup f k = some w) :
    lookup (mergeFields c f) k = some (mergeValue (lookup c k) w) := by
  induction f generalizing c with
  | nil => simp at h
  | cons kv rest ih =>
    obtain ⟨k', w'⟩ := kv
    simp only [List.map_cons, List.nodup_cons] at hf
    rw [mergeFields_cons]
    by_cases hk : k' = k
    · subst hk
      simp only [lookup_cons, if_true, Option.some.injEq] at h
      subst h
      have hrest : lookup rest k' = none := lookup_eq_none_iff.mpr hf.1
      rw [lookup_mergeFields_of_none hrest, lookup_setField_self]
    · simp only [lookup_cons, hk, if_false] at h
      rw [ih hf.2 h, lookup_setField_of_ne _ _ (Ne.symm hk)]

/-- Every entry of a merge is an entry of the base whose key the override does not name, or
carries the merged value of a key the override names. -/
theorem mem_mergeFields (hf : (f.map Prod.fst).Nodup) (h : (k, v) ∈ mergeFields c f) :
    (lookup f k = none ∧ (k, v) ∈ c) ∨ ∃ w, lookup f k = some w ∧ v = mergeValue (lookup c k) w := by
  induction f generalizing c with
  | nil => exact .inl ⟨rfl, by simpa using h⟩
  | cons kv rest ih =>
    obtain ⟨k', w'⟩ := kv
    simp only [List.map_cons, List.nodup_cons] at hf
    rw [mergeFields_cons] at h
    rcases ih hf.2 h with ⟨hnone, hmem⟩ | ⟨w, hw, rfl⟩
    · rcases mem_setField hmem with ⟨rfl, rfl⟩ | ⟨hne, hold⟩
      · exact .inr ⟨w', by simp, rfl⟩
      · exact .inl ⟨by simp [Ne.symm hne, hnone], hold⟩
    · have hne : k ≠ k' := fun e => hf.1 (e ▸ List.mem_map_of_mem (mem_of_lookup hw))
      refine .inr ⟨w, by simp [Ne.symm hne, hw], ?_⟩
      rw [lookup_setField_of_ne _ _ hne]

theorem mergeFields_of_fresh (hf : (f.map Prod.fst).Nodup) (hfresh : ∀ k ∈ f.map Prod.fst, lookup c k = none) :
    mergeFields c f = c ++ f := by
  induction f generalizing c with
  | nil => simp
  | cons kv rest ih =>
    obtain ⟨k, w⟩ := kv
    simp only [List.map_cons, List.nodup_cons, List.mem_cons, forall_eq_or_imp] at hf hfresh
    rw [mergeFields_cons, hfresh.1, mergeValue_none, setField_of_not_mem (lookup_eq_none_iff.mp hfresh.1)]
    have hnext : ∀ k' ∈ rest.map Prod.fst, lookup (c ++ [(k, w)]) k' = none := by
      intro k' hk'
      have hne : k ≠ k' := fun e => hf.1 (e ▸ hk')
      simp [lookup_append, hfresh.2 k' hk', hne]
    rw [ih hf.2 hnext, List.append_assoc, List.singleton_append]

theorem mergeFields_nil_left (hf : (f.map Prod.fst).Nodup) : mergeFields [] f = f := by
  simpa using mergeFields_of_fresh hf (c := []) (by simp)

theorem mergeFields_of_fixed
    (h : ∀ k w, (k, w) ∈ f →
      ∃ z, lookup c k = some z ∧ mergeValue (some z) w = z ∧ ∀ u, (k, u) ∈ c → u = z) :
    mergeFields c f = c := by
  induction f with
  | nil => simp
  | cons kv rest ih =>
    obtain ⟨k, w⟩ := kv
    obtain ⟨z, hz, hmerge, hall⟩ := h k w (by simp)
    rw [mergeFields_cons, hz, hmerge, setField_of_fixed hz hall]
    exact ih fun k' w' hmem => h k' w' (List.mem_cons_of_mem _ hmem)

end Merge

/-! ## Merging twice -/

/-- The fields of a merge already hold the override: each key it names has one value there,
the merged one, and merging the override's value onto it again gives it back. -/
theorem mergeFields_mergeFields (hf : (f.map Prod.fst).Nodup)
    (ih : ∀ kv ∈ f, ∀ x, mergeValue (some (mergeValue x kv.2)) kv.2 = mergeValue x kv.2)
    (c : List (String × Json)) :
    mergeFields (mergeFields c f) f = mergeFields c f := by
  refine mergeFields_of_fixed fun k w hmem => ?_
  have hw : lookup f k = some w := lookup_of_mem hf hmem
  refine ⟨mergeValue (lookup c k) w, lookup_mergeFields_of_some hf hw, ih (k, w) hmem _, ?_⟩
  intro u hu
  rcases mem_mergeFields hf hu with ⟨hnone, -⟩ | ⟨w', hw', rfl⟩
  · simp [hw] at hnone
  · rw [hw] at hw'
    cases hw'
    rfl

theorem mergeFields_self (hf : (f.map Prod.fst).Nodup)
    (ih : ∀ kv ∈ f, ∀ x, mergeValue (some (mergeValue x kv.2)) kv.2 = mergeValue x kv.2) :
    mergeFields f f = f := by
  refine mergeFields_of_fixed fun k w hmem => ⟨w, lookup_of_mem hf hmem, ?_, ?_⟩
  · simpa using ih (k, w) hmem none
  · intro u hu
    have hlookup := lookup_of_mem hf hu
    rw [lookup_of_mem hf hmem] at hlookup
    cases hlookup
    rfl

theorem mergeValue_mergeValue {y : Json} (hy : Keyed y) (x : Option Json) :
    mergeValue (some (mergeValue x y)) y = mergeValue x y := by
  induction hy generalizing x with
  | leaf hleaf => simp [mergeValue_of_not_obj hleaf]
  | @obj f hf _ ih =>
    rcases mergeValue_cases x (.obj f) with hkeep | ⟨c, f', rfl, hf', hmerge⟩
    · rw [hkeep, mergeValue_obj, mergeFields_self hf ih]
    · cases hf'
      rw [hmerge, mergeValue_obj, mergeFields_mergeFields hf ih]

/-! ## Values along key paths -/

section Paths

variable {x : Option Json} {y u : Json} {path : List String}

theorem valueAt_mergeValue_of_leaf (hy : Keyed y) (hu : y.valueAt path = some u)
    (hleaf : u.isObj = false) (x : Option Json) : (mergeValue x y).valueAt path = some u := by
  induction path generalizing x y with
  | nil =>
    cases Option.some.inj ((valueAt_nil y).symm.trans hu)
    rw [mergeValue_of_not_obj hleaf]
    exact hu
  | cons k path ih =>
    obtain ⟨f, w, rfl, hw, hwu⟩ := valueAt_cons_eq_some hu
    have ⟨hf, hall⟩ := keyed_obj_iff.mp hy
    rcases mergeValue_cases x (.obj f) with hkeep | ⟨c, f', rfl, hf', hmerge⟩
    · rw [hkeep]
      exact hu
    · cases hf'
      rw [hmerge, valueAt_obj_cons, lookup_mergeFields_of_some hf hw, Option.bind_some]
      exact ih (hall _ (mem_of_lookup hw)) hwu _

/-- Where the base holds a value and the override none, the merge keeps the base's value, as
long as the override holds an object at every shorter path where it holds anything. -/
theorem valueAt_mergeValue_of_base {x : Json} (hy : Keyed y) (hu : x.valueAt path = some u)
    (hnone : y.valueAt path = none)
    (hpre : ∀ q, q <+: path → q ≠ path → ∀ w, y.valueAt q = some w → w.isObj = true) :
    (mergeValue (some x) y).valueAt path = some u := by
  induction path generalizing x y with
  | nil => simp at hnone
  | cons k path ih =>
    -- the override is an object: it holds itself at the empty path, a proper prefix
    have hobj : y.isObj = true := hpre [] List.nil_prefix (List.cons_ne_nil k path).symm y (by simp)
    obtain ⟨f, rfl⟩ : ∃ f, y = .obj f := by
      cases y <;> first | exact ⟨_, rfl⟩ | simp [isObj] at hobj
    have ⟨hf, hall⟩ := keyed_obj_iff.mp hy
    obtain ⟨c, u', rfl, hcu, hu'⟩ := valueAt_cons_eq_some hu
    rw [mergeValue_obj, valueAt_obj_cons]
    cases hfk : lookup f k with
    | none => rw [lookup_mergeFields_of_none hfk, hcu, Option.bind_some, hu']
    | some w =>
      rw [lookup_mergeFields_of_some hf hfk, hcu, Option.bind_some]
      have hwnone : w.valueAt path = none := by simpa [hfk] using hnone
      refine ih (hall _ (mem_of_lookup hfk)) hu' hwnone fun q hq hne w' hw' => ?_
      exact hpre (k :: q) ((List.prefix_cons_inj k).mpr hq) (by simpa using hne) w' (by simp [hfk, hw'])

theorem valueAt_mergeValue_isSome (hy : Keyed y) (x : Option Json)
    (h : ((mergeValue x y).valueAt path).isSome) :
    (x.bind fun v => v.valueAt path).isSome ∨ (y.valueAt path).isSome := by
  induction path generalizing x y with
  | nil => exact .inr (by simp)
  | cons k path ih =>
    rcases mergeValue_cases x y with hkeep | ⟨c, f, rfl, rfl, hmerge⟩
    · rw [hkeep] at h
      exact .inr h
    · have ⟨hf, hall⟩ := keyed_obj_iff.mp hy
      rw [hmerge, valueAt_obj_cons] at h
      cases hfk : lookup f k with
      | none =>
        rw [lookup_mergeFields_of_none hfk] at h
        exact .inl (by simpa using h)
      | some w =>
        rw [lookup_mergeFields_of_some hf hfk, Option.bind_some] at h
        rcases ih (hall _ (mem_of_lookup hfk)) (lookup c k) h with hc | hw
        · exact .inl (by simpa using hc)
        · exact .inr (by simpa [hfk] using hw)

end Paths

theorem deepMerge_deepMerge {b o : List (String × Json)} (ho : Keyed (.obj o)) :
    deepMerge (deepMerge b o) o = deepMerge b o := by
  have htwice := mergeValue_mergeValue ho (some (.obj b))
  rw [mergeValue_obj, mergeValue_obj, Json.obj.injEq] at htwice
  exact htwice

/-! ## Merging configuration layers -/

/-- Merging an override layer onto a base layer, path by path: wherever the override holds a
value that is not an object the merge holds it; wherever the base holds a value and the
override none, the merge keeps the base's value as long as the override holds an object at
every shorter path where it holds anything; the merge holds values only where one of the
layers does; and merging the same override again changes nothing. -/
theorem deepMerge_paths (b o : List (String × Json)) (ho : Keyed (.obj o)) :
    (∀ path u, (Json.obj o).valueAt path = some u → u.isObj = false →
      (Json.obj (deepMerge b o)).valueAt path = some u) ∧
    (∀ path u, (Json.obj b).valueAt path = some u → (Json.obj o).valueAt path = none →
      (∀ q, q <+: path → q ≠ path → ∀ w, (Json.obj o).valueAt q = some w → w.isObj = true) →
      (Json.obj (deepMerge b o)).valueAt path = some u) ∧
    (∀ path, ((Json.obj (deepMerge b o)).valueAt path).isSome →
      ((Json.obj b).valueAt path).isSome ∨ ((Json.obj o).valueAt path).isSome) ∧
    deepMerge (deepMerge b o) o = deepMerge b o := by
  have hmerge : Json.obj (deepMerge b o) = mergeValue (some (.obj b)) (.obj o) := by
    rw [mergeValue_obj, deepMerge]
  refine ⟨fun path u hu hleaf => ?_, fun path u hu hnone hpre => ?_, fun path h => ?_, ?_⟩
  · rw [hmerge]
    exact valueAt_mergeValue_of_leaf ho hu hleaf _
  · rw [hmerge]
    exact valueAt_mergeValue_of_base ho hu hnone hpre
  · rw [hmerge] at h
    simpa using valueAt_mergeValue_isSome ho _ h
  · exact deepMerge_deepMerge ho

/-- The merge of `{a: {b: 1, c: 2}, d: [1]}` with `{a: {c: 3}, d: [2]}`: the list under `d` is
a leaf and is replaced, while the two objects under `a` merge. -/
theorem deepMerge_paths_leaves :
    Keyed (.obj [("a", .obj [("c", .int 3)]), ("d", .arr [.int 2])]) ∧
    let b := [("a", .obj [("b", .int 1), ("c", .int 2)]), ("d", .arr [.int 1])]
    let o := [("a", .obj [("c", .int 3)]), ("d", .arr [.int 2])]
    (∀ path u, (Json.obj o).valueAt path = some u → u.isObj = false →
      (Json.obj (deepMerge b o)).valueAt path = some u) ∧
    (∀ path u, (Json.obj b).valueAt path = some u → (Json.obj o).valueAt path = none →
      (∀ q, q <+: path → q ≠ path → ∀ w, (Json.obj o).valueAt q = some w → w.isObj = true) →
      (Json.obj (deepMerge b o)).valueAt path = some u) ∧
    (∀ path, ((Json.obj (deepMerge b o)).valueAt path).isSome →
      ((Json.obj b).valueAt path).isSome ∨ ((Json.obj o).valueAt path).isSome) ∧
    deepMerge (deepMerge b o) o = deepMerge b o := by
  have ho : Keyed (.obj [("a", .obj [("c", .int 3)]), ("d", .arr [.int 2])]) := by
    refine .obj (by decide) ?_
    simp only [List.mem_cons, List.not_mem_nil, or_false, forall_eq_or_imp, forall_eq]
    exact ⟨.obj (by decide) (by simpa using .leaf rfl), .leaf rfl⟩
  exact ⟨ho, deepMerge_paths _ _ ho⟩

example :
    deepMerge [("a", .obj [("b", .int 1), ("c", .int 2)]), ("d", .arr [.int 1])]
        [("a", .obj [("c", .int 3)]), ("d", .arr [.int 2])] =
      [("a", .obj [("b", .int 1), ("c", .int 3)]), ("d", .arr [.int 2])] := by
  rfl

end Config

end VirtualMocap
