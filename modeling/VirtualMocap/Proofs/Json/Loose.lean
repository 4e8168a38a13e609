import Mathlib
import VirtualMocap.Json.Loose

/-!
# Loose readers on the values that need no coercion

Each loose reader takes a value of its own kind as it is: an integer field an integer, a
truth-value field a truth value, a number field a double (`Json.looseFloat_float`). An
enumeration read by its code gives back the member of every small code
(`Json.intMember_code`), and keys that are plain texts raise no issue where extra keys
are allowed (`Json.extraKeyIssues_plain`).
-/

namespace VirtualMocap

namespace Json

section Readers

variable {α β : Type}

@[simp] theorem both_ok (x : α) (y : β) : both (.ok x : Checked α) (.ok y : Checked β) = .ok (x, y) :=
  rfl

@[simp] theorem Checked.under_ok (p : PathPart) (a : α) : Checked.under p (.ok a : Checked α) = .ok a :=
  rfl

@[simp] theorem Checked.map_ok (f : α → β) (a : α) : Except.map f (.ok a : Checked α) = .ok (f a) :=
  rfl

theorem looseInt_int (n : Int) : looseInt (.int n) = .ok n := by
  simp [looseInt, textOf?]

theorem looseBool_bool (b : Bool) : looseBool (.bool b) = .ok b := by
  simp [looseBool, textOf?]

theorem looseFloat_float (x : Binary64) : looseFloat (.float x) = .ok x := by
  simp [looseFloat, textOf?]

/-- An enumeration whose codes are single digits and read back as their members reads
each code as its member. -/
theorem intMember_code {code : α → ℕ} {ofCode? : ℤ → Option α}
    (hcode : ∀ x, ofCode? (code x) = some x) (hsmall : ∀ x, code x < 10) (x : α) :
    intMember ofCode? (.int (code x)) = .ok x := by
  have h10 := hsmall x
  have hfits : fits64 (code x) = true := by
    simp [fits64, twoPow, Nat.pow_eq]
    omega
  simp [intMember, looseInt_int, hfits, hcode]

/-- Where extra keys are allowed, keys that are texts without surrogates raise no issue. -/
theorem extraKeyIssues_plain {keys : List String} (h : ∀ k ∈ keys, Text.hasSurrogate k = false) :
    extraKeyIssues false (keys.map .str) = some [] := by
  induction keys with
  | nil => rfl
  | cons k keys ih =>
    simp only [List.map_cons, extraKeyIssues, h k (List.mem_cons_self ..), Bool.false_eq_true,
      if_false, ih fun k' hk' => h k' (List.mem_cons_of_mem _ hk')]
    rfl

end Readers

end Json

end VirtualMocap
