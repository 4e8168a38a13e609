/-!
# Texts of code points

A text is a sequence of code points: Unicode scalars, or unpaired UTF-16 surrogates, which
escaped input may name. No `Char` is a surrogate, so a `String` holds the surrogate `u`
as the private-use character `u + 0xF0000`, behind an escape character where a scalar of
that range is meant (`CodePoint.held`). `codePoints` reads the held code points back
(`codePointsOf_held`); `hold` and `release` cross to and from plain characters.
-/

namespace VirtualMocap

namespace Text

/-- A code point of a text: a Unicode scalar value, or an unpaired surrogate. -/
inductive CodePoint where
  | scalar (c : Char)
  | surrogate (u : Nat)
  deriving DecidableEq, Repr

def isSurrogate (n : Nat) : Bool := 0xD800 ≤ n && n < 0xE000

/-- The code point with a number: a surrogate, or the scalar (a number beyond the
scalars reads as the null character). -/
def CodePoint.ofNat (n : Nat) : CodePoint :=
  if isSurrogate n then .surrogate n else .scalar (Char.ofNat n)

def CodePoint.toNat : CodePoint → Nat
  | .scalar c => c.toNat
  | .surrogate u => u

def CodePoint.isSurrogate : CodePoint → Bool
  | .scalar _ => false
  | .surrogate _ => true

def standInOffset : Nat := 0xF0000

/-- The escape character, which marks a scalar held as itself where a stand-in could be
read. -/
def escapeChar : Char := Char.ofNat 0xFD7FF

def isStandIn (c : Char) : Bool := 0xFD800 ≤ c.toNat && c.toNat ≤ 0xFDFFF

def needsEscape (c : Char) : Bool := isStandIn c || c == escapeChar

/-- The characters that hold a code point. -/
def CodePoint.held : CodePoint → List Char
  | .scalar c => if needsEscape c then [escapeChar, c] else [c]
  | .surrogate u => [Char.ofNat (u + standInOffset)]

def codePointsOf : List Char → List CodePoint
  | [] => []
  | c :: rest =>
    if c == escapeChar then
      match rest with
      | d :: more => .scalar d :: codePointsOf more
      | [] => [.scalar c]
    else if isStandIn c then .surrogate (c.toNat - standInOffset) :: codePointsOf rest
    else .scalar c :: codePointsOf rest

/-- The code points of a held text. -/
def codePoints (s : String) : List CodePoint := codePointsOf s.toList

def ofCodePoints (ps : List CodePoint) : String := String.ofList (ps.flatMap CodePoint.held)

/-- Hold plain characters as a text. -/
def hold (s : String) : String := ofCodePoints (s.toList.map .scalar)

/-- The characters of a held text for the outside: its scalars, and the stand-in of
each surrogate, which has no character of its own. -/
def release (s : String) : String :=
  String.ofList ((codePoints s).map fun
    | .scalar c => c
    | .surrogate u => Char.ofNat (u + standInOffset))

def hasSurrogate (s : String) : Bool := (codePoints s).any CodePoint.isSurrogate

theorem toNat_charOfNat (n : Nat) (h : n.isValidChar) : (Char.ofNat n).toNat = n := by
  rw [Char.ofNat, dif_pos h]
  rfl

/-- Reading back held characters gives the code points held. -/
theorem codePointsOf_held (p : CodePoint) (rest : List Char)
    (hp : ∀ u, p = .surrogate u → isSurrogate u = true) :
    codePointsOf (p.held ++ rest) = p :: codePointsOf rest := by
  cases p with
  | scalar c =>
    by_cases h : needsEscape c = true
    · simp only [CodePoint.held, h, if_true, List.cons_append, List.nil_append]
      rw [codePointsOf.eq_def]
      simp
    · have hs : isStandIn c = false := by
        simp only [needsEscape, Bool.or_eq_true, not_or] at h
        simpa using h.1
      have he : (c == escapeChar) = false := by
        simp only [needsEscape, Bool.or_eq_true, not_or] at h
        simpa using h.2
      simp only [CodePoint.held, h, Bool.false_eq_true, if_false, List.cons_append,
        List.nil_append]
      rw [codePointsOf.eq_def]
      simp [he, hs]
  | surrogate u =>
    have hu := hp u rfl
    simp only [isSurrogate, Bool.and_eq_true, decide_eq_true_eq] at hu
    have hn : (Char.ofNat (u + standInOffset)).toNat = u + standInOffset := by
      apply toNat_charOfNat
      simp only [Nat.isValidChar, standInOffset]
      omega
    have hne : (Char.ofNat (u + standInOffset) == escapeChar) = false := by
      apply beq_false_of_ne
      intro h
      have := congrArg Char.toNat h
      rw [hn, escapeChar, toNat_charOfNat _ (by simp [Nat.isValidChar])] at this
      simp only [standInOffset] at this
      omega
    have hst : isStandIn (Char.ofNat (u + standInOffset)) = true := by
      simp only [isStandIn, hn, Bool.and_eq_true, decide_eq_true_eq]
      simp only [standInOffset]
      omega
    simp only [CodePoint.held, List.cons_append, List.nil_append]
    rw [codePointsOf.eq_def]
    simp only [hne, hst, Bool.false_eq_true, if_false, if_true, hn]
    simp

end Text

end VirtualMocap
