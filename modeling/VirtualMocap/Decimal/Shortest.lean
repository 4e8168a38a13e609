import VirtualMocap.Number.Binary64

/-!
# Shortest decimal digits

The shortest decimal in a double's rounding interval is found grid by grid: for `k`
significant digits only the two neighbours of the value on the `k`-digit grid can lie in
the interval, the nearer winning and a tie going to the even one. Seventeen digits always
suffice, and every comparison is an exact product of naturals.
-/

namespace VirtualMocap

namespace Decimal

def compareScaled (a : Nat) (e : Int) (b : Nat) (f : Int) : Ordering :=
  compare (a * tenPow e.toNat * twoPow (-f).toNat) (b * twoPow f.toNat * tenPow (-e).toNat)

/-- The rounding interval of `m · 2^q`, scaled by `2^(q-2)`: the lower end, the value
and the upper end, and whether the ends belong to it. The lower neighbour is closer
when `m` is the smallest normal significand of a binade above the first. -/
structure Interval where
  low : Nat
  value : Nat
  high : Nat
  closed : Bool

/-- The rounding interval of a positive finite double with significand `m` and
exponent `q`. -/
def Interval.of (m : Nat) (q : Int) : Interval :=
  let closerBelow := m = twoPow 52 ∧ q > -1074
  { low := 4 * m - (if closerBelow then 1 else 2)
    value := 4 * m
    high := 4 * m + 2
    closed := m % 2 = 0 }

def Interval.contains (I : Interval) (q : Int) (c : Nat) (e : Int) : Bool :=
  let above := compareScaled c e I.low (q - 2)
  let below := compareScaled c e I.high (q - 2)
  (above == .gt || (I.closed && above == .eq)) && (below == .lt || (I.closed && below == .eq))

/-- `⌊log₁₀ (m · 2^q)⌋` for positive `m`: an estimate from the bit length, corrected by
one step either way. -/
def floorLog10 (m : Nat) (q : Int) : Int :=
  let guess := Int.fdiv (((m.log2 : Int) + q) * 30103) 100000
  if compareScaled 1 (guess + 1) m q != .gt then guess + 1
  else if compareScaled 1 guess m q == .gt then guess - 1
  else guess

/-- The two decimals with `k` significant digits around `m · 2^q`, where `n` is
`⌊log₁₀ (m · 2^q)⌋`: the one below or equal, and the next one up, with their exponent. -/
def neighbours (m : Nat) (q : Int) (n : Int) (k : Nat) : Nat × Nat × Int :=
  let e := n - k + 1
  let below := m * twoPow q.toNat * tenPow (-e).toNat / (twoPow (-q).toNat * tenPow e.toNat)
  (below, below + 1, e)

/-- Try grids of `k`, `k + 1`, … significant digits, `fuel` of them at most. -/
def search (m : Nat) (q : Int) (I : Interval) (n : Int) : Nat → Nat → Option (Nat × Int)
  | 0, _ => none
  | fuel + 1, k =>
    let (lo, hi, e) := neighbours m q n k
    match I.contains q lo e, I.contains q hi e with
    | true, true =>
      -- the midpoint `(2·lo + 1) · 10^e / 2` against the value
      match compareScaled (2 * lo + 1) e (2 * I.value) (q - 2) with
      | .gt => some (lo, e)
      | .lt => some (hi, e)
      | .eq => some (if lo % 2 = 0 then lo else hi, e)
    | true, false => some (lo, e)
    | false, true => some (hi, e)
    | false, false => search m q I n fuel (k + 1)

def trimZeros : Nat → Nat → Int → Nat × Int
  | 0, c, e => (c, e)
  | fuel + 1, c, e => if c ≠ 0 ∧ c % 10 = 0 then trimZeros fuel (c / 10) (e + 1) else (c, e)

/-- The shortest decimal `c · 10^e` that reads back as the positive double `m · 2^q`,
the nearest of those if several, without trailing zeros in `c`. -/
def shortest (m : Nat) (q : Int) : Nat × Int :=
  let n := floorLog10 m q
  match search m q (Interval.of m q) n 17 1 with
  | some (c, e) => trimZeros 20 c e
  | none => trimZeros 20 m 0

end Decimal

end VirtualMocap
