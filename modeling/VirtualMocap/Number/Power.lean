/-!
# Powers of two and ten

Binary formats, words and time tags scale by powers of two, decimal numbers by powers of
ten. `twoPow k` is `2^k` and `tenPow k` is `10^k` on the naturals, computed by `Nat.pow`;
every use in the library goes through these two, so every statement about scaling is a
statement about one function.
-/

namespace VirtualMocap

def twoPow (k : Nat) : Nat := Nat.pow 2 k

def tenPow (k : Nat) : Nat := Nat.pow 10 k

end VirtualMocap
