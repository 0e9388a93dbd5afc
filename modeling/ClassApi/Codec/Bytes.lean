/-!
# Bytes of naturals

A natural is written as bytes of falling significance; what does not fit into their number is
dropped.
-/

namespace ClassApi

/-- The big-endian bytes of a natural, as many as asked for. -/
def bigEndianBytes : Nat → Nat → List UInt8
  | 0, _ => []
  | width + 1, n => UInt8.ofNat (n / Nat.pow 256 width) :: bigEndianBytes width n

theorem bigEndianBytes_length (width n : Nat) : (bigEndianBytes width n).length = width := by
  induction width with
  | zero => rfl
  | succ width ih => simp [bigEndianBytes, ih]

end ClassApi
