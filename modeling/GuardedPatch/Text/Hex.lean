set_option autoImplicit false

/-! # Hexadecimal digits

Escape sequences of every notation read here give characters by hexadecimal digits of either case. -/

namespace GuardedPatch.Text

/-- The value of a hexadecimal digit of either case. -/
def hexValue? (c : Char) : Option Nat :=
  let n := c.toNat
  if 48 ≤ n ∧ n ≤ 57 then some (n - 48)
  else if 97 ≤ n ∧ n ≤ 102 then some (n - 87)
  else if 65 ≤ n ∧ n ≤ 70 then some (n - 55)
  else none

end GuardedPatch.Text
