/-!
# Binary64 numbers

Numbers without a sign are ordered as their bit patterns are, from zero to infinity, so that the nearest number to a
fraction is found with whole numbers only. All finite numbers are multiples of the least one above zero, which is 2 to
the power of -1074.

* `Binary64.toFloat`: the number of a pattern.
* `Binary64.nearest`: the pattern of the number that is nearest to a fraction.
-/

namespace PubSub.Text.Binary64

/-- The pattern of infinity. The patterns below it are those of the finite numbers without a sign. -/
def infinity : Nat := 0x7FF0000000000000

/-- A pattern of what is no number. -/
def notNumber : Nat := 0x7FF8000000000000

/-- The bit of the sign. -/
def sign : Nat := 0x8000000000000000

/-- The binary places that numbers have behind the point. -/
def places : Nat := 1074

/-- The number of a pattern. -/
def toFloat (pattern : Nat) : Float := Float.ofBits (UInt64.ofNat pattern)

/-- The whole number nearest to `n / d`; half-way between two, the even one. -/
def rounded (n d : Nat) : Nat :=
  if 2 * (n % d) < d then n / d
  else if d < 2 * (n % d) then n / d + 1
  else n / d + n / d % 2

/-- The pattern of the number nearest to `p / d`; half-way between two, the even pattern. The fraction is rounded behind
53 binary digits, or behind the last of its places. -/
def nearest (p d : Nat) : Nat :=
  let multiples := p <<< places
  let shift := (multiples / d).log2 - 52
  min infinity (shift <<< 52 + rounded multiples (d <<< shift))

end PubSub.Text.Binary64
