import QueryText.Number.Binary
import QueryText.Number.Decimal

/-!
# QueryText — from decimal to binary

The binary number nearest to a decimal one, a tie going to the even mantissa. A number too large
for the format has none.
-/

namespace QueryText.Number

/-- The nearest whole number to a fraction, a tie going to the even one. -/
def roundHalfEven (num den : Nat) : Nat :=
  let below := num / den
  let twice := 2 * (num % den)
  if twice < den then below
  else if den < twice then below + 1
  else if below % 2 = 0 then below else below + 1

/-- The greatest power of two that is not above a positive fraction. -/
def binaryLog (num den : Nat) : Int :=
  let guess : Int := num.log2 - den.log2
  if num * twoTo (-guess).toNat < den * twoTo guess.toNat then guess - 1 else guess

namespace BinaryFormat

/-- The bits, sign apart, of the number nearest to a positive fraction. The bits of a format are
in the order of its numbers, so a mantissa that rounds up to the next power of two carries into
the exponent. -/
def nearestBits (format : BinaryFormat) (num den : Nat) : Nat :=
  -- Below the normal numbers the exponent stays and the mantissa loses digits.
  let exponent := max (binaryLog num den - format.fractionBits) format.exponentMin
  let mantissa := roundHalfEven (num * twoTo (-exponent).toNat) (den * twoTo exponent.toNat)
  (exponent - format.exponentMin).toNat * twoTo format.fractionBits + mantissa

/-- The bits of infinity, sign apart. -/
def infinityBits (format : BinaryFormat) : Nat :=
  format.exponentMax * twoTo format.fractionBits

/-- The weight of the sign bit. -/
def signBit (format : BinaryFormat) : Nat :=
  twoTo (format.exponentBits + format.fractionBits)

/-- The bits of the number nearest to a decimal one, unless it is too large for the format. A
decimal whose first digit is far beyond the powers of ten of the format is settled by that. -/
def ofDecimal? (format : BinaryFormat) (negative : Bool) (d : Decimal) : Option Nat :=
  let sign := if negative then format.signBit else 0
  let reach : Int := twoTo format.exponentBits
  if d.digits = 0 then some sign
  -- Powers of ten this far out need not be computed.
  else if reach < d.leadingExponent then none
  else if d.leadingExponent < -reach then some sign
  else
    let bits :=
      format.nearestBits (d.digits * tenTo d.exponent.toNat) (tenTo (-d.exponent).toNat)
    if bits < format.infinityBits then some (sign + bits) else none

end BinaryFormat

end QueryText.Number
