import QueryText.Number.Power

/-!
# QueryText — binary floating point numbers

A floating point number is given by its bits. Reading them gives an exact value: a whole mantissa
times a power of two.
-/

namespace QueryText.Number

/-- A format of floating point numbers: one sign bit, then the exponent, then the fraction. -/
structure BinaryFormat where
  exponentBits : Nat
  fractionBits : Nat
  deriving DecidableEq, Repr

def binary32 : BinaryFormat := ⟨8, 23⟩

def binary64 : BinaryFormat := ⟨11, 52⟩

/-- The positive number `mantissa * 2 ^ exponent`, with what is needed to tell which reals round
to it. -/
structure Magnitude where
  mantissa : Nat
  exponent : Int
  /-- Whether the number below is half as far away as the number above. -/
  closerBelow : Bool
  deriving DecidableEq, Repr

/-- What the bits of a floating point number stand for. -/
inductive Binary where
  | nan
  | infinite (negative : Bool)
  | zero (negative : Bool)
  | finite (negative : Bool) (magnitude : Magnitude)
  deriving DecidableEq, Repr

namespace BinaryFormat

/-- The greatest value of the exponent field, which marks infinities and NaN. -/
def exponentMax (format : BinaryFormat) : Nat :=
  twoTo format.exponentBits - 1

/-- The power of two by which the mantissas of the smallest numbers are scaled. -/
def exponentMin (format : BinaryFormat) : Int :=
  2 - twoTo (format.exponentBits - 1) - format.fractionBits

/-- Reads bits. -/
def read (format : BinaryFormat) (bits : Nat) : Binary :=
  let fraction := bits % twoTo format.fractionBits
  let field := bits / twoTo format.fractionBits % twoTo format.exponentBits
  let negative := bits / twoTo (format.fractionBits + format.exponentBits) % 2 == 1
  if field = format.exponentMax then
    if fraction = 0 then .infinite negative else .nan
  else if field = 0 then
    if fraction = 0 then .zero negative
    else .finite negative ⟨fraction, format.exponentMin, false⟩
  else
    .finite negative
      ⟨twoTo format.fractionBits + fraction, format.exponentMin + (field - 1),
        fraction = 0 ∧ 1 < field⟩

end BinaryFormat

end QueryText.Number
