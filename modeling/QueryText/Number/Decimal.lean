/-!
# QueryText — decimal numbers

A decimal number is a string of digits and a power of ten. Its text is positional, with as many
zeros as the power needs, or scientific, with one digit before the point.
-/

namespace QueryText.Number

/-- The number `digits * 10 ^ exponent`. -/
structure Decimal where
  digits : Nat
  exponent : Int
  deriving DecidableEq, Repr, Inhabited

def zeros (count : Nat) : String :=
  String.ofList (List.replicate count '0')

/-- A number with zeros before it up to a width. -/
def padded (width number : Nat) : String :=
  zeros (width - (toString number).length) ++ toString number

namespace Decimal

/-- The power of ten of the first digit. -/
def leadingExponent (d : Decimal) : Int :=
  (toString d.digits).length - 1 + d.exponent

/-- The digits with a point before the last `places` of them, and at least one digit before it. -/
def pointed (digits places : Nat) : String :=
  let text := (padded (places + 1) digits).toList
  if places = 0 then String.ofList text
  else
    String.ofList (text.take (text.length - places)) ++ "." ++
      String.ofList (text.drop (text.length - places))

/-- The positional text. -/
def positional (d : Decimal) : String :=
  if d.exponent < 0 then pointed d.digits (-d.exponent).toNat
  else toString d.digits ++ zeros d.exponent.toNat

/-- The scientific text, with the sign of the exponent always written. -/
def scientific (d : Decimal) : String :=
  let exponent := d.leadingExponent
  pointed d.digits ((toString d.digits).length - 1) ++ "e" ++
    (if exponent < 0 then "-" else "+") ++ toString exponent.natAbs

end Decimal

end QueryText.Number
