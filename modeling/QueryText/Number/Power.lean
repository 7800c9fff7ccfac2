/-!
# QueryText — powers

The two bases of the number formats.
-/

namespace QueryText.Number

def twoTo (exponent : Nat) : Nat :=
  Nat.pow 2 exponent

def tenTo (exponent : Nat) : Nat :=
  Nat.pow 10 exponent

end QueryText.Number
