import QueryText.Number.Binary
import QueryText.Number.Decimal

/-!
# QueryText — shortest decimal text

Of all decimal numbers that round to a given binary one, the shortest have the fewest digits, and
of those the nearest is taken. The search goes through decimal grids from the coarsest to the
finest and looks at the two neighbours of the number on each grid; the first grid with a hit has
the shortest numbers, because a grid point that rounds to the number can only be one of its two
neighbours or lie beyond one of them.
-/

namespace QueryText.Number

/-- Which of two equally near decimals is taken. -/
inductive Tie where
  | up
  | toEven
  deriving DecidableEq, Repr

namespace Magnitude

/-- Whether a number of quarter units is among the reals that round to the magnitude. Its ends
belong to the interval when the mantissa is even. The number is given as a fraction. -/
def admits (m : Magnitude) (num den : Nat) : Bool :=
  let low := 4 * m.mantissa - (if m.closerBelow then 1 else 2)
  let high := 4 * m.mantissa + 2
  if m.mantissa % 2 = 0 then low * den ≤ num && num ≤ high * den
  else low * den < num && num < high * den

/-- The neighbour on the grid of the multiples of `10 ^ grid` that rounds to the magnitude; the
nearer one if both do. -/
def neighbour? (m : Magnitude) (tie : Tie) (grid : Int) : Option Nat :=
  -- A quarter of the mantissa's last place and a step of the grid, over one denominator.
  let unit := twoTo m.exponent.toNat * tenTo (-grid).toNat
  let step := 4 * twoTo (-m.exponent).toNat * tenTo grid.toNat
  let value := 4 * m.mantissa * unit
  let below := value / step
  match m.admits (below * step) unit, m.admits ((below + 1) * step) unit with
  | false, false => none
  | true, false => some below
  | false, true => some (below + 1)
  | true, true =>
    -- Both round to the magnitude, so their middle decides.
    if 2 * value < (2 * below + 1) * step then some below
    else if (2 * below + 1) * step < 2 * value then some (below + 1)
    else
      match tie with
      | .up => some (below + 1)
      | .toEven => some (if below % 2 = 0 then below else below + 1)

/-- A grid that is too coarse for the magnitude: the bound of its binary logarithm, turned into
a bound of the decimal one. -/
def coarsestGrid (m : Magnitude) : Int :=
  (m.mantissa.log2 + 1 + m.exponent) * 30103 / 100000 + 1

/-- The number of grids to try: seventeen digits tell any two numbers of the formats apart. -/
def gridCount : Nat := 20

/-- The shortest decimal that rounds to the magnitude. -/
def shortest (m : Magnitude) (tie : Tie) : Decimal :=
  ((List.range gridCount).findSome? fun (i : Nat) =>
    (m.neighbour? tie (m.coarsestGrid - i)).map fun digits => ⟨digits, m.coarsestGrid - i⟩).getD
    ⟨m.mantissa, 0⟩

end Magnitude

end QueryText.Number
