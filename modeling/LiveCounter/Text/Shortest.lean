/-!
# Shortest decimals

A finite binary floating-point number is written with the fewest digits that still round to it, and
with the digits nearest to it among those. The search runs over decimal grids from coarse to fine
in exact integer arithmetic; on each grid only the two neighbours of the number can round to it.
How the digits are laid out is a `Layout`, apart from the choice of the digits.
-/

namespace LiveCounter.Shortest

/-- A positive number `mantissa * 2 ^ exponent` with the set of reals that round to it. -/
structure Binary where
  mantissa : Nat
  exponent : Int
  /-- The number is the least of its binade, so its lower neighbour is half as far away. -/
  narrowBelow : Bool
  deriving Repr

/-- The sign and the magnitude of a finite double; `none` stands for zero. -/
def decode (value : Float) : Bool × Option Binary :=
  let bits := value.toBits.toNat
  let negative := 1 <<< 63 ≤ bits
  let biased := (bits >>> 52) % (1 <<< 11)
  let fraction := bits % (1 <<< 52)
  if biased = 0 then
    (negative, if fraction = 0 then none else some ⟨fraction, -1074, false⟩)
  else
    (negative, some ⟨(1 <<< 52) + fraction, Int.ofNat biased - 1075, fraction = 0 ∧ 1 < biased⟩)

/-- Digits without leading zero, to be multiplied by a power of ten. -/
structure Decimal where
  digits : Nat
  exponent : Int
  deriving Repr, DecidableEq

/-- The neighbour of the number on the grid of step `10 ^ step` that rounds to it, if there is
one. -/
def onGrid? (number : Binary) (step : Int) : Option Decimal :=
  let scale := Nat.pow 10 (-step).toNat <<< (number.exponent - 2).toNat
  let unit := Nat.pow 10 step.toNat <<< (2 - number.exponent).toNat
  let middle := 4 * number.mantissa * scale
  let low := (4 * number.mantissa - (if number.narrowBelow then 1 else 2)) * scale
  let high := (4 * number.mantissa + 2) * scale
  let inside (n : Nat) : Bool :=
    if number.mantissa % 2 = 0 then low ≤ n ∧ n ≤ high else low < n ∧ n < high
  let below := middle / unit
  let above := below + 1
  match inside (below * unit), inside (above * unit) with
  | true, false => some ⟨below, step⟩
  | false, true => some ⟨above, step⟩
  | false, false => none
  | true, true =>
    let toBelow := middle - below * unit
    let toAbove := above * unit - middle
    if toBelow < toAbove ∨ (toBelow = toAbove ∧ below % 2 = 0) then some ⟨below, step⟩
    else some ⟨above, step⟩

/-- The first grid with a hit, searched over `grids` steps downwards from `step`. -/
def search (number : Binary) : (grids : Nat) → (step : Int) → Decimal
  | 0, step => ⟨number.mantissa, step⟩
  | grids + 1, step => (onGrid? number step).getD (search number grids (step - 1))

/-- The shortest decimal that rounds to the number, and the nearest of those. -/
def shortest (number : Binary) : Decimal :=
  search number 700 330

/-- How digits and exponent become a text. -/
structure Layout where
  /-- The least and the greatest exponent of a leading digit that is written without `e`. -/
  fixedFrom : Int
  fixedTo : Int
  /-- Digits that the exponent has at least. -/
  exponentDigits : Nat

/-- Numbers from `1e-5` up to `1e16` are written positionally, the others with a signed exponent. -/
def jsonLayout : Layout := ⟨-5, 15, 2⟩

/-- The text of a positive decimal. -/
def Layout.write (layout : Layout) (number : Decimal) : String :=
  let digits := (toString number.digits).toList
  let leading : Int := number.exponent + digits.length - 1
  if layout.fixedFrom ≤ leading ∧ leading ≤ layout.fixedTo then
    if leading < 0 then
      "0." ++ String.ofList (List.replicate (-leading - 1).toNat '0' ++ digits)
    else if 0 ≤ number.exponent then
      String.ofList (digits ++ List.replicate number.exponent.toNat '0') ++ ".0"
    else
      let whole := (leading + 1).toNat
      String.ofList (digits.take whole) ++ "." ++ String.ofList (digits.drop whole)
  else
    let tail := match digits with
      | [] => ""
      | [c] => String.singleton c
      | c :: rest => String.singleton c ++ "." ++ String.ofList rest
    let power := toString leading.natAbs
    let zeros := String.ofList (List.replicate (layout.exponentDigits - power.length) '0')
    tail ++ "e" ++ (if leading < 0 then "-" else "+") ++ zeros ++ power

/-- The text of a finite double. -/
def text (value : Float) : String :=
  let (negative, magnitude) := decode value
  (if negative then "-" else "") ++
    match magnitude with
    | none => "0.0"
    | some number => jsonLayout.write (shortest number)

end LiveCounter.Shortest
