import Enforcement.Decimal.Binary64

/-! The fewest decimal digits that single out a binary fraction. -/

namespace Enforcement.Decimal

/-- The number `0.d₁d₂…dₙ * 10 ^ point`, where `d₁…dₙ` are the decimal digits of `digits`. -/
structure Scientific where
  digits : List Char
  point : Int
  deriving DecidableEq, Repr

def tenExponent (numerator denominator : Nat) : Int :=
  let guess : Int := (Nat.toDigits 10 numerator).length - (Nat.toDigits 10 denominator).length
  if atLeast guess then guess else guess - 1
where
  atLeast (power : Int) : Bool :=
    if 0 ≤ power then denominator * Nat.pow 10 power.toNat ≤ numerator
    else denominator ≤ numerator * Nat.pow 10 (-power).toNat

/--
Whether `count * 10 ^ power` lies among the reals that round to the value: between the midpoints
to its neighbours, and on a midpoint only when the mantissa is even.
-/
def roundsTo (value : Binary64) (count : Nat) (power : Int) : Bool :=
  let tens := if 0 ≤ power then Nat.pow 10 power.toNat else 1
  let tenths := if 0 ≤ power then 1 else Nat.pow 10 (-power).toNat
  let twos := if 0 ≤ value.exponent then Nat.pow 2 value.exponent.toNat else 1
  let halves := if 0 ≤ value.exponent then 1 else Nat.pow 2 (-value.exponent).toNat
  let candidate := 4 * count * tens * halves
  let low := if value.mantissa = Nat.pow 2 52 && Binary64.leastExponent < value.exponent
    then 4 * value.mantissa - 1 else 4 * value.mantissa - 2
  let below := low * twos * tenths
  let above := (4 * value.mantissa + 2) * twos * tenths
  if value.mantissa % 2 = 0 then below ≤ candidate && candidate ≤ above
  else below < candidate && candidate < above

/-- The multiple of `10 ^ power` nearest to the value among the two around it that read back. -/
def onGrid (value : Binary64) (power : Int) : Option Nat :=
  let (numerator, denominator) := value.fraction
  let (top, bottom) :=
    if 0 ≤ power then (numerator, denominator * Nat.pow 10 power.toNat)
    else (numerator * Nat.pow 10 (-power).toNat, denominator)
  let below := top / bottom
  let nearer := Binary64.roundHalfEven top bottom
  if roundsTo value nearer power then some nearer
  else if roundsTo value below power then some below
  else if roundsTo value (below + 1) power then some (below + 1)
  else none

private def searchDigits (value : Binary64) (ten : Int) : Nat → Nat → Nat × Int
  | 0, count => (value.mantissa, ten - count)
  | steps + 1, count =>
    let power := ten + 1 - count
    match onGrid value power with
    | some multiple => (multiple, power)
    | none => searchDigits value ten steps (count + 1)

private def dropZeros (digits : List Char) : List Char :=
  (digits.reverse.dropWhile (· == '0')).reverse

/-- The shortest digits of a value that is not zero; seventeen always suffice. -/
def shortest (value : Binary64) : Scientific :=
  let (numerator, denominator) := value.fraction
  let (multiple, power) := searchDigits value (tenExponent numerator denominator) 17 1
  let digits := Nat.toDigits 10 multiple
  ⟨dropZeros digits, power + digits.length⟩

theorem shortest_digits (value : Binary64) {c : Char} (member : c ∈ (shortest value).digits) :
    c.isDigit = true := by
  have kept := List.mem_reverse.mp member
  exact Nat.isDigit_of_mem_toDigits (by decide) (by decide)
    (List.mem_reverse.mp ((List.dropWhile_sublist _).subset kept))

end Enforcement.Decimal
