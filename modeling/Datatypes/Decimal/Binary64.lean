/-! # Binary64 magnitudes

The finite, nonnegative binary64 numbers are the multiples of the smallest
positive one that have at most 53 significant bits. A magnitude is that multiple,
a natural number, so all arithmetic on them is exact up to one final rounding.
The shortest decimal of a magnitude is the one with the fewest digits that is
read back as the same magnitude. Where two of them are equally near, the format that
asks for the decimal decides which one it is.
-/

namespace Datatypes.Binary64

/-- The number 1, as a multiple of the smallest positive number. -/
def one : Nat := Nat.pow 2 1074

/-- The least magnitude that is out of range. -/
def infinity : Nat := Nat.pow 2 2098

/-- Where a quotient goes that lies halfway between two natural numbers. -/
inductive Halfway where
  | even
  | up
deriving DecidableEq

/-- The quotient, rounded to the nearest natural number. -/
def divNearest (halfway : Halfway) (dividend divisor : Nat) : Nat :=
  let quotient := dividend / divisor
  let rest := 2 * (dividend % divisor)
  if rest < divisor then quotient
  else if divisor < rest then quotient + 1
  else
    match halfway with
    | .even => quotient + quotient % 2
    | .up => quotient + 1

/-- The distance from a magnitude to the next one above it. -/
def spacing (magnitude : Nat) : Nat :=
  Nat.pow 2 (magnitude.log2 - 52)

/-- The magnitude nearest to a quotient, of two the one with an even significand. -/
def nearest (dividend divisor : Nat) : Nat :=
  let step := spacing (dividend / divisor)
  divNearest .even dividend (divisor * step) * step

def ofNat (n : Nat) : Nat :=
  nearest (n * one) 1

def mul (a b : Nat) : Nat :=
  nearest (a * b) one

def div (a b : Nat) : Nat :=
  nearest (a * one) b

def powerOfTen (exponent : Nat) : Nat :=
  Nat.pow 10 exponent

/-- The greatest power of ten that a magnitude is scaled by at once. -/
def maxPower : Nat := 308

/-- A magnitude divided by a power of ten. Powers beyond `maxPower` are taken in
several steps, each of them rounded. -/
def scaleDown (magnitude power : Nat) : Nat :=
  if power ≤ maxPower then div magnitude (ofNat (powerOfTen power))
  else if magnitude = 0 then 0
  else scaleDown (div magnitude (ofNat (powerOfTen maxPower))) (power - maxPower)
termination_by power
decreasing_by simp only [maxPower] at *; omega

/-- The magnitude of `significand · 10 ^ exponent`, if it is in range. The significand
and the power of ten are rounded before they are multiplied or divided. -/
def ofScientific? (significand : Nat) (exponent : Int) : Option Nat :=
  let magnitude := ofNat significand
  match exponent with
  | .ofNat power =>
      if magnitude = 0 then some 0
      else if power ≤ maxPower then
        let product := mul magnitude (ofNat (powerOfTen power))
        if product < infinity then some product else none
      else none
  | .negSucc power => some (scaleDown magnitude (power + 1))

/-- A decimal number, `digits · 10 ^ exponent`. -/
structure Scientific where
  digits : Nat
  exponent : Int
deriving DecidableEq

/-- Of the multiples of `10 ^ exponent` next to a magnitude, the nearer one that is read
back as it, if there is one. Both ends of the interval that is read back belong to
it if the magnitude has an even significand. -/
def onGrid? (halfway : Halfway) (magnitude : Nat) (exponent : Int) : Option Scientific :=
  let step := spacing magnitude
  let scale := powerOfTen (-exponent).toNat
  let unit := 4 * one * powerOfTen exponent.toNat
  let below := if magnitude = Nat.pow 2 magnitude.log2 ∧ 1 < step then step else 2 * step
  let low := (4 * magnitude - below) * scale
  let high := (4 * magnitude + 2 * step) * scale
  let isHit (n : Nat) : Bool :=
    if (magnitude / step) % 2 = 0 then low ≤ n * unit && n * unit ≤ high
    else low < n * unit && n * unit < high
  let floor := 4 * magnitude * scale / unit
  let nearer := divNearest halfway (4 * magnitude * scale) unit
  if isHit nearer then some ⟨nearer, exponent⟩
  else if isHit floor then some ⟨floor, exponent⟩
  else if isHit (floor + 1) then some ⟨floor + 1, exponent⟩
  else none

/-- An exponent of ten whose power is above the magnitude. -/
def aboveExponent (magnitude : Nat) : Int :=
  (((magnitude.log2 : Int) - 1073) * 30103).fdiv 100000 + 2

/-- A decimal without zeros at its end. -/
def Scientific.trim (d : Scientific) : Scientific :=
  if d.digits ≠ 0 ∧ d.digits % 10 = 0 then trim ⟨d.digits / 10, d.exponent + 1⟩ else d
termination_by d.digits
decreasing_by omega

/-- The shortest decimal of a magnitude: the coarsest grid of powers of ten with a hit
is taken. Twenty grids are enough, since seventeen digits always tell magnitudes apart. -/
def shortest (halfway : Halfway) (magnitude : Nat) : Scientific :=
  if magnitude = 0 then ⟨0, 0⟩
  else
    let grids := (List.range 20).map fun (n : Nat) => aboveExponent magnitude - 1 - n
    ((grids.findSome? (onGrid? halfway magnitude)).getD ⟨magnitude, 0⟩).trim

end Datatypes.Binary64
