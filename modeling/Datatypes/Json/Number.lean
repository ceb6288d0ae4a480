import Datatypes.Decimal.Binary64

/-! # Numbers in JSON

A numeral is a number as it is written. It stands for an integer if it has neither
a fraction nor an exponent and fits 64 bits, with or without a sign; otherwise it
stands for a binary64 number, unless it is too large for one.
-/

namespace Datatypes.Json

/-- A number as it is written; digits are given by their values. -/
structure Numeral where
  negative : Bool := false
  whole : List Nat
  fraction : List Nat := []
  exponent? : Option Int := none

inductive Number where
  /-- An integer that fits 64 bits: signed ones are negative. -/
  | integer (value : Int)
  /-- A binary64 number, zero with either sign. -/
  | float (negative : Bool) (magnitude : Nat)
deriving DecidableEq

namespace Numeral

/-- The first number that does not fit 64 bits. -/
def wordBound : Nat := 0x10000000000000000

/-- The leading digits of a numeral, as far as they fit 64 bits together. -/
structure Leading where
  significand : Nat
  /-- The power of ten that the significand is to be multiplied by. -/
  exponent : Int
  /-- No further digit has been left out. -/
  exact : Bool

/-- Takes in a digit before the point. Once a digit has been left out, those behind it
are left out as well and count as zeros. -/
def Leading.addWhole (l : Leading) (digit : Nat) : Leading :=
  let significand := 10 * l.significand + digit
  if l.exact ∧ significand < wordBound then { l with significand }
  else { l with exponent := l.exponent + 1, exact := false }

/-- Takes in a digit behind the point, unless one has been left out. -/
def Leading.addFraction (l : Leading) (digit : Nat) : Leading :=
  let significand := 10 * l.significand + digit
  if l.exact ∧ significand < wordBound then
    { l with significand, exponent := l.exponent - 1 }
  else { l with exact := false }

def leading (n : Numeral) : Leading :=
  let whole := n.whole.foldl Leading.addWhole ⟨0, 0, true⟩
  let all := n.fraction.foldl Leading.addFraction { whole with exact := true }
  { all with exponent := all.exponent + n.exponent?.getD 0 }

/-- The integer that a numeral stands for. Zero with a sign is not one. -/
def integer? (n : Numeral) : Option Int :=
  if n.fraction = [] ∧ n.exponent? = none then
    let value := n.whole.foldl (fun value digit => 10 * value + digit) 0
    if n.negative then
      if 0 < value ∧ value ≤ wordBound / 2 then some (-value) else none
    else
      if value < wordBound then some value else none
  else none

/-- The number that a numeral stands for, unless it is out of range. -/
def number? (n : Numeral) : Option Number :=
  match n.integer? with
  | some value => some (.integer value)
  | none =>
      (Binary64.ofScientific? n.leading.significand n.leading.exponent).map
        (Number.float n.negative)

end Numeral

namespace Number

def digits (n : Nat) : List Char :=
  Nat.toDigits 10 n

def sign (negative : Bool) : List Char :=
  if negative then ['-'] else []

/-- Digits with the point behind the first `pointAt` of them, which may lie before the
first digit; zeros fill the gap. Without digits behind the point, `bare` follows. -/
def layOut (ds : List Char) (pointAt : Int) (bare : List Char) : List Char :=
  match pointAt with
  | .ofNat n =>
      if ds.length ≤ n then ds ++ List.replicate (n - ds.length) '0' ++ bare
      else if n = 0 then '0' :: '.' :: ds
      else ds.take n ++ '.' :: ds.drop n
  | .negSucc n => '0' :: '.' :: (List.replicate (n + 1) '0' ++ ds)

/-- An exponent of ten, with its sign. -/
def exponentText : Int → List Char
  | .ofNat n => '+' :: digits n
  | .negSucc n => '-' :: digits (n + 1)

/-- A binary64 number without an exponent, however many digits that takes. A whole
number has no point. Of two shortest decimals that are equally near, the greater one
is written. -/
def positionalText (negative : Bool) (magnitude : Nat) : String :=
  let d := Binary64.shortest .up magnitude
  let ds := digits d.digits
  String.ofList (sign negative ++ layOut ds (ds.length + d.exponent) [])

/-- A binary64 number with an exponent if it is at least 10¹⁶ or less than 10⁻⁵; a whole
number otherwise ends in a point and a zero. Of two shortest decimals that are equally
near, the even one is written. -/
def scientificText (negative : Bool) (magnitude : Nat) : String :=
  let d := Binary64.shortest .even magnitude
  let ds := digits d.digits
  let pointAt : Int := ds.length + d.exponent
  let text :=
    if -5 < pointAt ∧ pointAt ≤ 16 then layOut ds pointAt ['.', '0']
    else
      let mantissa := if ds.length = 1 then ds else ds.take 1 ++ '.' :: ds.drop 1
      mantissa ++ 'e' :: exponentText (pointAt - 1)
  String.ofList (sign negative ++ text)

end Number

end Datatypes.Json
