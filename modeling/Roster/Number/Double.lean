import Roster.Number.Power

/-! # Finite double-precision numbers

A finite binary64 number is `± sig · 2 ^ exp` with at most 53 significant bits:
`sig` is below 9007199254740992, which is `2 ^ 53`.
The normal form makes the representation of every number unique, zero having
one representation for each sign. All arithmetic below is exact arithmetic on
integers followed by one rounding to the nearest number, ties to even.
-/
namespace Roster

/-- A finite binary64 number in normal form. -/
structure Double where
  neg : Bool
  sig : Nat
  exp : Int
  sig_lt : sig < 9007199254740992
  exp_ge : -1074 ≤ exp
  exp_le : exp ≤ 971
  normal : 4503599627370496 ≤ sig ∨ exp = -1074
  deriving DecidableEq

namespace Double

/-- The number with these parts, if they are in normal form. -/
def ofParts? (neg : Bool) (sig : Nat) (exp : Int) : Option Double :=
  if h : sig < 9007199254740992 ∧ -1074 ≤ exp ∧ exp ≤ 971 ∧
      (4503599627370496 ≤ sig ∨ exp = -1074) then
    some ⟨neg, sig, exp, h.1, h.2.1, h.2.2.1, h.2.2.2⟩
  else none

/-- Zero with the given sign. -/
def zero (neg : Bool) : Double :=
  ⟨neg, 0, -1074, by decide, by decide, by decide, .inr rfl⟩

instance : Inhabited Double := ⟨zero false⟩

def isZero (d : Double) : Bool :=
  d.sig == 0

/-- The value as a multiple of `2 ^ (-1074)`, the least positive number. -/
def units (d : Double) : Int :=
  let m : Int := d.sig * twoTo (d.exp + 1074).toNat
  if d.neg then -m else m

/-- `num / den`, divided by `2 ^ exp`, as a quotient of natural numbers. -/
def scaleBy (num den : Nat) (exp : Int) : Nat × Nat :=
  (num * twoTo (-exp).toNat, den * twoTo exp.toNat)

/-- The integer nearest to `num / den`, the even one of two that are equally near. -/
def roundHalfEven (num den : Nat) : Nat :=
  let q := num / den
  let r := num % den
  if 2 * r > den || (2 * r == den && q % 2 == 1) then q + 1 else q

/-- The number nearest to `± num / den`, ties to even; `none` when that is beyond the largest
finite number. -/
def ofRatio (neg : Bool) (num den : Nat) : Option Double :=
  if num = 0 then some (zero neg)
  else
    let guess : Int := max (-1074) ((num.log2 : Int) - den.log2 - 53)
    let s := scaleBy num den guess
    let exp := if s.1 / s.2 < 9007199254740992 then guess else guess + 1
    let t := scaleBy num den exp
    let sig := roundHalfEven t.1 t.2
    if sig = 9007199254740992 then ofParts? neg 4503599627370496 (exp + 1) else ofParts? neg sig exp

/-- The number nearest to `± digits · 10 ^ exp10`, ties to even. -/
def ofDecimal (neg : Bool) (digits : Nat) (exp10 : Int) : Option Double :=
  if digits = 0 then some (zero neg)
  else
    let width : Int := (Nat.toDigits 10 digits).length
    if width + exp10 > 310 then none
    else if width + exp10 < -330 then some (zero neg)
    else ofRatio neg (digits * tenTo exp10.toNat) (tenTo (-exp10).toNat)

/-- The number nearest to an integer; the integers of 64 bits never exceed the finite range. -/
def ofInt (z : Int) : Double :=
  (ofRatio (z < 0) z.natAbs 1).getD (zero false)

/-- The rounded product, `none` when it is beyond the finite range. -/
def mul (a b : Double) : Option Double :=
  let e := a.exp + b.exp
  let s := scaleBy (a.sig * b.sig) 1 (-e)
  ofRatio (a.neg != b.neg) s.1 s.2

/-- The rounded quotient, `none` for a divisor zero or when it is beyond the finite range. -/
def div (a b : Double) : Option Double :=
  if b.sig = 0 then none
  else
    let s := scaleBy a.sig b.sig (b.exp - a.exp)
    ofRatio (a.neg != b.neg) s.1 s.2

def negate (d : Double) : Double :=
  { d with neg := !d.neg }

/-- Whether `a` is less than `b`; the two zeros are equal. -/
def lt (a b : Double) : Bool :=
  a.units < b.units

/-- Whether two numbers have the same value; the two zeros have. -/
def sameValue (a b : Double) : Bool :=
  a.units == b.units

/-- The value, if it is an integer. -/
def toInt? (d : Double) : Option Int :=
  let one : Int := twoTo 1074
  if d.units % one = 0 then some (d.units / one) else none

end Double

end Roster
