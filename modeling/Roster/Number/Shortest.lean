import Roster.Number.Double

/-! # The shortest decimal text of a double

Of all decimals that round to a given number, the shortest text takes one with
the fewest digits, and among those the one nearest to the number. The search
walks from coarse decimal grids to finer ones and stops at the first grid that
has a point in the interval of reals rounding to the number.
-/
namespace Roster.Double

/-- The interval of reals that round to a number, in units of a quarter of its last place. -/
structure Interval where
  low : Nat
  mid : Nat
  high : Nat
  /-- Whether the ends round to the number as well. -/
  closed : Bool

/-- The rounding interval of the absolute value of a number. -/
def interval (d : Double) : Interval :=
  let below := if d.sig = 4503599627370496 ∧ d.exp ≠ -1074 then 1 else 2
  ⟨4 * d.sig - below, 4 * d.sig, 4 * d.sig + 2, d.sig % 2 == 0⟩

/-- The point of the grid `10 ^ p` nearest to the absolute value of a number, if one of the
grid lies in the rounding interval. -/
def gridPoint (d : Double) (p : Int) : Option Nat :=
  let i := d.interval
  let q := d.exp - 2
  let unit := twoTo q.toNat * tenTo (-p).toNat
  let step := tenTo p.toNat * twoTo (-q).toNat
  let low := i.low * unit
  let mid := i.mid * unit
  let high := i.high * unit
  let fits (c : Nat) : Bool :=
    if i.closed then low ≤ c * step && c * step ≤ high else low < c * step && c * step < high
  let c := mid / step
  let under := mid - c * step
  let beyond := (c + 1) * step - mid
  match fits c && c != 0, fits (c + 1) with
  | true, true => some (if under < beyond || (under == beyond && c % 2 == 0) then c else c + 1)
  | true, false => some c
  | false, true => some (c + 1)
  | false, false => none

/-- The first grid, from `10 ^ p` on to finer ones, with a point in the rounding interval. -/
def searchGrid (d : Double) : Nat → Int → Nat × Int
  | 0, p => (0, p)
  | fuel + 1, p =>
    match d.gridPoint p with
    | some c => (c, p)
    | none => searchGrid d fuel (p - 1)

/-- The digits and the power of ten of the shortest decimal that rounds to a number other
than zero. -/
def shortest (d : Double) : Nat × Int :=
  let top : Int := ((d.sig.log2 : Int) + 1 + d.exp) * 30103 / 100000 + 2
  searchGrid d 24 top

/-- The shortest digits, without trailing zeros, and the place of the point counted from their
left end. -/
def digits (d : Double) : List Char × Int :=
  if d.sig = 0 then (['0'], 1)
  else
    let (c, p) := d.shortest
    let ds := Nat.toDigits 10 c
    let kept := (ds.reverse.dropWhile (· == '0')).reverse
    (kept, p + ds.length)

/-- How a number is written: where exponents begin and how they look. -/
structure Layout where
  /-- A plus sign before the exponents that are not negative. -/
  plus : Bool
  /-- Exponents are used outside the decimal exponents from `-5` to `15`. -/
  exponents : Bool
  /-- Integers end in `.0`. -/
  point : Bool

/-- The text with all digits written out, `point` places of them before the point. -/
def positional (ds : List Char) (place : Int) (tail : Bool) : List Char :=
  let n : Int := ds.length
  if place ≤ 0 then '0' :: '.' :: (List.replicate (-place).toNat '0' ++ ds)
  else if n ≤ place then
    ds ++ List.replicate (place - n).toNat '0' ++ (if tail then ['.', '0'] else [])
  else ds.take place.toNat ++ '.' :: ds.drop place.toNat

/-- The text with one digit before the point and an exponent. -/
def scientific (ds : List Char) (exp : Int) (plus : Bool) : List Char :=
  let mantissa := match ds with
    | [] => []
    | [c] => [c]
    | c :: r => c :: '.' :: r
  let sign := if exp < 0 then ['-'] else if plus then ['+'] else []
  mantissa ++ 'e' :: (sign ++ Nat.toDigits 10 exp.natAbs)

def write (l : Layout) (d : Double) : List Char :=
  let (ds, place) := d.digits
  let sign := if d.neg then ['-'] else []
  let exp := place - 1
  if l.exponents && d.sig != 0 && (exp < -5 || 15 < exp) then sign ++ scientific ds exp l.plus
  else sign ++ positional ds place l.point

/-- Numbers in JSON text have a point or an exponent with its sign. -/
def jsonLayout : Layout := ⟨true, true, true⟩

/-- Numbers in YAML text have no plus sign in the exponent. -/
def yamlLayout : Layout := ⟨false, true, true⟩

/-- Numbers in messages are written out in full, integers without a point. -/
def messageLayout : Layout := ⟨false, false, false⟩

end Roster.Double
