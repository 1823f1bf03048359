import Roster.Number.Double

/-! # Reading decimal numbers

The grammar is an optional sign, digits with at most one point among them or at
either end, and an optional exponent. The value is rounded once, from all the
digits that are written.
-/
namespace Roster.Double

/-- The value of the digits of a text, read on from `acc`, and what follows them. -/
def readDigits (acc : Nat) : List Char → Nat × Nat × List Char
  | [] => (acc, 0, [])
  | c :: r =>
    if c.isDigit then
      let (v, n, rest) := readDigits (acc * 10 + (c.toNat - '0'.toNat)) r
      (v, n + 1, rest)
    else (acc, 0, c :: r)

def readSign : List Char → Bool × List Char
  | '-' :: r => (true, r)
  | '+' :: r => (false, r)
  | r => (false, r)

/-- An exponent that fills the text, or no text at all. -/
def readExponent? : List Char → Option Int
  | [] => some 0
  | c :: r =>
    if c = 'e' ∨ c = 'E' then
      let (neg, ds) := readSign r
      match readDigits 0 ds with
      | (_, 0, _) => none
      | (v, _, []) => some (if neg then -v else v)
      | _ => none
    else none

/-- The sign, the digits and the power of ten of a decimal number. -/
def readDecimal? (s : List Char) : Option (Bool × Nat × Int) :=
  let (neg, r) := readSign s
  let (whole, n, r) := readDigits 0 r
  match r with
  | '.' :: r =>
    let (all, k, r) := readDigits whole r
    if n + k = 0 then none
    else (readExponent? r).map fun e => (neg, all, e - k)
  | r =>
    if n = 0 then none
    else (readExponent? r).map fun e => (neg, whole, e)

/-- The number a text writes, `none` when the text is no decimal number or one beyond the
finite range. -/
def parse? (s : List Char) : Option Double :=
  match readDecimal? s with
  | some (neg, digits, exp10) => ofDecimal neg digits exp10
  | none => none

end Roster.Double
