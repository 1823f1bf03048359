import Roster.Json.Basic
import Roster.Text.Blank

/-! # Reading JSON

A number without point and exponent that fits 64 bits is an integer, every other
number a double. A double is computed from the digits that fit 64 bits, rounded,
and then multiplied or divided by a rounded power of ten; the further digits
only count as places. Of several fields of one name the last is kept.
-/
namespace Roster.Json

/-- The four characters that may stand around a value. -/
def skipSpace (s : List Char) : List Char :=
  s.dropWhile fun c => c == ' ' || c == '\n' || c == '\t' || c == '\r'

def hexValue? (c : Char) : Option Nat :=
  if '0' ≤ c ∧ c ≤ '9' then some (c.toNat - 48)
  else if 'a' ≤ c ∧ c ≤ 'f' then some (c.toNat - 87)
  else if 'A' ≤ c ∧ c ≤ 'F' then some (c.toNat - 55)
  else none

/-- The value of four hexadecimal digits. -/
def hex4? (a b c d : Char) : Option Nat := do
  let a ← hexValue? a
  let b ← hexValue? b
  let c ← hexValue? c
  let d ← hexValue? d
  some (((a * 16 + b) * 16 + c) * 16 + d)

/-- The character of an escape other than `\u`. -/
def unescape? (c : Char) : Option Char :=
  if c = '"' ∨ c = '\\' ∨ c = '/' then some c
  else if c = 'b' then some '\x08'
  else if c = 'f' then some '\x0c'
  else if c = 'n' then some '\n'
  else if c = 'r' then some '\r'
  else if c = 't' then some '\t'
  else none

/-- The characters up to the closing quote, and what follows it. -/
def readString : List Char → Option (List Char × List Char)
  | [] => none
  | '"' :: r => some ([], r)
  | '\\' :: 'u' :: a :: b :: c :: d :: r =>
    match hex4? a b c d with
    | none => none
    | some n =>
      if n < 0xD800 ∨ 0xDFFF < n then
        (readString r).map fun (s, rest) => (Char.ofNat n :: s, rest)
      else if n < 0xDC00 then
        match r with
        | '\\' :: 'u' :: a :: b :: c :: d :: r =>
          match hex4? a b c d with
          | none => none
          | some m =>
            if 0xDC00 ≤ m ∧ m ≤ 0xDFFF then
              (readString r).map fun (s, rest) =>
                (Char.ofNat (0x10000 + (n - 0xD800) * 1024 + (m - 0xDC00)) :: s, rest)
            else none
        | _ => none
      else none
  | '\\' :: c :: r =>
    match unescape? c with
    | none => none
    | some d => (readString r).map fun (s, rest) => (d :: s, rest)
  | c :: r =>
    if c.toNat < 32 then none
    else (readString r).map fun (s, rest) => (c :: s, rest)

/-- The digits read on from `sig` as far as the value fits 64 bits, with their number. -/
def readFitting (sig : Nat) : List Char → Nat × Nat × List Char
  | [] => (sig, 0, [])
  | c :: r =>
    if c.isDigit && sig * 10 + (c.toNat - 48) < 18446744073709551616 then
      let (v, n, rest) := readFitting (sig * 10 + (c.toNat - 48)) r
      (v, n + 1, rest)
    else (sig, 0, c :: r)

/-- The number of digits at the start of a text, and what follows them. -/
def countDigits : List Char → Nat × List Char
  | [] => (0, [])
  | c :: r => if c.isDigit then ((countDigits r).1 + 1, (countDigits r).2) else (0, c :: r)

/-- `f · 10 ^ exp` with a rounding at each step; steps of `10 ^ 308` are taken while the
exponent is below `-308`. -/
def scaleDouble (f : Double) (exp : Int) : Nat → Option Double
  | 0 => some (Double.zero false)
  | fuel + 1 =>
    if exp.natAbs ≤ 308 then
      (Double.ofDecimal false 1 exp.natAbs).bind fun pow =>
        if 0 ≤ exp then f.mul pow else f.div pow
    else if f.isZero then some f
    else if 0 ≤ exp then none
    else
      (Double.ofDecimal false 1 308).bind fun pow =>
        (f.div pow).bind fun g => scaleDouble g (exp + 308) fuel

/-- The double of an integer significand and a power of ten. -/
def doubleOf (neg : Bool) (sig : Nat) (exp : Int) : Option Number :=
  (scaleDouble (Double.ofInt sig) exp 6).map fun d =>
    .double (if neg then d.negate else d)

/-- The value of an exponent, and what follows it. -/
def readExponent (s : List Char) : Option (Int × List Char) :=
  let (neg, r) := match s with
    | '-' :: r => (true, r)
    | '+' :: r => (false, r)
    | r => (false, r)
  let (n, rest) := countDigits r
  if n = 0 then none
  else
    let v : Nat := (r.take n).foldl (fun acc c => acc * 10 + (c.toNat - 48)) 0
    some (if neg then -v else v, rest)

/-- Reads the rest of a number after its integer part `sig · 10 ^ exp`. -/
def readFraction (neg : Bool) (sig : Nat) (exp : Int) (integer : Bool) (s : List Char) :
    Option (Number × List Char) :=
  let finish (sig : Nat) (exp : Int) (s : List Char) : Option (Number × List Char) :=
    match s with
    | c :: r =>
      if c = 'e' ∨ c = 'E' then
        (readExponent r).bind fun (e, rest) => (doubleOf neg sig (exp + e)).map (·, rest)
      else (doubleOf neg sig exp).map (·, s)
    | [] => (doubleOf neg sig exp).map (·, s)
  match s with
  | '.' :: r =>
    let (sig, n, r) := readFitting sig r
    let (more, rest) := countDigits r
    if n + more = 0 then none else finish sig (exp - n) rest
  | c :: _ =>
    if integer && c ≠ 'e' && c ≠ 'E' then integerOf s else finish sig exp s
  | [] => if integer then integerOf s else finish sig exp s
where
  /-- An integer that fits 64 bits; minus zero and the negative ones that do not are doubles. -/
  integerOf (s : List Char) : Option (Number × List Char) :=
    if neg && (sig == 0 || 9223372036854775808 < sig) then
      some (.double (Double.ofInt sig).negate, s)
    else (Integer.ofInt? (if neg then -sig else sig)).map fun z => (.int z, s)

def readUnsigned (neg : Bool) : List Char → Option (Number × List Char)
  | '0' :: r =>
    match r with
    | c :: _ => if c.isDigit then none else readFraction neg 0 0 true r
    | [] => readFraction neg 0 0 true r
  | c :: r =>
    if c.isDigit then
      let (sig, _, r) := readFitting 0 (c :: r)
      let (more, rest) := countDigits r
      readFraction neg sig more (more == 0) rest
    else none
  | [] => none

def readNumber : List Char → Option (Number × List Char)
  | '-' :: r => readUnsigned true r
  | s => readUnsigned false s

/-- What follows `word` at the start of a text. -/
def readWord (word : List Char) (s : List Char) : Option (List Char) :=
  if word.isPrefixOf s then some (s.drop word.length) else none

mutual

/-- Reads a value that starts the text; `depth` bounds the nesting of arrays and objects. -/
def readValue (depth : Nat) : Nat → List Char → Option (Json × List Char)
  | 0, _ => none
  | fuel + 1, s =>
    match s with
    | [] => none
    | c :: r =>
      if c = '[' then
        if depth ≤ 1 then none
        else match skipSpace r with
          | ']' :: rest => some (array [], rest)
          | r => (readItems (depth - 1) fuel r).map fun (items, rest) => (array items, rest)
      else if c = '{' then
        if depth ≤ 1 then none
        else match skipSpace r with
          | '}' :: rest => some (object [], rest)
          | r => (readFields (depth - 1) fuel r).map fun (fields, rest) =>
              (object (NameMap.ofList fields).entries, rest)
      else if c = '"' then
        (readString r).map fun (t, rest) => (string (String.ofList t), rest)
      else if c = 'n' then (readWord ['u', 'l', 'l'] r).map (null, ·)
      else if c = 't' then (readWord ['r', 'u', 'e'] r).map (bool true, ·)
      else if c = 'f' then (readWord ['a', 'l', 's', 'e'] r).map (bool false, ·)
      else (readNumber (c :: r)).map fun (n, rest) => (number n, rest)

/-- Reads the items of an array up to its closing bracket. -/
def readItems (depth : Nat) : Nat → List Char → Option (List Json × List Char)
  | 0, _ => none
  | fuel + 1, s =>
    match readValue depth fuel s with
    | none => none
    | some (v, r) =>
      match skipSpace r with
      | ']' :: rest => some ([v], rest)
      | ',' :: r => (readItems depth fuel (skipSpace r)).map fun (vs, rest) => (v :: vs, rest)
      | _ => none

/-- Reads the fields of an object up to its closing brace. -/
def readFields (depth : Nat) : Nat → List Char → Option (List (String × Json) × List Char)
  | 0, _ => none
  | fuel + 1, s =>
    match s with
    | '"' :: r =>
      match readString r with
      | none => none
      | some (k, r) =>
        match skipSpace r with
        | ':' :: r =>
          match readValue depth fuel (skipSpace r) with
          | none => none
          | some (v, r) =>
            match skipSpace r with
            | '}' :: rest => some ([(String.ofList k, v)], rest)
            | ',' :: r =>
              (readFields depth fuel (skipSpace r)).map fun (fs, rest) =>
                ((String.ofList k, v) :: fs, rest)
            | _ => none
        | _ => none
    | _ => none

end

/-- The nesting of arrays and objects up to which text is read. -/
def maxDepth : Nat := 128

/-- The value that a text writes, with nesting below `depth`. -/
def parseWithin? (depth : Nat) (s : List Char) : Option Json :=
  match readValue depth (2 * s.length + 2) (skipSpace s) with
  | some (v, rest) => if skipSpace rest = [] then some v else none
  | none => none

/-- The value that a text writes. -/
def parse? (s : List Char) : Option Json :=
  parseWithin? maxDepth s

end Roster.Json
