/-! # UTF-8

Text as bytes. Reading bytes stops at the first sequence that is no character,
and says where it begins and how many bytes of it could have begun one.
-/
namespace Roster.Text.Utf8

/-- Why bytes are no text. -/
inductive Flaw where
  /-- The `length` bytes from `index` on do not begin a character. -/
  | invalid (length index : Nat)
  /-- The bytes end inside the character that begins at `index`. -/
  | incomplete (index : Nat)
  deriving DecidableEq, Repr

namespace Flaw

def message : Flaw → String
  | invalid length index =>
    "invalid utf-8 sequence of " ++ toString length ++ " bytes from index " ++ toString index
  | incomplete index => "incomplete utf-8 byte sequence from index " ++ toString index

end Flaw

/-- The bytes of one character. -/
def encodeChar (c : Char) : List UInt8 :=
  let n := c.toNat
  if n < 0x80 then [UInt8.ofNat n]
  else if n < 0x800 then [UInt8.ofNat (0xc0 + n / 64), UInt8.ofNat (0x80 + n % 64)]
  else if n < 0x10000 then
    [UInt8.ofNat (0xe0 + n / 4096), UInt8.ofNat (0x80 + n / 64 % 64), UInt8.ofNat (0x80 + n % 64)]
  else
    [UInt8.ofNat (0xf0 + n / 262144), UInt8.ofNat (0x80 + n / 4096 % 64),
     UInt8.ofNat (0x80 + n / 64 % 64), UInt8.ofNat (0x80 + n % 64)]

def encode (s : List Char) : List UInt8 :=
  s.flatMap encodeChar

/-- What a first byte says of its character: the number of bytes that follow, its share of the
code point, and the values that the second byte may have. -/
structure Lead where
  following : Nat
  share : Nat
  low : Nat
  high : Nat

/-- The meaning of a first byte. Overlong forms, surrogates and code points that are too large
are ruled out by the second byte. -/
def lead? (b : Nat) : Option Lead :=
  if b < 0x80 then some ⟨0, b, 0, 0⟩
  else if 0xc2 ≤ b ∧ b ≤ 0xdf then some ⟨1, b - 0xc0, 0x80, 0xbf⟩
  else if b = 0xe0 then some ⟨2, 0, 0xa0, 0xbf⟩
  else if b = 0xed then some ⟨2, 0xd, 0x80, 0x9f⟩
  else if 0xe1 ≤ b ∧ b ≤ 0xef then some ⟨2, b - 0xe0, 0x80, 0xbf⟩
  else if b = 0xf0 then some ⟨3, 0, 0x90, 0xbf⟩
  else if b = 0xf4 then some ⟨3, 4, 0x80, 0x8f⟩
  else if 0xf1 ≤ b ∧ b ≤ 0xf3 then some ⟨3, b - 0xf0, 0x80, 0xbf⟩
  else none

/-- Reads the bytes of one character behind the first. `seen` counts the bytes before, and
`low` and `high` bound the next. -/
def continued (index : Nat) : Nat → Nat → Nat → Nat → Nat → List UInt8 → Except Flaw Nat
  | 0, _, n, _, _, _ => .ok n
  | _ + 1, _, _, _, _, [] => .error (.incomplete index)
  | more + 1, seen, n, low, high, b :: rest =>
    if low ≤ b.toNat ∧ b.toNat ≤ high then
      continued index more (seen + 1) (n * 64 + b.toNat % 64) 0x80 0xbf rest
    else .error (.invalid seen index)

/-- Reads the characters from the byte at `index` on. The first `skip` bytes belong to the
character before. -/
def decodeFrom (index : Nat) (skip : Nat) (found : Array Char) : List UInt8 → Except Flaw (Array Char)
  | [] => .ok found
  | b :: rest =>
    match skip with
    | skip + 1 => decodeFrom (index + 1) skip found rest
    | 0 =>
      match lead? b.toNat with
      | none => .error (.invalid 1 index)
      | some l =>
        match continued index l.following 1 l.share l.low l.high rest with
        | .error e => .error e
        | .ok n => decodeFrom (index + 1) l.following (found.push (Char.ofNat n)) rest

def decode (bytes : List UInt8) : Except Flaw (List Char) :=
  (decodeFrom 0 0 #[] bytes).map Array.toList

end Roster.Text.Utf8
