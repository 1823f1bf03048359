import Roster.Unicode.CharMap
import Roster.Unicode.Property

/-! # Letter case

The lower case of text, and the characters that differ only by case.
-/
namespace Roster.Unicode.Case

/-- The lower-case letter of each code point that has a single one. -/
def lowerTable : List Run := [
    run 0x41 0x5a 1 0x61, run 0xc0 0xd6 1 0xe0, run 0xd8 0xde 1 0xf8, run 0x100 0x12e 2 0x101,
    run 0x132 0x136 2 0x133, run 0x139 0x147 2 0x13a, run 0x14a 0x176 2 0x14b, one 0x178 0xff,
    run 0x179 0x17d 2 0x17a, one 0x181 0x253, run 0x182 0x184 2 0x183, one 0x186 0x254,
    one 0x187 0x188, run 0x189 0x18a 1 0x256, one 0x18b 0x18c, one 0x18e 0x1dd, one 0x18f 0x259,
    one 0x190 0x25b, one 0x191 0x192, one 0x193 0x260, one 0x194 0x263, one 0x196 0x269,
    one 0x197 0x268, one 0x198 0x199, one 0x19c 0x26f, one 0x19d 0x272, one 0x19f 0x275,
    run 0x1a0 0x1a4 2 0x1a1, one 0x1a6 0x280, one 0x1a7 0x1a8, one 0x1a9 0x283, one 0x1ac 0x1ad,
    one 0x1ae 0x288, one 0x1af 0x1b0, run 0x1b1 0x1b2 1 0x28a, run 0x1b3 0x1b5 2 0x1b4,
    one 0x1b7 0x292, run 0x1b8 0x1bc 4 0x1b9, one 0x1c4 0x1c6, one 0x1c5 0x1c6, one 0x1c7 0x1c9,
    one 0x1c8 0x1c9, one 0x1ca 0x1cc, run 0x1cb 0x1db 2 0x1cc, run 0x1de 0x1ee 2 0x1df,
    one 0x1f1 0x1f3, run 0x1f2 0x1f4 2 0x1f3, one 0x1f6 0x195, one 0x1f7 0x1bf,
    run 0x1f8 0x21e 2 0x1f9, one 0x220 0x19e, run 0x222 0x232 2 0x223, one 0x23a 0x2c65,
    one 0x23b 0x23c, one 0x23d 0x19a, one 0x23e 0x2c66, one 0x241 0x242, one 0x243 0x180,
    one 0x244 0x289, one 0x245 0x28c, run 0x246 0x24e 2 0x247, run 0x370 0x372 2 0x371,
    one 0x376 0x377, one 0x37f 0x3f3, one 0x386 0x3ac, run 0x388 0x38a 1 0x3ad, one 0x38c 0x3cc,
    run 0x38e 0x38f 1 0x3cd, run 0x391 0x3a1 1 0x3b1, run 0x3a3 0x3ab 1 0x3c3, one 0x3cf 0x3d7,
    run 0x3d8 0x3ee 2 0x3d9, one 0x3f4 0x3b8, one 0x3f7 0x3f8, one 0x3f9 0x3f2, one 0x3fa 0x3fb,
    run 0x3fd 0x3ff 1 0x37b, run 0x400 0x40f 1 0x450, run 0x410 0x42f 1 0x430,
    run 0x460 0x480 2 0x461, run 0x48a 0x4be 2 0x48b, one 0x4c0 0x4cf, run 0x4c1 0x4cd 2 0x4c2,
    run 0x4d0 0x52e 2 0x4d1, run 0x531 0x556 1 0x561, run 0x10a0 0x10c5 1 0x2d00,
    one 0x10c7 0x2d27, one 0x10cd 0x2d2d, run 0x13a0 0x13ef 1 0xab70, run 0x13f0 0x13f5 1 0x13f8,
    one 0x1c89 0x1c8a, run 0x1c90 0x1cba 1 0x10d0, run 0x1cbd 0x1cbf 1 0x10fd,
    run 0x1e00 0x1e94 2 0x1e01, one 0x1e9e 0xdf, run 0x1ea0 0x1efe 2 0x1ea1,
    run 0x1f08 0x1f0f 1 0x1f00, run 0x1f18 0x1f1d 1 0x1f10, run 0x1f28 0x1f2f 1 0x1f20,
    run 0x1f38 0x1f3f 1 0x1f30, run 0x1f48 0x1f4d 1 0x1f40, run 0x1f59 0x1f5f 2 0x1f51,
    run 0x1f68 0x1f6f 1 0x1f60, run 0x1f88 0x1f8f 1 0x1f80, run 0x1f98 0x1f9f 1 0x1f90,
    run 0x1fa8 0x1faf 1 0x1fa0, run 0x1fb8 0x1fb9 1 0x1fb0, run 0x1fba 0x1fbb 1 0x1f70,
    one 0x1fbc 0x1fb3, run 0x1fc8 0x1fcb 1 0x1f72, one 0x1fcc 0x1fc3, run 0x1fd8 0x1fd9 1 0x1fd0,
    run 0x1fda 0x1fdb 1 0x1f76, run 0x1fe8 0x1fe9 1 0x1fe0, run 0x1fea 0x1feb 1 0x1f7a,
    one 0x1fec 0x1fe5, run 0x1ff8 0x1ff9 1 0x1f78, run 0x1ffa 0x1ffb 1 0x1f7c, one 0x1ffc 0x1ff3,
    one 0x2126 0x3c9, one 0x212a 0x6b, one 0x212b 0xe5, one 0x2132 0x214e,
    run 0x2160 0x216f 1 0x2170, one 0x2183 0x2184, run 0x24b6 0x24cf 1 0x24d0,
    run 0x2c00 0x2c2f 1 0x2c30, one 0x2c60 0x2c61, one 0x2c62 0x26b, one 0x2c63 0x1d7d,
    one 0x2c64 0x27d, run 0x2c67 0x2c6b 2 0x2c68, one 0x2c6d 0x251, one 0x2c6e 0x271,
    one 0x2c6f 0x250, one 0x2c70 0x252, one 0x2c72 0x2c73, one 0x2c75 0x2c76,
    run 0x2c7e 0x2c7f 1 0x23f, run 0x2c80 0x2ce2 2 0x2c81, run 0x2ceb 0x2ced 2 0x2cec,
    one 0x2cf2 0x2cf3, run 0xa640 0xa66c 2 0xa641, run 0xa680 0xa69a 2 0xa681,
    run 0xa722 0xa72e 2 0xa723, run 0xa732 0xa76e 2 0xa733, run 0xa779 0xa77b 2 0xa77a,
    one 0xa77d 0x1d79, run 0xa77e 0xa786 2 0xa77f, one 0xa78b 0xa78c, one 0xa78d 0x265,
    run 0xa790 0xa792 2 0xa791, run 0xa796 0xa7a8 2 0xa797, one 0xa7aa 0x266, one 0xa7ab 0x25c,
    one 0xa7ac 0x261, one 0xa7ad 0x26c, one 0xa7ae 0x26a, one 0xa7b0 0x29e, one 0xa7b1 0x287,
    one 0xa7b2 0x29d, one 0xa7b3 0xab53, run 0xa7b4 0xa7c2 2 0xa7b5, one 0xa7c4 0xa794,
    one 0xa7c5 0x282, one 0xa7c6 0x1d8e, run 0xa7c7 0xa7c9 2 0xa7c8, one 0xa7cb 0x264,
    run 0xa7cc 0xa7da 2 0xa7cd, one 0xa7dc 0x19b, one 0xa7f5 0xa7f6, run 0xff21 0xff3a 1 0xff41,
    run 0x10400 0x10427 1 0x10428, run 0x104b0 0x104d3 1 0x104d8, run 0x10570 0x1057a 1 0x10597,
    run 0x1057c 0x1058a 1 0x105a3, run 0x1058c 0x10592 1 0x105b3, run 0x10594 0x10595 1 0x105bb,
    run 0x10c80 0x10cb2 1 0x10cc0, run 0x10d50 0x10d65 1 0x10d70, run 0x118a0 0x118bf 1 0x118c0,
    run 0x16e40 0x16e5f 1 0x16e60, run 0x16ea0 0x16eb8 1 0x16ebb, run 0x1e900 0x1e921 1 0x1e922]

/-- The common form of the code points that differ only by case. -/
def foldTable : List Run := [
    run 0x41 0x5a 1 0x61, one 0xb5 0x3bc, run 0xc0 0xd6 1 0xe0, run 0xd8 0xde 1 0xf8,
    run 0x100 0x12e 2 0x101, run 0x132 0x136 2 0x133, run 0x139 0x147 2 0x13a,
    run 0x14a 0x176 2 0x14b, one 0x178 0xff, run 0x179 0x17d 2 0x17a, one 0x17f 0x73,
    one 0x181 0x253, run 0x182 0x184 2 0x183, one 0x186 0x254, one 0x187 0x188,
    run 0x189 0x18a 1 0x256, one 0x18b 0x18c, one 0x18e 0x1dd, one 0x18f 0x259, one 0x190 0x25b,
    one 0x191 0x192, one 0x193 0x260, one 0x194 0x263, one 0x196 0x269, one 0x197 0x268,
    one 0x198 0x199, one 0x19c 0x26f, one 0x19d 0x272, one 0x19f 0x275, run 0x1a0 0x1a4 2 0x1a1,
    one 0x1a6 0x280, one 0x1a7 0x1a8, one 0x1a9 0x283, one 0x1ac 0x1ad, one 0x1ae 0x288,
    one 0x1af 0x1b0, run 0x1b1 0x1b2 1 0x28a, run 0x1b3 0x1b5 2 0x1b4, one 0x1b7 0x292,
    run 0x1b8 0x1bc 4 0x1b9, one 0x1c4 0x1c6, one 0x1c5 0x1c6, one 0x1c7 0x1c9, one 0x1c8 0x1c9,
    one 0x1ca 0x1cc, run 0x1cb 0x1db 2 0x1cc, run 0x1de 0x1ee 2 0x1df, one 0x1f1 0x1f3,
    run 0x1f2 0x1f4 2 0x1f3, one 0x1f6 0x195, one 0x1f7 0x1bf, run 0x1f8 0x21e 2 0x1f9,
    one 0x220 0x19e, run 0x222 0x232 2 0x223, one 0x23a 0x2c65, one 0x23b 0x23c, one 0x23d 0x19a,
    one 0x23e 0x2c66, one 0x241 0x242, one 0x243 0x180, one 0x244 0x289, one 0x245 0x28c,
    run 0x246 0x24e 2 0x247, one 0x345 0x3b9, run 0x370 0x372 2 0x371, one 0x376 0x377,
    one 0x37f 0x3f3, one 0x386 0x3ac, run 0x388 0x38a 1 0x3ad, one 0x38c 0x3cc,
    run 0x38e 0x38f 1 0x3cd, run 0x391 0x3a1 1 0x3b1, run 0x3a3 0x3ab 1 0x3c3, one 0x3c2 0x3c3,
    one 0x3cf 0x3d7, one 0x3d0 0x3b2, one 0x3d1 0x3b8, one 0x3d5 0x3c6, one 0x3d6 0x3c0,
    run 0x3d8 0x3ee 2 0x3d9, one 0x3f0 0x3ba, one 0x3f1 0x3c1, one 0x3f4 0x3b8, one 0x3f5 0x3b5,
    one 0x3f7 0x3f8, one 0x3f9 0x3f2, one 0x3fa 0x3fb, run 0x3fd 0x3ff 1 0x37b,
    run 0x400 0x40f 1 0x450, run 0x410 0x42f 1 0x430, run 0x460 0x480 2 0x461,
    run 0x48a 0x4be 2 0x48b, one 0x4c0 0x4cf, run 0x4c1 0x4cd 2 0x4c2, run 0x4d0 0x52e 2 0x4d1,
    run 0x531 0x556 1 0x561, run 0x10a0 0x10c5 1 0x2d00, one 0x10c7 0x2d27, one 0x10cd 0x2d2d,
    run 0x13a0 0x13ef 1 0xab70, run 0x13f0 0x13f5 1 0x13f8, run 0x13f8 0x13fd 1 0x13f0,
    one 0x1c80 0x432, one 0x1c81 0x434, one 0x1c82 0x43e, run 0x1c83 0x1c84 1 0x441,
    one 0x1c85 0x442, one 0x1c86 0x44a, one 0x1c87 0x463, one 0x1c88 0xa64b, one 0x1c89 0x1c8a,
    run 0x1c90 0x1cba 1 0x10d0, run 0x1cbd 0x1cbf 1 0x10fd, run 0x1e00 0x1e94 2 0x1e01,
    one 0x1e9b 0x1e61, one 0x1e9e 0xdf, run 0x1ea0 0x1efe 2 0x1ea1, run 0x1f08 0x1f0f 1 0x1f00,
    run 0x1f18 0x1f1d 1 0x1f10, run 0x1f28 0x1f2f 1 0x1f20, run 0x1f38 0x1f3f 1 0x1f30,
    run 0x1f48 0x1f4d 1 0x1f40, run 0x1f59 0x1f5f 2 0x1f51, run 0x1f68 0x1f6f 1 0x1f60,
    run 0x1f88 0x1f8f 1 0x1f80, run 0x1f98 0x1f9f 1 0x1f90, run 0x1fa8 0x1faf 1 0x1fa0,
    run 0x1fb8 0x1fb9 1 0x1fb0, run 0x1fba 0x1fbb 1 0x1f70, one 0x1fbc 0x1fb3, one 0x1fbe 0x3b9,
    run 0x1fc8 0x1fcb 1 0x1f72, one 0x1fcc 0x1fc3, run 0x1fd8 0x1fd9 1 0x1fd0,
    run 0x1fda 0x1fdb 1 0x1f76, run 0x1fe8 0x1fe9 1 0x1fe0, run 0x1fea 0x1feb 1 0x1f7a,
    one 0x1fec 0x1fe5, run 0x1ff8 0x1ff9 1 0x1f78, run 0x1ffa 0x1ffb 1 0x1f7c, one 0x1ffc 0x1ff3,
    one 0x2126 0x3c9, one 0x212a 0x6b, one 0x212b 0xe5, one 0x2132 0x214e,
    run 0x2160 0x216f 1 0x2170, one 0x2183 0x2184, run 0x24b6 0x24cf 1 0x24d0,
    run 0x2c00 0x2c2f 1 0x2c30, one 0x2c60 0x2c61, one 0x2c62 0x26b, one 0x2c63 0x1d7d,
    one 0x2c64 0x27d, run 0x2c67 0x2c6b 2 0x2c68, one 0x2c6d 0x251, one 0x2c6e 0x271,
    one 0x2c6f 0x250, one 0x2c70 0x252, one 0x2c72 0x2c73, one 0x2c75 0x2c76,
    run 0x2c7e 0x2c7f 1 0x23f, run 0x2c80 0x2ce2 2 0x2c81, run 0x2ceb 0x2ced 2 0x2cec,
    one 0x2cf2 0x2cf3, run 0xa640 0xa66c 2 0xa641, run 0xa680 0xa69a 2 0xa681,
    run 0xa722 0xa72e 2 0xa723, run 0xa732 0xa76e 2 0xa733, run 0xa779 0xa77b 2 0xa77a,
    one 0xa77d 0x1d79, run 0xa77e 0xa786 2 0xa77f, one 0xa78b 0xa78c, one 0xa78d 0x265,
    run 0xa790 0xa792 2 0xa791, run 0xa796 0xa7a8 2 0xa797, one 0xa7aa 0x266, one 0xa7ab 0x25c,
    one 0xa7ac 0x261, one 0xa7ad 0x26c, one 0xa7ae 0x26a, one 0xa7b0 0x29e, one 0xa7b1 0x287,
    one 0xa7b2 0x29d, one 0xa7b3 0xab53, run 0xa7b4 0xa7c2 2 0xa7b5, one 0xa7c4 0xa794,
    one 0xa7c5 0x282, one 0xa7c6 0x1d8e, run 0xa7c7 0xa7c9 2 0xa7c8, one 0xa7cb 0x264,
    run 0xa7cc 0xa7da 2 0xa7cd, one 0xa7dc 0x19b, one 0xa7f5 0xa7f6, run 0xab70 0xabbf 1 0x13a0,
    run 0xff21 0xff3a 1 0xff41, run 0x10400 0x10427 1 0x10428, run 0x104b0 0x104d3 1 0x104d8,
    run 0x10570 0x1057a 1 0x10597, run 0x1057c 0x1058a 1 0x105a3, run 0x1058c 0x10592 1 0x105b3,
    run 0x10594 0x10595 1 0x105bb, run 0x10c80 0x10cb2 1 0x10cc0, run 0x10d50 0x10d65 1 0x10d70,
    run 0x118a0 0x118bf 1 0x118c0, run 0x16e40 0x16e5f 1 0x16e60, run 0x16ea0 0x16eb8 1 0x16ebb,
    run 0x1e900 0x1e921 1 0x1e922]

/-- The lower case of one character on its own: a dotted capital I keeps its dot. -/
def lowerChar (c : Char) : List Char :=
  if c.toNat < 128 then [c.toLower]
  else if c = '\u0130' then ['i', '\u0307']
  else [Char.ofNat (CharMap.move lowerTable c.toNat)]

/-- Whether the first character that case does not pass over has case. -/
def touchesCased (text : List Char) : Bool :=
  match text.find? (fun c => !Property.caseIgnorable.has c) with
  | none => false
  | some c => Property.cased.has c

/-- The lower case of `rest`, with the text before it in reverse. A capital sigma at the end of a
word becomes a final sigma. -/
def lowerAfter (before : List Char) : List Char → List Char
  | [] => []
  | c :: rest =>
    let out :=
      if c = '\u03a3' then
        if touchesCased before && !touchesCased rest then ['\u03c2'] else ['\u03c3']
      else lowerChar c
    out ++ lowerAfter (c :: before) rest

def lower (s : String) : String :=
  String.ofList (lowerAfter [] s.toList)

/-- The form that is common to the code points that differ from `n` only by case. -/
def fold (n : Nat) : Nat :=
  CharMap.move foldTable n

/-- The code points that differ from `n` at most by case. -/
def alike (n : Nat) : List Nat :=
  n :: fold n :: CharMap.sources foldTable (fold n)

end Roster.Unicode.Case
