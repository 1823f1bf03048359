import Roster.Yaml.Token.Scalar

/-! # Reading names

The names of anchors, the handles and suffixes of tags, and directives.
-/
namespace Roster.Yaml

/-- ASCII letters, digits, underscore and hyphen. -/
def isNameChar (c : Char) : Bool :=
  c.isAlphanum || c == '_' || c == '-'

/-- The characters that may follow the name of an anchor. -/
def endsName (c : Char) : Bool :=
  isSpaceOrTab c || isBreak c || c == '?' || c == ':' || c == ',' || c == ']' || c == '}' ||
    c == '%' || c == '@' || c == '\x60'

/-- Reads the name after an ampersand or an asterisk. -/
def readAnchor (a : Activity) (c : Cursor) : Except Malformed (List Char × Cursor) :=
  let (name, d) := (c.skip 1).span isNameChar
  if name = [] || !(d.peek? 0).all endsName then
    .error (scalarFault a c.mark .anchorName d.mark)
  else .ok (name, d)

/-- The characters of a tag; commas and brackets only inside angle brackets and directives. -/
def isTagChar (verbatim : Bool) (c : Char) : Bool :=
  isNameChar c || c == ';' || c == '/' || c == '?' || c == ':' || c == '@' || c == '&' ||
    c == '=' || c == '+' || c == '$' || c == '.' || c == '%' || c == '!' || c == '~' ||
    c == '*' || c == '\x27' || c == '(' || c == ')' ||
    (verbatim && (c == ',' || c == '[' || c == ']'))

/-- The number of octets of a character by its first octet. -/
def octetCount (octet : Nat) : Nat :=
  if octet < 0x80 then 1
  else if octet / 32 = 6 then 2
  else if octet / 16 = 14 then 3
  else if octet / 8 = 30 then 4
  else 0

/-- Reads the octets of one escaped character; `left` counts those still to come. -/
def readOctets (a : Activity) (start : Mark) :
    Nat → Nat → List Nat → Cursor → Except Malformed (List Nat × Cursor)
  | 0, _, acc, c => .ok (acc, c)
  | fuel + 1, left, acc, c =>
    let octet? := match c.rest with
      | '%' :: x :: y :: _ => (hexDigit? x).bind fun h => (hexDigit? y).map (h * 16 + ·)
      | _ => none
    match octet? with
    | none => .error (scalarFault a start .tagEscape c.mark)
    | some octet =>
      if left = 0 then
        let n := octetCount octet
        if n = 0 then .error (scalarFault a start .tagLead c.mark)
        else if n = 1 then .ok (acc ++ [octet], c.skip 3)
        else readOctets a start fuel (n - 1) (acc ++ [octet]) (c.skip 3)
      else if octet / 64 ≠ 2 then .error (scalarFault a start .tagTrail c.mark)
      else if left = 1 then .ok (acc ++ [octet], c.skip 3)
      else readOctets a start fuel (left - 1) (acc ++ [octet]) (c.skip 3)

def charOfOctets (l : List Nat) : Char :=
  match l with
  | [a] => Char.ofNat a
  | [a, b] => Char.ofNat ((a - 0xC0) * 64 + (b - 0x80))
  | [a, b, c] => Char.ofNat (((a - 0xE0) * 64 + (b - 0x80)) * 64 + (c - 0x80))
  | [a, b, c, d] =>
    Char.ofNat ((((a - 0xF0) * 64 + (b - 0x80)) * 64 + (c - 0x80)) * 64 + (d - 0x80))
  | _ => '\ufffd'

/-- Reads the characters of a tag, undoing escapes. -/
def readTagChars (a : Activity) (verbatim : Bool) (start : Mark) :
    Nat → Cursor → Except Malformed (List Char × Cursor)
  | 0, c => .ok ([], c)
  | fuel + 1, c =>
    match c.rest with
    | [] => .ok ([], c)
    | x :: _ =>
      if !isTagChar verbatim x then .ok ([], c)
      else if x = '%' then
        match readOctets a start 4 0 [] c with
        | .error e => .error e
        | .ok (octets, d) =>
          (readTagChars a verbatim start fuel d).map fun (s, e) => (charOfOctets octets :: s, e)
      else (readTagChars a verbatim start fuel (c.skip 1)).map fun (s, e) => (x :: s, e)

/-- Reads the text of a tag after `head`, whose first character is dropped; a tag without any
text is a fault. -/
def readTagText (a : Activity) (verbatim : Bool) (start : Mark) (head : List Char) (c : Cursor) :
    Except Malformed (List Char × Cursor) :=
  match readTagChars a verbatim start (c.rest.length + 1) c with
  | .error e => .error e
  | .ok (s, d) =>
    if head = [] && s = [] then .error (scalarFault a start .tagUriMissing d.mark)
    else .ok (head.drop 1 ++ s, d)

/-- Reads a tag handle: an exclamation mark, or a name between two. -/
def readTagHandle (directive : Bool) (start : Mark) (c : Cursor) :
    Except Malformed (List Char × Cursor) :=
  if !c.sees '!' then
    .error (scalarFault (if directive then .tagDirectiveStart else .tag) start .tagBang c.mark)
  else
    let (name, d) := (c.skip 1).span isNameChar
    if d.sees '!' then .ok ('!' :: (name ++ ['!']), d.skip 1)
    else if directive && name ≠ [] then
      .error (scalarFault .tagDirectiveHandle start .tagBang d.mark)
    else .ok ('!' :: name, d)

def readTag (flow : Bool) (c : Cursor) : Except Malformed (List Char × List Char × Cursor) := do
  let start := c.mark
  let (handle, suffix, d) ←
    if c.peek? 1 = some '<' then do
      let (s, d) ← readTagText .tagUri true start [] (c.skip 2)
      if d.sees '>' then .ok ([], s, d.skip 1)
      else .error (scalarFault .tag start .tagClose d.mark)
    else do
      let (h, d) ← readTagHandle false start c
      if h.length > 1 && h.getLast? == some '!' then
        let (s, e) ← readTagText .tagUri false start [] d
        .ok (h, s, e)
      else
        let (s, e) ← readTagText .tagUri false start h d
        if s = [] then .ok ([], ['!'], e) else .ok (['!'], s, e)
  if (flow && d.sees ',') || d.blankOrEnd 0 then .ok (handle, suffix, d)
  else .error (scalarFault .tag start .tagEnd d.mark)

def readVersionNumber (start : Mark) (c : Cursor) : Except Malformed (Nat × Cursor) :=
  let (ds, d) := c.span Char.isDigit
  if ds.length > 9 then .error (scalarFault .versionDirective start .versionLong (c.skip 9).mark)
  else if ds = [] then .error (scalarFault .versionDirective start .versionMissing d.mark)
  else .ok (ds.foldl (fun acc x => acc * 10 + (x.toNat - 48)) 0, d)

/-- Reads a directive up to the end of its line. -/
def readDirective (c : Cursor) : Except Malformed (Token × Cursor) := do
  let start := c.mark
  let (name, d) := (c.skip 1).span isNameChar
  if name = [] then .error (scalarFault .directive start .directiveName d.mark)
  else if !d.blankOrEnd 0 then .error (scalarFault .directive start .directiveNameEnd d.mark)
  else
    let (kind, d) ←
      if name = ['Y', 'A', 'M', 'L'] then do
        let (major, e) ← readVersionNumber start (d.skipWhile isSpaceOrTab)
        if !e.sees '.' then .error (scalarFault .versionDirective start .versionDigit e.mark)
        else
          let (minor, f) ← readVersionNumber start (e.skip 1)
          .ok (TokenKind.versionDirective major minor, f)
      else if name = ['T', 'A', 'G'] then do
        let (handle, e) ← readTagHandle true start (d.skipWhile isSpaceOrTab)
        if !e.looks 0 isSpaceOrTab then
          .error (scalarFault .tagDirective start .tagDirectiveSpace e.mark)
        else
          let (lead, f) ←
            readTagText .tagDirectivePrefix true start [] (e.skipWhile isSpaceOrTab)
          if !f.blankOrEnd 0 then .error (scalarFault .tagDirective start .tagDirectiveEnd f.mark)
          else .ok (TokenKind.tagDirective handle lead, f)
      else .error (scalarFault .directive start .directiveUnknown d.mark)
    let stop := d.mark
    let d := d.skipWhile isSpaceOrTab
    let d := if d.sees '#' then d.skipWhile fun x => !isBreak x else d
    if !d.breakOrEnd then .error (scalarFault .directive start .notLineEnd d.mark)
    else .ok (⟨kind, start, stop⟩, d.skipBreak)

end Roster.Yaml
