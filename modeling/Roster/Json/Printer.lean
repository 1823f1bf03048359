import Roster.Json.Basic
import Roster.Number.Shortest

/-! # JSON text

The compact text has no white space outside strings; the indented text puts each
item and each field on a line of its own. Quotes, backslashes and the control
characters below the space are escaped, every other character stands for itself.
-/
namespace Roster.Json

/-- The digit of a number below sixteen. -/
def hexDigit (n : Nat) : Char :=
  if n < 10 then Char.ofNat (n + 48) else Char.ofNat (n + 87)

/-- A character as it stands between the quotes of a string. -/
def escape (c : Char) : List Char :=
  if c = '"' then ['\\', '"']
  else if c = '\\' then ['\\', '\\']
  else if c = '\n' then ['\\', 'n']
  else if c = '\t' then ['\\', 't']
  else if c = '\r' then ['\\', 'r']
  else if c = '\x08' then ['\\', 'b']
  else if c = '\x0c' then ['\\', 'f']
  else if c.toNat < 32 then
    ['\\', 'u', '0', '0', hexDigit (c.toNat / 16), hexDigit (c.toNat % 16)]
  else [c]

def quote (s : String) : List Char :=
  '"' :: (s.toList.flatMap escape ++ ['"'])

def Number.render : Number → List Char
  | .int z => (toString z.val).toList
  | .double d => d.write Double.jsonLayout

/-- The text of a value without items or fields. -/
def renderAtom : Json → List Char
  | bool true => ['t', 'r', 'u', 'e']
  | bool false => ['f', 'a', 'l', 's', 'e']
  | number n => n.render
  | string s => quote s
  | _ => ['n', 'u', 'l', 'l']

mutual

/-- The compact text of a value. -/
def render : Json → List Char
  | array items => '[' :: (renderItems items ++ [']'])
  | object fields => '{' :: (renderFields fields ++ ['}'])
  | v => renderAtom v

def renderItems : List Json → List Char
  | [] => []
  | [v] => render v
  | v :: w :: r => render v ++ ',' :: renderItems (w :: r)

def renderFields : List (String × Json) → List Char
  | [] => []
  | [f] => renderField f
  | f :: g :: r => renderField f ++ ',' :: renderFields (g :: r)

def renderField : String × Json → List Char
  | (k, v) => quote k ++ ':' :: render v

end

/-- A line feed and the white space of an indentation of `depth` steps. -/
def newLine (depth : Nat) : List Char :=
  '\n' :: List.replicate (2 * depth) ' '

mutual

/-- The indented text of a value at an indentation of `depth` steps. -/
def indent (depth : Nat) : Json → List Char
  | array [] => ['[', ']']
  | object [] => ['{', '}']
  | array items => '[' :: (indentItems (depth + 1) items ++ newLine depth ++ [']'])
  | object fields => '{' :: (indentFields (depth + 1) fields ++ newLine depth ++ ['}'])
  | v => renderAtom v

def indentItems (depth : Nat) : List Json → List Char
  | [] => []
  | [v] => newLine depth ++ indent depth v
  | v :: w :: r => newLine depth ++ indent depth v ++ ',' :: indentItems depth (w :: r)

def indentFields (depth : Nat) : List (String × Json) → List Char
  | [] => []
  | [f] => newLine depth ++ indentField depth f
  | f :: g :: r => newLine depth ++ indentField depth f ++ ',' :: indentFields depth (g :: r)

def indentField (depth : Nat) : String × Json → List Char
  | (k, v) => quote k ++ ':' :: ' ' :: indent depth v

end

def compact (v : Json) : String :=
  String.ofList (render v)

/-- The indented text of a value. -/
def pretty (v : Json) : String :=
  String.ofList (indent 0 v)

end Roster.Json
