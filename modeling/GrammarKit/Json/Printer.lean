import GrammarKit.Text.Quoted

/-!
# JSON reports

The values that reports are made of, and their form: one item to a line, two spaces of indentation
for each level, a newline at the end. Text stands between double quotes, with escapes for quotes,
backslashes and control characters; on demand everything outside of ASCII is escaped too, characters
beyond U+FFFF as two surrogates.
-/

namespace GrammarKit

inductive Json where
  | null
  | bool (b : Bool)
  | number (n : Nat)
  | text (t : Text)
  | list (items : List Json)
  /-- Named values, in order. -/
  | object (fields : List (Text × Json))

namespace Json

def unitEscape (n : Nat) : Text := "\\u".toList ++ Text.hexDigits 4 n

def codePointEscape (n : Nat) : Text :=
  if n < 0x10000 then unitEscape n
  else
    let offset := n - 0x10000
    unitEscape (0xd800 + offset / 0x400) ++ unitEscape (0xdc00 + offset % 0x400)

def quotedChar (asciiOnly : Bool) (c : Char) : Text :=
  if c = '"' || c = '\\' then ['\\', c]
  else if c = '\n' then ['\\', 'n']
  else if c = '\r' then ['\\', 'r']
  else if c = '\t' then ['\\', 't']
  else if c = '\x08' then ['\\', 'b']
  else if c = '\x0c' then ['\\', 'f']
  else if c.toNat < 0x20 || (asciiOnly && 0x7f ≤ c.toNat) then codePointEscape c.toNat
  else [c]

def quoted (asciiOnly : Bool) (t : Text) : Text :=
  '"' :: t.flatMap (quotedChar asciiOnly) ++ ['"']

def newLine (level : Nat) : Text := '\n' :: List.replicate (2 * level) ' '

mutual

def renderAt (level : Nat) : Json → Text
  | .null => "null".toList
  | .bool b => if b then "true".toList else "false".toList
  | .number n => Text.ofNat n
  | .text t => quoted false t
  | .list [] => "[]".toList
  | .list (item :: items) =>
    ['['] ++ newLine (level + 1) ++ renderAt (level + 1) item ++ renderItems (level + 1) items ++
      newLine level ++ [']']
  | .object [] => "\x7b\x7d".toList
  | .object ((name, value) :: fields) =>
    ['{'] ++ newLine (level + 1) ++ quoted false name ++ [':', ' '] ++ renderAt (level + 1) value ++
      renderFields (level + 1) fields ++ newLine level ++ ['}']

/-- Items behind the first one. -/
def renderItems (level : Nat) : List Json → Text
  | [] => []
  | item :: items => [','] ++ newLine level ++ renderAt level item ++ renderItems level items

/-- Named values behind the first one. -/
def renderFields (level : Nat) : List (Text × Json) → Text
  | [] => []
  | (name, value) :: fields =>
    [','] ++ newLine level ++ quoted false name ++ [':', ' '] ++ renderAt level value ++
      renderFields level fields

end

def render (value : Json) : Text := renderAt 0 value ++ ['\n']

def texts (ts : List Text) : Json := .list (ts.map .text)

end Json
end GrammarKit
