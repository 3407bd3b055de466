import GrammarKit.Text.Basic
import GrammarKit.Text.PrintableTable

/-!
# Quoted text

Text as it is shown in messages: between quotes, with whatever cannot be printed spelled out by its
code point.
-/

namespace GrammarKit.Text

def isPrintable (c : Char) : Bool := printableRanges.covers c.toNat

/-- The last `width` hexadecimal digits of a number. -/
def hexDigits (width n : Nat) : Text :=
  let digits := Nat.toDigits 16 n
  List.replicate (width - digits.length) '0' ++ digits

/-- A code point spelled out in two, four or eight hexadecimal digits. -/
def spelledOut (n : Nat) : Text :=
  if n < 0x100 then "\\x".toList ++ hexDigits 2 n
  else if n < 0x10000 then "\\u".toList ++ hexDigits 4 n
  else "\\U".toList ++ hexDigits 8 n

def quotedChar (quote c : Char) : Text :=
  if c = quote || c = '\\' then ['\\', c]
  else if c = '\n' then ['\\', 'n']
  else if c = '\r' then ['\\', 'r']
  else if c = '\t' then ['\\', 't']
  else if isPrintable c then [c]
  else spelledOut c.toNat

/-- Single quotes, unless the text holds some and no double quote. -/
def quoteFor (t : Text) : Char := if t.contains '\'' && !t.contains '"' then '"' else '\''

def quoted (t : Text) : Text :=
  let quote := quoteFor t
  quote :: t.flatMap (quotedChar quote) ++ [quote]

end GrammarKit.Text
