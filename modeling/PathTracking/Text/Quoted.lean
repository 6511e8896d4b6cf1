import PathTracking.Text.Printable

/-!
# Quoted text in messages

A text in a message stands between single quotes, or between double quotes if it has a
single one and no double one. The quote, the backslash and everything unprintable are
escaped: line feed, carriage return and tab by letter, other code points in hexadecimal
with as few of two, four or eight digits as they need.
-/
namespace PathTracking.Text

def hexDigits (width n : Nat) : List Char :=
  let digits := Nat.toDigits 16 n
  List.replicate (width - digits.length) '0' ++ digits

def escapeChar (quote c : Char) : List Char :=
  if c = quote ∨ c = '\\' then ['\\', c]
  else if c = '\n' then ['\\', 'n']
  else if c = '\r' then ['\\', 'r']
  else if c = '\t' then ['\\', 't']
  else if isPrintable c then [c]
  else if c.toNat < 0x100 then '\\' :: 'x' :: hexDigits 2 c.toNat
  else if c.toNat < 0x10000 then '\\' :: 'u' :: hexDigits 4 c.toNat
  else '\\' :: 'U' :: hexDigits 8 c.toNat

def quoteFor (s : List Char) : Char :=
  if s.contains '\'' && !s.contains '"' then '"' else '\''

def quoted (s : List Char) : List Char :=
  let quote := quoteFor s
  quote :: s.flatMap (escapeChar quote) ++ [quote]

/-- A list of texts, each quoted, in brackets. -/
def quotedList (items : List (List Char)) : List Char :=
  '[' :: ((items.map quoted).intersperse [',', ' ']).flatten ++ [']']

end PathTracking.Text
