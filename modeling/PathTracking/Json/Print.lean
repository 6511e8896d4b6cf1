import PathTracking.Decimal.Shortest
import PathTracking.Value

/-!
# Writing JSON

An indented layout: two blanks a level, one entry a line. Numbers are written with their
shortest numeral, texts with every character outside ASCII escaped.
-/
namespace PathTracking.Json

def escape4 (n : Nat) : List Char := '\\' :: 'u' :: Text.hexDigits 4 n

def escape (c : Char) : List Char :=
  if c = '"' then ['\\', '"']
  else if c = '\\' then ['\\', '\\']
  else if c = '\n' then ['\\', 'n']
  else if c = '\r' then ['\\', 'r']
  else if c = '\t' then ['\\', 't']
  else if c = '\x0c' then ['\\', 'f']
  else if c = '\x08' then ['\\', 'b']
  else if 0x20 ≤ c.toNat ∧ c.toNat < 0x7f then [c]
  else if c.toNat < 0x10000 then escape4 c.toNat
  else
    let n := c.toNat - 0x10000
    escape4 (0xd800 + n / 0x400) ++ escape4 (0xdc00 + n % 0x400)

def quote (s : String) : String :=
  String.ofList ('"' :: s.toList.flatMap escape ++ ['"'])

/-- A number; the infinities and NaN have words of their own. -/
def number (x : Float) : String :=
  if x.isNaN then "NaN"
  else if x.isInf then (if x < 0 then "-Infinity" else "Infinity")
  else Decimal.text x

end PathTracking.Json
