import PathTracking.Text.Numeral

/-!
# Why a YAML document has no value

Most faults are breaches of the syntax. The others come from texts that carry an explicit
tag and do not spell a value of that tag.
-/
namespace PathTracking.Yaml

/-- Why a document has no value. -/
inductive Error
  /-- A breach of the syntax, an unknown tag or alias, or an unusable key. -/
  | malformed
  /-- An escape beyond the last code point. -/
  | beyondUnicode (code : Nat)
  /-- A text that is tagged as a real number but is none, as shown in a message. -/
  | notNumeric (shown : List Char)
  | notIntegral (base : Nat) (shown : List Char)
  | hugeInteger (digits : Nat)
  /-- An empty text that is tagged as a number. -/
  | emptyNumber
  /-- A text that is tagged as a truth value but is none. -/
  | unknownTruth
  /-- A text that is tagged as a timestamp but is none. -/
  | notTimestamp
  /-- A date or time whose part is out of range. -/
  | badDate (problem : String)
  /-- More collections in one another than the reader has room for. -/
  | tooDeep
  deriving DecidableEq, Repr

namespace Error

/-- Whether an escape is too large even for a machine word. -/
def isHugeEscape (code : Nat) : Bool := Nat.pow 2 31 ≤ code

def message : Error → String
  | malformed => "malformed document"
  | beyondUnicode code =>
    if isHugeEscape code then "signed integer is greater than maximum"
    else "chr() arg not in range(0x110000)"
  | notNumeric shown => Text.notNumericMessage shown
  | notIntegral base shown =>
    s!"invalid literal for int() with base {base}: {String.ofList shown}"
  | hugeInteger digits => Text.hugeIntegerMessage digits
  | emptyNumber => "a number without text"
  | unknownTruth => "no truth value"
  | notTimestamp => "no timestamp"
  | badDate problem => problem
  | tooDeep => "a document that is nested too deeply"

end Error
end PathTracking.Yaml
