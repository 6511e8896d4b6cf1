import PathTracking.Settings.Schema

/-!
# Coercions

How an untyped value becomes a field of a given type. Numbers, truth values and texts
that spell them stand for each other as long as nothing is lost.
-/
namespace PathTracking

/-- Why a value is none of a type, or not within a bound. -/
inductive Defect
  | missing
  | notNumber
  | notNumeric
  | notInteger
  | notIntegral
  | fractional
  | notFinite
  | integerTooLong
  | notBoolean
  | notBooleanWord
  | notText
  | notUnicode
  | notPoint
  | notPositive
  | negative
  deriving DecidableEq, Repr

namespace Defect

def code : Defect → String
  | missing => "missing"
  | notNumber => "float_type"
  | notNumeric => "float_parsing"
  | notInteger => "int_type"
  | notIntegral => "int_parsing"
  | fractional => "int_from_float"
  | notFinite => "finite_number"
  | integerTooLong => "int_parsing_size"
  | notBoolean => "bool_type"
  | notBooleanWord => "bool_parsing"
  | notText => "string_type"
  | notUnicode => "string_unicode"
  | notPoint => "model_type"
  | notPositive => "greater_than"
  | negative => "greater_than_equal"

def message : Defect → String
  | missing => "Field required"
  | notNumber => "Input should be a valid number"
  | notNumeric => "Input should be a valid number, unable to parse string as a number"
  | notInteger => "Input should be a valid integer"
  | notIntegral => "Input should be a valid integer, unable to parse string as an integer"
  | fractional => "Input should be a valid integer, got a number with a fractional part"
  | notFinite => "Input should be a finite number"
  | integerTooLong => "Unable to parse input string as an integer, exceeded maximum size"
  | notBoolean => "Input should be a valid boolean"
  | notBooleanWord => "Input should be a valid boolean, unable to interpret input"
  | notText => "Input should be a valid string"
  | notUnicode =>
    "Input should be a valid string, unable to parse raw data as a unicode string"
  | notPoint => "Input should be a valid dictionary or instance of Point"
  | notPositive => "Input should be greater than 0"
  | negative => "Input should be greater than or equal to 0"

end Defect

namespace Value

/-- The text in a value, byte strings read as UTF-8. The inner `none` is for bytes that
are not. -/
def spelled? : Value → Option (Option (List Char))
  | text s => some (some s.toList)
  | bytes b => some (Text.decodeWhole b).toOption
  | _ => none

/-- The integer of a binary64 number without fraction. -/
def wholeNumber (x : Float) : Except Defect Int :=
  match Binary64.decode x with
  | .finite negative m e =>
    let (n, d) := Binary64.scale 2 m 1 e
    if n % d ≠ 0 then .error .fractional
    else if Nat.pow 2 63 ≤ n / d then .error .integerTooLong
    else .ok (if negative then -(n / d : Nat) else (n / d : Nat))
  | _ => .error .notFinite

def toReal (v : Value) : Except Defect Float :=
  match v.spelled? with
  | some s =>
    match s.bind Text.readStrictFloat with
    | some x => .ok x
    | none => .error .notNumeric
  | none =>
    match v with
    | bool b => .ok (if b then 1 else 0)
    | int n =>
      let x := Binary64.ofInt n
      if x.isInf then .error .notNumber else .ok x
    | float x => .ok x
    | _ => .error .notNumber

def toInteger (v : Value) : Except Defect Int :=
  match v.spelled? with
  | some s =>
    if s.any (Text.maxIntDigits < ·.length) then .error .integerTooLong
    else
      match s.bind Text.readStrictInt with
      | some n => .ok n
      | none => .error .notIntegral
  | none =>
    match v with
    | bool b => .ok (if b then 1 else 0)
    | int n => .ok n
    | float x => wholeNumber x
    | _ => .error .notInteger

def yesWords : List String := ["1", "on", "t", "true", "y", "yes"]

def noWords : List String := ["0", "off", "f", "false", "n", "no"]

def boolOfInt (n : Int) : Except Defect Bool :=
  if n = 0 then .ok false else if n = 1 then .ok true else .error .notBooleanWord

def toBoolean (v : Value) : Except Defect Bool :=
  match v.spelled? with
  | some s =>
    let word := (s.getD []).map Char.toLower |> String.ofList
    if yesWords.contains word then .ok true
    else if noWords.contains word then .ok false
    else .error .notBooleanWord
  | none =>
    match v with
    | bool b => .ok b
    | int n => if (Binary64.ofInt n).isInf then .error .notBoolean else boolOfInt n
    | float x =>
      match wholeNumber x with
      | .ok n => boolOfInt n
      | .error .integerTooLong => .error .notBooleanWord
      | .error _ => .error .notBoolean
    | _ => .error .notBoolean

def toText (v : Value) : Except Defect String :=
  match v.spelled? with
  | some (some s) => .ok (String.ofList s)
  | some none => .error .notUnicode
  | none => .error .notText

/-- The value of a type that an untyped value is taken for. -/
def coerce : (type : FieldType) → Value → Except Defect type.Carrier
  | _, broken _ => .error .notUnicode
  | .real, v => v.toReal
  | .integer, v => v.toInteger
  | .truth, v => v.toBoolean
  | .text, v => v.toText
  | .optional _, null => .ok none
  | .optional type, v => (coerce type v).map some

end Value
end PathTracking
