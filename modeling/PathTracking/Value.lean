import PathTracking.Text.CodePoint
import PathTracking.Text.Numeral
import PathTracking.Text.Utf8

/-!
# Untyped values

What a JSON or YAML document, or a settings object, holds before anything is known about
its shape, and the conversions that need no schema: to a number, to a sequence of
elements, to a truth value. A conversion that does not apply says why.
-/
namespace PathTracking

/-- A mapping keeps its keys in the order in which they first appear. -/
inductive Value
  | null
  | bool (b : Bool)
  | int (n : Int)
  | float (x : Float)
  | text (s : String)
  /-- A text that is none of characters alone. -/
  | broken (t : Text.BrokenText)
  | bytes (b : List UInt8)
  /-- A date or a point in time; nothing here looks inside. -/
  | timestamp
  | list (items : List Value)
  /-- The elements in the order in which a loop visits them. -/
  | set (items : List Value)
  | mapping (entries : List (Value × Value))
  /-- Two values that are held together and cannot be replaced, as a key can be. -/
  | pair (first second : Value)
  /-- A collection that is not empty and holds the value itself, by its number in the
  document. -/
  | link (n : Nat)

/-- Why an untyped value does not fit its use. -/
inductive Misfit
  /-- A field is asked of something without fields. -/
  | noFields
  /-- A mapping lacks the key. -/
  | missingKey
  /-- A sequence is too short. -/
  | missingItem
  /-- The operation does not exist for values of this kind. -/
  | wrongKind
  /-- An integer beyond the largest binary64 number. -/
  | tooLarge
  /-- A text that is no numeral, as it is shown in a message. -/
  | notNumeric (shown : List Char)
  deriving DecidableEq, Repr

def Misfit.message : Misfit → String
  | .noFields => "the value has no fields"
  | .missingKey => "the mapping lacks the key"
  | .missingItem => "the list is too short"
  | .wrongKind => "the value is of the wrong kind"
  | .tooLarge => "int too large to convert to float"
  | .notNumeric shown => Text.notNumericMessage shown

namespace Value

/-- A text of code points. -/
def ofCodePoints (s : List Text.CodePoint) : Value :=
  match Text.splitSurrogate [] s with
  | .inl chars => text (String.ofList chars)
  | .inr t => broken t

def isNull : Value → Bool
  | null => true
  | _ => false

/-- The keys that a mapping, and the elements that a set, can hold. -/
def isHashable : Value → Bool
  | list _ | set _ | mapping _ | link _ => false
  | pair first second => first.isHashable && second.isHashable
  | _ => true

/-- The numeric value of a number or a truth value, when it is an integer. -/
def integral? : Value → Option Int
  | bool b => some (if b then 1 else 0)
  | int n => some n
  | _ => none

/-- Whether two keys are one. Numbers are compared by value, and NaN is one key. -/
def sameKey : Value → Value → Bool
  | null, null => true
  | text s, text t => s == t
  | broken s, broken t => s == t
  | bytes a, bytes b => a == b
  | float x, float y => x == y || x.isNaN && y.isNaN
  | float x, v | v, float x => v.integral?.any fun n => Binary64.toInt? x = some n
  | v, w =>
    match v.integral?, w.integral? with
    | some m, some n => m == n
    | _, _ => false

/-- Sets a key of a mapping: in its old place if it is there, at the end if not. -/
def putEntry (key value : Value) : List (Value × Value) → List (Value × Value)
  | [] => [(key, value)]
  | (k, v) :: rest =>
    if sameKey k key then (k, value) :: rest else (k, v) :: putEntry key value rest

def entriesOf (entries : List (Value × Value)) : List (Value × Value) :=
  entries.foldl (fun acc (k, v) => putEntry k v acc) []

/-- The value of a text key. -/
def field? (name : String) (entries : List (Value × Value)) : Option Value :=
  (entries.find? fun (k, _) => sameKey k (text name)).map Prod.snd

/-- Empty collections and texts, zeros, `false` and `null` do not count as given. -/
def isGiven : Value → Bool
  | null => false
  | bool b => b
  | int n => n != 0
  | float x => x != 0
  | text s => !s.isEmpty
  | bytes b => !b.isEmpty
  | broken _ | timestamp | pair .. | link _ => true
  | list items | set items => !items.isEmpty
  | mapping entries => !entries.isEmpty

/-- The field of a mapping; absent if the mapping lacks it. -/
def get (v : Value) (name : String) : Except Misfit (Option Value) :=
  match v with
  | mapping entries => .ok (field? name entries)
  | _ => .error .noFields

/-- The elements that a loop over the value visits. -/
def elements : Value → Except Misfit (List Value)
  | list items | set items => .ok items
  | mapping entries => .ok (entries.map Prod.fst)
  | text s => .ok (s.toList.map fun c => text c.toString)
  | broken t => .ok (t.codePoints.map fun p => ofCodePoints [p])
  | bytes b => .ok (b.map fun x => int x.toNat)
  | pair first second => .ok [first, second]
  | _ => .error .wrongKind

/-- The number of elements. -/
def size : Value → Except Misfit Nat
  | text s => .ok s.length
  | v => v.elements.map List.length

/-- The element at a place. -/
def item (v : Value) (i : Nat) : Except Misfit Value :=
  match v with
  | mapping entries =>
    match entries.find? fun (k, _) => sameKey k (int i) with
    | some (_, value) => .ok value
    | none => .error .missingKey
  | set _ => .error .wrongKind
  | v => do
    match (← v.elements)[i]? with
    | some value => .ok value
    | none => .error .missingItem

/-- How a byte string is shown in a message. -/
def quotedBytes (b : List UInt8) : List Char :=
  let chars := b.map fun x => Char.ofNat x.toNat
  let quote := Text.quoteFor chars
  let show1 (c : Char) : List Char :=
    if c.toNat < 0x7f then Text.escapeChar quote c else '\\' :: 'x' :: Text.hexDigits 2 c.toNat
  'b' :: quote :: chars.flatMap show1 ++ [quote]

/-- The number in a text, by the open reader. -/
def numberIn (s : List Char) : Except Misfit Float :=
  match Text.readFloat s with
  | some x => .ok x
  | none => .error (.notNumeric (Text.quoted s))

/-- The number that a value is or spells. -/
def toNumber : Value → Except Misfit Float
  | bool b => .ok (if b then 1 else 0)
  | int n =>
    let x := Binary64.ofInt n
    if x.isInf then .error .tooLarge else .ok x
  | float x => .ok x
  | text s => numberIn s.toList
  | broken t => .error (.notNumeric t.quoted)
  | bytes b =>
    if b.all (· < 0x80) then
      match Text.readFloat (b.map fun x => Char.ofNat x.toNat) with
      | some x => .ok x
      | none => .error (.notNumeric (quotedBytes b))
    else .error (.notNumeric (quotedBytes b))
  | _ => .error .wrongKind

end Value
end PathTracking
