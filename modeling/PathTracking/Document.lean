import PathTracking.Value

/-!
# Documents

What a reader finds in a text: a value, or a reason why there is none. A collection in it can
hold itself, which no tree of values shows; there it holds a link to itself instead.
-/
namespace PathTracking

structure Document where
  root : Value
  /-- The collections that links stand for, by number. -/
  linked : List (Nat × Value)

namespace Document

/-- What a value in the document stands for. -/
def follow (document : Document) : Value → Value
  | .link n => (document.linked.lookup n).getD .null
  | v => v

end Document

/-- The sorts of failures of a reader. -/
inductive FailureSort
  /-- Bytes that are no text. -/
  | encoding
  /-- A text that spells no value of its kind. -/
  | badValue
  /-- A breach of the syntax. -/
  | malformed
  /-- A number too large for the machine. -/
  | tooLarge
  | missingItem
  | missingKey
  | noFields
  /-- Any other, as of a text that is nested too deeply. -/
  | other
  deriving DecidableEq, Repr

/-- Why a reader finds no document. -/
structure ReadFailure where
  sort : FailureSort
  message : String
  deriving DecidableEq, Repr

/-- Whether a run ends with the message of the failure. -/
def ReadFailure.isReported (failure : ReadFailure) : Bool :=
  match failure.sort with
  | .encoding | .badValue => true
  | _ => false

end PathTracking
