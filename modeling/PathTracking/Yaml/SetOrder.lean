import PathTracking.Value

/-!
# The order of a set

A set keeps its elements in a table with a slot for each, which is found by the hash of the element,
and a loop goes through the slots in turn. The hash of a number is the number itself modulo a prime.
Those of texts differ from run to run, so that nothing is known about the order of a set that holds
some; here it is the order of the text.
-/
namespace PathTracking.Yaml

/-- The prime `2 ^ 61 - 1`, modulo which `2 ^ 61` is one. -/
def hashPrime : Nat := Nat.pow 2 61 - 1

/-- The hash of `± magnitude`, as a machine word. -/
def signedHash (negative : Bool) (magnitude : Nat) : Nat :=
  if negative && magnitude ≠ 0 then
    -- The word for minus one tells of a failure and stands for no hash.
    Nat.pow 2 64 - (if magnitude = 1 then 2 else magnitude)
  else magnitude

/-- The hash of a number or a truth value. NaN has none of its own. -/
def hash? : Value → Option Nat
  | .bool b => some (if b then 1 else 0)
  | .int n => some (signedHash (n < 0) (n.natAbs % hashPrime))
  | .float x =>
    match Binary64.decode x with
    | .nan => none
    | .infinite negative => some (signedHash negative 314159)
    | .finite negative m e =>
      some (signedHash negative (m * Nat.pow 2 (e.emod 61).toNat % hashPrime))
  | _ => none

/-- The number of slots for a number of elements: a power of two. -/
def tableSize (count : Nat) : Nat :=
  if count < 5 then 8 else Nat.pow 2 ((2 * count).log2 + 1)

/-- The first free slot from `i` on: ten slots in a row are tried if there are so many, and else
one, before the bits of the hash that are left tell where to go on. -/
def freeSlot (table : List (Option Value)) : Nat → Nat → Nat → Nat
  | 0, i, _ => i
  | fuel + 1, i, left =>
    let row := if i + 10 ≤ table.length then 10 else 1
    match (List.range row).find? fun k => (table[i + k]?.join).isNone with
    | some k => i + k
    | none =>
      let left := left / 32
      freeSlot table fuel ((5 * i + 1 + left) % table.length) left

/-- The elements of a set in the order in which a loop visits them. -/
def setOrder (elements : List Value) : List Value :=
  match elements.mapM hash? with
  | none => elements
  | some hashes =>
    let empty := List.replicate (tableSize elements.length) none
    let insert (table : List (Option Value)) (entry : Value × Nat) : List (Option Value) :=
      let slot := freeSlot table (table.length + 64) (entry.2 % table.length) entry.2
      table.set slot (some entry.1)
    ((elements.zip hashes).foldl insert empty).filterMap id

end PathTracking.Yaml
