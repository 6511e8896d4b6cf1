import PathTracking.Text.Quoted

/-!
# Code points that are no characters

An escape can stand for half of a pair of surrogates, which on its own is no character. A text
with such a code point in it is not the same as any text of characters, so it is kept apart from
them.
-/
namespace PathTracking.Text

/-- Half of a pair of surrogates. -/
structure Surrogate where
  code : Nat
  inRange : 0xd800 ≤ code ∧ code < 0xe000
  deriving DecidableEq, Repr

abbrev CodePoint := Char ⊕ Surrogate

def CodePoint.ofNat (n : Nat) : CodePoint :=
  if inRange : 0xd800 ≤ n ∧ n < 0xe000 then .inr ⟨n, inRange⟩ else .inl (Char.ofNat n)

/-- A text that holds a surrogate: the first one, and what stands before and after it. -/
structure BrokenText where
  before : List Char
  surrogate : Surrogate
  after : List CodePoint
  deriving DecidableEq, Repr

/-- A text of code points, by its first surrogate if it has one. Characters are collected in
reverse. -/
def splitSurrogate (acc : List Char) : List CodePoint → List Char ⊕ BrokenText
  | [] => .inl acc.reverse
  | .inl c :: rest => splitSurrogate (c :: acc) rest
  | .inr surrogate :: rest => .inr ⟨acc.reverse, surrogate, rest⟩

namespace BrokenText

def codePoints (t : BrokenText) : List CodePoint :=
  t.before.map .inl ++ .inr t.surrogate :: t.after

/-- The text as it is shown in a message. -/
def quoted (t : BrokenText) : List Char :=
  let quote := quoteFor (t.codePoints.filterMap Sum.getLeft?)
  let shown : CodePoint → List Char
    | .inl c => escapeChar quote c
    | .inr surrogate => '\\' :: 'u' :: hexDigits 4 surrogate.code
  quote :: t.codePoints.flatMap shown ++ [quote]

end BrokenText
end PathTracking.Text
