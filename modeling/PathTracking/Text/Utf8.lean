import PathTracking.Text.Quoted

/-!
# Reading UTF-8

Bytes to characters, with the position and the cause of the first fault. A text file is
read in blocks: a character cut by the end of a block is carried to the next one, and a
fault is located in the block where it shows, after what was carried into it. So a
character that the file ends in the middle of is a fault at position zero of an empty
last block.
-/
namespace PathTracking.Text

inductive Utf8Cause
  | invalidStart
  | invalidContinuation
  | unexpectedEnd
  deriving DecidableEq, Repr

def Utf8Cause.text : Utf8Cause → String
  | .invalidStart => "invalid start byte"
  | .invalidContinuation => "invalid continuation byte"
  | .unexpectedEnd => "unexpected end of data"

/-- The bytes from `start` on that are no character: `length` of them, the first being
`byte`. -/
structure Utf8Fault where
  start : Nat
  length : Nat
  byte : UInt8
  cause : Utf8Cause
  deriving DecidableEq, Repr

def Utf8Fault.message (f : Utf8Fault) : String :=
  if f.length = 1 then
    s!"'utf-8' codec can't decode byte 0x{String.ofList (hexDigits 2 f.byte.toNat)} in position {f.start}: {f.cause.text}"
  else
    s!"'utf-8' codec can't decode bytes in position {f.start}-{f.start + f.length - 1}: {f.cause.text}"

def isTail (b : UInt8) : Bool := 0x80 ≤ b && b ≤ 0xbf

/-- Whether `b` may follow the first byte `a` of a character. -/
def isSecond (a b : UInt8) : Bool :=
  isTail b && !(a == 0xe0 && b < 0xa0) && !(a == 0xed && 0xa0 ≤ b) &&
    !(a == 0xf0 && b < 0x90) && !(a == 0xf4 && 0x90 ≤ b)

/-- The number of bytes of a character with the first byte `a`; zero if there is none. -/
def sequenceLength (a : UInt8) : Nat :=
  if a < 0x80 then 1
  else if a < 0xc2 then 0
  else if a < 0xe0 then 2
  else if a < 0xf0 then 3
  else if a < 0xf5 then 4
  else 0

def payload (b : UInt8) : Nat := b.toNat % 64

/-- What the front of a byte list is. -/
inductive Utf8Step
  | char (c : Char) (length : Nat)
  | fault (length : Nat) (cause : Utf8Cause)
  /-- The bytes begin a character and end inside it. -/
  | cut
  deriving DecidableEq, Repr

def utf8Step : List UInt8 → Utf8Step
  | [] => .cut
  | a :: rest =>
    match sequenceLength a, rest with
    | 1, _ => .char (Char.ofNat a.toNat) 1
    | 0, _ => .fault 1 .invalidStart
    | _, [] => .cut
    | n, b :: rest =>
      if !isSecond a b then .fault 1 .invalidContinuation
      else if n = 2 then .char (Char.ofNat (a.toNat % 32 * 64 + payload b)) 2
      else match rest with
        | [] => .cut
        | c :: rest =>
          if !isTail c then .fault 2 .invalidContinuation
          else if n = 3 then
            .char (Char.ofNat ((a.toNat % 16 * 64 + payload b) * 64 + payload c)) 3
          else match rest with
            | [] => .cut
            | d :: _ =>
              if !isTail d then .fault 3 .invalidContinuation
              else .char (Char.ofNat
                (((a.toNat % 8 * 64 + payload b) * 64 + payload c) * 64 + payload d)) 4

/-- Decodes a block from `position` on. Characters are collected in reverse; what is left
at the end is an unfinished character, if anything. The fuel is the number of bytes. -/
def decodeBlock : Nat → Nat → List Char → List UInt8 →
    Except Utf8Fault (List Char × List UInt8)
  | _, _, acc, [] => .ok (acc, [])
  | 0, _, acc, bytes => .ok (acc, bytes)
  | fuel + 1, position, acc, bytes@(b :: _) =>
    match utf8Step bytes with
    | .char c n => decodeBlock fuel (position + n) (c :: acc) (bytes.drop n)
    | .fault n cause => .error ⟨position, n, b, cause⟩
    | .cut => .ok (acc, bytes)

/-- Decodes blocks of `size` bytes, each with what the block before left over. A fault comes
with the text of the blocks before its own. -/
def decodeBlocks (size : Nat) : Nat → List Char → List UInt8 → List UInt8 →
    Except (List Char × Utf8Fault) (List Char)
  | fuel + 1, acc, carried, bytes@(_ :: _) =>
    let block := carried ++ bytes.take size
    match decodeBlock block.length 0 acc block with
    | .ok (acc, carried) => decodeBlocks size fuel acc carried (bytes.drop size)
    | .error fault => .error (acc.reverse, fault)
  | _, acc, [], _ => .ok acc.reverse
  | _, acc, b :: rest, _ => .error (acc.reverse, ⟨0, rest.length + 1, b, .unexpectedEnd⟩)

/-- The size of the blocks in which a text file is read. -/
def blockSize : Nat := 8192

/-- A text file read block by block. -/
def readBlocks (bytes : List UInt8) : Except (List Char × Utf8Fault) (List Char) :=
  decodeBlocks blockSize (bytes.length + 1) [] [] bytes

/-- The text of a file. -/
def decodeFile (bytes : List UInt8) : Except Utf8Fault (List Char) :=
  (readBlocks bytes).mapError Prod.snd

/-- What a file gives before a fault in it shows: the text of the blocks before. -/
def decodedBefore (bytes : List UInt8) : List Char :=
  match readBlocks bytes with
  | .ok text => text
  | .error (text, _) => text

/-- A text file read as a whole. -/
def decodeWhole (bytes : List UInt8) : Except Utf8Fault (List Char) :=
  match decodeBlock bytes.length 0 [] bytes with
  | .error fault => .error fault
  | .ok (acc, []) => .ok acc.reverse
  | .ok (_, b :: rest) =>
    .error ⟨bytes.length - (rest.length + 1), rest.length + 1, b, .unexpectedEnd⟩

/-- Line ends in the three common forms, each read as a line feed. -/
def unifyLineEnds : List Char → List Char
  | [] => []
  | '\r' :: '\n' :: rest => '\n' :: unifyLineEnds rest
  | '\r' :: rest => '\n' :: unifyLineEnds rest
  | c :: rest => c :: unifyLineEnds rest

end PathTracking.Text
