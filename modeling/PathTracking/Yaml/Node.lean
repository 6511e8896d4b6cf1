import PathTracking.Yaml.Tag
import PathTracking.Yaml.Token

/-!
# Nodes

The tree that a token sequence denotes: tagged scalars, sequences and mappings, with each
alias replaced by the node it names unless the alias stands inside that node. The grammar is
read by recursive descent; its fuel bounds the number of steps on a path from the root, of
which each token admits few.
-/
namespace PathTracking.Yaml

/-- What is known of a collection besides what it holds. -/
structure Label where
  tag : Tag
  /-- The number of tokens from its first one on, which no other collection of the text has. -/
  place : Nat
  deriving DecidableEq, Repr

inductive Node
  | scalar (tag : Tag) (text : List Text.CodePoint)
  | sequence (label : Label) (items : List Node)
  | mapping (label : Label) (entries : List (Node × Node))
  /-- An alias for a node that contains it. -/
  | enclosing (anchor : String)

/-- The null that an absent node stands for. -/
def Node.empty : Node := .scalar .null []

/-- Nodes by their anchors, the latest first. -/
abbrev Anchors := List (String × Node)

/-- What the reader goes through: the tokens left, and the anchors so far, the latest
first, each with its node once that is complete. -/
structure Reading where
  tokens : List Token
  anchors : List (String × Option Node)
  /-- How many more collections can be nested in one another here. -/
  room : Nat

namespace Reading

def head (r : Reading) : Token := r.tokens.head?.getD .streamEnd

def next (r : Reading) : Reading := { r with tokens := r.tokens.drop 1 }

end Reading

abbrev Handles := List (String × String)

def defaultHandles : Handles := [("!", "!"), ("!!", coreUri)]

/-- The URI of a tag. -/
def resolveTag (handles : Handles) (t : TagText) : Except Error String :=
  match t.handle with
  | none => .ok t.suffix
  | some handle =>
    match handles.find? fun (h, _) => h = handle with
    | some (_, expansion) => .ok (expansion ++ t.suffix)
    | none => .error .malformed

/-- Anchor and tag of a node, in either order. -/
def properties (handles : Handles) (r : Reading) :
    Except Error (Option String × Option String × Reading) := do
  match r.head with
  | .anchor a =>
    let r := r.next
    match r.head with
    | .tag t => return (some a, some (← resolveTag handles t), r.next)
    | _ => return (some a, none, r)
  | .tag t =>
    let uri ← resolveTag handles t
    let r := r.next
    match r.head with
    | .anchor a => return (some a, some uri, r.next)
    | _ => return (none, some uri, r)
  | _ => return (none, none, r)

/-- The tag of a collection: its own unless there is none or only `!`. -/
def collectionTag (uri : Option String) (default : Tag) : Tag :=
  match uri with
  | none => default
  | some uri => if uri = "!" then default else .ofUri uri

/-- The label of a collection that starts here. -/
def Reading.label (r : Reading) (uri : Option String) (default : Tag) : Label :=
  ⟨collectionTag uri default, r.tokens.length⟩

/-- The kind that the text of a plain scalar implies. -/
def plainTag (text : List Text.CodePoint) : Tag :=
  match Text.splitSurrogate [] text with
  | .inl chars => .ofPlain chars
  | .inr _ => .text

/-- The tag of a scalar. One that is only `!` makes even a quoted text count as plain. -/
def scalarTag (uri : Option String) (isPlain : Bool) (text : List Text.CodePoint) : Tag :=
  match uri with
  | none => if isPlain then plainTag text else .text
  | some uri => if uri = "!" then plainTag text else .ofUri uri

/-- Where a node stands decides which forms it may take. -/
inductive Context
  | flow
  | block
  /-- The value of a block mapping, where a sequence needs no indentation. -/
  | blockValue
  deriving DecidableEq, Repr

def isEntryEnd : Token → Bool
  | .key | .value | .blockEnd => true
  | _ => false

mutual

def readNode (handles : Handles) : Nat → Context → Reading → Except Error (Node × Reading)
  | 0, _, _ => .error .malformed
  | fuel + 1, context, r =>
    match r.head with
    | .alias name =>
      match r.anchors.find? fun (n, _) => n = name with
      | some (_, some node) => .ok (node, r.next)
      | some (_, none) => .ok (.enclosing name, r.next)
      | none => .error .malformed
    | _ => do
      let room := r.room
      if room = 0 then throw .tooDeep
      let (anchor, uri, r) ← properties handles { r with room := room - 1 }
      match anchor with
      | none =>
        let (node, r) ← readContent handles fuel context false uri r
        return (node, { r with room })
      | some a =>
        if r.anchors.any fun (n, _) => n = a then throw .malformed
        let (node, r) ← readContent handles fuel context true uri
          { r with anchors := (a, none) :: r.anchors }
        let anchors := r.anchors.map fun (n, v) => if n = a then (n, some node) else (n, v)
        return (node, { r with anchors, room })

/-- A node after its properties, which `named` tells of besides the tag. -/
def readContent (handles : Handles) :
    Nat → Context → Bool → Option String → Reading → Except Error (Node × Reading)
  | 0, _, _, _, _ => .error .malformed
  | fuel + 1, context, named, uri, r =>
    match r.head with
    | .blockEntry =>
      if context = .blockValue then
        readIndentless handles fuel (r.label uri .sequence) [] r
      else if named || uri.isSome then .ok (.scalar (scalarTag uri true []) [], r)
      else .error .malformed
    | .scalar isPlain text => .ok (.scalar (scalarTag uri isPlain text) text, r.next)
    | .flowSequence => readFlowItems handles fuel (r.label uri .sequence) true [] r.next
    | .flowMapping => readFlowEntries handles fuel (r.label uri .mapping) true [] r.next
    | .blockSequence =>
      if context ≠ .flow then readItems handles fuel (r.label uri .sequence) [] r.next
      else if named || uri.isSome then .ok (.scalar (scalarTag uri true []) [], r)
      else .error .malformed
    | .blockMapping =>
      if context ≠ .flow then readEntries handles fuel (r.label uri .mapping) [] r.next
      else if named || uri.isSome then .ok (.scalar (scalarTag uri true []) [], r)
      else .error .malformed
    | _ =>
      if named || uri.isSome then .ok (.scalar (scalarTag uri true []) [], r)
      else .error .malformed

/-- The items of a block sequence from the next on. -/
def readItems (handles : Handles) :
    Nat → Label → List Node → Reading → Except Error (Node × Reading)
  | 0, _, _, _ => .error .malformed
  | fuel + 1, label, acc, r =>
    match r.head with
    | .blockEntry =>
      let r := r.next
      if r.head = .blockEntry ∨ r.head = .blockEnd then
        readItems handles fuel label (.empty :: acc) r
      else
        match readNode handles fuel .block r with
        | .ok (node, r) => readItems handles fuel label (node :: acc) r
        | .error e => .error e
    | .blockEnd => .ok (.sequence label acc.reverse, r.next)
    | _ => .error .malformed

/-- The items of a sequence at the indentation of its mapping. -/
def readIndentless (handles : Handles) :
    Nat → Label → List Node → Reading → Except Error (Node × Reading)
  | 0, _, _, _ => .error .malformed
  | fuel + 1, label, acc, r =>
    match r.head with
    | .blockEntry =>
      let r := r.next
      if r.head = .blockEntry ∨ isEntryEnd r.head then
        readIndentless handles fuel label (.empty :: acc) r
      else
        match readNode handles fuel .block r with
        | .ok (node, r) => readIndentless handles fuel label (node :: acc) r
        | .error e => .error e
    | _ => .ok (.sequence label acc.reverse, r)

/-- The entries of a block mapping from the next on. A value needs a key in front of it,
though that may be empty. -/
def readEntries (handles : Handles) :
    Nat → Label → List (Node × Node) → Reading → Except Error (Node × Reading)
  | 0, _, _, _ => .error .malformed
  | fuel + 1, label, acc, r =>
    match r.head with
    | .key =>
      let r := r.next
      if isEntryEnd r.head then readEntryValue handles fuel label acc .empty r
      else
        match readNode handles fuel .blockValue r with
        | .ok (key, r) => readEntryValue handles fuel label acc key r
        | .error e => .error e
    | .blockEnd => .ok (.mapping label acc.reverse, r.next)
    | _ => .error .malformed

/-- The value of a key of a block mapping, and the entries after it. -/
def readEntryValue (handles : Handles) :
    Nat → Label → List (Node × Node) → Node → Reading → Except Error (Node × Reading)
  | 0, _, _, _, _ => .error .malformed
  | fuel + 1, label, acc, key, r =>
    match r.head with
    | .value =>
      let r := r.next
      if isEntryEnd r.head then readEntries handles fuel label ((key, .empty) :: acc) r
      else
        match readNode handles fuel .blockValue r with
        | .ok (value, r) => readEntries handles fuel label ((key, value) :: acc) r
        | .error e => .error e
    | _ => readEntries handles fuel label ((key, .empty) :: acc) r

/-- The items of a flow sequence; `first` if none was read yet. -/
def readFlowItems (handles : Handles) :
    Nat → Label → Bool → List Node → Reading → Except Error (Node × Reading)
  | 0, _, _, _, _ => .error .malformed
  | fuel + 1, label, first, acc, r =>
    match r.head with
    | .flowSequenceEnd => .ok (.sequence label acc.reverse, r.next)
    | head =>
      if !first && head ≠ .flowEntry then .error .malformed
      else
        let r := if first then r else r.next
        match r.head with
        | .flowSequenceEnd => .ok (.sequence label acc.reverse, r.next)
        | .key =>
          let place := r.tokens.length
          match readFlowPair handles fuel r.next with
          | .ok (entry, r) =>
            readFlowItems handles fuel label false
              (.mapping ⟨.mapping, place⟩ [entry] :: acc) r
          | .error e => .error e
        | _ =>
          match readNode handles fuel .flow r with
          | .ok (node, r) => readFlowItems handles fuel label false (node :: acc) r
          | .error e => .error e

/-- A single entry among the items of a flow sequence. -/
def readFlowPair (handles : Handles) : Nat → Reading → Except Error ((Node × Node) × Reading)
  | 0, _ => .error .malformed
  | fuel + 1, r => do
    let (key, r) ←
      if r.head = .value ∨ r.head = .flowEntry ∨ r.head = .flowSequenceEnd then pure (.empty, r)
      else readNode handles fuel .flow r
    if r.head = .value then
      let r := r.next
      if r.head = .flowEntry ∨ r.head = .flowSequenceEnd then return ((key, .empty), r)
      else
        let (value, r) ← readNode handles fuel .flow r
        return ((key, value), r)
    else return ((key, .empty), r)

/-- The entries of a flow mapping; `first` if none was read yet. -/
def readFlowEntries (handles : Handles) :
    Nat → Label → Bool → List (Node × Node) → Reading → Except Error (Node × Reading)
  | 0, _, _, _, _ => .error .malformed
  | fuel + 1, label, first, acc, r =>
    match r.head with
    | .flowMappingEnd => .ok (.mapping label acc.reverse, r.next)
    | head =>
      if !first && head ≠ .flowEntry then .error .malformed
      else
        let r := if first then r else r.next
        match r.head with
        | .flowMappingEnd => .ok (.mapping label acc.reverse, r.next)
        | .key =>
          match readFlowEntry handles fuel r.next with
          | .ok (entry, r) => readFlowEntries handles fuel label false (entry :: acc) r
          | .error e => .error e
        | _ =>
          match readNode handles fuel .flow r with
          | .ok (key, r) => readFlowEntries handles fuel label false ((key, .empty) :: acc) r
          | .error e => .error e

/-- An entry of a flow mapping after its key token. -/
def readFlowEntry (handles : Handles) : Nat → Reading → Except Error ((Node × Node) × Reading)
  | 0, _ => .error .malformed
  | fuel + 1, r => do
    let (key, r) ←
      if r.head = .value ∨ r.head = .flowEntry ∨ r.head = .flowMappingEnd then pure (.empty, r)
      else readNode handles fuel .flow r
    if r.head = .value then
      let r := r.next
      if r.head = .flowEntry ∨ r.head = .flowMappingEnd then return ((key, .empty), r)
      else
        let (value, r) ← readNode handles fuel .flow r
        return ((key, value), r)
    else return ((key, .empty), r)

end

/-- The directives before a document: at most one version, which has to be 1, and tag
handles, each at most once. -/
def readDirectives (versioned : Bool) (handles : Handles) :
    List Token → Except Error (Handles × List Token)
  | .directive d :: rest =>
    match d with
    | .version major =>
      if versioned || major ≠ 1 then .error .malformed else readDirectives true handles rest
    | .tagHandle handle expansion =>
      if handles.any fun (h, _) => h = handle then .error .malformed
      else readDirectives versioned (handles ++ [(handle, expansion)]) rest
    | .unknown => readDirectives versioned handles rest
  | tokens => .ok (handles ++ defaultHandles, tokens)

/-- What has to follow the only document of a text. -/
def isFinished (tokens : List Token) : Bool :=
  (tokens.dropWhile (· = .documentEnd)).head? = some .streamEnd

/-- The root of a document that has none. -/
def isBare : Token → Bool
  | .directive _ | .documentStart | .documentEnd | .streamEnd => true
  | _ => false

/-- The root of the document that the tokens hold, with the anchors in it; `none` if they hold
none. -/
def Node.ofTokens? (room : Nat) (tokens : List Token) :
    Except Error (Option (Node × Anchors)) := do
  let fuel := 4 * tokens.length + 16
  let root (handles : Handles) (tokens : List Token) : Except Error (Option (Node × Anchors)) := do
    let (node, r) ← readNode handles fuel .block ⟨tokens, [], room⟩
    let anchors := r.anchors.filterMap fun (name, node) => node.map (name, ·)
    if isFinished r.tokens then return some (node, anchors) else throw .malformed
  match tokens.head? with
  | none | some .streamEnd => return none
  | some (.directive _) | some .documentStart =>
    let (handles, tokens) ← readDirectives false [] tokens
    match tokens with
    | .documentStart :: tokens =>
      if isBare (tokens.head?.getD .streamEnd) then
        if isFinished tokens then return some (.empty, []) else throw .malformed
      else root handles tokens
    | _ => throw .malformed
  | some _ => root defaultHandles tokens

end PathTracking.Yaml
