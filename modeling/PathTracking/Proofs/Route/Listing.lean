import PathTracking.Proofs.Failure
import PathTracking.Proofs.Route.Table
import PathTracking.Proofs.Settings.Validator
import PathTracking.Proofs.StandardLibrary
import PathTracking.Proofs.Text.Numeral

/-!
# What a listing lists

The items of a listing are meant to be mappings with the fields of a waypoint, or lists of two or
three coordinates. What loads is told by two relations, one on the document (`Lists`) and one on an
item (`Listed`): a document loads exactly if all of its items are listed, and gives their waypoints
in order (`ofListing_eq_ok_iff`). Whatever has elements that are numbers is listed: besides lists
also sets, pairs, byte strings, and texts, whose elements are numbers if they are digits.
-/
namespace PathTracking.Route

namespace Listing

/-- Elements that are the coordinates of a waypoint: all of them are numbers, and there are two at
least. -/
inductive Coordinates {α : Type} (number : α → Float → Prop) : List α → Waypoint Float → Prop
  | mk {elements : List α} {x y : Float} {rest : List Float}
      (numbers : List.Forall₂ number elements (x :: y :: rest)) :
      Coordinates number elements ⟨x, y, rest.head?.getD 0, none⟩

/-- The items that are waypoints. -/
inductive Listed (validator : Validator) : Value → Waypoint Float → Prop
  | fields {entries : List (Value × Value)} {fields : Fields} {w : Waypoint Float}
      (named : Fields.ofEntries? entries = some fields)
      (given : Waypoint.Given validator fields w) : Listed validator (.mapping entries) w
  | list {items : List Value} {w : Waypoint Float}
      (numbers : Coordinates (fun v x => v.toNumber = .ok x) items w) :
      Listed validator (.list items) w
  | set {items : List Value} {w : Waypoint Float}
      (numbers : Coordinates (fun v x => v.toNumber = .ok x) items w) :
      Listed validator (.set items) w
  | pair {first second : Value} {w : Waypoint Float}
      (numbers : Coordinates (fun v x => v.toNumber = .ok x) [first, second] w) :
      Listed validator (.pair first second) w
  | digits {s : String} {w : Waypoint Float}
      (digits : Coordinates (fun c x => Text.digitNumber? c = some x) s.toList w) :
      Listed validator (.text s) w
  | bytes {b : List UInt8} {w : Waypoint Float}
      (two : Coordinates (fun byte x => Binary64.ofInt byte.toNat = x) b w) :
      Listed validator (.bytes b) w

/-- The items in a value: of a mapping its keys. -/
inductive Visits : Value → List Value → Prop
  | list (items : List Value) : Visits (.list items) items
  | set (items : List Value) : Visits (.set items) items
  | keys (entries : List (Value × Value)) : Visits (.mapping entries) (entries.map Prod.fst)
  | pair (first second : Value) : Visits (.pair first second) [first, second]
  | emptyText : Visits (.text "") []
  | emptyBytes : Visits (.bytes []) []

/-- The items of a document. -/
inductive Lists (document : Document) : List Value → Prop
  | blank (blank : document.root.isGiven = false) : Lists document []
  | unnamed {entries : List (Value × Value)} (root : document.root = .mapping entries)
      (absent : Value.field? "waypoints" entries = none) : Lists document []
  | named {entries : List (Value × Value)} {waypoints : Value} {items : List Value}
      (root : document.root = .mapping entries)
      (there : Value.field? "waypoints" entries = some waypoints)
      (visits : Visits (document.follow waypoints) items) : Lists document items
  | bare {items : List Value} (other : ∀ entries, document.root ≠ .mapping entries)
      (visits : Visits document.root items) : Lists document items

/-- The waypoints of a document's items, in order. -/
def Gives (validator : Validator) (document : Document) : List Value → Route Float → Prop :=
  List.Forall₂ fun item w => Listed validator (document.follow item) w

/-! ## Items -/

theorem coordinates_map_iff {α β : Type} {number : β → Float → Prop} {f : α → β} {as : List α}
    {w : Waypoint Float} :
    Coordinates number (as.map f) w ↔ Coordinates (fun a => number (f a)) as w := by
  constructor
  · rintro ⟨numbers⟩
    exact ⟨List.forall₂_map_left_iff.mp numbers⟩
  · rintro ⟨numbers⟩
    exact ⟨List.forall₂_map_left_iff.mpr numbers⟩

theorem ofCoordinates_eq_ok_iff {item : Value} {w : Waypoint Float} :
    ofCoordinates item = .ok w ↔
      ∃ elements, item.elements = .ok elements ∧
        Coordinates (fun v x => v.toNumber = .ok x) elements w := by
  simp only [ofCoordinates, bind_eq_ok_iff, mapM_eq_ok_iff]
  constructor
  · rintro ⟨elements, visited, numbers, read, built⟩
    split at built
    next x y rest =>
      cases built
      exact ⟨elements, visited, ⟨read⟩⟩
    next => cases built
  · rintro ⟨elements, visited, ⟨read⟩⟩
    exact ⟨elements, visited, _, read, rfl⟩

/-- A text of one character is a number exactly if the character is a digit. -/
theorem toNumber_character {c : Char} {x : Float} :
    (Value.text c.toString).toNumber = .ok x ↔ Text.digitNumber? c = some x := by
  have single : c.toString.toList = [c] := String.toList_singleton c
  rw [Value.toNumber, Value.numberIn, single, Text.readFloat_singleton]
  cases Text.digitNumber? c <;> simp

theorem toNumber_byte {b : UInt8} {x : Float} :
    (Value.int b.toNat).toNumber = .ok x ↔ Binary64.ofInt b.toNat = x := by
  have inRange : ∀ n < 256, (Binary64.ofInt (n : ℕ)).isInf = false := by decide +kernel
  rw [Value.toNumber, inRange b.toNat b.toNat_lt, if_neg Bool.false_ne_true, Except.ok.injEq]

variable {validator : Validator}

theorem ofEntries_eq_ok_iff (lawful : validator.Lawful) {entries : List (Value × Value)}
    {w : Waypoint Float} :
    ofEntries validator entries = .ok w ↔
      ∃ fields, Fields.ofEntries? entries = some fields ∧ Waypoint.Given validator fields w := by
  unfold ofEntries
  cases named : Fields.ofEntries? entries with
  | none => simp
  | some fields =>
    simp only [mapError_eq_ok_iff, Option.some.injEq, exists_eq_left',
      Waypoint.ofFields_eq_ok_iff lawful]

theorem waypoint_of_elements (item : Value) {elements : List Value} {w : Waypoint Float}
    (other : ∀ entries, item ≠ .mapping entries) (visited : item.elements = .ok elements) :
    waypoint validator item = .ok w ↔
      Coordinates (fun v x => v.toNumber = .ok x) elements w := by
  rw [waypoint, mapError_eq_ok_iff, ofCoordinates_eq_ok_iff, visited]
  · simp
  · exact other

theorem waypoint_of_scalar {item : Value} {w : Waypoint Float}
    (scalar : item.elements = .error .wrongKind) : waypoint validator item ≠ .ok w := by
  rw [ne_eq, waypoint, mapError_eq_ok_iff, ofCoordinates_eq_ok_iff, scalar]
  · simp
  · rintro entries rfl
    cases scalar

/-- One element is too few. -/
theorem not_coordinates_singleton {α : Type} {number : α → Float → Prop} {a : α}
    {w : Waypoint Float} : ¬ Coordinates number [a] w := by
  rintro ⟨numbers⟩
  cases numbers with
  | cons _ later => cases later

/-- The surrogate in a broken text is no number. -/
theorem not_coordinates_broken (t : Text.BrokenText) (w : Waypoint Float) :
    ¬ Coordinates (fun v x => v.toNumber = .ok x) (t.codePoints.map fun p => Value.ofCodePoints [p])
      w := by
  rintro ⟨numbers⟩
  have each : ∀ v ∈ t.codePoints.map fun p => Value.ofCodePoints [p],
      ∃ x, v.toNumber = .ok x :=
    ((List.forall₂_and_left _ _).mp (numbers.imp fun _ x read => ⟨⟨x, read⟩, read⟩)).1
  have surrogate : .inr t.surrogate ∈ t.codePoints := by simp [Text.BrokenText.codePoints]
  obtain ⟨x, read⟩ := each _ (List.mem_map_of_mem surrogate)
  cases read

/-- The items that are waypoints are those that are listed. -/
theorem waypoint_eq_ok_iff (lawful : validator.Lawful) {item : Value} {w : Waypoint Float} :
    waypoint validator item = .ok w ↔ Listed validator item w := by
  cases item with
  | mapping entries =>
    rw [waypoint, ofEntries_eq_ok_iff lawful]
    exact ⟨fun ⟨_, named, given⟩ => .fields named given,
      fun | .fields named given => ⟨_, named, given⟩⟩
  | list items =>
    rw [waypoint_of_elements (.list items) nofun rfl]
    exact ⟨.list, fun | .list numbers => numbers⟩
  | set items =>
    rw [waypoint_of_elements (.set items) nofun rfl]
    exact ⟨.set, fun | .set numbers => numbers⟩
  | pair first second =>
    rw [waypoint_of_elements (.pair first second) nofun rfl]
    exact ⟨.pair, fun | .pair numbers => numbers⟩
  | text s =>
    rw [waypoint_of_elements (.text s) nofun rfl, coordinates_map_iff]
    simp only [toNumber_character]
    exact ⟨.digits, fun | .digits digits => digits⟩
  | bytes b =>
    rw [waypoint_of_elements (.bytes b) nofun rfl, coordinates_map_iff]
    simp only [toNumber_byte]
    exact ⟨.bytes, fun | .bytes two => two⟩
  | broken t =>
    rw [waypoint_of_elements (.broken t) nofun rfl]
    exact iff_of_false (not_coordinates_broken t w) nofun
  | null | bool | int | float | timestamp | link =>
    exact iff_of_false (waypoint_of_scalar rfl) nofun

/-! ## Documents -/

theorem not_listed_character (c : Char) (w : Waypoint Float) :
    ¬ Listed validator (.text c.toString) w := by
  rintro ⟨⟩
  next digits =>
    rw [show c.toString.toList = [c] from String.toList_singleton c] at digits
    exact not_coordinates_singleton digits

theorem not_listed_codePoint (document : Document) (p : Text.CodePoint) (w : Waypoint Float) :
    ¬ Listed validator (document.follow (Value.ofCodePoints [p])) w := by
  cases p with
  | inl c => exact not_listed_character c w
  | inr surrogate => nofun

/-- The elements of texts and bytes, if there are any, are no waypoints. -/
theorem elements_eq_ok_iff {document : Document} {v : Value} {items : List Value}
    {route : Route Float} (gives : Gives validator document items route) :
    v.elements = .ok items ↔ Visits v items := by
  cases v with
  | list | set | mapping | pair =>
    constructor
    · rintro ⟨⟩
      constructor
    · rintro ⟨⟩
      rfl
  | text s =>
    constructor
    · rintro ⟨⟩
      cases chars : s.toList with
      | nil =>
        obtain rfl : s = "" := String.toList_eq_nil_iff.mp chars
        exact .emptyText
      | cons c rest =>
        rw [chars] at gives
        cases gives with
        | cons character => exact absurd character (not_listed_character c _)
    · rintro ⟨⟩
      rfl
  | bytes b =>
    constructor
    · rintro ⟨⟩
      cases b with
      | nil => exact .emptyBytes
      | cons byte rest => cases gives with | cons number => cases number
    · rintro ⟨⟩
      rfl
  | broken t =>
    refine iff_of_false ?_ nofun
    rintro ⟨⟩
    cases points : t.codePoints with
    | nil => simp [Text.BrokenText.codePoints] at points
    | cons p rest =>
      rw [points] at gives
      cases gives with
      | cons single => exact not_listed_codePoint document p _ single
  | null | bool | int | float | timestamp | link => exact iff_of_false nofun nofun

theorem Visits.eq_nil {v : Value} {items : List Value} (visits : Visits v items)
    (blank : v.isGiven = false) : items = [] := by
  cases visits with
  | list | set =>
    cases items with
    | nil => rfl
    | cons => cases blank
  | keys entries =>
    cases entries with
    | nil => rfl
    | cons => cases blank
  | pair => cases blank
  | emptyText | emptyBytes => rfl

/-- A mapping without entries has no items either way. -/
theorem items_mapping {document : Document} {entries : List (Value × Value)}
    (root : document.root = .mapping entries) :
    items document =
      (document.follow ((Value.field? "waypoints" entries).getD (.list []))).elements := by
  rw [items, root]
  cases entries <;> rfl

theorem items_other {document : Document} (other : ∀ entries, document.root ≠ .mapping entries) :
    items document = if document.root.isGiven then document.root.elements else .ok [] := by
  unfold items
  split
  · split
    next root => exact absurd root (other _)
    next => rfl
  · rfl

theorem items_eq_ok_iff {document : Document} {found : List Value} {route : Route Float}
    (gives : Gives validator document found route) :
    items document = .ok found ↔ Lists document found := by
  by_cases other : ∀ entries, document.root ≠ .mapping entries
  · rw [items_other other]
    constructor
    · intro visited
      split at visited
      · exact .bare other ((elements_eq_ok_iff gives).mp visited)
      next blank =>
        cases visited
        exact .blank (Bool.eq_false_iff.mpr blank)
    · rintro (blank | ⟨root, -⟩ | ⟨root, -⟩ | ⟨-, visits⟩)
      · rw [if_neg (Bool.eq_false_iff.mp blank)]
      · exact absurd root (other _)
      · exact absurd root (other _)
      · split
        · exact (elements_eq_ok_iff gives).mpr visits
        next blank => rw [visits.eq_nil (Bool.eq_false_iff.mpr blank)]
  · simp only [not_forall, not_not] at other
    obtain ⟨entries, root⟩ := other
    rw [items_mapping root]
    cases there : Value.field? "waypoints" entries with
    | none =>
      rw [Option.getD_none]
      constructor
      · rintro ⟨⟩
        exact .unnamed root there
      · rintro (blank | - | ⟨root', named, -⟩ | ⟨other, -⟩)
        · rfl
        · rfl
        · obtain rfl := Value.mapping.inj (root.symm.trans root')
          rw [there] at named
          cases named
        · exact absurd root (other _)
    | some waypoints =>
      rw [Option.getD_some, elements_eq_ok_iff gives]
      constructor
      · exact .named root there
      · rintro (blank | ⟨root', absent⟩ | ⟨root', named, visits⟩ | ⟨other, -⟩)
        · rw [root] at blank
          cases entries with
          | nil => cases there
          | cons => cases blank
        · obtain rfl := Value.mapping.inj (root.symm.trans root')
          rw [there] at absent
          cases absent
        · obtain rfl := Value.mapping.inj (root.symm.trans root')
          obtain rfl := Option.some.inj (there.symm.trans named)
          exact visits
        · exact absurd root (other _)

/-- A document gives the waypoints of its items, in order, if all of them are waypoints. -/
theorem route_eq_ok_iff (lawful : validator.Lawful) {document : Document} {ws : Route Float} :
    route validator document = .ok ws ↔
      ∃ items, Lists document items ∧ Gives validator document items ws := by
  simp only [route, bind_eq_ok_iff, mapM_eq_ok_iff, waypoint_eq_ok_iff lawful]
  constructor
  · rintro ⟨found, visited, gives⟩
    exact ⟨found, (items_eq_ok_iff gives).mp (mapError_eq_ok_iff.mp visited), gives⟩
  · rintro ⟨found, lists, gives⟩
    exact ⟨found, mapError_eq_ok_iff.mpr ((items_eq_ok_iff gives).mpr lists), gives⟩

end Listing

/-- A file gives the waypoints of the items that its document lists, in order, if all of them are
waypoints. -/
theorem ofListing_eq_ok_iff (library : Library) (lawful : library.validator.Lawful)
    (content : Bytes) (route : Route Float) :
    ofListing library content = .ok route ↔
      ∃ document items, library.readDocument content = .ok document ∧
        Listing.Lists document items ∧ Listing.Gives library.validator document items route := by
  rw [ofListing, bind_eq_ok_iff]
  simp only [Listing.route_eq_ok_iff lawful, mapError_eq_ok_iff, exists_and_left]

/-- A listing whose only item is a list of two numbers. -/
def cornerText : List Char := "- [3, 4]\n".toList

/-- The two numbers in a list of a list that has nothing else in it. -/
def onlyCorner? : Value → Option (Int × Int)
  | .list [.list [.int x, .int y]] => some (x, y)
  | _ => none

theorem onlyCorner?_eq_some {v : Value} {x y : Int} (only : onlyCorner? v = some (x, y)) :
    v = .list [.list [.int x, .int y]] := by
  unfold onlyCorner? at only
  split at only <;> cases only
  rfl

theorem readDocument_corner :
    ∃ document, Library.standard.readDocument (ascii cornerText) = .ok document ∧
      document.root = .list [.list [.int 3, .int 4]] := by
  have decoded : Text.decodeFile (ascii cornerText) = .ok cornerText := by decide +kernel
  obtain ⟨document, read, only⟩ := Library.readDocument_of_shown decoded
    (show (Yaml.parse 480 _).toOption.bind (onlyCorner? ·.root) = some (3, 4) by decide +kernel)
  exact ⟨document, read, onlyCorner?_eq_some only⟩

theorem ofListing_corner :
    Library.standard.validator.Lawful ∧
      ofListing .standard (ascii cornerText) = .ok [⟨3, 4, 0, none⟩] := by
  obtain ⟨⟨root, linked⟩, read, rfl⟩ := readDocument_corner
  have numbers : List.Forall₂ (fun (v : Value) x => v.toNumber = .ok x) [.int 3, .int 4] [3, 4] :=
    .cons rfl (.cons rfl .nil)
  exact ⟨Validator.standard_lawful,
    (ofListing_eq_ok_iff .standard Validator.standard_lawful _ _).mpr
      ⟨_, _, read, .bare nofun (.list _), .cons (.list ⟨numbers⟩) .nil⟩⟩

/-- The items that a listing is meant to have. -/
def Listing.Intended (item : Value) : Prop :=
  (∃ entries, item = .mapping entries) ∨
    ∃ items, item = .list items ∧ (items.length = 2 ∨ items.length = 3)

/-- A listing whose only item is a text of two digits. -/
def digitsText : List Char := "- '12'\n".toList

/-- The text in a list that has nothing else in it. -/
def onlyText? : Value → Option String
  | .list [.text s] => some s
  | _ => none

theorem onlyText?_eq_some {v : Value} {s : String} (only : onlyText? v = some s) :
    v = .list [.text s] := by
  unfold onlyText? at only
  split at only <;> cases only
  rfl

theorem readDocument_digits :
    ∃ document, Library.standard.readDocument (ascii digitsText) = .ok document ∧
      document.root = .list [.text "12"] := by
  have decoded : Text.decodeFile (ascii digitsText) = .ok digitsText := by decide +kernel
  obtain ⟨document, read, only⟩ := Library.readDocument_of_shown decoded
    (show (Yaml.parse 480 _).toOption.bind (onlyText? ·.root) = some "12" by decide +kernel)
  exact ⟨document, read, onlyText?_eq_some only⟩

/-- Not every listing that loads has the items it is meant to have. -/
theorem not_intended :
    ¬ ∀ (content : Bytes) (document : Document) (route : Route Float),
      Library.standard.readDocument content = .ok document →
      ofListing .standard content = .ok route →
      ∃ items, Listing.Lists document items ∧
        (∀ item ∈ items, Listing.Intended (document.follow item)) ∧
        Listing.Gives Library.standard.validator document items route := by
  intro always
  obtain ⟨⟨root, linked⟩, read, rfl⟩ := readDocument_digits
  have loaded : ofListing .standard (ascii digitsText) = .ok [⟨1, 2, 0, none⟩] := by
    rw [ofListing, read]
    rfl
  obtain ⟨items, lists, intended, -⟩ := always _ _ _ read loaded
  have text : .text "12" ∈ items := by
    cases lists with
    | blank blank => cases blank
    | unnamed root | named root => cases root
    | bare _ visits =>
      cases visits
      exact List.mem_singleton_self _
  rcases intended _ text with ⟨entries, mapping⟩ | ⟨numbers, list, -⟩
  · cases mapping
  · cases list

end PathTracking.Route
