import PathTracking.Log
import PathTracking.Proofs.Failure
import PathTracking.Route.Load
import PathTracking.Settings.Layers
import PathTracking.StartPose

/-!
# What breaks loading off

A run reports most of what can be wrong with its inputs and breaks off for the rest. For every way
to read an input this module bounds the errors it can end with (`FailsOnly`), from the conversions
of single values up, and so finds those that break a run off: a table with a cell that is too long,
a document that its reader refuses for more than a bad value, or one of the wrong shape
(`SettingsBreak`, `RouteBreak`). Nothing is asked of the reader, the validator and the survey. A
start pose breaks no run off, and a log only by the name of one level.
-/
namespace PathTracking

variable {ε ε' α β : Type}

/-- A computation that only fails with errors of some sort. -/
def FailsOnly (sort : ε → Prop) (x : Except ε α) : Prop := ∀ e, x = .error e → sort e

namespace FailsOnly

variable {sort : ε → Prop}

theorem ok (a : α) : FailsOnly sort (.ok a) := nofun

theorem error {e : ε} (holds : sort e) : FailsOnly sort (.error e : Except ε α) := by
  rintro _ ⟨⟩
  exact holds

theorem mono {wider : ε → Prop} {x : Except ε α} (only : FailsOnly sort x)
    (weaker : ∀ e, sort e → wider e) : FailsOnly wider x :=
  fun e failed => weaker e (only e failed)

theorem bind {x : Except ε α} {f : α → Except ε β} (first : FailsOnly sort x)
    (next : ∀ a, FailsOnly sort (f a)) : FailsOnly sort (x >>= f) := by
  cases x with
  | error e => exact fun e' failed => first e' (by cases failed; rfl)
  | ok a => exact next a

theorem map {x : Except ε α} (only : FailsOnly sort x) (f : α → β) :
    FailsOnly sort (x.map f) := by
  cases x with
  | error e => exact fun e' failed => only e' (by cases failed; rfl)
  | ok a => exact ok _

theorem mapError {x : Except ε α} {f : ε → ε'} {sort : ε' → Prop}
    (only : FailsOnly (fun e => sort (f e)) x) : FailsOnly sort (x.mapError f) := by
  cases x with
  | error e => exact error (only e rfl)
  | ok a => exact ok a

theorem mapM {f : α → Except ε β} (each : ∀ a, FailsOnly sort (f a)) (as : List α) :
    FailsOnly sort (as.mapM f) := by
  induction as with
  | nil => exact ok []
  | cons a as ih =>
    rw [List.mapM_cons]
    exact (each a).bind fun _ => ih.bind fun _ => ok _

end FailsOnly

/-! ## Values -/

namespace Value

theorem failsOnly_elements (v : Value) : FailsOnly (· = .wrongKind) v.elements := by
  cases v with
  | null | bool | int | float | timestamp | link => exact .error rfl
  | _ => exact .ok _

/-- The ways a value is no number besides being a text that spells none. -/
def NoNumber (cause : Misfit) : Prop :=
  cause = .wrongKind ∨ cause = .tooLarge ∨ ∃ shown, cause = .notNumeric shown

theorem failsOnly_numberIn (s : List Char) :
    FailsOnly (fun cause => ∃ shown, cause = .notNumeric shown) (numberIn s) := by
  unfold numberIn
  split
  · exact .ok _
  · exact .error ⟨_, rfl⟩

theorem failsOnly_toNumber (v : Value) : FailsOnly NoNumber v.toNumber := by
  cases v with
  | bool | float => exact .ok _
  | int n =>
    unfold toNumber
    dsimp only
    split
    · exact .error (.inr (.inl rfl))
    · exact .ok _
  | text s => exact (failsOnly_numberIn _).mono fun _ spelled => .inr (.inr spelled)
  | bytes b =>
    unfold toNumber
    dsimp only
    split
    · split
      · exact .ok _
      · exact .error (.inr (.inr ⟨_, rfl⟩))
    · exact .error (.inr (.inr ⟨_, rfl⟩))
  | broken t => exact .error (.inr (.inr ⟨_, rfl⟩))
  | null | timestamp | list | set | mapping | pair | link => exact .error (.inl rfl)

end Value

/-! ## Listings -/

namespace Route.Listing

theorem failsOnly_items (document : Document) :
    FailsOnly (· = .wrongKind) (items document) := by
  unfold items
  split
  · split <;> exact Value.failsOnly_elements _
  · exact .ok _

/-- The shapes that make no listing: something without elements where a list has to be, names that
are no texts, a number too large, or fewer than two coordinates. -/
def Misshapen (cause : Misfit) : Prop :=
  cause = .wrongKind ∨ cause = .tooLarge ∨ cause = .missingItem

theorem failsOnly_ofCoordinates (item : Value) :
    FailsOnly (fun cause => Misshapen cause ∨ ∃ shown, cause = .notNumeric shown)
      (ofCoordinates item) := by
  unfold ofCoordinates
  refine .bind (.mono (Value.failsOnly_elements item) fun _ kind => .inl (.inl kind))
    fun elements => ?_
  refine .bind (.mapM (fun v => (Value.failsOnly_toNumber v).mono ?_) elements) fun numbers => ?_
  · rintro cause (kind | large | spelled)
    · exact .inl (.inl kind)
    · exact .inl (.inr (.inl large))
    · exact .inr spelled
  · split
    · exact .ok _
    · exact .error (.inl (.inr (.inr rfl)))

theorem failsOnly_ofEntries (validator : Validator) (entries : List (Value × Value)) :
    FailsOnly (fun e => e = .misfit .wrongKind ∨ ∃ record, e = .invalid record)
      (ofEntries validator entries) := by
  unfold ofEntries
  split
  · exact .mapError fun record _ => .inr ⟨record, rfl⟩
  · exact .error (.inl rfl)

theorem failsOnly_waypoint (validator : Validator) (item : Value) :
    FailsOnly (fun e => (∃ cause, Misshapen cause ∧ e = .misfit cause) ∨
        (∃ shown, e = .misfit (.notNumeric shown)) ∨ ∃ record, e = .invalid record)
      (waypoint validator item) := by
  unfold waypoint
  split
  · refine (failsOnly_ofEntries validator _).mono fun e failed => ?_
    rcases failed with rfl | invalid
    · exact .inl ⟨_, .inl rfl, rfl⟩
    · exact .inr (.inr invalid)
  · refine .mapError fun cause failed => ?_
    rcases failsOnly_ofCoordinates item cause failed with shape | ⟨shown, rfl⟩
    · exact .inl ⟨cause, shape, rfl⟩
    · exact .inr (.inl ⟨shown, rfl⟩)

theorem failsOnly_route (validator : Validator) (document : Document) :
    FailsOnly (fun e => (∃ cause, Misshapen cause ∧ e = .misfit cause) ∨
        (∃ shown, e = .misfit (.notNumeric shown)) ∨ ∃ record, e = .invalid record)
      (route validator document) := by
  unfold route
  refine .bind (.mapError fun cause failed => ?_)
    (.mapM fun item => failsOnly_waypoint validator (document.follow item))
  rw [failsOnly_items document cause failed]
  exact .inl ⟨_, .inl rfl, rfl⟩

end Route.Listing

/-! ## Mission plans -/

theorem Binary64.failsOnly_onFinite (f : Float → Float) (x : Float) :
    FailsOnly (· = .outsideDomain) (onFinite f x) := by
  unfold onFinite
  split
  · exact .error rfl
  · exact .ok _

theorem Geodesic.failsOnly_localPoint (survey : Survey) (home target : Place) :
    FailsOnly (· = .outsideDomain) (localPoint survey home target) := by
  unfold localPoint
  refine .bind (Binary64.failsOnly_onFinite _ _) fun _ => ?_
  exact .bind (Binary64.failsOnly_onFinite _ _) fun _ => .ok _

namespace Route.Plan

theorem failsOnly_waypoint (survey : Geodesic.Survey) (home : Geodesic.Place) (stop : Stop) :
    FailsOnly (· = .outsideDomain) (waypoint survey home stop) :=
  .bind (Geodesic.failsOnly_localPoint survey home _) fun _ => .ok _

theorem failsOnly_route (survey : Geodesic.Survey) (home : Option Geodesic.Place)
    (document : Value) :
    FailsOnly (fun e => (∃ cause, e = .misfit cause) ∨ e = .arithmetic .outsideDomain)
      (route survey home document) := by
  unfold route
  refine .bind (.mapError fun cause _ => .inl ⟨cause, rfl⟩) fun (mission, items) => ?_
  refine .bind (.mapError fun cause _ => .inl ⟨cause, rfl⟩) fun stops => ?_
  split
  · exact .ok _
  · refine .bind (.mapError fun cause _ => .inl ⟨cause, rfl⟩) fun home => ?_
    refine .mapError fun fault failed => .inr ?_
    rw [FailsOnly.mapM (failsOnly_waypoint survey home) _ fault failed]

end Route.Plan

/-! ## Settings -/

namespace Fields

/-- What a document without fields fails with. -/
def Unfit (e : LoadError) : Prop := e = .misfit .wrongKind ∨ ∃ index size, e = .badPair index size

theorem failsOnly_pair (index : Nat) (element : Value) :
    FailsOnly Unfit (pair index element) := by
  unfold pair
  refine .bind (.mapError fun cause failed => ?_) fun parts => ?_
  · rw [Value.failsOnly_elements element cause failed]
    exact .inl rfl
  · split
    · split
      · exact .ok _
      · exact .error (.inl rfl)
    · exact .error (.inr ⟨_, _, rfl⟩)

theorem failsOnly_pairs (index : Nat) (elements : List Value) :
    FailsOnly Unfit (pairs index elements) := by
  induction elements generalizing index with
  | nil => exact .ok _
  | cons element rest ih =>
    unfold pairs
    exact (failsOnly_pair index element).bind fun _ => (ih (index + 1)).bind fun _ => .ok _

/-- Wherever the entries come from, their names have to be texts. -/
theorem failsOnly_named (entries : List (Value × Value)) :
    FailsOnly Unfit
      (match ofEntries? entries with
        | some fields => pure fields
        | none => throw (.misfit .wrongKind)) := by
  split
  · exact .ok _
  · exact .error (.inl rfl)

theorem failsOnly_ofDocument (document : Document) : FailsOnly Unfit (ofDocument document) := by
  unfold ofDocument
  dsimp only
  split
  · exact failsOnly_named _
  · split
    · refine .bind (.mapError fun cause failed => ?_) fun elements => ?_
      · rw [Value.failsOnly_elements document.root cause failed]
        exact .inl rfl
      · exact (failsOnly_pairs 0 _).bind failsOnly_named
    · exact .bind (.ok _) failsOnly_named

end Fields

theorem Settings.failsOnly_ofLayers (library : Library) (file overrides : Fields) :
    FailsOnly (fun e => ∃ record, e = .invalid record) (ofLayers library file overrides) :=
  .mapError fun record _ => ⟨record, rfl⟩

theorem Pose.failsOnly_ofText (text : String) :
    FailsOnly (fun e => (∃ shown, e = .misfit (.notNumeric shown)) ∨ ∃ t, e = .badPose t)
      (ofText text) := by
  unfold ofText
  refine .bind (.mapError fun cause failed => .inl ?_) fun numbers => ?_
  · obtain ⟨shown, rfl⟩ := FailsOnly.mapM Value.failsOnly_numberIn _ cause failed
    exact ⟨shown, rfl⟩
  · split
    · exact .ok _
    · exact .ok _
    · exact .error (.inr ⟨_, rfl⟩)

theorem Log.failsOnly_rankNamed (name : String) :
    FailsOnly (fun e => (∃ shown, e = .unknownLevel shown) ∨
        upperName name = "_STYLES" ∧ e = .unusableLevel)
      (rankNamed name) := by
  unfold rankNamed
  dsimp only
  split
  · exact .error (.inl ⟨_, rfl⟩)
  · split
    next styles => exact .error (.inr ⟨styles, rfl⟩)
    · exact .ok _

/-! ## Documents -/

theorem failsOnly_readJson (room : Nat) (content : Bytes) :
    FailsOnly (fun e => (∃ fault, e = .encoding fault) ∨ ∃ text fault, e = .json text fault)
      (readJson room content) :=
  .bind (.mapError fun fault _ => .inl ⟨fault, rfl⟩) fun _ =>
    .mapError fun fault _ => .inr ⟨_, fault, rfl⟩

section Break

variable (library : Library)

/-- How the content of a settings file breaks a run off: its reader refuses it for more than a bad
value, or it is neither a mapping from names nor a list of pairs of a name and a value. -/
inductive SettingsBreak (content : Bytes) : LoadError → Prop
  | refused {failure : ReadFailure} (read : library.readDocument content = .error failure)
      (unreported : failure.isReported = false) : SettingsBreak content (.document failure)
  | misshapen {document : Document} (read : library.readDocument content = .ok document)
      (unfit : Fields.ofDocument document = .error (.misfit .wrongKind)) :
      SettingsBreak content (.misfit .wrongKind)

/-- How the content of a route file breaks a run off: a table by a cell that is too long, even if
the text has a fault behind it; a listing by what its reader refuses it for, or by its shape; and a
plan by its depth or by its shape. -/
inductive RouteBreak : RouteFormat → Bytes → LoadError → Prop
  | cell {content : Bytes} {text : List Char} (decoded : Text.decodeFile content = .ok text)
      (long : Csv.rows text = .error .cellTooLong) : RouteBreak .table content (.rows .cellTooLong)
  | cellBefore {content : Bytes} {fault : Text.Utf8Fault}
      (decoded : Text.decodeFile content = .error fault)
      (long : Csv.rowsFrom [] none (Csv.completeLines (Text.decodedBefore content)) =
        .error .cellTooLong) :
      RouteBreak .table content (.rows .cellTooLong)
  | refused {content : Bytes} {failure : ReadFailure}
      (read : library.readDocument content = .error failure)
      (unreported : failure.isReported = false) : RouteBreak .listing content (.document failure)
  | misshapen {content : Bytes} {document : Document} {cause : Misfit}
      (read : library.readDocument content = .ok document)
      (unfit : Route.Listing.route library.validator document = .error (.misfit cause))
      (shape : Route.Listing.Misshapen cause) : RouteBreak .listing content (.misfit cause)
  | deepPlan {content : Bytes} {text : List Char}
      (read : readJson library.room content = .error (.json text .tooDeep)) :
      RouteBreak .plan content (.json text .tooDeep)
  | plan {content : Bytes} {document : Value} {cause : Misfit}
      (read : readJson library.room content = .ok document)
      (unfit : Route.Plan.route library.survey none document = .error (.misfit cause))
      (shape : ∀ shown, cause ≠ .notNumeric shown) : RouteBreak .plan content (.misfit cause)

variable {library} {content : Bytes} {e : LoadError}

theorem settingsBreak_iff :
    SettingsBreak library content e ↔
      ((library.readDocument content).mapError .document >>= Fields.ofDocument) = .error e ∧
        e.isReported = false := by
  constructor
  · rintro (⟨read, unreported⟩ | ⟨read, unfit⟩)
    · exact ⟨bind_eq_error_iff.mpr (.inl (by rw [read, mapError_error])), unreported⟩
    · exact ⟨bind_eq_error_iff.mpr (.inr ⟨_, mapError_eq_ok_iff.mpr read, unfit⟩), rfl⟩
  · rintro ⟨failed, unreported⟩
    rcases bind_eq_error_iff.mp failed with read | ⟨document, read, unfit⟩
    · obtain ⟨failure, refused, rfl⟩ := mapError_eq_error_iff.mp read
      exact .refused refused unreported
    · rcases Fields.failsOnly_ofDocument document e unfit with rfl | ⟨index, size, rfl⟩
      · exact .misshapen (mapError_eq_ok_iff.mp read) unfit
      · cases unreported

theorem LoadError.isReported_misfit_iff {cause : Misfit} :
    (LoadError.misfit cause).isReported = false ↔ ∀ shown, cause ≠ .notNumeric shown := by
  cases cause <;> simp [isReported]

theorem LoadError.isReported_json_iff {text : List Char} {error : Json.Error} :
    (LoadError.json text error).isReported = false ↔ error = .tooDeep := by
  simp [isReported]

theorem Route.Listing.Misshapen.ne_notNumeric {cause : Misfit} (shape : Misshapen cause)
    (shown : List Char) : cause ≠ .notNumeric shown := by
  rcases shape with rfl | rfl | rfl <;> nofun

namespace Route

theorem ofTable_break_iff {name : String} :
    RouteBreak library .table content e ↔
      ofTable name content = .error e ∧ e.isReported = false := by
  constructor
  · intro broken
    cases broken with
    | cell decoded long | cellBefore decoded long =>
      exact ⟨by simp [ofTable, decoded, long, bind, Except.bind], rfl⟩
  · rintro ⟨failed, unreported⟩
    unfold ofTable at failed
    split at failed
    next text decoded =>
      -- Cutting the text into rows and reading them can fail, in this order.
      rcases bind_eq_error_iff.mp failed with long | ⟨rows, -, malformed⟩
      · obtain ⟨⟨⟩, tooLong, rfl⟩ := mapError_eq_error_iff.mp long
        exact .cell decoded tooLong
      · obtain ⟨fault, -, rfl⟩ := mapError_eq_error_iff.mp malformed
        cases unreported
    next fault decoded =>
      -- The fault itself is reported, but only once the rows before it are cut.
      rcases bind_eq_error_iff.mp failed with long | ⟨rows, -, encoding⟩
      · obtain ⟨⟨⟩, tooLong, rfl⟩ := mapError_eq_error_iff.mp long
        exact .cellBefore decoded tooLong
      · cases encoding
        cases unreported

theorem ofListing_break_iff :
    RouteBreak library .listing content e ↔
      ofListing library content = .error e ∧ e.isReported = false := by
  constructor
  · intro broken
    cases broken with
    | refused read unreported =>
      exact ⟨bind_eq_error_iff.mpr (.inl (by rw [read, mapError_error])), unreported⟩
    | misshapen read unfit shape =>
      exact ⟨bind_eq_error_iff.mpr (.inr ⟨_, mapError_eq_ok_iff.mpr read, unfit⟩),
        LoadError.isReported_misfit_iff.mpr shape.ne_notNumeric⟩
  · rintro ⟨failed, unreported⟩
    rcases bind_eq_error_iff.mp failed with read | ⟨document, read, unfit⟩
    · obtain ⟨failure, refused, rfl⟩ := mapError_eq_error_iff.mp read
      exact .refused refused unreported
    · rcases Listing.failsOnly_route _ document e unfit with
        ⟨cause, shape, rfl⟩ | ⟨shown, rfl⟩ | ⟨record, rfl⟩
      · exact .misshapen (mapError_eq_ok_iff.mp read) unfit shape
      · cases unreported
      · cases unreported

theorem ofPlan_break_iff :
    RouteBreak library .plan content e ↔
      ofPlan library none content = .error e ∧ e.isReported = false := by
  constructor
  · intro broken
    cases broken with
    | deepPlan read => exact ⟨bind_eq_error_iff.mpr (.inl read), rfl⟩
    | plan read unfit shape =>
      exact ⟨bind_eq_error_iff.mpr (.inr ⟨_, read, unfit⟩),
        LoadError.isReported_misfit_iff.mpr shape⟩
  · rintro ⟨failed, unreported⟩
    rcases bind_eq_error_iff.mp failed with read | ⟨document, read, unfit⟩
    · rcases failsOnly_readJson _ content e read with ⟨fault, rfl⟩ | ⟨text, fault, rfl⟩
      · cases unreported
      · obtain rfl := LoadError.isReported_json_iff.mp unreported
        exact .deepPlan read
    · rcases Plan.failsOnly_route _ _ document e unfit with ⟨cause, rfl⟩ | rfl
      · exact .plan read unfit (LoadError.isReported_misfit_iff.mp unreported)
      · cases unreported

theorem routeBreak_iff {format : RouteFormat} {name : String} :
    RouteBreak library format content e ↔
      ofContent library format none name content = .error e ∧ e.isReported = false := by
  cases format with
  | table => exact ofTable_break_iff
  | listing => exact ofListing_break_iff
  | plan => exact ofPlan_break_iff

end Route

end Break
end PathTracking
