import Mathlib.Data.List.Induction
import PathTracking.Proofs.Binary64.Distance
import PathTracking.Proofs.Failure
import PathTracking.Proofs.Files
import PathTracking.Proofs.Settings.Validator
import PathTracking.Proofs.Simulation.Cycle
import PathTracking.Proofs.StandardLibrary
import PathTracking.Settings.Layers

/-!
# Layers of settings, field by field

The layers are merged before anything is checked, so each field can come from another one: the
value that counts is the topmost (`get?_layered`). A validator that is lawful builds settings
exactly if every field has a value that can be coerced and the numbers are in their bounds
(`ofFields_layered_iff`). The order of the two distances is checked last, between values of
different layers, and again when the lookahead is taken out of the settings; the second check
accepts whatever the first one did (`lookahead_of_valid`).
-/
namespace PathTracking

/-! ## The value that counts -/

namespace Fields

theorem get?_cons (n : String) (v : Value) (fields : Fields) (name : String) :
    get? ((n, v) :: fields) name = if n == name then some v else get? fields name := by
  unfold get?
  rw [List.find?_cons]
  cases here : n == name <;> simp [here]

theorem get?_put (fields : Fields) (n : String) (v : Value) (name : String) :
    (fields.put n v).get? name = if n == name then some v else fields.get? name := by
  induction fields with
  | nil => exact get?_cons n v [] name
  | cons entry rest ih =>
    obtain ⟨m, w⟩ := entry
    rw [put]
    split
    next same =>
      obtain rfl : m = n := by simpa using same
      rw [get?_cons, get?_cons]
      split <;> rfl
    next other =>
      -- The two names differ, so that only one of them can be the one asked for.
      rw [get?_cons, get?_cons, ih]
      grind

/-- The value of a field. Of several entries with its name the last one counts. -/
def latest? (fields : Fields) (name : String) : Option Value := get? fields.reverse name

theorem get?_update (fields later : Fields) (name : String) :
    (fields.update later).get? name = (later.latest? name).or (fields.get? name) := by
  -- Entries are put one by one, so that the last one has the say.
  induction later using List.reverseRecOn with
  | nil => rfl
  | append_singleton later entry ih =>
    obtain ⟨n, v⟩ := entry
    rw [latest?, List.reverse_concat, get?_cons, update, List.foldl_concat, get?_put]
    split
    · rfl
    · exact ih

/-- The value that the layers give a field: the override unless it is `null`, or else the one in
the file, or else the default. -/
def chosen? (file overrides : Fields) (name : String) : Option Value :=
  (latest? (overrides.filter fun (_, value) => !value.isNull) name).or
    ((file.latest? name).or (defaults.get? name))

theorem get?_layered (file overrides : Fields) (name : String) :
    (layered file overrides).get? name = chosen? file overrides name := by
  rw [layered, get?_update, get?_update, chosen?]

/-- The field `name` holds what the value that counts for it is coerced to. -/
def Holds (validator : Validator) (file overrides : Fields) (name : String) (type : FieldType)
    (a : type.Carrier) : Prop :=
  ∃ v, chosen? file overrides name = some v ∧ validator.coerce type v = some a

/-- A field that has a default among the layers is never left out. -/
theorem reads_layered_iff {validator : Validator} {file overrides : Fields} {field : Field}
    {a : field.type.Carrier} (known : (defaults.get? field.name).isSome = true) :
    field.Reads validator (layered file overrides) a ↔
      Holds validator file overrides field.name field.type a ∧
        field.bound.admits field.type a = true := by
  have given : chosen? file overrides field.name ≠ none := by
    intro absent
    simp only [chosen?, Option.or_eq_none_iff] at absent
    simp [absent.2.2] at known
  simp only [Field.Reads, get?_layered, Holds, given, false_and, or_false]
  constructor
  · rintro ⟨v, chosen, coerced, within⟩
    exact ⟨⟨v, chosen, coerced⟩, within⟩
  · rintro ⟨⟨v, chosen, coerced⟩, within⟩
    exact ⟨v, chosen, coerced, within⟩

end Fields

variable {validator : Validator}

/-! ## Lookahead configurations -/

namespace Lookahead

theorem objection_eq_none_iff {l : Lookahead Float} :
    l.objection = none ↔ ¬ l.minimum > l.distance := by
  simp [objection]

/-- A lookahead that is valid can be built from its own fields. -/
theorem make_of_valid (lawful : validator.Lawful) {l : Lookahead Float} (valid : l.Valid) :
    make validator l.distance l.minimum l.interpolate = .ok l := by
  refine (lawful.map_build_eq_ok_iff schema _ ofRecord l).mpr
    ⟨(l.distance, l.minimum, l.interpolate, ()), ⟨?_, ?_, ?_, trivial⟩,
      objection_eq_none_iff.mpr valid.inOrder, rfl⟩
  · exact .inl ⟨_, rfl, lawful.coerce_float _, decide_eq_true valid.distance⟩
  · exact .inl ⟨_, rfl, lawful.coerce_float _, decide_eq_true valid.minimum⟩
  · exact .inl ⟨_, rfl, lawful.coerce_bool _, rfl⟩

end Lookahead

/-! ## Settings -/

namespace Settings

open Fields (Holds layered)

/-- Every field holds what the value that counts for it is coerced to. -/
structure Layered (validator : Validator) (file overrides : Fields) (s : Settings Float) :
    Prop where
  distance : Holds validator file overrides "lookahead_distance" .real s.distance
  minimum : Holds validator file overrides "minimum_lookahead_distance" .real s.minimum
  interpolate : Holds validator file overrides "use_linear_interpolation" .truth s.interpolate
  speed : Holds validator file overrides "speed_mps" .real s.speed
  rate : Holds validator file overrides "rate_hz" .real s.rate
  maxHold : Holds validator file overrides "max_hold_ticks" .integer s.maxHold
  maxTicks : Holds validator file overrides "max_ticks" .integer s.maxTicks
  wheelbase : Holds validator file overrides "wheelbase_m" .real s.wheelbase
  logLevel : Holds validator file overrides "log_level" .text s.logLevel
  logFile : Holds validator file overrides "log_file" (.optional .text) s.logFile
  logMaxBytes : Holds validator file overrides "log_max_bytes" .integer s.logMaxBytes
  logBackups : Holds validator file overrides "log_backup_count" .integer s.logBackups

variable {file overrides : Fields}

/-- The settings that the layers give are those whose fields hold what the layers say, if they are
valid. -/
theorem ofFields_layered_iff (lawful : validator.Lawful) {s : Settings Float} :
    ofFields validator (layered file overrides) = .ok s ↔
      Layered validator file overrides s ∧ s.Valid ∧ 0 < s.logMaxBytes := by
  refine (lawful.map_build_eq_ok_iff schema _ ofRecord s).trans ?_
  constructor
  · rintro ⟨⟨_, _, _, _, _, maxHold, maxTicks, _, _, _, logMaxBytes, logBackups, ⟨⟩⟩,
      reads, fine, rfl⟩
    have inOrder := Lookahead.objection_eq_none_iff.mp fine
    simp (disch := decide) only [schema, fields, Lookahead.fields, List.cons_append,
      List.nil_append, Record.Reads, Fields.reads_layered_iff, Bound.admits, decide_eq_true_eq,
      and_true] at reads
    obtain ⟨⟨distance, far⟩, ⟨minimum, near⟩, interpolate, ⟨speed, moving⟩, ⟨rate, ticking⟩,
      ⟨maxHold, holding⟩, ⟨maxTicks, ending⟩, ⟨wheelbase, long⟩, logLevel, logFile,
      ⟨logMaxBytes, room⟩, logBackups, keeping⟩ := reads
    -- The integers are kept as natural numbers, which the bounds of their fields allow.
    refine ⟨⟨distance, minimum, interpolate, speed, rate, ?_, ?_, wheelbase, logLevel, logFile, ?_,
      ?_⟩, ⟨⟨far, near, inOrder⟩, moving, ticking, Int.pos_iff_toNat_pos.mp ending, long⟩,
      Int.pos_iff_toNat_pos.mp room⟩
    · exact (Int.toNat_of_nonneg holding).symm ▸ maxHold
    · exact (Int.toNat_of_nonneg ending.le).symm ▸ maxTicks
    · exact (Int.toNat_of_nonneg room.le).symm ▸ logMaxBytes
    · exact (Int.toNat_of_nonneg keeping).symm ▸ logBackups
  · rintro ⟨held, valid, room⟩
    refine ⟨(s.distance, s.minimum, s.interpolate, s.speed, s.rate, (s.maxHold : Int),
      (s.maxTicks : Int), s.wheelbase, s.logLevel, s.logFile, (s.logMaxBytes : Int),
      (s.logBackups : Int), ()), ?_, Lookahead.objection_eq_none_iff.mpr valid.inOrder, rfl⟩
    simp (disch := decide) only [schema, fields, Lookahead.fields, List.cons_append,
      List.nil_append, Record.Reads, Fields.reads_layered_iff, Bound.admits, decide_eq_true_eq,
      and_true]
    exact ⟨⟨held.distance, valid.distance⟩, ⟨held.minimum, valid.minimum⟩, held.interpolate,
      ⟨held.speed, valid.speed⟩, ⟨held.rate, valid.rate⟩, ⟨held.maxHold, Int.natCast_nonneg _⟩,
      ⟨held.maxTicks, Int.natCast_pos.mpr valid.maxTicks⟩, ⟨held.wheelbase, valid.wheelbase⟩,
      held.logLevel, held.logFile, ⟨held.logMaxBytes, Int.natCast_pos.mpr room⟩, held.logBackups,
      Int.natCast_nonneg _⟩

/-- The lookahead of valid settings is accepted as it is. -/
theorem lookahead_of_valid (lawful : validator.Lawful) {s : Settings Float} (valid : s.Valid) :
    s.lookahead validator = .ok s.toLookahead :=
  Lookahead.make_of_valid lawful valid.toValid

/-- The distances of valid settings are numbers in their order. -/
theorem minimum_le_distance {s : Settings Float} (valid : s.Valid) : s.minimum ≤ s.distance :=
  Binary64.le_iff.mpr ⟨valid.inOrder, (Binary64.isNaN_of_lt valid.minimum).2,
    (Binary64.isNaN_of_lt valid.distance).2⟩

/-- A follower never leaves the lookahead of its settings. -/
theorem config_after (s : Settings Float) (inputs : Inputs Float) (events : List (Event Float)) :
    ((ControlLoop.new s inputs).after events).follower.tracker.config = s.toLookahead := by
  rw [(ControlLoop.after_coherent s inputs events).config, ControlLoop.after_settings]
  rfl

/-! ## Loading -/

variable {σ : Type}

/-- The fields that the settings file of a run gives among files in a state: none if no file is
named or nothing is in it, and those of a mapping all of whose keys are texts. -/
inductive Provides (library : Library) (host : Host (StateM σ)) (s : σ) :
    Option String → Fields → σ → Prop
  | unnamed : Provides library host s none [] s
  | emptyName : Provides library host s (some "") [] s
  | blank {name : String} {content : Bytes} {document : Document} {s' : σ} (named : name ≠ "")
      (read : perform (host.read name) s = (.ok content, s'))
      (parsed : library.readDocument content = .ok document)
      (blank : document.root.isGiven = false) : Provides library host s (some name) [] s'
  | mapping {name : String} {content : Bytes} {document : Document}
      {entries : List (Value × Value)} {fields : Fields} {s' : σ} (named : name ≠ "")
      (read : perform (host.read name) s = (.ok content, s'))
      (parsed : library.readDocument content = .ok document)
      (root : document.root = .mapping entries)
      (texts : Fields.ofEntries? entries = some fields) :
      Provides library host s (some name) fields s'

variable {library : Library} {host : Host (StateM σ)} {s s' : σ} {config : Option String}

theorem perform_fileFields_of_document {name : String} {content : Bytes} {document : Document}
    (named : name ≠ "") (read : perform (host.read name) s = (.ok content, s'))
    (parsed : library.readDocument content = .ok document)
    (given : Fields.ofDocument document = .ok file) :
    perform (fileFields library host (some name)) s = (.ok file, s') := by
  have accessed : perform ((host.read name).adapt LoadError.file) s = (.ok content, s') := by
    rw [perform_adapt, read]
    rfl
  unfold fileFields
  split
  next absent => cases absent
  next empty => exact absurd (Option.some.inj empty) named
  next same =>
    cases same
    rw [perform_bind_of_ok accessed, parsed]
    exact congrArg (·, s') given

theorem perform_fileFields (provides : Provides library host s config file s') :
    perform (fileFields library host config) s = (.ok file, s') := by
  cases provides with
  | unnamed | emptyName => rfl
  | blank named read parsed blank =>
    refine perform_fileFields_of_document named read parsed ?_
    unfold Fields.ofDocument
    split
    next entries root =>
      obtain rfl : entries = [] := by simpa [root, Value.isGiven] using blank
      rfl
    next =>
      rw [blank]
      rfl
  | mapping named read parsed root texts =>
    refine perform_fileFields_of_document named read parsed ?_
    simp only [Fields.ofDocument, root, pure_bind, texts]
    rfl

/-- Loading merges the fields of the settings file and the overrides over the defaults. It comes to
settings exactly if every field can be coerced from the value in its topmost layer and the settings
that come of it are valid, and to an invalid record otherwise. The lookahead of the settings is
accepted when it is checked again, and a follower that is built with them uses no other. -/
theorem load_layered (lawful : library.validator.Lawful)
    (provides : Provides library host s config file s') (overrides : Fields) :
    ∃ result : Except Invalid (Settings Float),
      perform (load library host config overrides) s = (result.mapError .invalid, s') ∧
      (∀ e, result = .error e → e.kind = .settings) ∧
      (∀ settings, result = .ok settings ↔
        Layered library.validator file overrides settings ∧ settings.Valid ∧
          0 < settings.logMaxBytes) ∧
      ∀ settings, result = .ok settings →
        0 < settings.minimum ∧ settings.minimum ≤ settings.distance ∧
        settings.lookahead library.validator = .ok settings.toLookahead ∧
        ∀ inputs events,
          ((ControlLoop.new settings inputs).after events).follower.tracker.config =
            settings.toLookahead := by
  refine ⟨ofFields library.validator (layered file overrides), ?_, ?_,
    fun _ => ofFields_layered_iff lawful, ?_⟩
  · rw [load, perform_bind_of_ok (perform_fileFields provides), perform_lift]
    rfl
  · intro e failed
    exact lawful.kind_of_build schema _ e (map_eq_error_iff.mp failed)
  · intro settings loaded
    obtain ⟨-, valid, -⟩ := (ofFields_layered_iff lawful).mp loaded
    exact ⟨valid.minimum, minimum_le_distance valid, lookahead_of_valid lawful valid,
      config_after settings⟩

/-- A settings file that looks farther ahead than the defaults. -/
def farText : List Char := "lookahead_distance: 6\n".toList

def farFiles : FileTree := ⟨[(["far.yaml"], farText.map fun c => c.toNat.toUInt8)]⟩

/-- The name and the number in a mapping that has nothing else in it. -/
def onlyNumber? : Value → Option (String × Int)
  | .mapping [(.text name, .int n)] => some (name, n)
  | _ => none

theorem onlyNumber?_eq_some {v : Value} {name : String} {n : Int}
    (only : onlyNumber? v = some (name, n)) : v = .mapping [(.text name, .int n)] := by
  unfold onlyNumber? at only
  split at only <;> cases only
  rfl

theorem provides_farFiles (root : String) :
    Provides .standard (FileTree.host root) farFiles (some "far.yaml")
      [("lookahead_distance", .int 6)] farFiles := by
  have content : farFiles.read "far.yaml" = .ok (farText.map fun c => c.toNat.toUInt8) := by
    rw [FileTree.read, String.contains_char_eq]
    decide +kernel
  have decoded : Text.decodeFile (farText.map fun c => c.toNat.toUInt8) = .ok farText := by
    decide +kernel
  obtain ⟨document, read, only⟩ := Library.readDocument_of_shown decoded
    (show (Yaml.parse 480 _).toOption.bind (onlyNumber? ·.root) = some ("lookahead_distance", 6) by
      decide +kernel)
  exact .mapping (by decide) (congrArg (·, farFiles) content) read (onlyNumber?_eq_some only) rfl

/-- A minimum beyond the default distance is fine where the settings file looks farther ahead. A
text that spells a number is one, and an override of `null` says nothing. -/
theorem load_layered_far :
    let overrides : Fields := [("minimum_lookahead_distance", .int 5), ("speed_mps", .text "1.5"),
      ("rate_hz", .null)]
    let settings : Settings Float := ⟨⟨6, 5, true⟩, 1.5, 20, 5, 3000, 2.7, "INFO",
      some "logs/waypoint_follower.log", 2097152, 3⟩
    Library.standard.validator.Lawful ∧
    Provides .standard (FileTree.host "/w") farFiles (some "far.yaml")
      [("lookahead_distance", .int 6)] farFiles ∧
    perform (load .standard (FileTree.host "/w") (some "far.yaml") overrides) farFiles =
      (.ok settings, farFiles) ∧
    settings.minimum ≤ settings.distance ∧
    settings.lookahead Library.standard.validator = .ok ⟨6, 5, true⟩ := by
  intro overrides settings
  have provides := provides_farFiles "/w"
  have layered : Layered .standard [("lookahead_distance", .int 6)] overrides settings := by
    constructor <;> exact ⟨_, rfl, rfl⟩
  have valid : settings.Valid :=
    ⟨⟨by decide +kernel, by decide +kernel, by decide +kernel⟩, by decide +kernel,
      by decide +kernel, by decide, by decide +kernel⟩
  obtain ⟨result, loaded, -, characterized, checked⟩ :=
    load_layered Validator.standard_lawful provides overrides
  have accepted : result = .ok settings :=
    (characterized settings).mpr ⟨layered, valid, by decide⟩
  obtain ⟨-, inOrder, again, -⟩ := checked settings accepted
  rw [accepted] at loaded
  exact ⟨Validator.standard_lawful, provides, loaded, inOrder, again⟩

end Settings
end PathTracking
