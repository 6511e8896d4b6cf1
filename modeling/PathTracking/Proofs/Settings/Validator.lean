import PathTracking.Proofs.Failure
import PathTracking.Settings.Checked

/-!
# What a validator does

A record is built exactly if each of its fields reads a value and nothing is said against the
record as a whole. A field reads what the value given for it is coerced to, if that is within its
bound; one that is not given reads its default. `Validator.Lawful` asks this of a validator, whatever
its coercions are, and the standard one is lawful (`standard_lawful`).
-/
namespace PathTracking

variable {α β : Type}

/-- What a field reads from untyped fields. -/
def Field.Reads (validator : Validator) (given : Fields) (field : Field)
    (a : field.type.Carrier) : Prop :=
  (∃ v, given.get? field.name = some v ∧ validator.coerce field.type v = some a ∧
      field.bound.admits field.type a = true) ∨
    (given.get? field.name = none ∧ field.default = some a)

/-- Each field reads its value in the record. -/
def Record.Reads (validator : Validator) (given : Fields) : (fields : List Field) →
    Record fields → Prop
  | [], _ => True
  | field :: rest, (a, record) => field.Reads validator given a ∧ record.Reads validator given rest

/-- What is relied on of the validator that builds records. -/
structure Validator.Lawful (validator : Validator) : Prop where
  /-- A record is built exactly if its fields read their values and there is no objection. -/
  build_eq_ok_iff : ∀ (schema : Schema) (given : Fields) (record : Record schema.fields),
    validator.build schema given = .ok record ↔
      record.Reads validator given schema.fields ∧ schema.objection record = none
  /-- A failure tells what record was to be built. -/
  kind_of_build : ∀ (schema : Schema) (given : Fields) (e : Invalid),
    validator.build schema given = .error e → e.kind = schema.kind
  /-- What has its type already stays as it is. -/
  coerce_float : ∀ x : Float, validator.coerce .real (.float x) = some x
  coerce_bool : ∀ b : Bool, validator.coerce .truth (.bool b) = some b

/-- When something is made of a record that is built. -/
theorem Validator.Lawful.map_build_eq_ok_iff {validator : Validator} (lawful : validator.Lawful)
    (schema : Schema) (given : Fields) (f : Record schema.fields → α) (a : α) :
    (validator.build schema given).map f = .ok a ↔
      ∃ record : Record schema.fields, record.Reads validator given schema.fields ∧
        schema.objection record = none ∧ f record = a := by
  simp only [map_eq_ok_iff, lawful.build_eq_ok_iff, and_assoc]

/-! ## The standard validator -/

namespace Checked

theorem seq_eq_valid_iff {f : Checked (α → β)} {c : Checked α} {b : β} :
    f <*> c = .valid b ↔ ∃ g a, f = .valid g ∧ c = .valid a ∧ g a = b := by
  show f.apply c = .valid b ↔ _
  cases f <;> cases c <;> simp [apply]

theorem map_eq_valid_iff {f : α → β} {c : Checked α} {b : β} :
    f <$> c = .valid b ↔ ∃ a, c = .valid a ∧ f a = b := by
  show apply (.valid f) c = .valid b ↔ _
  cases c <;> simp [apply]

theorem andThen_eq_valid_iff {c : Checked α} {check : α → Checked β} {b : β} :
    c.andThen check = .valid b ↔ ∃ a, c = .valid a ∧ check a = .valid b := by
  cases c <;> simp [andThen]

theorem toExcept_eq_ok_iff {kind : RecordKind} {c : Checked α} {a : α} :
    c.toExcept kind = .ok a ↔ c = .valid a := by
  cases c <;> simp [toExcept]

theorem kind_of_toExcept {kind : RecordKind} {c : Checked α} {e : Invalid}
    (failed : c.toExcept kind = .error e) : e.kind = kind := by
  cases c with
  | valid a => cases failed
  | invalid violations =>
    cases failed
    rfl

theorem field_eq_valid_iff {given : Fields} {f : Field} {a : f.type.Carrier} :
    field given f = .valid a ↔ f.Reads .standard given a := by
  unfold field Field.Reads Validator.standard
  cases given.get? f.name with
  | none => cases f.default <;> simp [ofDefect]
  | some v =>
    cases coerced : v.coerce f.type with
    | error defect => simp [coerced, ofDefect, Except.toOption]
    | ok b =>
      by_cases within : f.bound.admits f.type b = true
      · simp only [coerced, within, if_true, valid.injEq, Except.toOption, Option.some.injEq]
        grind
      · simp only [coerced, within, ofDefect, Except.toOption, Option.some.injEq]
        grind

theorem record_eq_valid_iff {given : Fields} {fields : List Field} {r : Record fields} :
    record given fields = .valid r ↔ r.Reads .standard given fields := by
  induction fields with
  | nil => exact iff_of_true rfl trivial
  | cons f rest ih =>
    obtain ⟨a, r⟩ := r
    rw [record, Record.Reads, ← ih, ← field_eq_valid_iff]
    -- Both sides are checked whatever the other comes to, so that neither can be skipped.
    refine seq_eq_valid_iff.trans ?_
    constructor
    · rintro ⟨_, _, built, later, same⟩
      obtain ⟨_, here, rfl⟩ := map_eq_valid_iff.mp built
      cases same
      exact ⟨here, later⟩
    · rintro ⟨here, later⟩
      exact ⟨_, r, map_eq_valid_iff.mpr ⟨a, here, rfl⟩, later, rfl⟩

theorem build_eq_ok_iff {schema : Schema} {given : Fields} {r : Record schema.fields} :
    build schema given = .ok r ↔
      r.Reads .standard given schema.fields ∧ schema.objection r = none := by
  rw [build, toExcept_eq_ok_iff, andThen_eq_valid_iff]
  simp only [record_eq_valid_iff]
  constructor
  · rintro ⟨s, reads, accepted⟩
    split at accepted
    next fine =>
      cases accepted
      exact ⟨reads, fine⟩
    next => cases accepted
  · rintro ⟨reads, fine⟩
    exact ⟨r, reads, by rw [fine]⟩

end Checked

theorem Validator.standard_lawful : Validator.standard.Lawful where
  build_eq_ok_iff _ _ _ := Checked.build_eq_ok_iff
  kind_of_build _ _ _ := Checked.kind_of_toExcept
  coerce_float _ := rfl
  coerce_bool _ := rfl

/-! ## Waypoints -/

/-- The fields of a waypoint, the last two of which may be left out. -/
structure Waypoint.Given (validator : Validator) (fields : Fields) (w : Waypoint Float) :
    Prop where
  x : ∃ v, fields.get? "x" = some v ∧ validator.coerce .real v = some w.x
  y : ∃ v, fields.get? "y" = some v ∧ validator.coerce .real v = some w.y
  z : (∃ v, fields.get? "z" = some v ∧ validator.coerce .real v = some w.z) ∨
    (fields.get? "z" = none ∧ w.z = 0)
  speed : (∃ v, fields.get? "speed_mps" = some v ∧
      validator.coerce (.optional .real) v = some w.speed) ∨
    (fields.get? "speed_mps" = none ∧ w.speed = none)

theorem Waypoint.ofFields_eq_ok_iff {validator : Validator} (lawful : validator.Lawful)
    {fields : Fields} {w : Waypoint Float} :
    Waypoint.ofFields validator fields = .ok w ↔ Waypoint.Given validator fields w := by
  refine (lawful.map_build_eq_ok_iff schema fields ofRecord w).trans ?_
  constructor
  · rintro ⟨⟨x, y, z, speed, ⟨⟩⟩, reads, -, rfl⟩
    simp only [schema, Record.Reads, Field.Reads, Bound.admits, and_true, reduceCtorEq, and_false,
      or_false, Option.some.injEq] at reads
    obtain ⟨hasX, hasY, hasZ, hasSpeed⟩ := reads
    exact ⟨hasX, hasY, hasZ.imp_right (.imp_right Eq.symm), hasSpeed.imp_right (.imp_right Eq.symm)⟩
  · intro given
    refine ⟨(w.x, w.y, w.z, w.speed, ()), ?_, rfl, rfl⟩
    simp only [schema, Record.Reads, Field.Reads, Bound.admits, and_true, reduceCtorEq, and_false,
      or_false, Option.some.injEq]
    exact ⟨given.x, given.y, given.z.imp_right (.imp_right Eq.symm),
      given.speed.imp_right (.imp_right Eq.symm)⟩

end PathTracking
