import CheckinService.Laws.Events
import CheckinService.Routers.EditSteps

namespace CheckinService

open Relational

namespace Field

def andThen (earlier later : Field α) : Field α :=
  match later with
  | .unset => earlier
  | .supplied value => .supplied value

@[simp] theorem getD_andThen (earlier later : Field α) (stored : α) :
    (earlier.andThen later).getD stored = later.getD (earlier.getD stored) := by
  cases later <;> rfl

theorem present_getD {f : Field (Option α)} {old new : α} (h : f.getD (some old) = some new) :
    f.present.getD old = new := by
  cases f with
  | unset => exact Option.some.inj h
  | supplied value =>
    cases value with
    | none => cases h
    | some value => exact Option.some.inj h

end Field

namespace Edit

def andThen (earlier later : Edit) : Edit where
  title := earlier.title.andThen later.title
  descriptionSn := earlier.descriptionSn.andThen later.descriptionSn
  locationName := earlier.locationName.andThen later.locationName
  latitude := earlier.latitude.andThen later.latitude
  longitude := earlier.longitude.andThen later.longitude
  geofenceRadiusM := earlier.geofenceRadiusM.andThen later.geofenceRadiusM
  startTime := earlier.startTime.andThen later.startTime
  endTime := earlier.endTime.andThen later.endTime
  maxCapacity := earlier.maxCapacity.andThen later.maxCapacity
  checkinMethod := earlier.checkinMethod.andThen later.checkinMethod
  status := earlier.status.andThen later.status
  visibility := earlier.visibility.andThen later.visibility
  allowNfcCheckin := earlier.allowNfcCheckin.andThen later.allowNfcCheckin

@[simp] theorem nothing_apply (e : Event) : nothing.apply e = e := rfl

@[simp] theorem apply_andThen (earlier later : Edit) (e : Event) :
    (earlier.andThen later).apply e = later.apply (earlier.apply e) := by
  simp [apply, andThen]

def all (edits : List Edit) : Edit := edits.foldr andThen nothing

@[simp] theorem all_nil : all [] = nothing := rfl

@[simp] theorem all_cons (edit : Edit) (edits : List Edit) :
    all (edit :: edits) = edit.andThen (all edits) := rfl

end Edit

def editOf (eventId : Int) : Option (Int × Edit) → Edit
  | some (id, edit) => if id = eventId then edit else .nothing
  | none => .nothing

attribute [ext] Event

theorem Patches.eq_apply {payload : EventUpdate} {old new : Event}
    (h : Patches payload old new) : new = payload.edit.apply old := by
  apply Event.ext
  · exact h.same.id
  · exact h.same.schoolId
  · exact h.same.ownerUserId
  · exact h.eventType
  · exact (Field.present_getD h.title).symm
  · exact h.descriptionSn.symm
  · exact h.locationName.symm
  · exact h.latitude.symm
  · exact h.longitude.symm
  · exact h.geofenceRadiusM.symm
  · exact h.startTime.symm
  · exact h.endTime.symm
  · exact h.maxCapacity.symm
  · exact (Field.present_getD h.checkinMethod).symm
  · exact (Field.present_getD h.status).symm
  · exact (Field.present_getD h.visibility).symm
  · exact (Field.present_getD h.allowNfcCheckin).symm
  · exact h.organizerRole
  · exact h.same.groupId
  · exact h.same.groupKind
  · exact h.same.idempotencyKey

theorem Edit.apply_same (edit : Edit) (e : Event) : Event.Same e (edit.apply e) :=
  ⟨rfl, rfl, rfl, rfl, rfl, rfl⟩

theorem Field.changed_getD [DecidableEq α] (f : Field α) (loaded : α) :
    (f.changed loaded).getD loaded = f.getD loaded := by
  cases f with
  | unset => rfl
  | supplied value =>
    rw [Field.changed]
    split
    · rename_i hsame
      exact hsame.symm
    · rfl

/-- The column converts what is written, and takes back unchanged what was read from it. -/
theorem Field.changed_map_getD [DecidableEq β] (f : Field β) {convert : β → α} {read : α → β}
    (h : ∀ stored, convert (read stored) = stored) (loaded : α) :
    ((f.changed (read loaded)).map convert).getD loaded = (f.map convert).getD loaded :=
  calc
    ((f.changed (read loaded)).map convert).getD loaded =
        ((f.changed (read loaded)).map convert).getD (convert (read loaded)) := by rw [h]
    _ = (f.map convert).getD (convert (read loaded)) := by
      rw [Field.getD_map, Field.getD_map, Field.changed_getD]
    _ = (f.map convert).getD loaded := by rw [h]

theorem ofFloat_degrees (stored : Option Coordinate) :
    (stored.map Coordinate.degrees).map Coordinate.ofFloat = stored := by
  cases stored with
  | none => rfl
  | some c => exact congrArg some c.ofFloat_degrees

theorem EventUpdate.writes_apply (payload : EventUpdate) (loaded : Event) :
    (payload.writes loaded).apply loaded = payload.edit.apply loaded := by
  simp only [Edit.apply, EventUpdate.writes, Field.changed_getD,
    Field.changed_map_getD _ wall_storedTime, Field.changed_map_getD _ ofFloat_degrees]
  rfl

/-- The float nearest to the stored decimal is not that decimal, so it is written again. -/
example (loaded : Event) (h : loaded.latitude = some ⟨331000000⟩) :
    (EventUpdate.writes { latitude := .supplied (some (Py.double 33.1)) } loaded).latitude =
      .supplied (some ⟨331000000⟩) := by
  simp only [EventUpdate.writes, h]
  decide +kernel

section

variable {db : Database} {old : Event} {eventId : Int}

theorem writeEdit_rows (eventId : Int) (edit : Edit) (db : Database) :
    (writeEdit eventId edit db).events.rows =
      db.events.rows.map fun e => (editOf e.id (some (eventId, edit))).apply e := by
  have hrows : (writeEdit eventId edit db).events.rows =
      db.events.rows.map fun e => if e.id = eventId then edit.apply e else e := rfl
  rw [hrows]
  apply List.map_congr_left
  intro e _
  rw [editOf]
  by_cases hid : e.id = eventId
  · rw [if_pos hid, if_pos hid.symm]
  · rw [if_neg hid, if_neg (Ne.symm hid)]
    rfl

/-- To write the whole of a row that was just loaded is to write what has changed in it. -/
theorem saveEvent_apply (edit : Edit) (hold : old ∈ db.events.rows) (hid : old.id = eventId) :
    saveEvent (edit.apply old) db = writeEdit eventId edit db := by
  have hrows : (writeEdit eventId edit db).events.rows =
      db.events.rows.map fun e => if e = old then edit.apply old else e :=
    Table.update_rows_eq edit.apply_keepsKeys hold hid rfl (fun e _ he => he) rfl
  have hevents : (saveEvent (edit.apply old) db).events = (writeEdit eventId edit db).events := by
    apply Table.ext
    rw [hrows, saveEvent_rows hold (edit.apply_same old)]
  calc
    saveEvent (edit.apply old) db =
        { db with events := (saveEvent (edit.apply old) db).events } := rfl
    _ = writeEdit eventId edit db := by
      rw [hevents]
      rfl

theorem writeEdit_congr {edit edit' : Edit}
    (h : ∀ e ∈ db.events.rows, e.id = eventId → edit.apply e = edit'.apply e) :
    writeEdit eventId edit db = writeEdit eventId edit' db := by
  rw [writeEdit, Table.update_congr _ edit'.apply_keepsKeys h]
  rfl

theorem writeEdit_nothing (eventId : Int) (db : Database) :
    writeEdit eventId .nothing db = db := by
  rw [writeEdit, Table.update_eq_self]
  intro e _ _
  rfl

end

end CheckinService
