import CheckinService.Laws.Visibility

namespace CheckinService

open Relational

/-- A supplied coordinate is read again as the float that it was. -/
def GivesBack (supplied : Field (Option ℚ)) (stored : Option Coordinate) : Prop :=
  ∀ value, supplied = .supplied value → stored.map Coordinate.float = value

/-- The PATCH returns the row it has written, each supplied field at its value, or refuses with
an `HTTPException` and leaves everything as it was. -/
def CleanUpdate (call : UpdateCall) (db : Database) (old : Event) : Prop :=
  (∃ new, (updateEvent call db).2 = .ok new ∧ Patches call.payload old new ∧
      GivesBack call.payload.latitude new.latitude ∧
      GivesBack call.payload.longitude new.longitude ∧
      Saves call.actor call.eventId old new db (updateEvent call db).1) ∨
    (∃ e, (updateEvent call db).2 = .error (.http e)) ∧ (updateEvent call db).1 = db

def KeepsFloat (supplied : Field (Option ℚ)) : Prop :=
  ∀ value, supplied = .supplied (some value) → (Coordinate.ofFloat value).float = value

/-- The body empties the title, or its merged times compare; then these are refused, or no
NOT NULL column is set to null and each coordinate fits its column. -/
def EventUpdate.Safe (payload : EventUpdate) (event : Event) : Prop :=
  payload.EmptiesTitle ∨
    ¬ payload.MixesTimes event ∧ (payload.EndsEarly event ∨
      ¬ payload.NullsColumn ∧ KeepsFloat payload.latitude ∧ KeepsFloat payload.longitude)

theorem givesBack_iff {supplied : Field (Option ℚ)} {old new : Option Coordinate}
    (h : (supplied.map (Option.map Coordinate.ofFloat)).getD old = new) :
    GivesBack supplied new ↔ KeepsFloat supplied := by
  cases supplied with
  | unset => simp [GivesBack, KeepsFloat]
  | supplied value =>
    have hnew : new = value.map Coordinate.ofFloat := h.symm
    cases value with
    | none => simp [GivesBack, KeepsFloat, hnew]
    | some value => simp [GivesBack, KeepsFloat, hnew]

section

variable {payload : EventUpdate} {old new : Event}

theorem EventUpdate.safe_of_ok (h : patched payload old = .ok new) :
    payload.Safe old ↔ KeepsFloat payload.latitude ∧ KeepsFloat payload.longitude := by
  obtain ⟨title, htitle, -⟩ := Except.bind_eq_ok.mp h
  have hfull := patchedTitle_isOk.mp ⟨title, htitle⟩
  obtain ⟨hmixed, hearly⟩ := endsAfterStart_eq_ok.mp (patched_patches h).1
  have hhandled : ¬ Unhandled (patched payload old) := by
    rw [h]
    exact not_unhandled_ok
  have hnulls : ¬ payload.NullsColumn := fun hnulls =>
    hhandled (patched_unhandled.mpr ⟨hfull, Or.inr ⟨hearly, hnulls⟩⟩)
  simp [EventUpdate.Safe, hfull, hmixed, hearly, hnulls]

theorem EventUpdate.safe_of_http {e : HTTPException}
    (h : patched payload old = .error (.http e)) : payload.Safe old :=
  (patched_http h).imp_right fun ⟨hmixed, hearly⟩ => ⟨hmixed, Or.inl hearly⟩

theorem EventUpdate.not_safe_of_unhandled (h : Unhandled (patched payload old)) :
    ¬ payload.Safe old := by
  obtain ⟨hfull, hrest⟩ := patched_unhandled.mp h
  rintro (hempty | ⟨hmixed, hsafe⟩)
  · exact hfull hempty
  · obtain ⟨hearly, hnulls⟩ := hrest.resolve_left hmixed
    exact (hsafe.resolve_left hearly).1 hnulls

end

/-- For the event that the caller may change, a PATCH ends cleanly exactly when its body is
safe. -/
theorem update_clean_iff (call : UpdateCall) (db : Database) (old : Event)
    (h : ownEvent call.actor call.eventId db = .ok old) :
    CleanUpdate call db old ↔ call.payload.Safe old := by
  cases hpatched : patched call.payload old with
  | ok new =>
    obtain ⟨-, hpatches⟩ := patched_patches hpatched
    rw [CleanUpdate, updateEvent_of_ok h hpatched, EventUpdate.safe_of_ok hpatched,
      ← givesBack_iff hpatches.latitude, ← givesBack_iff hpatches.longitude]
    constructor
    · rintro (⟨_, hnew, -, hlatitude, hlongitude, -⟩ | ⟨⟨_, he⟩, -⟩)
      · cases hnew
        exact ⟨hlatitude, hlongitude⟩
      · cases he
    · rintro ⟨hlatitude, hlongitude⟩
      exact Or.inl ⟨new, rfl, hpatches, hlatitude, hlongitude, .of_saveEvent h hpatches.same⟩
  | error f =>
    rw [CleanUpdate, updateEvent_of_error h hpatched]
    cases f with
    | http e => exact iff_of_true (Or.inr ⟨⟨e, rfl⟩, rfl⟩) (EventUpdate.safe_of_http hpatched)
    | unhandled e =>
      refine iff_of_false ?_ (EventUpdate.not_safe_of_unhandled ⟨e, hpatched⟩)
      rintro (⟨new, hnew, -⟩ | ⟨⟨e', he'⟩, -⟩)
      · cases hnew
      · cases he'

def sampleOwnEvents : Database :=
  (createEvent { payload := { title := "Mixer" }, actor := sampleCreator } {}).1

def sampleOwnEvent : Event :=
  { id := 1, schoolId := "user:7", ownerUserId := "7", title := "Mixer"
    organizerRole := some "creator" }

def sampleOwnUpdate (payload : EventUpdate) : UpdateCall where
  eventId := 1
  payload := payload
  actor := sampleCreator

def sampleMove : EventUpdate where
  latitude := .supplied (some (Py.double 40.7128))
  longitude := .supplied (some (Py.double (-74.006)))

theorem sampleMove_keepsFloat :
    KeepsFloat sampleMove.latitude ∧ KeepsFloat sampleMove.longitude := by
  constructor
  · intro value h
    cases h
    decide +kernel
  · intro value h
    cases h
    decide +kernel

theorem update_clean_sample :
    CleanUpdate (sampleOwnUpdate sampleMove) sampleOwnEvents sampleOwnEvent := by
  refine (update_clean_iff _ sampleOwnEvents sampleOwnEvent (by decide +kernel)).mpr
    (Or.inr ⟨?_, Or.inr ⟨?_, sampleMove_keepsFloat⟩⟩)
  · rintro ⟨start, end_, hstart, -⟩
    cases hstart
  · rintro (h | h | h | h) <;> cases h

def sampleNullPatch : EventUpdate := { status := .supplied none }

/-- A null for the status gets past the schema, and the database refuses it at the commit. -/
theorem update_clean_fails_null :
    ¬ ∀ (call : UpdateCall) (db : Database) (old : Event),
      call.payload.accepted 500 = true → ownEvent call.actor call.eventId db = .ok old →
        CleanUpdate call db old := by
  intro h
  have hnull : (updateEvent (sampleOwnUpdate sampleNullPatch) sampleOwnEvents).2 =
      .error (.unhandled .integrityError) := by
    decide +kernel
  rcases h (sampleOwnUpdate sampleNullPatch) sampleOwnEvents sampleOwnEvent (by decide +kernel)
      (by decide +kernel) with
    ⟨new, hnew, -⟩ | ⟨⟨e, he⟩, -⟩
  · rw [hnull] at hnew
    cases hnew
  · rw [hnull] at he
    cases he

end CheckinService
