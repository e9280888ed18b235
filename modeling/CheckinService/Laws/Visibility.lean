import CheckinService.Laws.Events
import CheckinService.Lib.Machine

namespace CheckinService

open Relational

def isPersonal (schoolId : String) : Bool := Py.startsWith "user:" schoolId

def Event.Stamped (e : Event) : Prop :=
  (e.visibility = .groupOnly ↔ e.groupId ≠ none ∧ e.groupKind ≠ none) ∧
    (e.visibility = .schoolOnly → isPersonal e.schoolId = false)

instance (e : Event) : Decidable e.Stamped := by
  unfold Event.Stamped
  infer_instance

def Consistent (db : Database) : Prop := ∀ e ∈ db.events.rows, e.Stamped

inductive EventCall where
  | create (call : CreateCall)
  | update (call : UpdateCall)
  | delete (call : DeleteCall)

def EventCall.actor : EventCall → Actor
  | .create call => call.actor
  | .update call => call.actor
  | .delete call => call.actor

structure SchoolCall where
  call : EventCall
  real : ∀ sid, call.actor.schoolId = some sid → isPersonal sid = false

def eventStep (db : Database) (c : SchoolCall) : Database :=
  match c.call with
  | .create call => (createEvent call db).1
  | .update call => (updateEvent call db).1
  | .delete call => (deleteEvent call db).1

/-- The rule of `create_event`, asked of a PATCH that goes through and names a tier. -/
def KeepsStamp (db : Database) (c : SchoolCall) : Prop :=
  match c.call with
  | .update call =>
    ∀ event v, ownEvent call.actor call.eventId db = .ok event →
      (patched call.payload event).isOk = true → call.payload.visibility = .supplied (some v) →
        (v = .groupOnly ↔ event.groupId ≠ none ∧ event.groupKind ≠ none) ∧
          (v = .schoolOnly → isPersonal event.schoolId = false)
  | _ => True

section

variable {call : CreateCall} {db : Database} {tenant : String} {key : Option String}
  {replay : Option Event}

theorem createReads_school (h : createReads call db = .ok (tenant, key, replay))
    (hreal : ∀ sid, call.actor.schoolId = some sid → isPersonal sid = false)
    (hschool : call.payload.visibility = .schoolOnly) : isPersonal tenant = false := by
  obtain ⟨own, hown, htier⟩ := createReads_tenant h
  rw [tierTenant, hschool] at htier
  simp only [assertSchoolOnlyEligible] at htier
  split at htier
  · rename_i heligible
    cases htier
    simp only [Bool.and_eq_true] at heligible
    obtain ⟨sid, hsid⟩ := Option.isSome_iff_exists.mp heligible.1
    rw [resolveEventTenant, hsid] at hown
    cases hown
    exact hreal _ (Py.orNone_eq_some.mp hsid).1
  · cases htier

theorem newEvent_stamped {title : String} {id : Int}
    (h : createReads call db = .ok (tenant, key, replay))
    (hreal : ∀ sid, call.actor.schoolId = some sid → isPersonal sid = false) :
    (newEvent call tenant key title id).Stamped := by
  constructor
  · by_cases hgroup : call.payload.visibility = .groupOnly
    · have := createReads_group h hgroup
      simp [newEvent, hgroup, this]
    · simp [newEvent, hgroup]
  · intro hschool
    exact createReads_school h hreal hschool

end

theorem createEvent_consistent {call : CreateCall} {db : Database} (h : Consistent db)
    (hreal : ∀ sid, call.actor.schoolId = some sid → isPersonal sid = false) :
    Consistent (createEvent call db).1 :=
  (createEvent_forall_iff h).mpr fun _ _ _ hreads _ => newEvent_stamped hreads hreal

theorem deleteEvent_consistent {call : DeleteCall} {db : Database} (h : Consistent db) :
    Consistent (deleteEvent call db).1 := by
  rcases deleteEvent_cases call db with hsame | ⟨event, hsaves⟩
  · rw [hsame]
    exact h
  · have hmem := (ownEvent_eq_ok.mp hsaves.owned).1
    rw [Consistent, hsaves.rows]
    exact (forall_mem_replace h hmem).mpr (h event hmem)

theorem Patches.stamped_iff {payload : EventUpdate} {old new : Event}
    (h : Patches payload old new) (hold : old.Stamped) :
    new.Stamped ↔ ∀ v, payload.visibility = .supplied (some v) →
      (v = .groupOnly ↔ old.groupId ≠ none ∧ old.groupKind ≠ none) ∧
        (v = .schoolOnly → isPersonal old.schoolId = false) := by
  have hvisibility := h.visibility
  rw [Event.Stamped, h.same.schoolId, h.same.groupId, h.same.groupKind]
  cases hpayload : payload.visibility with
  | unset =>
    rw [hpayload, Field.getD, Option.some.injEq] at hvisibility
    rw [← hvisibility]
    exact iff_of_true hold fun _ hv => by cases hv
  | supplied value =>
    rw [hpayload, Field.getD] at hvisibility
    rw [hvisibility]
    simp only [Field.supplied.injEq, Option.some.injEq, forall_eq']

theorem updateEvent_consistent_iff {call : UpdateCall} {db : Database} (h : Consistent db) :
    Consistent (updateEvent call db).1 ↔
      ∀ event v, ownEvent call.actor call.eventId db = .ok event →
        (patched call.payload event).isOk = true →
          call.payload.visibility = .supplied (some v) →
            (v = .groupOnly ↔ event.groupId ≠ none ∧ event.groupKind ≠ none) ∧
              (v = .schoolOnly → isPersonal event.schoolId = false) := by
  rw [Consistent, updateEvent_forall_iff h]
  constructor
  · intro hall event v hown hok hv
    cases hpatched : patched call.payload event with
    | error f =>
      rw [hpatched] at hok
      cases hok
    | ok new =>
      have hold := h event (ownEvent_eq_ok.mp hown).1
      exact ((patched_patches hpatched).2.stamped_iff hold).mp (hall event new hown hpatched) v hv
  · intro hall old new hown hpatched
    have hold := h old (ownEvent_eq_ok.mp hown).1
    refine ((patched_patches hpatched).2.stamped_iff hold).mpr fun v hv => ?_
    exact hall old v hown (by rw [hpatched]; rfl) hv

/-- Over every run, the stamps stay consistent exactly as long as no PATCH names a tier that
`create_event` would have refused for its event. -/
theorem consistent_iff_keepsStamp (db : Database) (calls : List SchoolCall) :
    Machine.Always eventStep Consistent { db with events := .empty } calls ↔
      Machine.Guarded eventStep KeepsStamp { db with events := .empty } calls := by
  apply Machine.always_iff_guarded_of_step
  · intro s c h
    obtain ⟨call, hreal⟩ := c
    cases call with
    | create call =>
      simp only [eventStep, KeepsStamp, iff_true]
      exact createEvent_consistent h hreal
    | update call => exact updateEvent_consistent_iff h
    | delete call =>
      simp only [eventStep, KeepsStamp, iff_true]
      exact deleteEvent_consistent h
  · intro e he
    cases he

def sampleCreator : Actor := ⟨some "7", some "creator", none, none⟩

def samplePatch : EventUpdate := { visibility := .supplied (some .schoolOnly) }

def samplePatchRun : List SchoolCall :=
  [⟨.create { payload := { title := "Mixer" }, actor := sampleCreator }, by decide⟩,
    ⟨.update { eventId := 1, payload := samplePatch, actor := sampleCreator }, by decide⟩]

/-- A creator without a school creates a public event, then makes it `school_only`. -/
theorem consistent_fails_patch :
    ({ title := "Mixer" } : EventCreate).accepted 500 = true ∧
      samplePatch.accepted 500 = true ∧
      ¬ Machine.Always eventStep Consistent {} samplePatchRun := by
  refine ⟨by decide +kernel, by decide +kernel, ?_⟩
  intro h
  have hunstamped : ¬ ∀ e ∈ (Machine.run eventStep {} samplePatchRun).events.rows, e.Stamped := by
    decide +kernel
  exact hunstamped h.run

end CheckinService
