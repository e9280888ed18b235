import CheckinService.Laws.Registrations
import CheckinService.Routers.Events

namespace CheckinService

open Relational

def AcceptedMember (db : Database) (lead user : String) : Prop :=
  ∃ r ∈ db.relationships.rows,
    r.teamLeadUserId = lead ∧ r.memberUserId = some user ∧ r.consentStatus = .accepted

structure CohortEvent (call : RegisterCall) (event : Event) (db : Database) : Prop where
  found : findEvent db call.eventId = some event
  groupOnly : event.visibility = .groupOnly
  cohort : event.groupKind = some .teamLeadCohort
  outsider : isOwnerOrAdmin call.actor event = false

def CohortIsolated (call : RegisterCall) (db : Database) : Prop :=
  ∀ event, CohortEvent call event db →
    ∀ r ∈ (registerForEvent call db).1.registrations.rows, r ∉ db.registrations.rows →
      targetUserId call.payload.attendeeUserId call.actor = some r.attendeeUserId ∧
        AcceptedMember db event.ownerUserId r.attendeeUserId

def OwnMembersOnly (call : RegisterCall) (db : Database) : Prop :=
  ∀ event target, CohortEvent call event db → registerTarget call = .ok target →
    event.status.isOpen = true → Unclaimed call target db →
      (∃ lead, AcceptedMember db lead target) → AcceptedMember db event.ownerUserId target

theorem acceptedRelationship_isSome {db : Database} {target : String} :
    (acceptedRelationship db target).isSome = true ↔ ∃ lead, AcceptedMember db lead target := by
  constructor
  · intro h
    obtain ⟨r, hr⟩ := Option.isSome_iff_exists.mp h
    obtain ⟨hmem, hp⟩ := Table.first_eq_some hr
    simp only [Bool.and_eq_true, decide_eq_true_eq] at hp
    exact ⟨r.teamLeadUserId, r, hmem, rfl, hp.1, hp.2⟩
  · rintro ⟨lead, r, hmem, _, hmember, hconsent⟩
    rw [Option.isSome_iff_ne_none]
    intro hnone
    have := Table.first_eq_none.mp hnone r hmem
    simp [hmember, hconsent] at this

theorem registerTarget_eq_ok {call : RegisterCall} {target : String}
    (h : registerTarget call = .ok target) :
    targetUserId call.payload.attendeeUserId call.actor = some target := by
  obtain ⟨_, -, h⟩ := Except.bind_eq_ok.mp h
  split at h
  · cases h
  · rename_i found hfound
    obtain ⟨_, -, h⟩ := Except.bind_eq_ok.mp h
    cases h
    exact hfound

theorem schoolFilter_of_not_admin {actor : Actor} (h : Registrations.isAdmin actor = false) :
    Registrations.schoolFilter actor = none := by
  simp [Registrations.schoolFilter, h]

section

variable {call : RegisterCall} {target : String} {event : Event} {db : Database}

/-- The gate of a cohort's event opens for a member of any cohort at all. -/
theorem CohortEvent.visible_iff (h : CohortEvent call event db) :
    visibilityGate db call target event = .ok () ↔ ∃ lead, AcceptedMember db lead target := by
  rw [← acceptedRelationship_isSome, visibilityGate, h.outsider, h.groupOnly, h.cohort]
  simp [Option.isSome_iff_ne_none]

theorem CohortEvent.registers_iff (h : CohortEvent call event db) :
    Registers call target event db ↔
      registerTarget call = .ok target ∧ event.status.isOpen = true ∧ Unclaimed call target db ∧
        ∃ lead, AcceptedMember db lead target := by
  have hadmin : Registrations.isAdmin call.actor = false := by
    have := h.outsider
    simp only [isOwnerOrAdmin, Bool.or_eq_false_iff] at this
    exact this.2
  constructor
  · intro hr
    exact ⟨hr.resolved, hr.isOpen, hr.unclaimed, h.visible_iff.mp hr.visible⟩
  · rintro ⟨hresolved, hopen, hunclaimed, hmember⟩
    refine ⟨hresolved, ?_, hopen, h.visible_iff.mpr hmember, hunclaimed⟩
    rw [resolveEventOr404_eq_ok, schoolFilter_of_not_admin hadmin]
    exact ⟨h.found, by simp⟩

end

theorem cohortIsolated_iff_ownMembersOnly (call : RegisterCall) (db : Database) :
    CohortIsolated call db ↔ OwnMembersOnly call db := by
  constructor
  · intro h event target hevent hresolved hopen hunclaimed hmember
    have hregisters := hevent.registers_iff.mpr ⟨hresolved, hopen, hunclaimed, hmember⟩
    obtain ⟨registrations, hresult, hrows⟩ := hregisters.result
    have hnew := newRegistration_fresh call target event (assignSeat db event) db
    refine (h event hevent _ ?_ hnew).2
    simp [hresult, hrows]
  · intro h event hevent r hr hnew
    rcases registerForEvent_cases call db with hsame | ⟨target, event', hregisters⟩
    · rw [hsame] at hr
      exact absurd hr hnew
    · have hsame : event' = event := Option.some.inj (hregisters.found.symm.trans hevent.found)
      subst hsame
      obtain ⟨hresolved, hopen, hunclaimed, hmember⟩ := hevent.registers_iff.mp hregisters
      obtain ⟨registrations, hresult, hrows⟩ := hregisters.result
      simp only [hresult, hrows, List.mem_append, List.mem_singleton] at hr
      rcases hr with hr | rfl
      · exact absurd hr hnew
      · exact ⟨registerTarget_eq_ok hresolved,
          h event' target hevent hresolved hopen hunclaimed hmember⟩

def sampleLead : Actor := ⟨some "11", some "team_lead", none, none⟩

def sampleCohortCreate : CreateCall where
  payload :=
    { title := "Practice"
      status := .published
      visibility := .groupOnly
      groupId := some 11
      groupKind := some .teamLeadCohort }
  actor := sampleLead

def sampleCohortDatabase : Database where
  relationships := .single ⟨1, "22", some "fan-1", none, .accepted⟩

def sampleOutsider : RegisterCall where
  eventId := 1
  payload := .empty
  actor := ⟨some "fan-1", some "fan", none, none⟩

/-- Lead 11 creates the event; a member of the cohort of lead 22 gets in. -/
theorem cohortIsolated_fails_other_lead :
    sampleCohortCreate.payload.accepted 500 = true ∧
      ¬ CohortIsolated sampleOutsider (createEvent sampleCohortCreate sampleCohortDatabase).1 := by
  refine ⟨by decide +kernel, ?_⟩
  intro h
  have hevent : CohortEvent sampleOutsider
      (newEvent sampleCohortCreate "user:11" none "Practice" 1)
      (createEvent sampleCohortCreate sampleCohortDatabase).1 :=
    ⟨by decide +kernel, rfl, rfl, by decide +kernel⟩
  have hregistered : ∃ r ∈ (registerForEvent sampleOutsider
      (createEvent sampleCohortCreate sampleCohortDatabase).1).1.registrations.rows,
      r ∉ (createEvent sampleCohortCreate sampleCohortDatabase).1.registrations.rows := by
    decide +kernel
  obtain ⟨r, hr, hnew⟩ := hregistered
  obtain ⟨_, relationship, hmem, hlead, _⟩ := h _ hevent r hr hnew
  have hother : ∀ relationship ∈
      (createEvent sampleCohortCreate sampleCohortDatabase).1.relationships.rows,
      relationship.teamLeadUserId ≠ "11" := by decide +kernel
  exact hother relationship hmem hlead

end CheckinService
