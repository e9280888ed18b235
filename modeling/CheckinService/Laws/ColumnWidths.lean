import CheckinService.Laws.Operations
import CheckinService.Laws.Sanitizing
import CheckinService.Laws.Visibility

namespace CheckinService

open Relational

structure Event.FitsColumns (e : Event) : Prop where
  schoolId : e.schoolId.length ≤ 36
  ownerUserId : e.ownerUserId.length ≤ 36
  title : e.title.length ≤ 200
  locationName : ∀ name, e.locationName = some name → name.length ≤ 200
  organizerRole : ∀ role, e.organizerRole = some role → role.length ≤ 64
  idempotencyKey : ∀ key, e.idempotencyKey = some key → key.length ≤ 128

def CreateCall.InNamespace (call : CreateCall) : Prop :=
  if call.payload.visibility = .groupOnly then call.payload.groupKind = some .teamLeadCohort
  else Py.orNone call.actor.schoolId = none

instance (call : CreateCall) : Decidable call.InNamespace := by
  unfold CreateCall.InNamespace
  infer_instance

theorem personalNamespace_length (userId : String) :
    (personalNamespace userId).length = userId.length + 5 := by
  rw [personalNamespace, String.length_append, Nat.add_comm]
  rfl

theorem validateIdemKey_eq_ok {key safe : Option String}
    (h : validateIdemKey key = .ok safe) : safe = Py.orNone key := by
  rw [validateIdemKey] at h
  split at h
  · rename_i hnone
    cases h
    exact hnone.symm
  · rename_i found hfound
    split at h
    · cases h
      exact hfound.symm
    · cases h

theorem requireEventCreator_eq_ok {actor : Actor} :
    requireEventCreator actor = .ok () ↔ actor.canonicalizeRole ∈ eventCreatorRoles := by
  rw [requireEventCreator]
  split <;> simp [httpError, *]

theorem eventCreatorRole_length {role : String} (h : role ∈ eventCreatorRoles) :
    role.length ≤ 64 := by
  have hall : ∀ role ∈ eventCreatorRoles, role.length ≤ 64 := by decide +kernel
  exact hall role h

section

variable {call : CreateCall} {db : Database} {event : Event} {tenant : String}
  {key : Option String} {replay : Option Event}

theorem createReads_origin (h : createReads call db = .ok (tenant, key, replay)) :
    (call.InNamespace ∧
      ∃ userId, call.actor.userId = some userId ∧ tenant = personalNamespace userId) ∨
    ¬ call.InNamespace ∧
      (call.actor.schoolId = some tenant ∨ ∃ g ∈ db.groups.rows, g.schoolId = tenant) := by
  rw [CreateCall.InNamespace]
  rcases createReads_tier h with ⟨hother, hown⟩ | ⟨hgroup, groupId, groupKind, -, hkind, h⟩
  · rw [if_neg hother]
    rcases resolveEventTenant_eq_ok.mp hown with hschool | ⟨hnone, userId, huser, hspace⟩
    · rw [hschool]
      exact Or.inr ⟨by simp, Or.inl (Py.orNone_eq_some.mp hschool).1⟩
    · exact Or.inl ⟨hnone, userId, (Py.orNone_eq_some.mp huser).1, hspace⟩
  · rw [if_pos hgroup, hkind]
    cases groupKind with
    | schoolAdminGroup =>
      obtain ⟨g, hg, -, -, hschool⟩ := assertGroupEventEligible_group h
      exact Or.inr ⟨by simp, Or.inr ⟨g, hg, hschool⟩⟩
    | teamLeadCohort =>
      obtain ⟨userId, huser, hspace⟩ := assertGroupEventEligible_cohort h
      exact Or.inl ⟨rfl, userId, (Py.orNone_eq_some.mp huser).1, hspace⟩

theorem createReads_tenant_fits_iff (h : createReads call db = .ok (tenant, key, replay))
    (hschool : ∀ sid, call.actor.schoolId = some sid → sid.length ≤ 36)
    (hgroups : ∀ g ∈ db.groups.rows, g.schoolId.length ≤ 36) :
    tenant.length ≤ 36 ↔
      (call.InNamespace → ∀ userId, call.actor.userId = some userId → userId.length ≤ 31) := by
  rcases createReads_origin h with ⟨hpersonal, userId, huser, rfl⟩ | ⟨hpersonal, hother⟩
  · simp only [personalNamespace_length, hpersonal, huser, forall_const, Option.some.injEq,
      forall_eq']
    omega
  · simp only [hpersonal, false_implies, iff_true]
    rcases hother with hown | ⟨g, hg, rfl⟩
    · exact hschool tenant hown
    · exact hgroups g hg

theorem createReads_key_fits_iff (h : createReads call db = .ok (tenant, key, replay)) :
    (∀ stored, key = some stored → stored.length ≤ 128) ↔
      ∀ given, call.idempotencyKey = some given → given.length ≤ 128 := by
  rw [validateIdemKey_eq_ok (createReads_eq_ok.mp h).2.2.1]
  constructor
  · intro hstored given hgiven
    by_cases hempty : given = ""
    · rw [hempty]
      decide
    · exact hstored given (Py.orNone_eq_some.mpr ⟨hgiven, hempty⟩)
  · intro hgiven stored hstored
    exact hgiven stored (Py.orNone_eq_some.mp hstored).1

theorem newEvent_fits_iff {title : String} {id : Int}
    (h : createReads call db = .ok (tenant, key, replay))
    (htitle : sanitizedTitle (some call.payload.title) = .ok title)
    (huser : ∀ userId, call.actor.userId = some userId → userId.length ≤ 36) :
    (newEvent call tenant key title id).FitsColumns ↔
      tenant.length ≤ 36 ∧ ∀ stored, key = some stored → stored.length ≤ 128 := by
  constructor
  · intro hfits
    exact ⟨hfits.schoolId, hfits.idempotencyKey⟩
  · rintro ⟨htenant, hkey⟩
    refine ⟨htenant, ?_, ?_, ?_, ?_, hkey⟩
    · change ((Py.orNone call.actor.userId).getD "service").length ≤ 36
      cases hid : Py.orNone call.actor.userId with
      | none => decide
      | some userId => exact huser userId (Py.orNone_eq_some.mp hid).1
    · exact sanitizeText_length_le (sanitizedTitle_eq_ok.mp htitle)
    · intro name hname
      exact sanitizeText_length_le hname
    · intro role hrole
      have hcreator := requireEventCreator_eq_ok.mp (createReads_eq_ok.mp h).1
      rw [← Option.some.inj hrole]
      exact eventCreatorRole_length hcreator

end

/-- Where ids have at most 36 characters, a new row fits its columns exactly when the prefix
leaves room for its author's id and the key is within its bound: the pattern lets a newline
follow 128 characters. -/
theorem created_row_fits_iff (call : CreateCall) (db : Database) (event : Event)
    (huser : ∀ userId, call.actor.userId = some userId → userId.length ≤ 36)
    (hschool : ∀ sid, call.actor.schoolId = some sid → sid.length ≤ 36)
    (hgroups : ∀ g ∈ db.groups.rows, g.schoolId.length ≤ 36)
    (hinserted : (createEvent call db).1.events.rows = db.events.rows ++ [event]) :
    event.FitsColumns ↔
      (call.InNamespace → ∀ userId, call.actor.userId = some userId → userId.length ≤ 31) ∧
        ∀ key, call.idempotencyKey = some key → key.length ≤ 128 := by
  obtain ⟨tenant, key, title, hreads, htitle, rfl⟩ := createEvent_inserts_iff.mp hinserted
  rw [newEvent_fits_iff hreads htitle huser, createReads_tenant_fits_iff hreads hschool hgroups,
    createReads_key_fits_iff hreads]

def sampleUuidCreator : Actor :=
  ⟨some "6f1c7f5e-7a57-4f43-9f0c-0d6f3a1b2c3d", some "creator", none, none⟩

def sampleMixer (actor : Actor) : CreateCall where
  payload := { title := "Mixer" }
  actor := actor

theorem created_row_fits_sample :
    (newEvent (sampleMixer sampleCreator) "user:7" none "Mixer" 1).FitsColumns := by
  refine (created_row_fits_iff (sampleMixer sampleCreator) {} _ (by decide) (by decide) ?_
    (by decide +kernel)).mpr ⟨by decide, by decide⟩
  intro g hg
  cases hg

/-- A creator with a UUID for an id has no room for their events. -/
theorem created_row_fails_uuid :
    ¬ ∀ (call : CreateCall) (db : Database) (event : Event),
      call.payload.accepted 500 = true →
      (∀ userId, call.actor.userId = some userId → userId.length ≤ 36) →
      (∀ sid, call.actor.schoolId = some sid → sid.length ≤ 36) →
      (∀ g ∈ db.groups.rows, g.schoolId.length ≤ 36) →
      (createEvent call db).1.events.rows = db.events.rows ++ [event] →
        event.FitsColumns := by
  intro h
  have hfits := h (sampleMixer sampleUuidCreator) {}
    (newEvent (sampleMixer sampleUuidCreator) "user:6f1c7f5e-7a57-4f43-9f0c-0d6f3a1b2c3d" none
      "Mixer" 1)
    (by decide +kernel) (by decide) (by decide) (fun g hg => by cases hg) (by decide +kernel)
  exact absurd hfits.schoolId (by decide)

end CheckinService
