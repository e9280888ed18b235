import CheckinService.Laws.Capacity
import CheckinService.Laws.Cohorts

namespace CheckinService

open Relational

@[simp] theorem Registrations.isAdmin_eq (actor : Actor) :
    Registrations.isAdmin actor = actor.isAdmin := rfl

theorem registerTarget_eq_ok_iff {call : RegisterCall} {target : String} :
    registerTarget call = .ok target ↔
      (∃ key, validateIdemKey call.idempotencyKey = .ok key) ∧
        targetUserId call.payload.attendeeUserId call.actor = some target ∧
        (call.actor.userId = some target ∨ call.actor.isAdmin = true) := by
  rw [registerTarget, Except.bind_eq_ok, ← exists_and_right]
  refine exists_congr fun key => and_congr_right fun _ => ?_
  cases htarget : targetUserId call.payload.attendeeUserId call.actor with
  | none => simp [httpError]
  | some found =>
    simp only [Except.bind_eq_ok, pure, Except.pure, Except.ok.injEq, Option.some.injEq]
    constructor
    · rintro ⟨_, hself, rfl⟩
      exact ⟨rfl, assertSelfOrAdmin_eq_ok.mp hself⟩
    · rintro ⟨rfl, hself⟩
      exact ⟨(), assertSelfOrAdmin_eq_ok.mpr hself, rfl⟩

theorem validateIdemKey_of_matches {key : Option String}
    (h : ∀ k, key = some k → idemRe k = true) : ∃ safe, validateIdemKey key = .ok safe := by
  rw [validateIdemKey]
  cases hkey : Py.orNone key with
  | none => exact ⟨none, rfl⟩
  | some k => exact ⟨some k, by simp [h k (Py.orNone_eq_some.mp hkey).1]⟩

def Invited (db : Database) (eventId : Int) (target : String) : Prop :=
  ∃ i ∈ db.invitations.rows,
    i.eventId = eventId ∧ i.inviteeUserId = target ∧ i.status = .accepted

def ActiveMember (db : Database) (groupId : Option Int) (target : String) : Prop :=
  ∃ m ∈ db.members.rows, groupId = some m.groupId ∧ m.userId = some target ∧ m.status = .active

def GroupMember (db : Database) (event : Event) (target : String) : Prop :=
  match event.groupKind with
  | some .schoolAdminGroup => ActiveMember db event.groupId target
  | some .teamLeadCohort => ∃ lead, AcceptedMember db lead target
  | none => False

def TierOpen (db : Database) (call : RegisterCall) (target : String) (event : Event) : Prop :=
  match event.visibility with
  | .public_ => True
  | .unlisted => True
  | .schoolOnly => Py.orNone call.actor.schoolId = some event.schoolId
  | .inviteOnly => Invited db call.eventId target
  | .groupOnly => GroupMember db event target

theorem acceptedInvitation_isSome {db : Database} {eventId : Int} {target : String} :
    (acceptedInvitation db eventId target).isSome = true ↔ Invited db eventId target := by
  rw [acceptedInvitation, Table.first_isSome]
  simp [Invited, and_assoc]

theorem activeMembership_isSome {db : Database} {groupId : Option Int} {target : String} :
    (activeMembership db groupId target).isSome = true ↔ ActiveMember db groupId target := by
  rw [activeMembership, Table.first_isSome]
  simp [ActiveMember, and_assoc]

theorem visibilityGate_eq_ok {db : Database} {call : RegisterCall} {target : String}
    {event : Event} :
    visibilityGate db call target event = .ok () ↔
      isOwnerOrAdmin call.actor event = true ∨ TierOpen db call target event := by
  rw [visibilityGate, TierOpen]
  split
  · rename_i h
    simp [h]
  · rename_i h
    simp only [h]
    cases event.visibility with
    | public_ => simp
    | unlisted => simp
    | schoolOnly =>
      simp only [sameSchool, decide_eq_true_eq]
      split <;> simp [*]
    | inviteOnly =>
      simp only [← acceptedInvitation_isSome]
      split <;> simp [httpError, *]
    | groupOnly =>
      simp only [GroupMember]
      cases event.groupKind with
      | none => simp
      | some kind =>
        cases kind with
        | schoolAdminGroup =>
          simp only [← activeMembership_isSome]
          split <;> simp [*]
        | teamLeadCohort =>
          simp only [← acceptedRelationship_isSome]
          split <;> simp [*]

structure Admissible (call : RegisterCall) (target : String) (event : Event) (db : Database) :
    Prop where
  resolved : targetUserId call.payload.attendeeUserId call.actor = some target
  selfOrAdmin : call.actor.userId = some target ∨ call.actor.isAdmin = true
  found : event ∈ db.events.rows ∧ event.id = call.eventId
  inScope : call.actor.isAdmin = true → ∀ school, Py.orNone call.actor.schoolId = some school →
    event.schoolId = school
  isOpen : event.status = .published ∨ event.status = .active
  welcome : call.actor.userId = some event.ownerUserId ∨ call.actor.isAdmin = true ∨
    event.visibility = .public_ ∨ event.visibility = .unlisted ∨
    (event.visibility = .schoolOnly ∧ Py.orNone call.actor.schoolId = some event.schoolId) ∨
    (event.visibility = .inviteOnly ∧ Invited db call.eventId target) ∨
    (event.visibility = .groupOnly ∧ event.groupKind = some .schoolAdminGroup ∧
      ActiveMember db event.groupId target)
  freshKey : ∀ key, call.idempotencyKey = some key → ∀ r ∈ db.registrations.rows,
    r.eventId = call.eventId → r.idempotencyKey ≠ some key
  freshAttendee : ∀ r ∈ db.registrations.rows, r.eventId = call.eventId →
    r.attendeeUserId ≠ target

structure Seated (call : RegisterCall) (target : String) (event : Event) (db : Database)
    (r : EventRegistration) : Prop where
  eventId : r.eventId = call.eventId
  attendeeUserId : r.attendeeUserId = target
  schoolId : r.schoolId = event.schoolId
  idempotencyKey : r.idempotencyKey = call.idempotencyKey
  registered : (∀ capacity, event.maxCapacity = some capacity →
      (activeCount db call.eventId : Int) < capacity) →
    r.status = .registered ∧ r.waitlistPosition = none
  waitlisted : (∃ capacity, event.maxCapacity = some capacity ∧
      capacity ≤ activeCount db call.eventId) →
    r.status = .waitlisted ∧ r.waitlistPosition = some (1 + maxWaitlistPosition db call.eventId)

section

variable {call : RegisterCall} {target : String} {event : Event} {db : Database}

theorem unclaimed_iff :
    Unclaimed call target db ↔
      (∀ key, call.idempotencyKey = some key → ∀ r ∈ db.registrations.rows,
        r.eventId = call.eventId → r.idempotencyKey ≠ some key) ∧
      ∀ r ∈ db.registrations.rows, r.eventId = call.eventId → r.attendeeUserId ≠ target := by
  constructor
  · intro h
    exact ⟨fun key hkey r hr hevent => (h r hr hevent).2 key hkey,
      fun r hr hevent => (h r hr hevent).1⟩
  · rintro ⟨hkey, hattendee⟩ r hr hevent
    exact ⟨hattendee r hr hevent, fun key hcall => hkey key hcall r hr hevent⟩

/-- A caller acting for themselves has a user id, so it can be compared with the owner's. -/
theorem isOwnerOrAdmin_iff (event : Event)
    (hself : call.actor.userId = some target ∨ call.actor.isAdmin = true) (ht : target ≠ "") :
    isOwnerOrAdmin call.actor event = true ↔
      call.actor.userId = some event.ownerUserId ∨ call.actor.isAdmin = true := by
  simp only [isOwnerOrAdmin, Bool.or_eq_true, decide_eq_true_eq, Py.orNone_eq_some,
    Registrations.isAdmin_eq]
  rcases hself with hself | hadmin
  · simp only [hself, Option.some.injEq]
    constructor
    · rintro (⟨howner, -⟩ | hadmin)
      · exact Or.inl howner
      · exact Or.inr hadmin
    · rintro (howner | hadmin)
      · exact Or.inl ⟨howner, howner ▸ ht⟩
      · exact Or.inr hadmin
  · simp [hadmin]

theorem tierOpen_iff
    (hcohort : event.visibility = .groupOnly → event.groupKind ≠ some .teamLeadCohort) :
    TierOpen db call target event ↔
      event.visibility = .public_ ∨ event.visibility = .unlisted ∨
      (event.visibility = .schoolOnly ∧ Py.orNone call.actor.schoolId = some event.schoolId) ∨
      (event.visibility = .inviteOnly ∧ Invited db call.eventId target) ∨
      (event.visibility = .groupOnly ∧ event.groupKind = some .schoolAdminGroup ∧
        ActiveMember db event.groupId target) := by
  rw [TierOpen]
  cases htier : event.visibility with
  | public_ => simp
  | unlisted => simp
  | schoolOnly => simp
  | inviteOnly => simp
  | groupOnly =>
    simp only [GroupMember]
    cases hkind : event.groupKind with
    | none => simp
    | some kind =>
      cases kind with
      | schoolAdminGroup => simp
      | teamLeadCohort => exact absurd hkind (hcohort htier)

theorem schoolFilter_eq_some {actor : Actor} {school : String} :
    Registrations.schoolFilter actor = some school ↔
      actor.isAdmin = true ∧ Py.orNone actor.schoolId = some school := by
  rw [Registrations.schoolFilter, Registrations.isAdmin_eq]
  split <;> simp [*]

theorem registers_iff_admissible
    (hkey : ∀ key, call.idempotencyKey = some key → idemRe key = true)
    (hcohort : event.visibility = .groupOnly → event.groupKind ≠ some .teamLeadCohort) :
    Registers call target event db ↔ Admissible call target event db := by
  have hopen : event.status.isOpen = true ↔ event.status = .published ∨ event.status = .active := by
    simp [EventStatus.isOpen]
  constructor
  · intro h
    obtain ⟨-, hresolved, hself⟩ := registerTarget_eq_ok_iff.mp h.resolved
    obtain ⟨hfound, hscope⟩ := resolveEventOr404_eq_ok.mp h.inScope
    obtain ⟨hfreshKey, hfreshAttendee⟩ := unclaimed_iff.mp h.unclaimed
    have hpass := isOwnerOrAdmin_iff event hself (targetUserId_ne_empty hresolved)
    have hwelcome := visibilityGate_eq_ok.mp h.visible
    rw [hpass, tierOpen_iff hcohort, or_assoc] at hwelcome
    refine ⟨hresolved, hself, findEvent_eq_some.mp hfound, ?_, hopen.mp h.isOpen, hwelcome,
      hfreshKey, hfreshAttendee⟩
    intro hadmin school hschool
    exact hscope school (schoolFilter_eq_some.mpr ⟨hadmin, hschool⟩)
  · intro h
    have hpass := isOwnerOrAdmin_iff event h.selfOrAdmin
      (targetUserId_ne_empty h.resolved)
    have hwelcome := h.welcome
    rw [← or_assoc, ← hpass, ← tierOpen_iff hcohort] at hwelcome
    refine ⟨registerTarget_eq_ok_iff.mpr ⟨validateIdemKey_of_matches hkey, h.resolved,
      h.selfOrAdmin⟩, resolveEventOr404_eq_ok.mpr ⟨findEvent_eq_some.mpr h.found, ?_⟩,
      hopen.mpr h.isOpen, visibilityGate_eq_ok.mpr hwelcome,
      unclaimed_iff.mpr ⟨h.freshKey, h.freshAttendee⟩⟩
    intro school hschool
    obtain ⟨hadmin, hschool⟩ := schoolFilter_eq_some.mp hschool
    exact h.inScope hadmin school hschool

theorem Registers.seated (h : Registers call target event db) :
    Seated call target event db
      (newRegistration call target event (assignSeat db event) db.registrations.nextId) := by
  have hid : event.id = call.eventId := (findEvent_eq_some.mp h.found).2
  refine ⟨rfl, rfl, rfl, rfl, ?_, ?_⟩
  · intro hbelow
    have hroom : hasRoom db event = true := by
      rw [hasRoom, hid]
      cases hcapacity : event.maxCapacity with
      | none => rfl
      | some capacity => simpa using hbelow capacity hcapacity
    simp [newRegistration, assignSeat, hroom]
  · rintro ⟨capacity, hcapacity, hfull⟩
    have hroom : hasRoom db event = false := by
      rw [hasRoom, hid, hcapacity]
      simpa using hfull
    simp [newRegistration, assignSeat, hroom, hid, Int.add_comm]

end

/-- A row is inserted exactly for an admissible request, with the seat it is due, and nothing
else changes; a request that is not admissible changes nothing. -/
theorem registerForEvent_inserts_iff (call : RegisterCall) (db : Database)
    (hkey : ∀ key, call.idempotencyKey = some key → idemRe key = true)
    (hcohort : ∀ event ∈ db.events.rows, event.id = call.eventId →
      event.visibility = .groupOnly → event.groupKind ≠ some .teamLeadCohort) :
    ((∃ r ∈ (registerForEvent call db).1.registrations.rows, r ∉ db.registrations.rows) ↔
      ∃ target event, Admissible call target event db) ∧
    (∀ target event, Admissible call target event db →
      ∃ r registrations, Seated call target event db r ∧
        registrations.rows = db.registrations.rows ++ [r] ∧
        registerForEvent call db = ({ db with registrations := registrations }, .ok r)) ∧
    ((¬ ∃ target event, Admissible call target event db) → (registerForEvent call db).1 = db) := by
  have hiff : ∀ target event, Registers call target event db ↔
      Admissible call target event db := by
    intro target event
    constructor
    · intro h
      obtain ⟨hmem, hid⟩ := findEvent_eq_some.mp h.found
      exact (registers_iff_admissible hkey (hcohort event hmem hid)).mp h
    · intro h
      exact (registers_iff_admissible hkey (hcohort event h.found.1 h.found.2)).mpr h
  simp only [← hiff]
  refine ⟨⟨?_, ?_⟩, ?_, registerForEvent_unchanged⟩
  · rintro ⟨r, hr, hnew⟩
    by_contra h
    rw [registerForEvent_unchanged h] at hr
    exact hnew hr
  · rintro ⟨target, event, h⟩
    obtain ⟨registrations, hresult, hrows⟩ := h.result
    refine ⟨newRegistration call target event (assignSeat db event) db.registrations.nextId, ?_,
      newRegistration_fresh call target event _ db⟩
    rw [hresult, hrows]
    exact List.mem_append_right _ (List.mem_singleton.mpr rfl)
  · intro target event h
    obtain ⟨registrations, hresult, hrows⟩ := h.result
    exact ⟨_, registrations, h.seated, hrows, hresult⟩

theorem registerForEvent_inserts_sample :
    ∃ r ∈ (registerForEvent (sampleRegister sampleFan) sampleSmallService.db).1.registrations.rows,
      r ∉ sampleSmallService.db.registrations.rows := by
  have hpolicy := registerForEvent_inserts_iff (sampleRegister sampleFan) sampleSmallService.db
    (by intro key hkey; cases hkey) (by decide +kernel)
  apply hpolicy.1.mpr
  refine ⟨"fan-1", newEvent sampleSmallEvent "user:7" none "Mixer" 1, ?_⟩
  refine ⟨by decide, by decide, by decide +kernel, ?_, Or.inl rfl, ?_, ?_, by decide +kernel⟩
  · intro hadmin
    exact absurd hadmin (by decide +kernel)
  · exact Or.inr (Or.inr (Or.inl rfl))
  · intro key hkey
    cases hkey

end CheckinService
