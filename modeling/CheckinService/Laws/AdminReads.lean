import CheckinService.Laws.Factors
import CheckinService.Laws.Operations
import CheckinService.Lib.OrderBy
import Mathlib.Data.Prod.Lex
import Mathlib.Order.WithBot

namespace CheckinService

open Relational OrderBy

def OwnsEvent (school : String) (db : Database) (eventId : Int) : Prop :=
  ∃ e ∈ db.events.rows, e.id = eventId ∧ e.schoolId = school

structure AgreeOn (school : String) (a b : StampedDatabase) : Prop where
  events : ∀ e : Event, e.schoolId = school → (e ∈ a.db.events.rows ↔ e ∈ b.db.events.rows)
  eventStamps : ∀ e ∈ a.db.events.rows, e.schoolId = school →
    a.stamps.createdAt e.id = b.stamps.createdAt e.id ∧
      a.stamps.updatedAt e.id = b.stamps.updatedAt e.id
  registrations : ∀ r : EventRegistration, OwnsEvent school a.db r.eventId →
    (r ∈ a.db.registrations.rows ↔ r ∈ b.db.registrations.rows)
  registrationStamps : ∀ r ∈ a.db.registrations.rows, OwnsEvent school a.db r.eventId →
    a.stamps.registeredAt r.id = b.stamps.registeredAt r.id
  qrTokens : ∀ t : QrToken, t.eventTable = .events → OwnsEvent school a.db t.eventId →
    (t ∈ a.db.qrTokens.rows ↔ t ∈ b.db.qrTokens.rows)
  qrTokenStamps : ∀ t ∈ a.db.qrTokens.rows, t.eventTable = .events →
    OwnsEvent school a.db t.eventId → a.stamps.issuedAt t.id = b.stamps.issuedAt t.id

def startKey : Option ℚ → WithBot ℚ
  | none => ⊥
  | some t => t

def listKey (e : Event) : WithBot ℚ ×ₗ ℤ := toLex (startKey e.startTime, e.id)

theorem listOrder_eq : listOrder = fun a b => decide (listKey b ≤ listKey a) := by
  funext a b
  rw [Bool.eq_iff_iff, decide_eq_true_eq, listKey, listKey, Prod.Lex.toLex_le_toLex, listOrder]
  cases a.startTime with
  | none =>
    cases b.startTime with
    | none => simp [startKey]
    | some t => simp [startKey]
  | some s =>
    cases b.startTime with
    | none => simp [startKey]
    | some t => simp [startKey, eq_comm (a := t)]

theorem Event.eq_of_listKey {db : Database} {e e' : Event} (he : e ∈ db.events.rows)
    (he' : e' ∈ db.events.rows) (h : listKey e = listKey e') : e = e' :=
  db.events.eq_of_id he he' (Prod.ext_iff.mp (toLex.injective h)).2

section

variable {school : String} {a b : StampedDatabase} {actor : Actor} {eventId : Int}

theorem AgreeOn.first_eq (h : AgreeOn school a b) (eventId : Int) :
    (a.db.events.first fun e => e.id = eventId && e.schoolId = school) =
      b.db.events.first fun e => e.id = eventId && e.schoolId = school := by
  apply Option.ext
  intro e
  have hfirst : ∀ db : Database,
      (db.events.first fun e => e.id = eventId && e.schoolId = school) = some e ↔
        e ∈ db.events.rows ∧ e.id = eventId ∧ e.schoolId = school :=
    fun db => Table.first_id_and_eq_some
  rw [hfirst, hfirst]
  constructor
  · rintro ⟨he, hid, hschool⟩
    exact ⟨(h.events e hschool).mp he, hid, hschool⟩
  · rintro ⟨he, hid, hschool⟩
    exact ⟨(h.events e hschool).mpr he, hid, hschool⟩

theorem first_owned {db : Database} {e : Event}
    (h : (db.events.first fun e => e.id = eventId && e.schoolId = school) = some e) :
    e ∈ db.events.rows ∧ e.id = eventId ∧ e.schoolId = school := Table.first_id_and_eq_some.mp h

theorem AgreeOn.response_eq (h : AgreeOn school a b) {e : Event} (he : e ∈ a.db.events.rows)
    (hschool : e.schoolId = school) : e.response a.stamps = e.response b.stamps := by
  obtain ⟨hcreated, hupdated⟩ := h.eventStamps e he hschool
  rw [Event.response, Event.response, hcreated, hupdated]

theorem resolveSchoolId_eq_ok (h : Py.orNone actor.schoolId = some school) :
    resolveSchoolId actor = .ok school := by
  rw [resolveSchoolId, h]

theorem AgreeOn.getEvent_eq (h : AgreeOn school a b)
    (hactor : Py.orNone actor.schoolId = some school) :
    getEvent eventId actor a = getEvent eventId actor b := by
  rw [getEvent, getEvent]
  apply Except.bind_congr
  intro _ _
  rw [Except.bind_of_ok (resolveSchoolId_eq_ok hactor),
    Except.bind_of_ok (resolveSchoolId_eq_ok hactor), ← h.first_eq eventId]
  cases hfirst : a.db.events.first fun e => e.id = eventId && e.schoolId = school with
  | none => rfl
  | some e =>
    obtain ⟨he, -, hschool⟩ := first_owned hfirst
    simp only [Event.adminResponse, h.response_eq he hschool]

theorem AgreeOn.found_eq (h : AgreeOn school a b) (call : ListEventsCall) :
    (a.db.events.rows.filter (listFilter call school)).mergeSort listOrder =
      (b.db.events.rows.filter (listFilter call school)).mergeSort listOrder := by
  have hschool : ∀ e : Event, listFilter call school e = true → e.schoolId = school := by
    intro e he
    simp only [listFilter, Bool.and_eq_true, decide_eq_true_eq] at he
    exact he.1.1
  rw [listOrder_eq]
  apply Sorts.of_linearOrder.flip.mergeSort_eq listKey
  · intro e he e' he' hkey
    obtain ⟨he, -⟩ := List.mem_filter.mp he
    obtain ⟨he', hfound⟩ := List.mem_filter.mp he'
    exact Event.eq_of_listKey he ((h.events e' (hschool e' hfound)).mpr he') hkey
  · exact Table.filter_perm fun e he => h.events e (hschool e he)

theorem AgreeOn.listEvents_eq (h : AgreeOn school a b) {call : ListEventsCall}
    (hactor : Py.orNone call.actor.schoolId = some school) :
    listEvents call a = listEvents call b := by
  rw [listEvents, listEvents]
  apply Except.bind_congr
  intro _ _
  rw [Except.bind_of_ok (resolveSchoolId_eq_ok hactor),
    Except.bind_of_ok (resolveSchoolId_eq_ok hactor)]
  simp only [← h.found_eq call]
  refine congrArg Except.ok (List.map_congr_left ?_)
  intro e he
  have hfound := List.mem_of_mem_drop (List.mem_of_mem_take he)
  rw [List.mem_mergeSort, List.mem_filter] at hfound
  simp only [listFilter, Bool.and_eq_true, decide_eq_true_eq] at hfound
  exact h.response_eq hfound.1 hfound.2.1.1

theorem AgreeOn.resolveEventOr404_eq (h : AgreeOn school a b) (eventId : Int) :
    resolveEventOr404 a.db eventId (some school) = resolveEventOr404 b.db eventId (some school) := by
  simp only [resolveEventOr404, Option.all_some, h.first_eq eventId]

theorem AgreeOn.listRegistrations_rel (h : AgreeOn school a b) (c : Crypto)
    (hactor : Py.orNone actor.schoolId = some school) :
    Except.Rel (SameUpToTies RegistrationListResponse.registeredAt)
      (listRegistrations c eventId actor a) (listRegistrations c eventId actor b) := by
  rw [listRegistrations, listRegistrations, hactor]
  apply Except.Rel.bind
  intro _ _
  simp only [← h.resolveEventOr404_eq eventId]
  apply Except.Rel.bind
  intro event hevent
  obtain ⟨hfind, hschool⟩ := resolveEventOr404_eq_ok.mp hevent
  have hown : ∀ r : EventRegistration, r.eventId = event.id → OwnsEvent school a.db r.eventId :=
    fun r hr => ⟨event, (findEvent_eq_some.mp hfind).1, hr.symm, hschool school rfl⟩
  refine .ok (Sorts.of_linearOrder.map_mergeSort RegistrationListResponse.registeredAt ?_ ?_)
  · exact Table.filter_perm fun r hr => h.registrations r (hown r (of_decide_eq_true hr))
  · intro r hr
    obtain ⟨hmem, hid⟩ := List.mem_filter.mp hr
    have hrow := hown r (of_decide_eq_true hid)
    have hstamp := h.registrationStamps r ((h.registrations r hrow).mpr hmem) hrow
    rw [EventRegistration.listResponse, EventRegistration.listResponse, hstamp]

theorem AgreeOn.listQrTokens_rel (h : AgreeOn school a b)
    (hactor : Py.orNone actor.schoolId = some school) :
    Except.Rel (SameUpToTies QrTokenListItem.issuedAt) (listQrTokens eventId actor a)
      (listQrTokens eventId actor b) := by
  rw [listQrTokens, listQrTokens, hactor]
  apply Except.Rel.bind
  intro _ _
  simp only [← h.first_eq eventId]
  cases hfirst : a.db.events.first fun e => e.id = eventId && e.schoolId = school with
  | none => exact .error _
  | some event =>
    obtain ⟨hevent, hid, hschool⟩ := first_owned hfirst
    have hown : ∀ t : QrToken, (t.eventTable = .events && t.eventId = eventId) = true →
        t.eventTable = .events ∧ OwnsEvent school a.db t.eventId := by
      intro t ht
      simp only [Bool.and_eq_true, decide_eq_true_eq] at ht
      exact ⟨ht.1, event, hevent, hid.trans ht.2.symm, hschool⟩
    refine .ok (Sorts.of_linearOrder.flip.map_mergeSort QrTokenListItem.issuedAt ?_ ?_)
    · exact Table.filter_perm fun t ht => h.qrTokens t (hown t ht).1 (hown t ht).2
    · intro t ht
      obtain ⟨hmem, hfound⟩ := List.mem_filter.mp ht
      obtain ⟨htable, hrow⟩ := hown t hfound
      have hstamp := h.qrTokenStamps t ((h.qrTokens t htable hrow).mpr hmem) htable hrow
      rw [QrToken.listItem, QrToken.listItem, hstamp]

end

/-- An admin of a school gets the same answers from any two states that agree on the school. -/
theorem admin_reads_confined (c : Crypto) {school : String} {a b : StampedDatabase}
    (h : AgreeOn school a b) (actor : Actor) (hactor : actor.schoolId = some school)
    (eventId : Int) (query : ListEventsCall) :
    getEvent eventId actor a = getEvent eventId actor b ∧
      listEvents { query with actor := actor } a = listEvents { query with actor := actor } b ∧
      Except.Rel (SameUpToTies RegistrationListResponse.registeredAt)
        (listRegistrations c eventId actor a) (listRegistrations c eventId actor b) ∧
      Except.Rel (SameUpToTies QrTokenListItem.issuedAt)
        (listQrTokens eventId actor a) (listQrTokens eventId actor b) := by
  cases hbound : Py.orNone actor.schoolId with
  | none =>
    -- an empty school_id counts as none: every endpoint refuses
    refine ⟨?_, ?_, ?_, ?_⟩
    · rw [getEvent, getEvent]
      apply Except.bind_congr
      intro _ _
      simp only [resolveSchoolId, hbound]
      rfl
    · rw [listEvents, listEvents]
      apply Except.bind_congr
      intro _ _
      simp only [resolveSchoolId, hbound]
      rfl
    · rw [listRegistrations, listRegistrations, hbound]
      exact Except.Rel.bind _ fun _ _ => .error _
    · rw [listQrTokens, listQrTokens, hbound]
      exact Except.Rel.bind _ fun _ _ => .error _
  | some bound =>
    have hsame : bound = school := by
      have := (Py.orNone_eq_some.mp hbound).1
      rw [hactor, Option.some.injEq] at this
      exact this.symm
    rw [hsame] at hbound
    exact ⟨h.getEvent_eq hbound, h.listEvents_eq hbound, h.listRegistrations_rel c hbound,
      h.listQrTokens_rel hbound⟩

def sampleStamps : Stamps := ⟨fun _ => 0, fun _ => 0, fun _ => 0, fun _ => 0⟩

def sampleHome : StampedDatabase := ⟨sampleDatabase, sampleStamps⟩

def sampleNeighbour : StampedDatabase where
  db := { sampleDatabase with
    events := ⟨[sampleEvent, { sampleEvent with id := 2, schoolId := "school-2" }], by decide⟩
    registrations :=
      ⟨[sampleRegistration,
        { sampleRegistration with id := 2, schoolId := "school-2", eventId := 2 }], by decide⟩ }
  stamps := { sampleStamps with createdAt := fun id => if id = 2 then 50 else 0 }

theorem ownsEvent_sampleHome {eventId : Int} (h : OwnsEvent "school-1" sampleHome.db eventId) :
    eventId = 1 := by
  obtain ⟨e, he, rfl, -⟩ := h
  rw [List.mem_singleton.mp he]
  rfl

theorem agreeOn_sampleNeighbour : AgreeOn "school-1" sampleHome sampleNeighbour where
  events e hschool := by
    have hother : e ≠ { sampleEvent with id := 2, schoolId := "school-2" } := by
      rintro rfl
      exact absurd hschool (by decide)
    simp [sampleHome, sampleNeighbour, sampleDatabase, Table.single, hother]
  eventStamps e he _ := by
    rw [List.mem_singleton.mp he]
    exact ⟨rfl, rfl⟩
  registrations r hown := by
    have hother : r ≠ { sampleRegistration with id := 2, schoolId := "school-2", eventId := 2 } := by
      rintro rfl
      exact absurd (ownsEvent_sampleHome hown) (by decide)
    simp [sampleHome, sampleNeighbour, sampleDatabase, Table.single, hother]
  registrationStamps _ _ _ := rfl
  qrTokens _ _ _ := Iff.rfl
  qrTokenStamps _ _ _ _ := rfl

def sampleHomeAdmin : Actor := ⟨some "admin-1", some "school_admin", none, some "school-1"⟩

theorem admin_reads_confined_sample :
    getEvent 2 sampleHomeAdmin sampleHome = getEvent 2 sampleHomeAdmin sampleNeighbour ∧
      listEvents { actor := sampleHomeAdmin } sampleHome =
        listEvents { actor := sampleHomeAdmin } sampleNeighbour ∧
      Except.Rel (SameUpToTies RegistrationListResponse.registeredAt)
        (listRegistrations sampleCrypto 2 sampleHomeAdmin sampleHome)
        (listRegistrations sampleCrypto 2 sampleHomeAdmin sampleNeighbour) ∧
      Except.Rel (SameUpToTies QrTokenListItem.issuedAt)
        (listQrTokens 2 sampleHomeAdmin sampleHome)
        (listQrTokens 2 sampleHomeAdmin sampleNeighbour) :=
  admin_reads_confined sampleCrypto agreeOn_sampleNeighbour sampleHomeAdmin rfl 2
    { actor := sampleHomeAdmin }

end CheckinService
