import CheckinService.Lib.Evolution
import CheckinService.Laws.Patches

namespace CheckinService

open Relational

theorem actorTenant_eq (actor : Actor) : actorTenant actor = resolveEventTenant actor := by
  rw [actorTenant, resolveEventTenant]
  cases hschool : Py.orNone actor.schoolId with
  | none => cases Py.orNone actor.userId <;> simp [httpError, bind, Except.bind, pure, Except.pure]
  | some school => simp [bind, Except.bind, pure, Except.pure]

theorem ownEvent_eq_ok {actor : Actor} {eventId : Int} {db : Database} {event : Event} :
    ownEvent actor eventId db = .ok event ↔
      event ∈ db.events.rows ∧ event.id = eventId ∧
        resolveEventTenant actor = .ok event.schoolId ∧
        assertEventOwnerOrAdmin actor event.ownerUserId event.schoolId = .ok () := by
  have hfirst : ∀ tenant, (db.events.first fun e => e.id = eventId && e.schoolId = tenant) =
      some event ↔ event ∈ db.events.rows ∧ event.id = eventId ∧ event.schoolId = tenant :=
    fun tenant => Table.first_id_and_eq_some
  simp only [ownEvent, actorTenant_eq, Except.bind_eq_ok]
  constructor
  · rintro ⟨tenant, htenant, h⟩
    split at h
    · cases h
    · rename_i found hfound
      obtain ⟨_, hassert, h⟩ := Except.bind_eq_ok.mp h
      cases h
      obtain ⟨hmem, hid, hschool⟩ := (hfirst tenant).mp hfound
      exact ⟨hmem, hid, hschool ▸ htenant, hassert⟩
  · rintro ⟨hmem, hid, htenant, hassert⟩
    refine ⟨event.schoolId, htenant, ?_⟩
    simp only [(hfirst event.schoolId).mpr ⟨hmem, hid, rfl⟩, hassert]
    rfl

theorem saveEvent_rows {db : Database} {old new : Event} (hold : old ∈ db.events.rows)
    (hsame : Event.Same old new) :
    (saveEvent new db).events.rows = db.events.rows.map fun e => if e = old then new else e := by
  apply Table.update_rows_eq (p := fun e => e = old) (Event.overwrite_keepsKeys new) hold
    hsame.id.symm rfl
  · intro e _ h
    exact h
  · rw [Event.overwrite, ← hsame.id, ← hsame.schoolId, ← hsame.idempotencyKey]

structure Saves (actor : Actor) (eventId : Int) (old new : Event) (db db' : Database) : Prop where
  owned : ownEvent actor eventId db = .ok old
  same : Event.Same old new
  rows : db'.events.rows = db.events.rows.map fun e => if e = old then new else e
  rest : db' = { db with events := db'.events }

theorem Saves.of_saveEvent {actor : Actor} {eventId : Int} {old new : Event} {db : Database}
    (howned : ownEvent actor eventId db = .ok old) (hsame : Event.Same old new) :
    Saves actor eventId old new db (saveEvent new db) :=
  ⟨howned, hsame, saveEvent_rows (ownEvent_eq_ok.mp howned).1 hsame, rfl⟩

theorem forall_mem_replace {P : Event → Prop} {rows : List Event} {old new : Event}
    (h : ∀ e ∈ rows, P e) (hold : old ∈ rows) :
    (∀ e ∈ rows.map fun e => if e = old then new else e, P e) ↔ P new := by
  constructor
  · intro hall
    exact hall new (List.mem_map.mpr ⟨old, hold, if_pos rfl⟩)
  · intro hnew e he
    obtain ⟨e', he', rfl⟩ := List.mem_map.mp he
    split
    · exact hnew
    · exact h e' he'

section

variable {call : UpdateCall} {db : Database} {old : Event}

theorem updateEvent_of_ok {new : Event} (h : ownEvent call.actor call.eventId db = .ok old)
    (hpatched : patched call.payload old = .ok new) :
    updateEvent call db = (saveEvent new db, .ok new) := by
  simp [updateEvent, h, hpatched, bind, Except.bind]

theorem updateEvent_of_error {f : Failure} (h : ownEvent call.actor call.eventId db = .ok old)
    (hpatched : patched call.payload old = .error f) :
    updateEvent call db = (db, .error f) := by
  simp [updateEvent, h, hpatched, bind, Except.bind]

theorem updateEvent_of_not_own {f : Failure}
    (h : ownEvent call.actor call.eventId db = .error f) : updateEvent call db = (db, .error f) := by
  simp [updateEvent, h, bind, Except.bind]

end

theorem updateEvent_forall_iff {P : Event → Prop} {call : UpdateCall} {db : Database}
    (h : ∀ e ∈ db.events.rows, P e) :
    (∀ e ∈ (updateEvent call db).1.events.rows, P e) ↔
      ∀ old new, ownEvent call.actor call.eventId db = .ok old →
        patched call.payload old = .ok new → P new := by
  cases howned : ownEvent call.actor call.eventId db with
  | error f =>
    rw [updateEvent_of_not_own howned]
    exact iff_of_true h fun _ _ hown => by cases hown
  | ok old =>
    cases hpatched : patched call.payload old with
    | error f =>
      rw [updateEvent_of_error howned hpatched]
      refine iff_of_true h ?_
      intro _ new hold hnew
      cases hold
      rw [hpatched] at hnew
      cases hnew
    | ok new =>
      have hmem := (ownEvent_eq_ok.mp howned).1
      rw [updateEvent_of_ok howned hpatched, saveEvent_rows hmem (patched_patches hpatched).2.same,
        forall_mem_replace h hmem]
      constructor
      · intro hnew _ new' hold' hnew'
        cases hold'
        rw [hpatched] at hnew'
        cases hnew'
        exact hnew
      · intro hall
        exact hall old new rfl hpatched

theorem updateEvent_cases (call : UpdateCall) (db : Database) :
    (updateEvent call db).1 = db ∨
      ∃ old new, Saves call.actor call.eventId old new db (updateEvent call db).1 := by
  cases howned : ownEvent call.actor call.eventId db with
  | error f => exact Or.inl (by rw [updateEvent_of_not_own howned])
  | ok old =>
    cases hpatched : patched call.payload old with
    | error f => exact Or.inl (by rw [updateEvent_of_error howned hpatched])
    | ok new =>
      rw [updateEvent_of_ok howned hpatched]
      exact Or.inr ⟨old, new, .of_saveEvent howned (patched_patches hpatched).2.same⟩

theorem deleteEvent_cases (call : DeleteCall) (db : Database) :
    (deleteEvent call db).1 = db ∨
      ∃ old, Saves call.actor call.eventId old { old with status := .cancelled } db
        (deleteEvent call db).1 := by
  cases howned : ownEvent call.actor call.eventId db with
  | error f => exact Or.inl (by simp [deleteEvent, howned])
  | ok old =>
    have hsaved : (deleteEvent call db).1 = saveEvent { old with status := .cancelled } db := by
      simp [deleteEvent, howned]
    rw [hsaved]
    exact Or.inr ⟨old, .of_saveEvent howned ⟨rfl, rfl, rfl, rfl, rfl, rfl⟩⟩

section

variable {call : CreateCall} {db : Database} {tenant : String} {key : Option String}
  {replay : Option Event}

theorem createReads_eq_ok :
    createReads call db = .ok (tenant, key, replay) ↔
      requireEventCreator call.actor = .ok () ∧
        (∃ own, resolveEventTenant call.actor = .ok own ∧ tierTenant call own db = .ok tenant) ∧
        validateIdemKey call.idempotencyKey = .ok key ∧ replay = findByIdemKey db tenant key := by
  simp only [createReads, Except.bind_eq_ok, pure, Except.pure, Except.ok.injEq, Prod.mk.injEq]
  constructor
  · rintro ⟨_, hcreator, own, hown, _, hkey, _, htier, rfl, rfl, hreplay⟩
    exact ⟨hcreator, ⟨own, hown, htier⟩, hkey, hreplay.symm⟩
  · rintro ⟨hcreator, ⟨own, hown, htier⟩, hkey, hreplay⟩
    exact ⟨(), hcreator, own, hown, key, hkey, tenant, htier, rfl, rfl, hreplay.symm⟩

theorem createReads_tenant (h : createReads call db = .ok (tenant, key, replay)) :
    ∃ own, resolveEventTenant call.actor = .ok own ∧ tierTenant call own db = .ok tenant :=
  (createReads_eq_ok.mp h).2.1

theorem tierTenant_eq_ok {own : String} (h : tierTenant call own db = .ok tenant) :
    (call.payload.visibility ≠ .groupOnly ∧ tenant = own) ∨
      call.payload.visibility = .groupOnly ∧ ∃ groupId groupKind,
        call.payload.groupId = some groupId ∧ call.payload.groupKind = some groupKind ∧
          assertGroupEventEligible call.actor groupKind groupId db = .ok tenant := by
  rw [tierTenant] at h
  split at h
  · rename_i hschool
    cases hassert : assertSchoolOnlyEligible call.actor with
    | error f =>
      rw [hassert] at h
      cases h
    | ok _ =>
      rw [hassert] at h
      cases h
      exact Or.inl ⟨by simp [hschool], rfl⟩
  · rename_i hgroup
    split at h
    · rename_i groupId groupKind hid hkind
      exact Or.inr ⟨hgroup, groupId, groupKind, hid, hkind, h⟩
    · cases h
  · rename_i hgroup
    cases h
    exact Or.inl ⟨hgroup, rfl⟩

theorem createReads_tier (h : createReads call db = .ok (tenant, key, replay)) :
    (call.payload.visibility ≠ .groupOnly ∧ resolveEventTenant call.actor = .ok tenant) ∨
      call.payload.visibility = .groupOnly ∧ ∃ groupId groupKind,
        call.payload.groupId = some groupId ∧ call.payload.groupKind = some groupKind ∧
          assertGroupEventEligible call.actor groupKind groupId db = .ok tenant := by
  obtain ⟨own, hown, htier⟩ := createReads_tenant h
  refine (tierTenant_eq_ok htier).imp_left ?_
  rintro ⟨hother, rfl⟩
  exact ⟨hother, hown⟩

theorem createReads_group (h : createReads call db = .ok (tenant, key, replay))
    (hgroup : call.payload.visibility = .groupOnly) :
    call.payload.groupId ≠ none ∧ call.payload.groupKind ≠ none := by
  rcases createReads_tier h with ⟨hother, -⟩ | ⟨-, groupId, groupKind, hid, hkind, -⟩
  · exact absurd hgroup hother
  · simp [hid, hkind]

end

def Event.keyed (tenant key : String) (e : Event) : Bool :=
  e.schoolId = tenant && e.idempotencyKey = some key

theorem Event.keyed_clash {tenant key : String} (e s : Event) (he : e.keyed tenant key = true)
    (hs : s.keyed tenant key = true) : Clash s e := by
  simp only [Event.keyed, Bool.and_eq_true, decide_eq_true_eq] at he hs
  refine Or.inr ⟨(tenant, key), ?_, ?_⟩
  · simp [Row.keys, hs]
  · simp [Row.keys, he]

section

variable {call : CreateCall} {db : Database} {tenant : String} {key : Option String}
  {event : Event}

theorem findByIdemKey_eq_some :
    findByIdemKey db tenant key = some event ↔
      ∃ k, key = some k ∧ event ∈ db.events.rows ∧ event.keyed tenant k = true := by
  cases key with
  | none => simp [findByIdemKey]
  | some k =>
    simp only [Option.some.injEq, exists_eq_left']
    exact Table.first_eq_some_iff (p := Event.keyed tenant k) (event.keyed_clash)

theorem findByIdemKey_eq_none :
    findByIdemKey db tenant key = none ↔
      ∀ k, key = some k → ∀ e ∈ db.events.rows, e.keyed tenant k = false := by
  cases key with
  | none => simp [findByIdemKey]
  | some k =>
    simp only [Option.some.injEq, forall_eq']
    exact Table.first_eq_none

theorem insert?_newEvent_eq_none {title : String} :
    db.events.insert? (newEvent call tenant key title db.events.nextId) = none ↔
      ∃ existing, findByIdemKey db tenant key = some existing := by
  rw [Table.insert?_nextId_eq_none rfl]
  simp only [findByIdemKey_eq_some, Row.keys, newEvent, List.mem_map, Option.mem_toList,
    Event.keyed, Bool.and_eq_true, decide_eq_true_eq]
  constructor
  · rintro ⟨e, he, _, ⟨k, hk, rfl⟩, k', hk', hsame⟩
    obtain ⟨htenant, rfl⟩ := Prod.ext_iff.mp hsame
    exact ⟨e, _, hk', he, htenant.symm, hk⟩
  · rintro ⟨e, k, hkey, he, htenant, hk⟩
    exact ⟨e, he, _, ⟨k, hk, rfl⟩, k, hkey, by rw [htenant]⟩

end

structure Creates (call : CreateCall) (event : Event) (db db' : Database) : Prop where
  reads : ∃ key title, createReads call db = .ok (event.schoolId, key, none) ∧
    event = newEvent call event.schoolId key title db.events.nextId
  rows : db'.events.rows = db.events.rows ++ [event]
  rest : db' = { db with events := db'.events }

theorem createEvent_of_reads {call : CreateCall} {db : Database} {tenant title : String}
    {key : Option String} (hreads : createReads call db = .ok (tenant, key, none))
    (htitle : sanitizedTitle (some call.payload.title) = .ok title) :
    ∃ events, createEvent call db = ({ db with events := events },
        .ok (newEvent call tenant key title db.events.nextId)) ∧
      events.rows = db.events.rows ++ [newEvent call tenant key title db.events.nextId] := by
  cases hinsert : db.events.insert? (newEvent call tenant key title db.events.nextId) with
  | none =>
    obtain ⟨existing, hfound⟩ := insert?_newEvent_eq_none.mp hinsert
    rw [(createReads_eq_ok.mp hreads).2.2.2.symm] at hfound
    cases hfound
  | some events =>
    refine ⟨events, ?_, (Table.insert?_eq_some.mp hinsert).2⟩
    unfold createEvent
    simp only [hreads, htitle, hinsert]

theorem createEvent_stores (call : CreateCall) (db : Database) :
    (createEvent call db).1 = db ∨
      ∃ tenant key title, createReads call db = .ok (tenant, key, none) ∧
        sanitizedTitle (some call.payload.title) = .ok title := by
  unfold createEvent
  split
  · exact Or.inl rfl
  · exact Or.inl rfl
  · rename_i tenant key hreads
    split
    · exact Or.inl rfl
    · rename_i title htitle
      exact Or.inr ⟨tenant, key, title, hreads, htitle⟩

theorem createEvent_cases (call : CreateCall) (db : Database) :
    (createEvent call db).1 = db ∨
      ∃ event, Creates call event db (createEvent call db).1 := by
  refine (createEvent_stores call db).imp_right ?_
  rintro ⟨tenant, key, title, hreads, htitle⟩
  obtain ⟨events, hresult, hrows⟩ := createEvent_of_reads hreads htitle
  rw [hresult]
  exact ⟨_, ⟨key, title, hreads, rfl⟩, hrows, rfl⟩

theorem createEvent_inserts {call : CreateCall} {db : Database} {event : Event}
    (h : (createEvent call db).1.events.rows = db.events.rows ++ [event]) :
    Creates call event db (createEvent call db).1 := by
  rcases createEvent_cases call db with hsame | ⟨event', hcreates⟩
  · rw [hsame] at h
    simp at h
  · have hrows := hcreates.rows.symm.trans h
    obtain rfl : event' = event := by simpa using hrows
    exact hcreates

theorem createEvent_inserts_iff {call : CreateCall} {db : Database} {event : Event} :
    (createEvent call db).1.events.rows = db.events.rows ++ [event] ↔
      ∃ tenant key title, createReads call db = .ok (tenant, key, none) ∧
        sanitizedTitle (some call.payload.title) = .ok title ∧
        event = newEvent call tenant key title db.events.nextId := by
  constructor
  · intro h
    rcases createEvent_stores call db with hsame | ⟨tenant, key, title, hreads, htitle⟩
    · simp [hsame] at h
    · obtain ⟨events, hresult, hrows⟩ := createEvent_of_reads hreads htitle
      rw [hresult] at h
      have hevent := hrows.symm.trans h
      exact ⟨tenant, key, title, hreads, htitle, by simpa [eq_comm] using hevent⟩
  · rintro ⟨tenant, key, title, hreads, htitle, rfl⟩
    obtain ⟨events, hresult, hrows⟩ := createEvent_of_reads hreads htitle
    rw [hresult]
    exact hrows

theorem createEvent_forall_iff {P : Event → Prop} {call : CreateCall} {db : Database}
    (h : ∀ e ∈ db.events.rows, P e) :
    (∀ e ∈ (createEvent call db).1.events.rows, P e) ↔
      ∀ tenant key title, createReads call db = .ok (tenant, key, none) →
        sanitizedTitle (some call.payload.title) = .ok title →
          P (newEvent call tenant key title db.events.nextId) := by
  constructor
  · intro hall tenant key title hreads htitle
    have hrows := createEvent_inserts_iff.mpr ⟨tenant, key, title, hreads, htitle, rfl⟩
    rw [hrows] at hall
    exact hall _ (List.mem_append_right _ (List.mem_singleton_self _))
  · intro hnew
    rcases createEvent_cases call db with hsame | ⟨event, hcreates⟩
    · rw [hsame]
      exact h
    · obtain ⟨tenant, key, title, hreads, htitle, hevent⟩ :=
        createEvent_inserts_iff.mp hcreates.rows
      intro e he
      rw [hcreates.rows, List.mem_append, List.mem_singleton] at he
      rcases he with he | rfl
      · exact h e he
      · rw [hevent]
        exact hnew tenant key title hreads htitle

end CheckinService
