import CheckinService.Laws.Events
import CheckinService.Laws.RegistrationSteps
import CheckinService.Routers.EventSteps

namespace CheckinService

open Relational Locking

section

variable {call : CreateCall} {db db' : Database} {tenant : String} {key : Option String}
  {event : Event}

theorem createReads_replay {replay : Option Event}
    (h : createReads call db = .ok (tenant, key, replay)) :
    replay = findByIdemKey db tenant key := (createReads_eq_ok.mp h).2.2.2

def Resolves (call : CreateCall) (db : Database) (tenant : String) (key : Option String) : Prop :=
  ∃ replay, createReads call db = .ok (tenant, key, replay)

theorem tierTenant_congr (h : db'.groups = db.groups) (own : String) :
    tierTenant call own db' = tierTenant call own db := by
  simp only [tierTenant, assertGroupEventEligible, h]

theorem resolves_congr (h : db'.groups = db.groups) :
    Resolves call db' tenant key ↔ Resolves call db tenant key := by
  simp only [Resolves, createReads_eq_ok, tierTenant_congr h, exists_and_left, exists_eq]

theorem Resolves.unique {tenant' : String} {key' : Option String} {replay : Option Event}
    (h : Resolves call db tenant key) (hreads : createReads call db = .ok (tenant', key', replay)) :
    tenant' = tenant ∧ key' = key := by
  obtain ⟨replay', h⟩ := h
  cases hreads.symm.trans h
  exact ⟨rfl, rfl⟩

end

inductive CreateMove (call : CreateCall) (db : Database) :
    CreatePhase → Database → CreatePhase → Prop where
  | fail {f} (reads : createReads call db = .error f) :
      CreateMove call db .start db (.ended (.error f))
  | replay {tenant key existing} (reads : createReads call db = .ok (tenant, key, some existing)) :
      CreateMove call db .start db (.ended (.ok existing))
  | untitled {tenant key} (reads : createReads call db = .ok (tenant, key, none)) :
      CreateMove call db .start db (.ended (.error (.http emptyTitle)))
  | read {tenant key title} (reads : createReads call db = .ok (tenant, key, none)) :
      CreateMove call db .start db (.pending tenant key title)
  | insert {tenant key title event db'}
      (event_eq : event = newEvent call tenant key title db.events.nextId)
      (rows : db'.events.rows = db.events.rows ++ [event])
      (rest : db' = { db with events := db'.events }) :
      CreateMove call db (.pending tenant key title) db' (.ended (.ok event))
  | conflict {tenant key title existing} (taken : findByIdemKey db tenant key = some existing) :
      CreateMove call db (.pending tenant key title) db (.refused tenant key)
  | rollback {tenant key} :
      CreateMove call db (.refused tenant key) db (.rolledBack tenant key)
  | recover {tenant key existing} (found : findByIdemKey db tenant key = some existing) :
      CreateMove call db (.rolledBack tenant key) db (.ended (.ok existing))
  | lose {tenant key} (missing : findByIdemKey db tenant key = none) :
      CreateMove call db (.rolledBack tenant key) db
        (.ended (.error (.unhandled .integrityError)))
  | finish {result} : CreateMove call db (.ended result) db (.ended result)

theorem createStep_move (call : CreateCall) (db : Database) (p : CreatePhase) :
    CreateMove call db p (createStep call db p).1 (createStep call db p).2 := by
  cases p with
  | start =>
    unfold createStep
    dsimp only
    split
    · rename_i hreads
      exact .fail hreads
    · rename_i hreads
      exact .replay hreads
    · rename_i hreads
      split
      · rename_i htitle
        rw [(sanitizedTitle_eq_error.mp htitle).2]
        exact .untitled hreads
      · exact .read hreads
  | pending tenant key title =>
    unfold createStep
    dsimp only
    split
    · rename_i hinsert
      exact .insert rfl (Table.insert?_eq_some.mp hinsert).2 rfl
    · rename_i hinsert
      obtain ⟨existing, htaken⟩ := insert?_newEvent_eq_none.mp hinsert
      exact .conflict htaken
  | refused tenant key => exact .rollback
  | rolledBack tenant key =>
    unfold createStep
    dsimp only
    split
    · rename_i hfound
      exact .recover hfound
    · rename_i hmissing
      exact .lose hmissing
  | ended result => exact .finish

def soloCreation (call : CreateCall) (c : Database × CreatePhase) : Database × CreatePhase :=
  createStep call c.1 c.2

theorem soloCreation_ended (call : CreateCall) (db : Database) (result : Handler Event) (n : Nat) :
    (soloCreation call)^[n] (db, .ended result) = (db, .ended result) :=
  Function.iterate_fixed rfl n

/-- A creation that runs alone does what the handler does. -/
theorem createStep_solo (call : CreateCall) (db : Database) :
    (soloCreation call)^[4] (db, .start) =
      ((createEvent call db).1, .ended (createEvent call db).2) := by
  rw [Function.iterate_succ_apply]
  unfold createEvent
  simp only [soloCreation]
  unfold createStep
  dsimp only
  cases createReads call db with
  | error f => exact soloCreation_ended call db _ 3
  | ok reads =>
    obtain ⟨tenant, key, replay⟩ := reads
    cases replay with
    | some existing => exact soloCreation_ended call db _ 3
    | none =>
      simp only
      cases sanitizedTitle (some call.payload.title) with
      | error f => exact soloCreation_ended call db _ 3
      | ok title =>
        simp only
        rw [Function.iterate_succ_apply]
        simp only [soloCreation]
        unfold createStep
        dsimp only
        cases db.events.insert? (newEvent call tenant key title db.events.nextId) with
        | some events => exact soloCreation_ended call _ _ 2
        | none =>
          simp only
          rw [Function.iterate_succ_apply, Function.iterate_succ_apply]
          simp only [soloCreation]
          unfold createStep
          dsimp only
          cases findByIdemKey db tenant key <;> rfl

section

variable {actor : Actor} {eventId : Int} {db : Database} {event : Event}

theorem Event.cancel_same (event : Event) : Event.Same event event.cancel :=
  ⟨rfl, rfl, rfl, rfl, rfl, rfl⟩

theorem saveEvent_cancel (h : ownEvent actor eventId db = .ok event) :
    saveEvent event.cancel db = cancelEvent eventId db := by
  obtain ⟨hmem, hid, -⟩ := ownEvent_eq_ok.mp h
  have hrows : (cancelEvent eventId db).events.rows =
      db.events.rows.map fun e => if e = event then event.cancel else e := by
    apply Table.update_rows_eq (p := fun e => e = event) Event.cancel_keepsKeys hmem hid rfl
    · intro e _ he
      exact he
    · rfl
  have hevents : (saveEvent event.cancel db).events = (cancelEvent eventId db).events := by
    apply Table.ext
    rw [hrows, saveEvent_rows hmem event.cancel_same]
  calc
    saveEvent event.cancel db = { db with events := (saveEvent event.cancel db).events } := rfl
    _ = cancelEvent eventId db := by
      rw [hevents]
      rfl

theorem cancelEvent_of_cancelled (h : ownEvent actor eventId db = .ok event)
    (hcancelled : event.status = .cancelled) : cancelEvent eventId db = db := by
  obtain ⟨hmem, hid, -⟩ := ownEvent_eq_ok.mp h
  have hsame : event.cancel = event := by rw [Event.cancel, ← hcancelled]
  have hevents : (cancelEvent eventId db).events = db.events := by
    apply Table.ext
    apply (Table.update_rows_eq (p := fun e => e = event) (g := id) Event.cancel_keepsKeys hmem hid
      rfl (fun e _ he => he) hsame).trans
    simp
  calc
    cancelEvent eventId db = { db with events := (cancelEvent eventId db).events } := rfl
    _ = db := by rw [hevents]

end

def DeletePhase.held (call : DeleteCall) : DeletePhase → Option Int
  | .updated => some call.eventId
  | _ => none

inductive DeleteMove {ι : Type} (call : DeleteCall) (i : ι) (s : Server ι) :
    DeletePhase → Server ι → DeletePhase → Prop where
  | read : DeleteMove call i s .start s .found
  | wait : DeleteMove call i s .found s .found
  | lock (free : s.locks call.eventId = none) :
      DeleteMove call i s .found { s with locks := s.locks.acquire call.eventId i } .updated
  | commit {result} :
      DeleteMove call i s .updated ⟨cancelEvent call.eventId s.db, s.locks.release call.eventId⟩
        (.ended result)
  | finish {p result} (free : p.held call = none) : DeleteMove call i s p s (.ended result)

theorem deleteStep_move {ι : Type} (call : DeleteCall) (i : ι) (s : Server ι) (p : DeletePhase) :
    DeleteMove call i s p (deleteStep call i s p).1 (deleteStep call i s p).2 := by
  cases p with
  | start =>
    simp only [deleteStep]
    split
    · exact .finish rfl
    · split
      · exact .finish rfl
      · exact .read
  | found =>
    simp only [deleteStep]
    split
    · exact .wait
    · rename_i hfree
      exact .lock hfree
  | updated => exact .commit
  | ended result => exact .finish rfl

theorem DeleteMove.lockMove {ι : Type} {call : DeleteCall} {i : ι} {s s' : Server ι}
    {p p' : DeletePhase} (h : DeleteMove call i s p s' p') :
    LockMove i s.locks (p.held call) s'.locks (p'.held call) := by
  cases h with
  | read => exact .keep
  | wait => exact .keep
  | lock free => exact .acquire free
  | commit => exact .release
  | finish free =>
    rw [free]
    exact .keep

def soloDeletion (call : DeleteCall) (c : Server Unit × DeletePhase) : Server Unit × DeletePhase :=
  deleteStep call () c.1 c.2

/-- A deletion that runs alone does what the handler does, and leaves no lock behind. -/
theorem deleteStep_solo (call : DeleteCall) (db : Database) :
    (soloDeletion call)^[3] (⟨db, Locks.free⟩, .start) =
      (⟨(deleteEvent call db).1, Locks.free⟩, .ended (deleteEvent call db).2) := by
  have hended : ∀ s result n, (soloDeletion call)^[n] (s, .ended result) = (s, .ended result) :=
    fun s result n => Function.iterate_fixed rfl n
  rw [Function.iterate_succ_apply, deleteEvent]
  simp only [soloDeletion, deleteStep]
  cases howned : ownEvent call.actor call.eventId db with
  | error f => exact hended _ _ 2
  | ok event =>
    have hsaved : saveEvent { event with status := .cancelled } db = cancelEvent call.eventId db :=
      saveEvent_cancel howned
    simp only
    rw [hsaved]
    split
    · rename_i hcancelled
      rw [cancelEvent_of_cancelled howned hcancelled]
      exact hended _ _ 2
    · rw [Function.iterate_succ_apply]
      simp only [soloDeletion, deleteStep, Locks.free]
      rw [Function.iterate_one]
      simp only [soloDeletion, deleteStep]
      have hfree : (Locks.free.acquire call.eventId ()).release call.eventId = Locks.free :=
        Locks.release_acquire rfl
      rw [hfree]

end CheckinService
