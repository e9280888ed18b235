import CheckinService.Laws.Registrations
import CheckinService.Routers.RegistrationSteps
import Mathlib.Logic.Function.Iterate

namespace CheckinService

open Locking

def soloRegistration (call : RegisterCall) (c : Server Unit × RegistrationPhase) :
    Server Unit × RegistrationPhase := registrationStep call () c.1 c.2

theorem soloRegistration_ended (call : RegisterCall) (s : Server Unit)
    (result : Handler EventRegistration) (n : Nat) :
    (soloRegistration call)^[n] (s, .ended result) = (s, .ended result) :=
  Function.iterate_fixed rfl n

theorem locked_solo (call : RegisterCall) (db : Database) (target : String) (event : Event) :
    (soloRegistration call)^[5]
        (⟨db, Locks.free.acquire call.eventId ()⟩, .locked target db event) =
      match insertRegistration call target event (assignSeat db event) db with
      | some (registration, db') => (⟨db', Locks.free⟩, .ended (.ok registration))
      | none => (⟨db, Locks.free⟩, .ended (existingRegistration db call.eventId target)) := by
  have hfree : (Locks.free.acquire call.eventId ()).release call.eventId = Locks.free :=
    Locks.release_acquire rfl
  rw [Function.iterate_succ_apply, Function.iterate_succ_apply]
  simp only [soloRegistration, registrationStep]
  cases insertRegistration call target event (assignSeat db event) db with
  | some result =>
    obtain ⟨registration, db'⟩ := result
    simp only [hfree]
    exact soloRegistration_ended call _ _ 3
  | none =>
    rw [Function.iterate_succ_apply]
    simp only [soloRegistration, registrationStep, hfree]
    rfl

theorem loadedEvent_of_found {snapshot : Database} {eventId : Int} {row : Event}
    (h : findEvent snapshot eventId = some row) : loadedEvent snapshot row = row := by
  have hloaded : snapshot.events.byId row.id = some row :=
    Relational.Table.byId_eq_some.mpr ⟨(findEvent_eq_some.mp h).1, rfl⟩
  rw [loadedEvent, hloaded, Option.getD_some]

/-- A request that runs alone does what the handler does, and leaves no lock behind. -/
theorem registrationStep_solo (call : RegisterCall) (db : Database) :
    (soloRegistration call)^[7] (⟨db, Locks.free⟩, .start) =
      (⟨(registerForEvent call db).1, Locks.free⟩, .ended (registerForEvent call db).2) := by
  rw [Function.iterate_succ_apply]
  unfold registerForEvent
  simp only [soloRegistration, registrationStep]
  cases registerTarget call with
  | error f => exact soloRegistration_ended call _ _ 6
  | ok target =>
    simp only
    cases registrationReads call target db with
    | error f => exact soloRegistration_ended call _ _ 6
    | ok replay =>
      cases replay with
      | some existing => exact soloRegistration_ended call _ _ 6
      | none =>
        simp only
        rw [Function.iterate_succ_apply]
        simp only [soloRegistration, registrationStep, Locks.free]
        cases hlock : lockEvent db call.eventId with
        | error f => exact soloRegistration_ended call _ _ 5
        | ok event =>
          simp only [loadedEvent_of_found (lockEvent_eq_ok.mp hlock)]
          rw [locked_solo]
          cases insertRegistration call target event (assignSeat db event) db <;> rfl

def RegistrationPhase.event : RegistrationPhase → Option Event
  | .locked _ _ event => some event
  | .seated _ event _ => some event
  | _ => none

def RegistrationPhase.snapshot : RegistrationPhase → Option Database
  | .waiting _ snapshot => some snapshot
  | .locked _ snapshot _ => some snapshot
  | _ => none

def RegistrationPhase.held (call : RegisterCall) : RegistrationPhase → Option Int
  | .locked .. => some call.eventId
  | .seated .. => some call.eventId
  | .refused _ => some call.eventId
  | _ => none

inductive RegistrationMove {ι : Type} (call : RegisterCall) (i : ι) (s : Server ι) :
    RegistrationPhase → Server ι → RegistrationPhase → Prop where
  | read {target} : RegistrationMove call i s .start s (.waiting target s.db)
  | wait {target snapshot} (taken : s.locks call.eventId ≠ none) :
      RegistrationMove call i s (.waiting target snapshot) s (.waiting target snapshot)
  | lost {target snapshot f} (missing : findEvent s.db call.eventId = none) :
      RegistrationMove call i s (.waiting target snapshot) s (.ended (.error f))
  | lock {target snapshot row} (free : s.locks call.eventId = none)
      (found : findEvent s.db call.eventId = some row) :
      RegistrationMove call i s (.waiting target snapshot)
        { s with locks := s.locks.acquire call.eventId i }
        (.locked target snapshot (loadedEvent snapshot row))
  | count {target snapshot event} :
      RegistrationMove call i s (.locked target snapshot event) s
        (.seated target event (assignSeat snapshot event))
  | insert {target event seat registration db}
      (insert : insertRegistration call target event seat s.db = some (registration, db)) :
      RegistrationMove call i s (.seated target event seat)
        ⟨db, s.locks.release call.eventId⟩ (.ended (.ok registration))
  | conflict {target event seat} (claimed : ¬ Unclaimed call target s.db) :
      RegistrationMove call i s (.seated target event seat) s (.refused target)
  | rollback {target} :
      RegistrationMove call i s (.refused target)
        { s with locks := s.locks.release call.eventId } (.rolledBack target)
  | finish {p result} (free : p.held call = none) (early : ∀ target snapshot,
      p ≠ .waiting target snapshot) : RegistrationMove call i s p s (.ended result)

theorem lockEvent_eq_error {db : Database} {eventId : Int} {f : Failure}
    (h : lockEvent db eventId = .error f) : findEvent db eventId = none := by
  cases hfind : findEvent db eventId with
  | none => rfl
  | some event =>
    rw [lockEvent_eq_ok.mpr hfind] at h
    cases h

theorem registrationStep_move {ι : Type} (call : RegisterCall) (i : ι) (s : Server ι)
    (p : RegistrationPhase) :
    RegistrationMove call i s p (registrationStep call i s p).1
      (registrationStep call i s p).2 := by
  cases p with
  | start =>
    have hfinish : ∀ result, RegistrationMove call i s .start s (.ended result) := by
      intro result
      exact .finish rfl (by simp)
    simp only [registrationStep]
    split
    · exact hfinish _
    · split
      · exact hfinish _
      · exact hfinish _
      · exact .read
  | waiting target snapshot =>
    simp only [registrationStep]
    split
    · rename_i htaken
      exact .wait (by simp [htaken])
    · rename_i hfree
      split
      · rename_i hmissing
        exact .lost (lockEvent_eq_error hmissing)
      · rename_i hfound
        exact .lock hfree (lockEvent_eq_ok.mp hfound)
  | locked target snapshot event => exact .count
  | seated target event seat =>
    simp only [registrationStep]
    split
    · rename_i hinsert
      exact .conflict (insertRegistration_eq_none.mp hinsert)
    · rename_i hinsert
      exact .insert hinsert
  | refused target => exact .rollback
  | rolledBack target => exact .finish rfl (by simp)
  | ended result => exact .finish rfl (by simp)

theorem RegistrationMove.lockMove {ι : Type} {call : RegisterCall} {i : ι} {s s' : Server ι}
    {p p' : RegistrationPhase} (h : RegistrationMove call i s p s' p') :
    LockMove i s.locks (p.held call) s'.locks (p'.held call) := by
  cases h with
  | read => exact .keep
  | wait _ => exact .keep
  | lost _ => exact .keep
  | lock free _ => exact .acquire free
  | count => exact .keep
  | insert _ => exact .release
  | conflict _ => exact .keep
  | rollback => exact .release
  | finish free _ =>
    rw [free]
    exact .keep

end CheckinService
