import CheckinService.Laws.CapacityRace
import CheckinService.Laws.EventSteps

/-! Registrations for an event while it is cancelled.  A registration checks the status in the
snapshot that it took before it had the lock, and locks the row without a second look. -/

namespace CheckinService

open Relational Interleaving Locking

variable {ι : Type}

inductive Request where
  | register (call : RegisterCall) (phase : RegistrationPhase)
  | delete (call : DeleteCall) (phase : DeletePhase)

namespace Request

def ofCall : RegisterCall ⊕ DeleteCall → Request
  | .inl call => .register call .start
  | .inr call => .delete call .start

def step (i : ι) (s : Server ι) : Request → Server ι × Request
  | .register call phase => (registrationStep call i s phase).map id (.register call)
  | .delete call phase => (deleteStep call i s phase).map id (.delete call)

def held : Request → Option Int
  | .register call phase => phase.held call
  | .delete call phase => phase.held call

def inserts : Request → Option (RegisterCall × String)
  | .register call (.locked target _ _) => some (call, target)
  | .register call (.seated target _ _) => some (call, target)
  | _ => none

end Request

abbrev Closing (ι : Type) := Config (Server ι) ι Request

def closingStart (calls : ι → RegisterCall ⊕ DeleteCall) (db : Database) : Closing ι :=
  ⟨{ db }, fun i => .ofCall (calls i)⟩

def Cancelled (eventId : Int) (db : Database) : Prop :=
  ∃ event, findEvent db eventId = some event ∧ event.status = .cancelled

def AddsNone (eventId : Int) (db db' : Database) : Prop :=
  Cancelled eventId db →
    ∀ r ∈ db'.registrations.rows, r.eventId = eventId → r ∈ db.registrations.rows

/-- A registration gets the lock of the event while the event is not cancelled, unless one of its
UNIQUE keys is taken. -/
def OpenLock (eventId : Int) (c : Closing ι) (i : ι) : Prop :=
  match c.locals i with
  | .register call (.waiting target _) =>
    call.eventId = eventId → c.shared.locks eventId = none →
      Unclaimed call target c.shared.db → ¬ Cancelled eventId c.shared.db
  | _ => True

def SafeInsert (eventId : Int) (db : Database) (p : Request) : Prop :=
  ∀ call target, p.inserts = some (call, target) → call.eventId = eventId →
    Unclaimed call target db → ¬ Cancelled eventId db

inductive RequestMove (i : ι) (s : Server ι) : Request → Server ι → Request → Prop where
  | register {call p s' p'} (move : RegistrationMove call i s p s' p') :
      RequestMove i s (.register call p) s' (.register call p')
  | delete {call p s' p'} (move : DeleteMove call i s p s' p') :
      RequestMove i s (.delete call p) s' (.delete call p')

theorem requestStep_move (i : ι) (s : Server ι) (p : Request) :
    RequestMove i s p (p.step i s).1 (p.step i s).2 := by
  cases p with
  | register call p => exact .register (registrationStep_move call i s p)
  | delete call p => exact .delete (deleteStep_move call i s p)

section

variable {i : ι} {s s' : Server ι} {p p' : Request} {eventId : Int} {db db' : Database}

theorem RequestMove.lockMove (h : RequestMove i s p s' p') :
    LockMove i s.locks p.held s'.locks p'.held := by
  cases h with
  | register move => exact move.lockMove
  | delete move => exact move.lockMove

theorem Request.inserts_held {call : RegisterCall} {target : String}
    (h : p.inserts = some (call, target)) : p.held = some call.eventId := by
  cases p with
  | register own phase =>
    cases phase with
    | locked _ _ _ =>
      cases h
      rfl
    | seated _ _ _ =>
      cases h
      rfl
    | _ => cases h
  | delete own phase => cases h

theorem safeInsert_of_inserts_eq_none (h : p.inserts = none) : SafeInsert eventId db p := by
  intro call target hinserts
  rw [h] at hinserts
  cases hinserts

theorem cancelled_iff :
    Cancelled eventId db ↔ ∃ e ∈ db.events.rows, e.id = eventId ∧ e.status = .cancelled := by
  simp only [Cancelled, findEvent_eq_some, and_assoc]

theorem cancelled_of_events (h : db'.events = db.events) :
    Cancelled eventId db' ↔ Cancelled eventId db := by
  rw [cancelled_iff, cancelled_iff, h]

theorem cancelEvent_cancelled {other : Int} (h : other ≠ eventId) :
    Cancelled eventId (cancelEvent other db) ↔ Cancelled eventId db := by
  have hrows : (cancelEvent other db).events.rows =
      db.events.rows.map fun e => if e.id = other then e.cancel else e := rfl
  rw [cancelled_iff, cancelled_iff, hrows]
  constructor
  · rintro ⟨_, hmem, hid, hstatus⟩
    obtain ⟨e, he, rfl⟩ := List.mem_map.mp hmem
    split at hid
    · rename_i hother
      exact absurd (hother.symm.trans hid) h
    · rename_i hother
      rw [if_neg hother] at hstatus
      exact ⟨e, he, hid, hstatus⟩
  · rintro ⟨e, he, hid, hstatus⟩
    have hother : e.id ≠ other := fun hother => h (hother.symm.trans hid)
    refine ⟨e, ?_, hid, hstatus⟩
    exact List.mem_map.mpr ⟨e, he, if_neg hother⟩

theorem safeInsert_congr (hcancelled : Cancelled eventId db' ↔ Cancelled eventId db)
    (hunclaimed : ∀ call target, call.eventId = eventId →
      (Unclaimed call target db' ↔ Unclaimed call target db)) :
    SafeInsert eventId db' p ↔ SafeInsert eventId db p := by
  rw [SafeInsert, SafeInsert, hcancelled]
  refine forall_congr' fun call => forall_congr' fun target => forall_congr' fun _ =>
    forall_congr' fun hid => ?_
  rw [hunclaimed call target hid]

end

def Owns (c : Closing ι) : Prop := Owned c.shared.locks fun j => (c.locals j).held

def AllSafe (eventId : Int) (c : Closing ι) : Prop :=
  ∀ j, SafeInsert eventId c.shared.db (c.locals j)

def SafeTurn (eventId : Int) (c : Closing ι) (i : ι) (s' : Server ι) (p' : Request) : Prop :=
  AddsNone eventId c.shared.db s'.db ∧ SafeInsert eventId s'.db p' ∧
    ∀ j, j ≠ i → SafeInsert eventId s'.db (c.locals j)

section

variable {c : Closing ι} {i : ι} {eventId : Int} {s' : Server ι} {p' : Request}

theorem openLock_of_ne_waiting
    (h : ∀ call target snapshot, c.locals i ≠ .register call (.waiting target snapshot)) :
    OpenLock eventId c i := by
  rw [OpenLock]
  split
  · rename_i call target snapshot hp
    exact absurd hp (h call target snapshot)
  · trivial

theorem Owns.safeInsert_of_ne (h : Owns c) (hheld : (c.locals i).held = some eventId) {j : ι}
    (hji : j ≠ i) (db : Database) : SafeInsert eventId db (c.locals j) := by
  intro call target hinserts hid
  have hj : (c.locals j).held = some eventId := by
    rw [Request.inserts_held hinserts, hid]
  exact absurd (h.unique hj hheld) hji

theorem safeTurn_read_iff (hdb : s'.db = c.shared.db)
    (hown : SafeInsert eventId c.shared.db p' ↔
      SafeInsert eventId c.shared.db (c.locals i) ∧ OpenLock eventId c i) :
    SafeTurn eventId c i s' p' ↔ AllSafe eventId c ∧ OpenLock eventId c i := by
  have hnone : AddsNone eventId c.shared.db c.shared.db := fun _ _ hr _ => hr
  rw [SafeTurn, hdb, and_iff_right hnone, hown, AllSafe, forall_iff_self i]
  tauto

theorem safeTurn_quiet_iff (hdb : s'.db = c.shared.db) (hbefore : (c.locals i).inserts = none)
    (hafter : p'.inserts = none) (hopen : OpenLock eventId c i) :
    SafeTurn eventId c i s' p' ↔ AllSafe eventId c ∧ OpenLock eventId c i := by
  apply safeTurn_read_iff hdb
  constructor
  · intro _
    exact ⟨safeInsert_of_inserts_eq_none hbefore, hopen⟩
  · intro _
    exact safeInsert_of_inserts_eq_none hafter

theorem insertRegistration_adds {call : RegisterCall} {target : String} {locked : Event}
    {seat : Seat} {db db' : Database} {registration : EventRegistration}
    (h : insertRegistration call target locked seat db = some (registration, db')) :
    AddsNone eventId db db' ↔ (Cancelled eventId db → call.eventId ≠ eventId) := by
  rw [AddsNone]
  apply forall_congr'
  intro _
  obtain ⟨hregistration, hrows, -⟩ := insertRegistration_eq_some h
  have hevent : registration.eventId = call.eventId := by rw [hregistration]; rfl
  simp only [hrows, List.mem_append, List.mem_singleton]
  constructor
  · intro hall hid
    have hlt := Table.id_lt_nextId (hall registration (Or.inr rfl) (hevent.trans hid))
    have hnew : Row.id registration = db.registrations.nextId := by rw [hregistration]; rfl
    omega
  · rintro hother r (hr | rfl) hid
    · exact hr
    · exact absurd (hevent.symm.trans hid) hother

theorem Owns.inserted_iff (h : Owns c) {call : RegisterCall} {target : String} {event : Event}
    {seat : Seat} {registration : EventRegistration} {db : Database}
    (hp : c.locals i = .register call (.seated target event seat))
    (hinsert : insertRegistration call target event seat c.shared.db = some (registration, db)) :
    (AddsNone eventId c.shared.db db ∧ ∀ j, j ≠ i → SafeInsert eventId db (c.locals j)) ↔
      AllSafe eventId c := by
  rw [AllSafe, forall_iff_self i, hp, insertRegistration_adds hinsert]
  have hunclaimed : Unclaimed call target c.shared.db := .of_insert hinsert
  have hown : SafeInsert eventId c.shared.db (.register call (.seated target event seat)) ↔
      (Cancelled eventId c.shared.db → call.eventId ≠ eventId) := by
    constructor
    · intro hsafe hcancelled hid
      exact hsafe call target rfl hid hunclaimed hcancelled
    · rintro hnone _ _ ⟨⟩ hid _ hcancelled
      exact hnone hcancelled hid
  rw [hown]
  apply and_congr_right
  intro _
  by_cases hid : call.eventId = eventId
  · have hheld : (c.locals i).held = some eventId := by
      rw [hp, ← hid]
      rfl
    exact iff_of_true (fun j hji => h.safeInsert_of_ne hheld hji db)
      (fun j hji => h.safeInsert_of_ne hheld hji c.shared.db)
  · have hcancelled : Cancelled eventId db ↔ Cancelled eventId c.shared.db := by
      obtain ⟨-, -, hdb⟩ := insertRegistration_eq_some hinsert
      apply cancelled_of_events
      rw [hdb]
    refine forall_congr' fun j => forall_congr' fun _ => safeInsert_congr hcancelled ?_
    intro other user hother
    exact insertRegistration_unclaimed hinsert (by rw [hother]; exact hid) user

theorem Owns.cancelled_iff (h : Owns c) {call : DeleteCall}
    (hp : c.locals i = .delete call .updated) :
    (∀ j, j ≠ i → SafeInsert eventId (cancelEvent call.eventId c.shared.db) (c.locals j)) ↔
      AllSafe eventId c := by
  rw [AllSafe, forall_iff_self i]
  have hown : SafeInsert eventId c.shared.db (c.locals i) := by
    apply safeInsert_of_inserts_eq_none
    rw [hp]
    rfl
  rw [and_iff_right hown]
  by_cases hid : call.eventId = eventId
  · have hheld : (c.locals i).held = some eventId := by
      rw [hp, ← hid]
      rfl
    exact iff_of_true (fun j hji => h.safeInsert_of_ne hheld hji _)
      (fun j hji => h.safeInsert_of_ne hheld hji _)
  · exact forall_congr' fun j => forall_congr' fun _ =>
      safeInsert_congr (cancelEvent_cancelled hid) fun _ _ _ => Iff.rfl

theorem Owns.safeTurn_delete_iff (h : Owns c) {call : DeleteCall} {phase phase' : DeletePhase}
    (hp : c.locals i = .delete call phase)
    (hmove : DeleteMove call i c.shared phase s' phase') :
    SafeTurn eventId c i s' (.delete call phase') ↔ AllSafe eventId c ∧ OpenLock eventId c i := by
  have hopen : OpenLock eventId c i := openLock_of_ne_waiting (by simp [hp])
  have hquiet : s'.db = c.shared.db → (SafeTurn eventId c i s' (.delete call phase') ↔
      AllSafe eventId c ∧ OpenLock eventId c i) :=
    fun hdb => safeTurn_quiet_iff hdb (by rw [hp]; rfl) rfl hopen
  cases hmove with
  | read => exact hquiet rfl
  | wait => exact hquiet rfl
  | lock free => exact hquiet rfl
  | commit =>
    rw [and_iff_left hopen, ← h.cancelled_iff hp]
    constructor
    · intro hsafe
      exact hsafe.2.2
    · intro hothers
      exact ⟨fun _ _ hr _ => hr, safeInsert_of_inserts_eq_none rfl, hothers⟩
  | finish free => exact hquiet rfl

theorem Owns.safeTurn_register_iff (h : Owns c) {call : RegisterCall}
    {phase phase' : RegistrationPhase} (hp : c.locals i = .register call phase)
    (hmove : RegistrationMove call i c.shared phase s' phase') :
    SafeTurn eventId c i s' (.register call phase') ↔
      AllSafe eventId c ∧ OpenLock eventId c i := by
  have hopen : (∀ target snapshot, phase ≠ .waiting target snapshot) → OpenLock eventId c i := by
    intro hne
    apply openLock_of_ne_waiting
    rintro _ target snapshot hwaiting
    cases hp.symm.trans hwaiting
    exact hne target snapshot rfl
  cases hmove with
  | read => exact safeTurn_quiet_iff rfl (by rw [hp]; rfl) rfl (hopen (by simp))
  | wait taken =>
    apply safeTurn_quiet_iff rfl (by rw [hp]; rfl) rfl
    rw [OpenLock, hp]
    intro hid hfree
    rw [← hid] at hfree
    exact absurd hfree taken
  | lost missing =>
    apply safeTurn_quiet_iff rfl (by rw [hp]; rfl) rfl
    rw [OpenLock, hp]
    rintro hid _ _ ⟨event, hfind, -⟩
    rw [← hid, missing] at hfind
    cases hfind
  | @lock target snapshot row free found =>
    -- behind the lock the status is not looked at again
    apply safeTurn_read_iff rfl
    have hbefore : SafeInsert eventId c.shared.db (c.locals i) := by
      apply safeInsert_of_inserts_eq_none
      rw [hp]
      rfl
    rw [and_iff_right hbefore, OpenLock, hp]
    constructor
    · intro hsafe hid _
      exact hsafe call target rfl hid
    · rintro hlock _ _ ⟨⟩ hid
      exact hlock hid (by rw [← hid]; exact free)
  | @count target snapshot event =>
    apply safeTurn_read_iff rfl
    rw [and_iff_left (hopen (by simp)), hp]
    exact Iff.rfl
  | insert insert =>
    rw [and_iff_left (hopen (by simp)), ← h.inserted_iff hp insert, SafeTurn,
      and_iff_right (safeInsert_of_inserts_eq_none rfl)]
  | @conflict target event seat claimed =>
    apply safeTurn_read_iff rfl
    rw [and_iff_left (hopen (by simp)), hp]
    apply iff_of_true (safeInsert_of_inserts_eq_none rfl)
    rintro _ _ ⟨⟩ _ hunclaimed
    exact absurd hunclaimed claimed
  | rollback => exact safeTurn_quiet_iff rfl (by rw [hp]; rfl) rfl (hopen (by simp))
  | finish free early =>
    have hbefore : (Request.register call phase).inserts = none := by
      rw [Option.eq_none_iff_forall_ne_some]
      rintro ⟨other, target⟩ hinserts
      have hheld := Request.inserts_held hinserts
      rw [Request.held, free] at hheld
      cases hheld
    exact safeTurn_quiet_iff rfl (by rw [hp]; exact hbefore) rfl (hopen early)

theorem Owns.safeTurn_iff (h : Owns c) (hmove : RequestMove i c.shared (c.locals i) s' p') :
    SafeTurn eventId c i s' p' ↔ AllSafe eventId c ∧ OpenLock eventId c i := by
  generalize hp : c.locals i = p at hmove
  cases hmove with
  | register move => exact h.safeTurn_register_iff hp move
  | delete move => exact h.safeTurn_delete_iff hp move

end

variable {eventId : Int}

theorem owns_start (calls : ι → RegisterCall ⊕ DeleteCall) (db : Database) :
    Owns (closingStart calls db) := by
  intro j k hj
  simp only [closingStart, Request.ofCall] at hj
  split at hj <;> cases hj

theorem Owns.allSafe_of_unlocked {c : Closing ι} (h : Owns c)
    (hfree : c.shared.locks eventId = none) : AllSafe eventId c := by
  intro j call target hinserts hid
  have hheld : (c.locals j).held = some eventId := by
    rw [Request.inserts_held hinserts, hid]
  rw [h j eventId hheld] at hfree
  cases hfree

variable [DecidableEq ι]

def NoneAdded (eventId : Int) (c : Closing ι) (i : ι) : Prop :=
  AddsNone eventId c.shared.db (turn Request.step c i).shared.db

theorem Owns.after_turn {c : Closing ι} (h : Owns c) (i : ι) : Owns (turn Request.step c i) := by
  have hmove : RequestMove i c.shared (c.locals i) _ _ :=
    requestStep_move i c.shared (c.locals i)
  refine Owned.move (i := i) h ?_ ?_
  · rw [turn_locals_self]
    exact hmove.lockMove
  · intro j hji
    rw [turn_locals_of_ne _ _ hji]

theorem Owns.exact_step {c : Closing ι} (h : Owns c) (i : ι) :
    NoneAdded eventId c i ∧ AllSafe eventId (turn Request.step c i) ↔
      AllSafe eventId c ∧ OpenLock eventId c i := by
  rw [← h.safeTurn_iff (requestStep_move i c.shared (c.locals i)), SafeTurn, AllSafe, turn_shared,
    turn_forall_iff (P := fun _ p => SafeInsert eventId _ p)]
  exact Iff.rfl

/-- However registrations and deletions interleave, a cancelled event gets no new registration as
long as its lock is never taken by a registration once it is cancelled; and in a run that leaves
the lock free, only then. -/
theorem noneAdded_iff_openLocks (calls : ι → RegisterCall ⊕ DeleteCall) (eventId : Int)
    (db : Database) (schedule : List ι) :
    (Machine.Guarded (turn Request.step) (OpenLock eventId) (closingStart calls db) schedule →
      Machine.Guarded (turn Request.step) (NoneAdded eventId) (closingStart calls db) schedule) ∧
    ((Machine.run (turn Request.step) (closingStart calls db) schedule).shared.locks eventId =
        none →
      Machine.Guarded (turn Request.step) (NoneAdded eventId) (closingStart calls db) schedule →
      Machine.Guarded (turn Request.step) (OpenLock eventId) (closingStart calls db) schedule) := by
  have hstart : Owns (closingStart calls db) := owns_start calls db
  have hkeep : ∀ (c : Closing ι) i, Owns c → Owns (turn Request.step c i) :=
    fun c i h => h.after_turn i
  have hruns : _ ∧ AllSafe eventId (Machine.run _ (closingStart calls db) schedule) ↔ _ :=
    Machine.guarded_run_iff_guarded hkeep (fun c i h => h.exact_step i) hstart
  constructor
  · intro hguarded
    exact (hruns.mpr ⟨hstart.allSafe_of_unlocked rfl, hguarded⟩).1
  · intro hfree hnone
    have hend := Machine.run_invariant hkeep hstart schedule
    exact (hruns.mp ⟨hnone, hend.allSafe_of_unlocked hfree⟩).2

instance (eventId : Int) (db : Database) : Decidable (Cancelled eventId db) :=
  decidable_of_iff _ cancelled_iff.symm

instance (eventId : Int) (c : Closing ι) (i : ι) : Decidable (NoneAdded eventId c i) := by
  unfold NoneAdded AddsNone
  infer_instance

instance (eventId : Int) (c : Closing ι) (i : ι) : Decidable (OpenLock eventId c i) := by
  unfold OpenLock
  split <;> infer_instance

def sampleClosing (fan : Bool) : RegisterCall ⊕ DeleteCall :=
  if fan then .inl (sampleRegister sampleFan)
  else .inr { eventId := 1, actor := ⟨some "7", some "creator", none, none⟩ }

theorem noneAdded_one_after_the_other :
    Machine.Guarded (turn Request.step) (NoneAdded 1)
      (closingStart sampleClosing sampleSmallService.db)
      (List.replicate 3 false ++ List.replicate 4 true) := by
  apply (noneAdded_iff_openLocks sampleClosing 1 _ _).1
  decide +kernel

/-- The fan reads the open event, its owner cancels it, and the fan still gets a seat. -/
theorem noneAdded_fails_interleaved :
    ¬ Machine.Guarded (turn Request.step) (NoneAdded 1)
      (closingStart sampleClosing sampleSmallService.db)
      ([true] ++ List.replicate 3 false ++ List.replicate 3 true) := by
  decide +kernel

end CheckinService
