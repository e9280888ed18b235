import CheckinService.Laws.EditSteps
import CheckinService.Laws.Factors
import CheckinService.Laws.RegistrationRace
import CheckinService.Lib.LockFairness
import CheckinService.Lib.Serial

namespace CheckinService

open Relational Interleaving Locking

inductive DeskCall where
  | register (call : RegisterCall)
  | update (call : UpdateCall)
  | delete (call : DeleteCall)

inductive DeskRequest where
  | register (call : RegisterCall) (phase : RegistrationPhase)
  | update (call : UpdateCall) (phase : UpdatePhase)
  | delete (call : DeleteCall) (phase : DeletePhase)

structure Change where
  call : UpdateCall ⊕ DeleteCall
  writes : Edit

namespace Change

def eventId (change : Change) : Int := change.call.elim UpdateCall.eventId DeleteCall.eventId

def edit (change : Change) : Int × Edit := (change.eventId, change.writes)

def write (db : Database) (change : Change) : Database := writeEdit change.eventId change.writes db

def serve (db : Database) (change : Change) : Database :=
  match change.call with
  | .inl call => (updateEvent call db).1
  | .inr call => (deleteEvent call db).1

end Change

namespace DeskRequest

def ofCall : DeskCall → DeskRequest
  | .register call => .register call .start
  | .update call => .update call .start
  | .delete call => .delete call .start

def step {ι : Type} (i : ι) (s : Server ι) : DeskRequest → Server ι × DeskRequest
  | .register call phase => (registrationStep call i s phase).map id (.register call)
  | .update call phase => (updateStep call i s phase).map id (.update call)
  | .delete call phase => (deleteStep call i s phase).map id (.delete call)

def held : DeskRequest → Option Int
  | .register call phase => phase.held call
  | .update call phase => phase.held call
  | .delete call phase => phase.held call

def answered : DeskRequest → Bool
  | .register _ (.ended _) => true
  | .update _ (.ended _) => true
  | .delete _ (.ended _) => true
  | _ => false

def commit : DeskRequest → Option Change
  | .update call (.updated _ writes) => some ⟨.inl call, writes⟩
  | .delete call .updated => some ⟨.inr call, { status := .supplied .cancelled }⟩
  | _ => none

def Committed : DeskRequest → Prop
  | .update _ (.committed _) => True
  | .update _ (.ended result) => result.isOk = true
  | .delete _ (.ended result) => result.isOk = true
  | _ => False

end DeskRequest

abbrev Desk (ι : Type) := Config (Server ι) ι DeskRequest

def deskStart {ι : Type} (calls : ι → DeskCall) (db : Database) : Desk ι :=
  ⟨{ db }, fun i => .ofCall (calls i)⟩

section

variable {ι : Type}

theorem UpdateMove.events {call : UpdateCall} {i : ι} {s s' : Server ι} {p p' : UpdatePhase}
    (h : UpdateMove call i s p s' p') :
    s'.db.events =
      (Machine.run Change.write s.db (DeskRequest.update call p).commit.toList).events := by
  cases h <;> rfl

theorem deskStep_events (i : ι) (s : Server ι) (p : DeskRequest) :
    (p.step i s).1.db.events = (Machine.run Change.write s.db p.commit.toList).events := by
  cases p with
  | register call phase => exact (registrationStep_move call i s phase).events
  | update call phase => exact (updateStep_move call i s phase).events
  | delete call phase =>
    change (deleteStep call i s phase).1.db.events = _
    cases phase with
    | start =>
      simp only [deleteStep]
      split
      · rfl
      · split <;> rfl
    | found =>
      simp only [deleteStep]
      split <;> rfl
    | updated => rfl
    | ended result => rfl

theorem committed_after (i : ι) (s : Server ι) (p : DeskRequest) (h : p.Committed) :
    (p.step i s).2.Committed := by
  cases p with
  | register call phase => exact h.elim
  | update call phase =>
    cases phase with
    | committed loaded => rfl
    | ended result => exact h
    | _ => exact h.elim
  | delete call phase =>
    cases phase with
    | ended result => exact h
    | _ => exact h.elim

theorem committed_once (i : ι) (s : Server ι) (p : DeskRequest) (h : p.commit ≠ none) :
    (p.step i s).2.Committed := by
  cases p with
  | register call phase => exact absurd rfl h
  | update call phase =>
    cases phase with
    | updated loaded writes => trivial
    | _ => exact absurd rfl h
  | delete call phase =>
    cases phase with
    | updated => rfl
    | _ => exact absurd rfl h

theorem commit_of_committed (p : DeskRequest) (h : p.Committed) : p.commit = none := by
  by_contra hcommit
  cases p with
  | register call phase => exact hcommit rfl
  | update call phase =>
    cases phase with
    | updated loaded writes => exact h.elim
    | _ => exact hcommit rfl
  | delete call phase =>
    cases phase with
    | updated => exact h.elim
    | _ => exact hcommit rfl

end

section

variable {ι : Type} [DecidableEq ι]

def deskCommits (calls : ι → DeskCall) (db : Database) (schedule : List ι) : List (ι × Change) :=
  commits DeskRequest.step DeskRequest.commit (deskStart calls db) schedule

theorem run_write_rows (db : Database) (changes : List Change) :
    (Machine.run Change.write db changes).events.rows = db.events.rows.map fun e =>
      (Edit.all (changes.map fun change => editOf e.id (some change.edit))).apply e := by
  induction changes generalizing db with
  | nil => exact (List.map_id' db.events.rows).symm
  | cons change changes ih =>
    have hwrite : (Change.write db change).events.rows = db.events.rows.map fun e =>
        (editOf e.id (some change.edit)).apply e := writeEdit_rows _ _ db
    rw [Machine.run, ih, hwrite, List.map_map]
    apply List.map_congr_left
    intro e _
    rw [List.map_cons, Edit.all_cons, Edit.apply_andThen]
    rfl

def withEvents (db : Database) (s : Server ι) : Database := { db with events := s.db.events }

theorem desk_run_write (calls : ι → DeskCall) (db : Database) (schedule : List ι) :
    withEvents db
        (Machine.run (turn DeskRequest.step) (deskStart calls db) schedule).shared =
      Machine.run Change.write db ((deskCommits calls db schedule).map Prod.snd) := by
  apply run_commits (J := fun _ => True) (G := fun _ _ => True) (withEvents db) Change.write
  · intro c i _
    trivial
  · intro c i _ _
    rw [Takes, withEvents, deskStep_events]
    cases (c.locals i).commit <;> rfl
  · trivial
  · exact Machine.guarded_invariant (I := fun _ => True) (fun _ _ h => h) (fun _ _ h => h) trivial
      schedule

/-- However registrations, PATCHes and DELETEs interleave: each event is what the requests that have
committed have written to it, in the order of their commits, and in no column that a request has
found as it wants it.  Each commits once at most, and none that is refused. -/
theorem events_follow_commits (calls : ι → DeskCall) (db : Database) (schedule : List ι) :
    let c := Machine.run (turn DeskRequest.step) (deskStart calls db) schedule
    let committed := deskCommits calls db schedule
    c.shared.db.events.rows = (db.events.rows.map fun e =>
        (Edit.all (committed.map fun entry => editOf e.id (some entry.2.edit))).apply e) ∧
      (committed.map Prod.fst).Nodup ∧
        ∀ i ∈ committed.map Prod.fst, (c.locals i).Committed := by
  intro c committed
  refine ⟨?_, ?_, ?_⟩
  · have hrun := congrArg (fun d => d.events.rows) (desk_run_write calls db schedule)
    simp only [run_write_rows, List.map_map] at hrun
    exact hrun
  · exact commits_nodup committed_after commit_of_committed committed_once _ schedule
  · intro i hi
    exact past_of_mem_commits committed_after committed_once hi

end

def Editable (actor : Actor) (eventId : Int) (db : Database) : Prop :=
  ∃ row, ownEvent actor eventId db = .ok row

namespace DeskRequest

def Stands (db : Database) : DeskRequest → Prop
  | .update call (.found loaded _) =>
    Editable call.actor call.eventId db ∧ ∃ edited, patched call.payload loaded = .ok edited
  | .update call (.updated loaded _) =>
    Editable call.actor call.eventId db ∧ ∃ edited, patched call.payload loaded = .ok edited
  | .delete call .found => Editable call.actor call.eventId db
  | .delete call .updated => Editable call.actor call.eventId db
  | _ => True

/-- A PATCH that is about to commit would be let through on the row as it is by now, and what it
leaves alone, since it has found it as it wants it, is so still. -/
def Fits (db : Database) : DeskRequest → Prop
  | .update call (.updated _ writes) =>
    ∀ row ∈ db.events.rows, row.id = call.eventId →
      endsAfterStart call.payload row = .ok () ∧ writes.apply row = call.payload.edit.apply row
  | _ => True

instance (db : Database) (p : DeskRequest) : Decidable (p.Fits db) := by
  unfold Fits
  split <;> infer_instance

end DeskRequest

section

variable {actor : Actor} {eventId : Int} {db db' : Database}

theorem Editable.of_events (h : Editable actor eventId db) (hevents : db'.events = db.events) :
    Editable actor eventId db' := by
  rw [Editable, ownEvent, hevents]
  exact h

theorem Editable.write (h : Editable actor eventId db) (change : Change) :
    Editable actor eventId (Change.write db change) := by
  obtain ⟨row, hrow⟩ := h
  obtain ⟨hmem, hid, htenant, howner⟩ := ownEvent_eq_ok.mp hrow
  refine ⟨(editOf row.id (some change.edit)).apply row, ownEvent_eq_ok.mpr ⟨?_, hid, htenant, howner⟩⟩
  have hrows : (Change.write db change).events.rows = _ := writeEdit_rows _ _ db
  rw [hrows]
  exact List.mem_map_of_mem hmem

theorem Editable.writes (h : Editable actor eventId db) (changes : List Change)
    (hevents : db'.events = (Machine.run Change.write db changes).events) :
    Editable actor eventId db' :=
  of_events (Machine.run_invariant (I := Editable actor eventId) (fun _ change h => h.write change)
    h changes) hevents

theorem DeskRequest.Stands.writes {p : DeskRequest} (h : p.Stands db) (changes : List Change)
    (hevents : db'.events = (Machine.run Change.write db changes).events) : p.Stands db' := by
  cases p with
  | register call phase => trivial
  | update call phase =>
    cases phase with
    | found loaded writes => exact ⟨h.1.writes changes hevents, h.2⟩
    | updated loaded writes => exact ⟨h.1.writes changes hevents, h.2⟩
    | _ => trivial
  | delete call phase =>
    cases phase with
    | found => exact Editable.writes h changes hevents
    | updated => exact Editable.writes h changes hevents
    | _ => trivial

variable {ι : Type}

theorem UpdateMove.stands {call : UpdateCall} {i : ι} {s s' : Server ι} {p p' : UpdatePhase}
    (hmove : UpdateMove call i s p s' p') (h : (DeskRequest.update call p).Stands s.db) :
    (DeskRequest.update call p').Stands s'.db := by
  cases hmove with
  | read hadmitted => exact ⟨⟨_, hadmitted.owned⟩, hadmitted.merged⟩
  | wait _ => exact h
  | lock _ => exact h
  | _ => trivial

theorem deskStep_stands (i : ι) (s : Server ι) (p : DeskRequest) (h : p.Stands s.db) :
    (p.step i s).2.Stands (p.step i s).1.db := by
  cases p with
  | register call phase => trivial
  | update call phase => exact (updateStep_move call i s phase).stands h
  | delete call phase =>
    cases phase with
    | start =>
      simp only [DeskRequest.step, deleteStep]
      cases howned : ownEvent call.actor call.eventId s.db with
      | error f => trivial
      | ok row =>
        simp only
        split
        · trivial
        · exact ⟨row, howned⟩
    | found =>
      simp only [DeskRequest.step, deleteStep]
      split <;> exact h
    | updated => trivial
    | ended result => trivial

theorem serve_eq_write {p : DeskRequest} {change : Change} (hcommit : p.commit = some change)
    (hstands : p.Stands db) (hfits : p.Fits db) : Change.serve db change = Change.write db change := by
  cases p with
  | register call phase => cases hcommit
  | update call phase =>
    cases phase with
    | updated loaded writes =>
      cases hcommit
      obtain ⟨⟨row, howned⟩, edited, hmerged⟩ := hstands
      obtain ⟨hmem, hid, -⟩ := ownEvent_eq_ok.mp howned
      have hadmitted : call.Admitted db row :=
        ⟨howned, _, patched_of_times hmerged (hfits row hmem hid).1⟩
      calc
        (updateEvent call db).1 = writeEdit call.eventId call.payload.edit db := by
          rw [hadmitted.updateEvent]
        _ = writeEdit call.eventId writes db :=
          writeEdit_congr fun row hrow hid => (hfits row hrow hid).2.symm
    | _ => cases hcommit
  | delete call phase =>
    cases phase with
    | updated =>
      cases hcommit
      obtain ⟨row, howned⟩ := hstands
      have hserved : (deleteEvent call db).1 = saveEvent row.cancel db := by
        rw [deleteEvent, howned]
        rfl
      exact hserved.trans (saveEvent_cancel howned)
    | _ => cases hcommit

variable [DecidableEq ι]

/-- As long as every PATCH that commits fits the row as it is by then, an interleaved run leaves the
events that the handlers leave, called one after the other in the order of the commits. -/
theorem edits_serial (calls : ι → DeskCall) (db : Database) (schedule : List ι)
    (hfits : Machine.Guarded (turn DeskRequest.step)
      (fun c i => (c.locals i).Fits c.shared.db) (deskStart calls db) schedule) :
    (Machine.run (turn DeskRequest.step) (deskStart calls db) schedule).shared.db.events =
      (Machine.run Change.serve db ((deskCommits calls db schedule).map Prod.snd)).events := by
  suffices hrun : withEvents db
      (Machine.run (turn DeskRequest.step) (deskStart calls db) schedule).shared =
        Machine.run Change.serve db ((deskCommits calls db schedule).map Prod.snd) by
    rw [← hrun]
    rfl
  apply run_commits (J := fun c : Desk ι => ∀ j, (c.locals j).Stands c.shared.db)
    (withEvents db) Change.serve _ _ _ hfits
  · intro c i h
    apply turn_forall (P := fun _ (s : Server ι) (p : DeskRequest) => p.Stands s.db)
      DeskRequest.step
    · exact deskStep_stands i c.shared (c.locals i) (h i)
    · intro j _
      exact (h j).writes _ (deskStep_events i c.shared (c.locals i))
  · intro c i h hfit
    rw [Takes, withEvents, deskStep_events]
    cases hcommit : (c.locals i).commit with
    | none => rfl
    | some change =>
      have hstands : (c.locals i).Stands (withEvents db c.shared) := (h i).writes [] rfl
      have hserve := serve_eq_write hcommit hstands (hfit : (c.locals i).Fits (withEvents db c.shared))
      simp only [Option.toList_some, Machine.run, hserve]
      rfl
  · have hstart : ∀ call, (DeskRequest.ofCall call).Stands db := by
      intro call
      cases call <;> trivial
    exact fun i => hstart (calls i)

end

def sampleEvening : Database :=
  { events := .single { sampleEvent with startTime := some 18, endTime := some 22 } }

def sampleWindows (second : Bool) : DeskCall :=
  .update {
    eventId := 1
    payload := if second then { locationName := .supplied (some "Hall") }
      else { title := .supplied (some "Ball") }
    actor := sampleCoach }

def sampleAtOnce : List Bool := [false, true, false, false, true, true]

theorem edits_serial_sample :
    (Machine.run (turn DeskRequest.step) (deskStart sampleWindows sampleEvening)
        sampleAtOnce).shared.db.events =
      (Machine.run Change.serve sampleEvening
        ((deskCommits sampleWindows sampleEvening sampleAtOnce).map Prod.snd)).events :=
  edits_serial sampleWindows sampleEvening sampleAtOnce (by decide +kernel)

def sampleTimes (second : Bool) : DeskCall :=
  .update {
    eventId := 1
    payload := if second then { endTime := .supplied (some { wall := 19 }) }
      else { startTime := .supplied (some { wall := 20 }) }
    actor := sampleCoach }

/-- Each of them would have refused what the other has written. -/
example :
    ((Machine.run (turn DeskRequest.step) (deskStart sampleTimes sampleEvening)
        sampleAtOnce).shared.db.events.rows.map fun e => (e.startTime, e.endTime)) =
      [(some 20, some 19)] := by
  decide +kernel

namespace DeskRequest

def rank : DeskRequest → ℕ
  | .register _ phase => phase.rank
  | .update _ .start => 4
  | .update _ (.found ..) => 3
  | .update _ (.updated ..) => 2
  | .update _ (.committed ..) => 1
  | .update _ (.ended ..) => 0
  | .delete _ .start => 3
  | .delete _ .found => 2
  | .delete _ .updated => 1
  | .delete _ (.ended ..) => 0

theorem rank_le (p : DeskRequest) : p.rank ≤ 6 := by
  cases p with
  | register call phase => exact phase.rank_le
  | update call phase => cases phase <;> simp [rank]
  | delete call phase => cases phase <;> simp [rank]

theorem answered_of_rank {p : DeskRequest} (h : p.rank = 0) : p.answered = true := by
  cases p with
  | register call phase =>
    cases phase with
    | ended result => rfl
    | _ => cases h
  | update call phase =>
    cases phase with
    | ended result => rfl
    | _ => cases h
  | delete call phase =>
    cases phase with
    | ended result => rfl
    | _ => cases h

theorem held_of_answered {p : DeskRequest} (h : p.answered = true) : p.held = none := by
  cases p with
  | register call phase =>
    cases phase with
    | ended result => rfl
    | _ => cases h
  | update call phase =>
    cases phase with
    | ended result => rfl
    | _ => cases h
  | delete call phase =>
    cases phase with
    | ended result => rfl
    | _ => cases h

end DeskRequest

section

variable {ι : Type}

theorem deskStep_lockMove (i : ι) (s : Server ι) (p : DeskRequest) :
    LockMove i s.locks p.held (p.step i s).1.locks (p.step i s).2.held := by
  cases p with
  | register call phase => exact (registrationStep_move call i s phase).lockMove
  | update call phase => exact (updateStep_move call i s phase).lockMove
  | delete call phase => exact (deleteStep_move call i s phase).lockMove

theorem UpdateMove.progress {call : UpdateCall} {i : ι} {s s' : Server ι} {p p' : UpdatePhase}
    (h : UpdateMove call i s p s' p') :
    (DeskRequest.update call p').rank < (DeskRequest.update call p).rank ∨
      (s' = s ∧ p' = p) ∧ ((DeskRequest.update call p).rank ≠ 0 →
        p.held call = none ∧ ∃ k, s.locks k ≠ none) := by
  cases h with
  | wait htaken => exact Or.inr ⟨⟨rfl, rfl⟩, fun _ => ⟨rfl, _, htaken⟩⟩
  | rest => exact Or.inr ⟨⟨rfl, rfl⟩, fun h => absurd rfl h⟩
  | _ => exact Or.inl (by simp [DeskRequest.rank])

theorem deskStep_progress (i : ι) (s : Server ι) (p : DeskRequest) :
    (p.step i s).2.rank < p.rank ∨
      p.step i s = (s, p) ∧ (p.rank ≠ 0 → p.held = none ∧ ∃ k, s.locks k ≠ none) := by
  cases p with
  | register call phase =>
    apply (registrationStep_rank call i s phase).imp_right
    rintro ⟨hsame, hwaits⟩
    refine ⟨by rw [DeskRequest.step, hsame]; rfl, ?_⟩
    exact fun hp => (hwaits hp).imp_right fun htaken => ⟨_, htaken⟩
  | update call phase =>
    apply (updateStep_move call i s phase).progress.imp_right
    rintro ⟨⟨hs, hp⟩, hwaits⟩
    refine ⟨Prod.ext hs ?_, hwaits⟩
    exact congrArg (DeskRequest.update call) hp
  | delete call phase =>
    cases phase with
    | start =>
      left
      simp only [DeskRequest.step, deleteStep]
      split
      · simp [DeskRequest.rank]
      · split <;> simp [DeskRequest.rank]
    | found =>
      simp only [DeskRequest.step, deleteStep]
      split
      · rename_i htaken
        exact Or.inr ⟨rfl, fun _ => ⟨rfl, call.eventId, by simp [htaken]⟩⟩
      · exact Or.inl (by simp [DeskRequest.rank])
    | updated => exact Or.inl (by simp [DeskRequest.step, deleteStep, DeskRequest.rank])
    | ended result => exact Or.inr ⟨rfl, fun h => absurd rfl h⟩

theorem desk_yields :
    Yields (ι := ι) DeskRequest.step Server.locks (fun _ p => p.held) DeskRequest.rank where
  lockMove := deskStep_lockMove
  progress := deskStep_progress
  ended _ _ h := DeskRequest.held_of_answered (DeskRequest.answered_of_rank h)

end

/-- Registrations, PATCHes and DELETEs do not lock each other out: whatever has gone before, after
six fair rounds for each of them all have their answers, and no event is locked. -/
theorem desk_answered {ι : Type} [DecidableEq ι] [Fintype ι] (calls : ι → DeskCall) (db : Database)
    (schedule : List ι) (rounds : List (List ι)) (hfair : ∀ round ∈ rounds, ∀ i, i ∈ round)
    (hlong : 6 * Fintype.card ι ≤ rounds.length) :
    let c := Machine.run (turn DeskRequest.step) (deskStart calls db) (schedule ++ rounds.flatten)
    (∀ i, (c.locals i).answered = true) ∧ c.shared.locks = Locks.free := by
  have hstart : NoneLeft Server.locks (fun _ p => p.held) (deskStart calls db) := by
    intro i k h
    cases h
  obtain ⟨hends, hfree⟩ :=
    desk_yields.fair_run DeskRequest.rank_le hstart schedule hfair hlong
  exact ⟨fun i => DeskRequest.answered_of_rank (hends i), hfree⟩

theorem desk_answered_sample :
    let c := Machine.run (turn DeskRequest.step) (deskStart sampleWindows sampleEvening)
      (sampleAtOnce ++ (List.replicate 12 [true, false]).flatten)
    (∀ i, (c.locals i).answered = true) ∧ c.shared.locks = Locks.free :=
  desk_answered sampleWindows sampleEvening sampleAtOnce (List.replicate 12 [true, false])
    (by decide) (by decide)

end CheckinService
