import CheckinService.Laws.Edits
import CheckinService.Laws.EventSteps

namespace CheckinService

open Relational Locking

structure UpdateCall.Admitted (call : UpdateCall) (db : Database) (loaded : Event) : Prop where
  owned : ownEvent call.actor call.eventId db = .ok loaded
  merged : ∃ edited, patched call.payload loaded = .ok edited

def UpdatePhase.held (call : UpdateCall) : UpdatePhase → Option Int
  | .updated _ _ => some call.eventId
  | _ => none

section

variable {ι : Type}

inductive UpdateMove (call : UpdateCall) (i : ι) (s : Server ι) :
    UpdatePhase → Server ι → UpdatePhase → Prop where
  | refuse {f} (answer : updateEvent call s.db = (s.db, .error f)) :
    UpdateMove call i s .start s (.ended (.error f))
  | still {loaded} (admitted : call.Admitted s.db loaded)
    (same : call.payload.writes loaded = .nothing) :
    UpdateMove call i s .start s (.committed loaded)
  | read {loaded} (admitted : call.Admitted s.db loaded) :
    UpdateMove call i s .start s (.found loaded (call.payload.writes loaded))
  | wait {loaded writes} (taken : s.locks call.eventId ≠ none) :
    UpdateMove call i s (.found loaded writes) s (.found loaded writes)
  | lock {loaded writes} (free : s.locks call.eventId = none) :
    UpdateMove call i s (.found loaded writes)
      { s with locks := s.locks.acquire call.eventId i } (.updated loaded writes)
  | commit {loaded writes} :
    UpdateMove call i s (.updated loaded writes)
      ⟨writeEdit call.eventId writes s.db, s.locks.release call.eventId⟩ (.committed loaded)
  | refresh {loaded} :
    UpdateMove call i s (.committed loaded) s
      (.ended (.ok ((s.db.events.byId call.eventId).getD loaded)))
  | rest {result} : UpdateMove call i s (.ended result) s (.ended result)

theorem updateStep_move (call : UpdateCall) (i : ι) (s : Server ι) (p : UpdatePhase) :
    UpdateMove call i s p (updateStep call i s p).1 (updateStep call i s p).2 := by
  cases p with
  | start =>
    simp only [updateStep]
    cases howned : ownEvent call.actor call.eventId s.db with
    | error f => exact .refuse (updateEvent_of_not_own howned)
    | ok loaded =>
      simp only
      cases hmerged : patched call.payload loaded with
      | error f => exact .refuse (updateEvent_of_error howned hmerged)
      | ok edited =>
        simp only
        split
        · rename_i hsame
          exact .still ⟨howned, edited, hmerged⟩ hsame
        · exact .read ⟨howned, edited, hmerged⟩
  | found loaded writes =>
    simp only [updateStep]
    split
    · rename_i j hj
      exact .wait (by simp [hj])
    · rename_i hfree
      exact .lock hfree
  | updated loaded writes => exact .commit
  | committed loaded => exact .refresh
  | ended result => exact .rest

variable {call : UpdateCall} {i : ι} {s s' : Server ι} {p p' : UpdatePhase}

theorem UpdateMove.lockMove (h : UpdateMove call i s p s' p') :
    LockMove i s.locks (p.held call) s'.locks (p'.held call) := by
  cases h with
  | lock free => exact .acquire free
  | commit => exact .release
  | _ => exact .keep

end

section

variable {call : UpdateCall} {db : Database} {loaded : Event}

theorem UpdateCall.Admitted.edited (h : call.Admitted db loaded) :
    patched call.payload loaded = .ok (call.payload.edit.apply loaded) := by
  obtain ⟨edited, hmerged⟩ := h.merged
  rw [hmerged, (patched_patches hmerged).2.eq_apply]

theorem UpdateCall.Admitted.updateEvent (h : call.Admitted db loaded) :
    updateEvent call db =
      (writeEdit call.eventId call.payload.edit db, .ok (call.payload.edit.apply loaded)) := by
  obtain ⟨hmem, hid, -⟩ := ownEvent_eq_ok.mp h.owned
  rw [updateEvent_of_ok h.owned h.edited, saveEvent_apply _ hmem hid]

/-- As long as the row is the one that was loaded, it is all the same whether the whole edit is
written or what it changes. -/
theorem UpdateCall.Admitted.writeEdit_writes (h : call.Admitted db loaded) :
    writeEdit call.eventId (call.payload.writes loaded) db =
      writeEdit call.eventId call.payload.edit db := by
  obtain ⟨hmem, hid, -⟩ := ownEvent_eq_ok.mp h.owned
  apply writeEdit_congr
  intro e he heid
  rw [db.events.eq_of_id he hmem (heid.trans hid.symm)]
  exact call.payload.writes_apply loaded

theorem notNull_isOk {f : Field (Option α)} {stored : α} :
    (∃ value, notNull f stored = .ok value) ↔ f ≠ .supplied none := by
  simp only [notNull_eq_ok]
  cases f with
  | unset => simp [Field.getD]
  | supplied o => simp [Field.getD, Option.ne_none_iff_exists']

theorem patched_of_times {payload : EventUpdate} {old new row : Event}
    (h : patched payload old = .ok new) (htimes : endsAfterStart payload row = .ok ()) :
    patched payload row = .ok (payload.edit.apply row) := by
  obtain ⟨title, htitle, h⟩ := Except.bind_eq_ok.mp h
  obtain ⟨_, -, h⟩ := Except.bind_eq_ok.mp h
  obtain ⟨method, hmethod, h⟩ := Except.bind_eq_ok.mp h
  obtain ⟨status, hstatus, h⟩ := Except.bind_eq_ok.mp h
  obtain ⟨visibility, hvisibility, h⟩ := Except.bind_eq_ok.mp h
  obtain ⟨nfc, hnfc, -⟩ := Except.bind_eq_ok.mp h
  have hcolumn : ∀ {α : Type} {f : Field (Option α)} {stored value : α} (other : α),
      notNull f stored = .ok value → ∃ value, notNull f other = .ok value :=
    fun _ hvalue => notNull_isOk.mpr (notNull_isOk.mp ⟨_, hvalue⟩)
  obtain ⟨_, htitle⟩ : ∃ title, patchedTitle payload row = .ok title :=
    patchedTitle_isOk.mpr (patchedTitle_isOk.mp ⟨title, htitle⟩)
  obtain ⟨_, hmethod⟩ := hcolumn row.checkinMethod hmethod
  obtain ⟨_, hstatus⟩ := hcolumn row.status hstatus
  obtain ⟨_, hvisibility⟩ := hcolumn row.visibility hvisibility
  obtain ⟨_, hnfc⟩ := hcolumn row.allowNfcCheckin hnfc
  suffices hok : ∃ edited, patched payload row = .ok edited by
    obtain ⟨edited, hedited⟩ := hok
    rw [hedited, (patched_patches hedited).2.eq_apply]
  simp only [patched, htitle, htimes, hmethod, hstatus, hvisibility, hnfc, bind, Except.bind]
  exact ⟨_, rfl⟩

theorem writeEdit_byId {eventId : Int} {edit : Edit} (hmem : loaded ∈ db.events.rows)
    (hid : loaded.id = eventId) :
    (writeEdit eventId edit db).events.byId eventId = some (edit.apply loaded) := by
  rw [Table.byId_eq_some, writeEdit_rows]
  refine ⟨List.mem_map.mpr ⟨loaded, hmem, ?_⟩, hid⟩
  rw [editOf, if_pos hid.symm]

end

def soloUpdate (call : UpdateCall) (c : Server Unit × UpdatePhase) : Server Unit × UpdatePhase :=
  updateStep call () c.1 c.2

/-- A PATCH that runs alone does what the handler does, and leaves no lock behind. -/
theorem updateStep_solo (call : UpdateCall) (db : Database) :
    (soloUpdate call)^[4] (⟨db, Locks.free⟩, .start) =
      (⟨(updateEvent call db).1, Locks.free⟩, .ended (updateEvent call db).2) := by
  have hended : ∀ s result n, (soloUpdate call)^[n] (s, .ended result) = (s, .ended result) :=
    fun s result n => Function.iterate_fixed rfl n
  have hstart := updateStep_move call () ⟨db, Locks.free⟩ .start
  rw [Function.iterate_succ_apply, soloUpdate]
  generalize updateStep call () ⟨db, Locks.free⟩ .start = next at hstart
  obtain ⟨s', p'⟩ := next
  cases hstart with
  | @refuse f hanswer =>
    have hanswer : updateEvent call db = (db, .error f) := hanswer
    rw [hanswer]
    exact hended _ _ 3
  | @still loaded hadmitted hsame =>
    have hadmitted : call.Admitted db loaded := hadmitted
    obtain ⟨hmem, hid, -⟩ := ownEvent_eq_ok.mp hadmitted.owned
    have hfound : db.events.byId call.eventId = some loaded := Table.byId_eq_some.mpr ⟨hmem, hid⟩
    rw [hadmitted.updateEvent, ← hadmitted.writeEdit_writes, ← call.payload.writes_apply loaded,
      hsame, writeEdit_nothing, Function.iterate_succ_apply]
    simp only [soloUpdate, updateStep, hfound, Option.getD_some, Edit.nothing_apply]
    exact hended _ _ 2
  | @read loaded hadmitted =>
    have hadmitted : call.Admitted db loaded := hadmitted
    obtain ⟨hmem, hid, -⟩ := ownEvent_eq_ok.mp hadmitted.owned
    let writes := call.payload.writes loaded
    have hlock : soloUpdate call (⟨db, Locks.free⟩, .found loaded writes) =
        (⟨db, Locks.free.acquire call.eventId ()⟩, .updated loaded writes) := rfl
    have hcommit : soloUpdate call
        (⟨db, Locks.free.acquire call.eventId ()⟩, .updated loaded writes) =
          (⟨writeEdit call.eventId writes db, Locks.free⟩, .committed loaded) := by
      have hfree : (Locks.free.acquire call.eventId ()).release call.eventId = Locks.free :=
        Locks.release_acquire rfl
      simp only [soloUpdate, updateStep, hfree]
    have hrefresh : soloUpdate call
        (⟨writeEdit call.eventId writes db, Locks.free⟩, .committed loaded) =
          (⟨writeEdit call.eventId writes db, Locks.free⟩, .ended (.ok (writes.apply loaded))) := by
      simp only [soloUpdate, updateStep, writeEdit_byId hmem hid, Option.getD_some]
    rw [hadmitted.updateEvent, ← hadmitted.writeEdit_writes, ← call.payload.writes_apply loaded,
      Function.iterate_succ_apply, hlock, Function.iterate_succ_apply, hcommit,
      Function.iterate_one, hrefresh]

end CheckinService
