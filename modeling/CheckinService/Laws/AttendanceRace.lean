import CheckinService.Laws.CheckinSteps
import CheckinService.Laws.Factors
import CheckinService.Laws.Registrations
import CheckinService.Lib.LostUpdate
import CheckinService.Routers.AttendanceSteps

/-! Check-ins while registrations are being cancelled.  A check-in marks the registration as attended
on a status that it read before, and nothing stops a cancellation from coming in between. -/

namespace CheckinService

open Relational Interleaving

variable {ι : Type}

def AttendancePhase.ofCall : CheckinCall ⊕ CancelCall → AttendancePhase
  | .inl call => .checkin call .start
  | .inr call => .cancel call

abbrev Attendance (ι : Type) := Config Service ι AttendancePhase

def attendanceStart (calls : ι → CheckinCall ⊕ CancelCall) (s : Service) : Attendance ι :=
  ⟨s, fun i => .ofCall (calls i)⟩

def attendanceSteps (env : Env) : ι → Service → AttendancePhase → Service × AttendancePhase :=
  fun _ => attendanceStep env

def CancellationsStand (c : Attendance ι) : Prop :=
  ∀ i registrationId, c.locals i = .answered (.ok registrationId) →
    ∃ r ∈ c.shared.db.registrations.rows, r.id = registrationId ∧ r.status = .cancelled

def MarksFresh (c : Attendance ι) (i : ι) : Prop :=
  ∀ call target plan checkin seen, c.locals i = .marking call target plan checkin seen →
    seen ≠ .cancelled → seen ≠ .attended →
      ∀ r ∈ c.shared.db.registrations.rows, r.id = plan.registration.id → r.status ≠ .cancelled

def cancelledIds (db : Database) : Set Int :=
  {id | ∃ r ∈ db.registrations.rows, r.id = id ∧ r.status = .cancelled}

namespace AttendancePhase

def role : AttendancePhase → Role Int
  | .marking _ _ plan _ seen =>
    if seen = .cancelled || seen = .attended then .idle else .clears plan.registration.id
  | .cancelling registration =>
    if registration.status = .cancelled then .finds registration.id else .idle
  | .answered (.ok registrationId) => .promised registrationId
  | _ => .idle

def Reads (db : Database) : AttendancePhase → Prop
  | .cancelling registration => registration.id ∈ db.registrations.rows.map EventRegistration.id
  | _ => True

end AttendancePhase

section

variable {env : Env} {s : Service} {p : AttendancePhase} {db : Database}

theorem checkinStep_registrations (env : Env) (call : CheckinCall) (s : Service) (p : CheckinPhase)
    (hp : p.unmarked = none) :
    (checkinStep env call s p).1.db.registrations = s.db.registrations := by
  cases p with
  | start =>
    simp only [checkinStep]
    split
    · rfl
    · split <;> rfl
  | ready target plan =>
    simp only [checkinStep]
    split
    · rfl
    · rename_i hinsert
      simp only [insertCheckin, Option.map_eq_some_iff, Prod.mk.injEq] at hinsert
      obtain ⟨checkins, -, -, rfl⟩ := hinsert
      rfl
  | inserted target plan checkin => cases hp
  | consuming target plan checkin rowId => rfl
  | finished plan checkin => rfl
  | ended outcome => rfl
  | _ =>
    simp only [checkinStep]
    split <;> rfl

theorem cancelledIds_congr {db' : Database} (h : db'.registrations = db.registrations) :
    cancelledIds db' = cancelledIds db := by
  rw [cancelledIds, cancelledIds, h]

theorem cancelledIds_cancelled {registrationId : Int}
    (h : registrationId ∈ db.registrations.rows.map EventRegistration.id) :
    cancelledIds (cancelled registrationId db) = insert registrationId (cancelledIds db) := by
  have hrows : (cancelled registrationId db).registrations.rows =
      db.registrations.rows.map fun r => if r.id = registrationId then r.cancel else r := rfl
  ext id
  simp only [cancelledIds, hrows, List.mem_map, Set.mem_ofPred_eq, Set.mem_insert_iff]
  constructor
  · rintro ⟨_, ⟨r, hr, rfl⟩, hid, hstatus⟩
    split at hid
    · rename_i hown
      exact Or.inl (hid.symm.trans hown)
    · rename_i hother
      rw [if_neg hother] at hstatus
      exact Or.inr ⟨r, hr, hid, hstatus⟩
  · rintro (rfl | ⟨r, hr, hid, hstatus⟩)
    · obtain ⟨r, hr, hid⟩ := List.mem_map.mp h
      exact ⟨_, ⟨r, hr, rfl⟩, by rw [if_pos hid]; exact hid, by rw [if_pos hid]; rfl⟩
    · refine ⟨_, ⟨r, hr, rfl⟩, ?_⟩
      split
      · exact ⟨hid, rfl⟩
      · exact ⟨hid, hstatus⟩

theorem cancelledIds_overwriteAttended (registrationId : Int) (db : Database) :
    cancelledIds (overwriteAttended registrationId db) = cancelledIds db \ {registrationId} := by
  have hrows : (overwriteAttended registrationId db).registrations.rows =
      db.registrations.rows.map fun r =>
        if r.id = registrationId then r.markAttended else r := rfl
  ext id
  simp only [cancelledIds, hrows, List.mem_map, Set.mem_ofPred_eq, Set.mem_sdiff,
    Set.mem_singleton_iff]
  constructor
  · rintro ⟨_, ⟨r, hr, rfl⟩, hid, hstatus⟩
    split at hstatus
    · cases hstatus
    · rename_i hother
      rw [if_neg hother] at hid
      exact ⟨⟨r, hr, hid, hstatus⟩, fun hown => hother (hid.trans hown)⟩
  · rintro ⟨⟨r, hr, hid, hstatus⟩, hother⟩
    refine ⟨_, ⟨r, hr, rfl⟩, ?_⟩
    rw [if_neg fun hown => hother (hid.symm.trans hown)]
    exact ⟨hid, hstatus⟩

inductive AttendanceMove (s : Service) : AttendancePhase → Service → AttendancePhase → Prop where
  | checkin {call phase s' phase'} (registrations : s'.db.registrations = s.db.registrations) :
    AttendanceMove s (.checkin call phase) s' (.checkin call phase')
  | read {call phase target plan checkin registration}
    (unmarked : phase.unmarked = some (target, plan, checkin))
    (found : s.db.registrations.byId plan.registration.id = some registration) :
    AttendanceMove s (.checkin call phase) s
      (.marking call target plan checkin registration.status)
  | keep {call target plan checkin seen phase} (idle : seen = .cancelled ∨ seen = .attended) :
    AttendanceMove s (.marking call target plan checkin seen) s (.checkin call phase)
  | overwrite {call target plan checkin seen phase} (cancelled : seen ≠ .cancelled)
    (attended : seen ≠ .attended) :
    AttendanceMove s (.marking call target plan checkin seen)
      { s with db := overwriteAttended plan.registration.id s.db } (.checkin call phase)
  | refuse {call f} : AttendanceMove s (.cancel call) s (.answered (.error f))
  | find {call registration} (target : cancelTarget call s.db = .ok registration) :
    AttendanceMove s (.cancel call) s (.cancelling registration)
  | again {registration} (status : registration.status = .cancelled) :
    AttendanceMove s (.cancelling registration) s (.answered (.ok registration.id))
  | cancel {registration} (status : registration.status ≠ .cancelled) :
    AttendanceMove s (.cancelling registration)
      { s with db := CheckinService.cancelled registration.id s.db }
      (.answered (.ok registration.id))
  | rest {answer} : AttendanceMove s (.answered answer) s (.answered answer)

theorem attendanceStep_move (env : Env) (s : Service) (p : AttendancePhase) :
    AttendanceMove s p (attendanceStep env s p).1 (attendanceStep env s p).2 := by
  cases p with
  | checkin call phase =>
    simp only [attendanceStep]
    cases hphase : phase.unmarked with
    | none => exact .checkin (checkinStep_registrations env call s phase hphase)
    | some unmarked =>
      obtain ⟨target, plan, checkin⟩ := unmarked
      simp only
      split
      · exact .checkin rfl
      · rename_i registration hfound
        exact .read hphase hfound
  | marking call target plan checkin seen =>
    simp only [attendanceStep]
    split
    · rename_i hseen
      exact .keep (by simpa using hseen)
    · rename_i hseen
      simp only [Bool.or_eq_true, decide_eq_true_eq, not_or] at hseen
      exact .overwrite hseen.1 hseen.2
  | cancel call =>
    simp only [attendanceStep]
    unfold cancelRead
    cases htarget : cancelTarget call s.db with
    | error f => exact .refuse
    | ok registration => exact .find htarget
  | cancelling registration =>
    simp only [attendanceStep]
    split
    · rename_i hstatus
      exact .again hstatus
    · rename_i hstatus
      exact .cancel hstatus
  | answered answer => exact .rest

theorem AttendanceMove.flags {s' : Service} {p' : AttendancePhase} (h : AttendanceMove s p s' p')
    (hreads : p.Reads s.db) :
    FlagMove (cancelledIds s.db) p.role (cancelledIds s'.db) p'.role := by
  cases h with
  | checkin hsame =>
    rw [cancelledIds_congr hsame]
    exact .idle
  | read _ hfound =>
    obtain ⟨hmem, hid⟩ := Table.byId_eq_some.mp hfound
    simp only [AttendancePhase.role]
    split
    · exact .idle
    · rename_i hlive
      apply FlagMove.aim
      rintro ⟨r, hr, hrid, hstatus⟩
      rw [s.db.registrations.eq_of_id hr hmem (hrid.trans hid.symm)] at hstatus
      simp [hstatus] at hlive
  | keep hidle =>
    rw [AttendancePhase.role, if_pos (by simpa using hidle)]
    exact .idle
  -- the row may have been cancelled since its status was read
  | overwrite hcancelled hattended =>
    rw [AttendancePhase.role, if_neg (by simp [hcancelled, hattended]),
      cancelledIds_overwriteAttended]
    exact .clear
  | refuse => exact .idle
  | @find _ registration htarget =>
    have hmem := (findRegistration_eq_some.mp (cancelTarget_eq_ok.mp htarget).2.2).1
    simp only [AttendancePhase.role]
    split
    · rename_i hcancelled
      exact .find ⟨registration, hmem, rfl, hcancelled⟩
    · exact .idle
  | again hstatus =>
    rw [AttendancePhase.role, if_pos hstatus]
    exact .confirm
  | cancel hstatus =>
    rw [AttendancePhase.role, if_neg hstatus, cancelledIds_cancelled hreads]
    exact .set
  | @rest answer =>
    cases answer with
    | error f => exact .idle
    | ok registrationId => exact .rest

theorem AttendanceMove.ids {s' : Service} {p' : AttendancePhase} (h : AttendanceMove s p s' p') :
    s'.db.registrations.rows.map EventRegistration.id =
      s.db.registrations.rows.map EventRegistration.id := by
  cases h with
  | checkin hsame => rw [hsame]
  | overwrite _ _ =>
    simp only [overwriteAttended, Table.update_rows, List.map_map]
    apply List.map_congr_left
    intro r _
    rw [Function.comp_apply]
    split <;> rfl
  | cancel _ =>
    simp only [CheckinService.cancelled, Table.update_rows, List.map_map]
    apply List.map_congr_left
    intro r _
    rw [Function.comp_apply]
    split <;> rfl
  | _ => rfl

theorem AttendanceMove.reads {s' : Service} {p' : AttendancePhase} (h : AttendanceMove s p s' p') :
    p'.Reads s'.db := by
  cases h with
  | find htarget =>
    exact List.mem_map_of_mem (findRegistration_eq_some.mp (cancelTarget_eq_ok.mp htarget).2.2).1
  | _ => trivial

theorem AttendancePhase.Reads.congr {db' : Database} (h : p.Reads db)
    (hids : db'.registrations.rows.map EventRegistration.id =
      db.registrations.rows.map EventRegistration.id) : p.Reads db' := by
  cases p with
  | cancelling registration =>
    rw [AttendancePhase.Reads, hids]
    exact h
  | _ => trivial

theorem AttendancePhase.role_eq_promised {registrationId : Int} :
    p.role = .promised registrationId ↔ p = .answered (.ok registrationId) := by
  cases p with
  | answered answer => cases answer <;> simp [AttendancePhase.role]
  | marking call target plan checkin seen =>
    simp only [AttendancePhase.role]
    split <;> simp
  | cancelling registration =>
    simp only [AttendancePhase.role]
    split <;> simp
  | _ => simp [AttendancePhase.role]

theorem AttendancePhase.role_eq_clears {id : Int} :
    p.role = .clears id ↔ ∃ call target plan checkin seen,
      p = .marking call target plan checkin seen ∧ seen ≠ .cancelled ∧ seen ≠ .attended ∧
        plan.registration.id = id := by
  cases p with
  | marking call target plan checkin seen =>
    simp only [AttendancePhase.role]
    split
    · rename_i hseen
      simp only [Bool.or_eq_true, decide_eq_true_eq] at hseen
      simp only [reduceCtorEq, AttendancePhase.marking.injEq, false_iff, not_exists, not_and]
      rintro _ _ _ _ _ ⟨-, -, -, -, rfl⟩ hcancelled hattended
      exact absurd hseen (not_or.mpr ⟨hcancelled, hattended⟩)
    · rename_i hseen
      simp only [Bool.or_eq_true, decide_eq_true_eq, not_or] at hseen
      simp only [Role.clears.injEq]
      constructor
      · intro hid
        exact ⟨call, target, plan, checkin, seen, rfl, hseen.1, hseen.2, hid⟩
      · rintro ⟨_, _, _, _, _, h, -, -, hid⟩
        cases h
        exact hid
  | answered answer => cases answer <;> simp [AttendancePhase.role]
  | cancelling registration =>
    simp only [AttendancePhase.role]
    split <;> simp
  | _ => simp [AttendancePhase.role]

end

theorem cancellationsStand_iff {c : Attendance ι} :
    KeepsPromises (cancelledIds c.shared.db) (fun i => (c.locals i).role) ↔
      CancellationsStand c := by
  simp only [KeepsPromises, AttendancePhase.role_eq_promised]
  rfl

theorem readsFresh_iff {flags : Set Int} {role : Role Int} :
    ReadsFresh flags role ↔ ∀ id, role = .clears id → id ∉ flags := by
  cases role <;> simp [ReadsFresh]

theorem marksFresh_iff {c : Attendance ι} {i : ι} :
    ReadsFresh (cancelledIds c.shared.db) (c.locals i).role ↔ MarksFresh c i := by
  rw [readsFresh_iff]
  simp only [AttendancePhase.role_eq_clears]
  constructor
  · intro h call target plan checkin seen hp hcancelled hattended r hr hid hstatus
    exact h _ ⟨call, target, plan, checkin, seen, hp, hcancelled, hattended, rfl⟩
      ⟨r, hr, hid, hstatus⟩
  · rintro h id ⟨call, target, plan, checkin, seen, hp, hcancelled, hattended, rfl⟩
    rintro ⟨r, hr, hid, hstatus⟩
    exact h call target plan checkin seen hp hcancelled hattended r hr hid hstatus

/-- Whatever check-ins and cancellations of registrations come together, in whatever order their
steps are taken: all cancellations that have been answered stand all along, exactly if no check-in
marks a registration that has been cancelled since it read the status. -/
theorem cancellations_stand_iff [DecidableEq ι] (env : Env) (calls : ι → CheckinCall ⊕ CancelCall)
    (s : Service) (schedule : List ι) :
    Machine.Always (turn (attendanceSteps env)) CancellationsStand (attendanceStart calls s)
        schedule ↔
      Machine.Guarded (turn (attendanceSteps env)) MarksFresh (attendanceStart calls s)
        schedule := by
  have hstands : (fun c : Attendance ι =>
      KeepsPromises (cancelledIds c.shared.db) fun i => (c.locals i).role) = CancellationsStand := by
    funext c
    exact propext cancellationsStand_iff
  have hfresh : (fun (c : Attendance ι) i =>
      ReadsFresh (cancelledIds c.shared.db) (c.locals i).role) = MarksFresh := by
    funext c i
    exact propext marksFresh_iff
  have hkeep : ∀ (c : Attendance ι) i, (∀ j, (c.locals j).Reads c.shared.db) →
      ∀ j, ((turn (attendanceSteps env) c i).locals j).Reads
        (turn (attendanceSteps env) c i).shared.db := by
    intro c i h
    have hmove := attendanceStep_move env c.shared (c.locals i)
    apply turn_forall (P := fun _ (s : Service) p => AttendancePhase.Reads s.db p)
      (attendanceSteps env)
    · exact hmove.reads
    · intro j _
      exact (h j).congr hmove.ids
  rw [← hstands, ← hfresh]
  apply keepsPromises_iff_readsFresh (attendanceSteps env) (fun s => cancelledIds s.db)
    AttendancePhase.role hkeep
  · intro c i h
    exact (attendanceStep_move env c.shared (c.locals i)).flags (h i)
  · intro i
    simp only [attendanceStart]
    cases calls i <;> trivial
  · intro i
    simp only [attendanceStart]
    cases calls i <;> rfl

def sampleRegretting : Bool → CheckinCall ⊕ CancelCall
  | false => .inl {
      eventId := 1
      payload := { CheckinRequest.empty with checkinMethod := some .manual }
      actor := sampleFan
      clock := sampleClock }
  | true => .inr { eventId := 1, attendeeUserId := "fan-1", actor := sampleFan }

/-- The cancellation comes between the read and the write of the check-in, and is undone. -/
example : ¬ Machine.Always (turn (attendanceSteps sampleEnv)) CancellationsStand
    (attendanceStart sampleRegretting { db := sampleDatabase })
    (List.replicate 6 false ++ [true, true, false]) := by
  intro h
  obtain ⟨r, hr, -, hstatus⟩ := h.run true 1 rfl
  revert r
  decide +kernel

section

variable (env : Env) (s : Service)

def soloAttendance (c : Service × AttendancePhase) : Service × AttendancePhase :=
  attendanceStep env c.1 c.2

theorem markAttended_eq {registration : EventRegistration} {id : Int}
    (h : s.db.registrations.byId id = some registration) :
    markAttended id s.db =
      if registration.status = .cancelled || registration.status = .attended then s.db
      else overwriteAttended id s.db := by
  obtain ⟨hmem, hid⟩ := Table.byId_eq_some.mp h
  have honly : ∀ r ∈ s.db.registrations.rows, r.id = id → r = registration :=
    fun r hr hrid => s.db.registrations.eq_of_id hr hmem (hrid.trans hid.symm)
  split
  · rename_i hseen
    rw [markAttended, Table.update_eq_self]
    intro r hr hrid
    rw [honly r hr hrid, EventRegistration.attend]
    simp only [Bool.or_eq_true, decide_eq_true_eq] at hseen
    split
    · rfl
    · rename_i hlive
      rw [← hseen.resolve_left hlive]
  · rename_i hseen
    rw [markAttended, overwriteAttended,
      Table.update_congr _ EventRegistration.markAttended_keepsKeys]
    intro r hr hrid
    rw [honly r hr hrid, EventRegistration.attend, if_neg (by simp_all)]
    rfl

theorem soloAttendance_checkin (call : CheckinCall) (phase : CheckinPhase) :
    ∃ n, (soloAttendance env)^[n] (s, .checkin call phase) =
      (checkinStep env call s phase).map id (.checkin call) := by
  cases hphase : phase.unmarked with
  | none =>
    refine ⟨1, ?_⟩
    simp only [Function.iterate_one, soloAttendance, attendanceStep, hphase]
  | some unmarked =>
    cases phase with
    | inserted target plan checkin =>
      cases hfound : s.db.registrations.byId plan.registration.id with
      | none =>
        refine ⟨1, ?_⟩
        have hself : markAttended plan.registration.id s.db = s.db := by
          rw [markAttended, Table.update_eq_self]
          intro r hr hid
          exact absurd hid (by simpa using Table.first_eq_none.mp hfound r hr)
        simp only [Function.iterate_one, soloAttendance, attendanceStep, CheckinPhase.unmarked,
          hfound, checkinStep, hself]
        rfl
      | some registration =>
        refine ⟨2, ?_⟩
        simp only [Function.iterate_succ_apply, Function.iterate_zero, id, soloAttendance,
          attendanceStep, CheckinPhase.unmarked, hfound, checkinStep, markAttended_eq s hfound]
        split <;> rfl
    | _ => cases hphase

theorem soloAttendance_steps (call : CheckinCall) (m : Nat) (phase : CheckinPhase) :
    ∃ n, (soloAttendance env)^[n] (s, .checkin call phase) =
      ((soloStep env call)^[m] (s, phase)).map id (.checkin call) := by
  induction m generalizing s phase with
  | zero => exact ⟨0, rfl⟩
  | succ m ih =>
    obtain ⟨n, hn⟩ := soloAttendance_checkin env s call phase
    obtain ⟨k, hk⟩ := ih (checkinStep env call s phase).1 (checkinStep env call s phase).2
    refine ⟨k + n, ?_⟩
    rw [Function.iterate_add_apply, hn, Function.iterate_succ_apply]
    exact hk

theorem attendanceStep_solo_checkin (call : CheckinCall) :
    ∃ n phase, (soloAttendance env)^[n] (s, .checkin call .start) =
        ((submitCheckin env call s).1, .checkin call phase) ∧
      phase.outcome = some (submitCheckin env call s).2 := by
  obtain ⟨n, hn⟩ := soloAttendance_steps env s call 8 .start
  obtain ⟨hstate, houtcome⟩ := checkinStep_solo env call s
  refine ⟨n, _, hn.trans ?_, houtcome⟩
  rw [← hstate]
  rfl

theorem attendanceStep_solo_cancel (call : CancelCall) :
    (soloAttendance env)^[2] (s, .cancel call) =
      ({ s with db := (cancelRegistration call s.db).1 },
        .answered (cancelRegistration call s.db).2) := by
  simp only [Function.iterate_succ_apply, Function.iterate_zero, id, soloAttendance,
    attendanceStep]
  unfold cancelRead cancelRegistration
  cases htarget : cancelTarget call s.db with
  | error f => rfl
  | ok registration =>
    simp only
    split
    · rename_i hstatus
      have hmem := (findRegistration_eq_some.mp (cancelTarget_eq_ok.mp htarget).2.2).1
      have hself : cancelled registration.id s.db = s.db := by
        rw [cancelled, Table.update_eq_self]
        intro r hr hid
        rw [s.db.registrations.eq_of_id hr hmem hid, EventRegistration.cancel, ← hstatus]
      rw [hself]
    · rfl

end

end CheckinService
