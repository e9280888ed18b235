import CheckinService.Laws.Attendance
import CheckinService.Laws.TokenRace
import CheckinService.Lib.CommitLog

namespace CheckinService

open Relational Interleaving

def Live (db : Database) (registrationId eventId : Int) (target : String) : Prop :=
  ∃ r ∈ db.registrations.rows, r.id = registrationId ∧ r.eventId = eventId ∧
    r.attendeeUserId = target ∧ r.status ≠ .cancelled

def Spent (db : Database) (hash : String) : Prop :=
  ∃ t ∈ db.qrTokens.rows, t.tokenHash = hash ∧ (t.singleUse = true → t.usedAt.isSome = true)

def CheckinCall.IsFor (call : CheckinCall) (c : EventCheckin) : Prop :=
  c.eventId = call.eventId ∧ checkinTarget call = .ok c.attendeeUserId

namespace CheckinPhase

def entry (p : CheckinPhase) : Option EventCheckin := p.committed.map Prod.snd

def Keeps (call : CheckinCall) (db : Database) : CheckinPhase → Prop
  | .start => True
  | .admitted target => checkinTarget call = .ok target
  | .opened target _ _ => checkinTarget call = .ok target
  | .peeked target _ _ _ => checkinTarget call = .ok target
  | .ready target plan =>
    checkinTarget call = .ok target ∧ Live db plan.registration.id call.eventId target
  | .inserted target plan checkin =>
    call.IsFor checkin ∧ checkin.attendeeUserId = target ∧
      Live db plan.registration.id call.eventId target
  | .attended _ _ checkin =>
    call.IsFor checkin ∧ Attended db checkin.eventId checkin.attendeeUserId
  | .consuming _ _ checkin _ =>
    call.IsFor checkin ∧ Attended db checkin.eventId checkin.attendeeUserId
  | .finished _ checkin =>
    (call.IsFor checkin ∧ Attended db checkin.eventId checkin.attendeeUserId) ∧
      ∀ hash, checkin.qrTokenHash = some hash → Spent db hash
  | .ended outcome => outcome.settled = true →
    ∃ checkin ∈ db.checkins.rows, call.IsFor checkin ∧
      outcome = .returned {
        status := .duplicate
        checkinId := some checkin.id
        checkinAt := some checkin.checkinAt }

end CheckinPhase

section

variable {call : CheckinCall} {db db' : Database} {p : CheckinPhase} {eventId : Int}
  {target : String}

structure Progresses (db db' : Database) : Prop where
  grows : Grows db db'
  registrations : db'.registrations.rows = db.registrations.rows ∨
    ∃ id, db'.registrations.rows =
      db.registrations.rows.map fun r => if r.id = id then r.attend else r

theorem Live.progresses {id : Int} (h : Live db id eventId target) (hdb : Progresses db db') :
    Live db' id eventId target := by
  obtain ⟨r, hr, hid, hevent, htarget, hlive⟩ := h
  rcases hdb.registrations with hsame | ⟨id', hmap⟩
  · exact ⟨r, hsame ▸ hr, hid, hevent, htarget, hlive⟩
  · refine ⟨if r.id = id' then r.attend else r, ?_, ?_⟩
    · rw [hmap]
      exact List.mem_map_of_mem hr
    · split
      · simp [EventRegistration.attend, hlive, hid, hevent, htarget]
      · exact ⟨hid, hevent, htarget, hlive⟩

theorem Attended.progresses (h : Attended db eventId target) (hdb : Progresses db db') :
    Attended db' eventId target := by
  obtain ⟨r, hr, hevent, htarget, hattended⟩ := h
  rcases hdb.registrations with hsame | ⟨id, hmap⟩
  · exact ⟨r, hsame ▸ hr, hevent, htarget, hattended⟩
  · refine ⟨if r.id = id then r.attend else r, ?_, ?_⟩
    · rw [hmap]
      exact List.mem_map_of_mem hr
    · split
      · simp [EventRegistration.attend, hattended, hevent, htarget]
      · exact ⟨hevent, htarget, hattended⟩

theorem Spent.grows {hash : String} (h : Spent db hash) (hdb : Grows db db') :
    Spent db' hash := by
  obtain ⟨t, ht, hhash, hused⟩ := h
  obtain ⟨t', ht', -, hhash', hsingle, hused'⟩ := hdb.qrTokens t ht
  exact ⟨t', ht', hhash'.trans hhash, fun h => hused' (hused (hsingle ▸ h))⟩

theorem CheckinPhase.Keeps.progresses (h : p.Keeps call db) (hdb : Progresses db db') :
    p.Keeps call db' := by
  cases p with
  | start => trivial
  | admitted target => exact h
  | opened target event method => exact h
  | peeked target event method qr => exact h
  | ready target plan => exact ⟨h.1, h.2.progresses hdb⟩
  | inserted target plan checkin => exact ⟨h.1, h.2.1, h.2.2.progresses hdb⟩
  | attended target plan checkin => exact ⟨h.1, h.2.progresses hdb⟩
  | consuming target plan checkin rowId => exact ⟨h.1, h.2.progresses hdb⟩
  | finished plan checkin =>
    exact ⟨⟨h.1.1, h.1.2.progresses hdb⟩, fun hash hcarries => (h.2 hash hcarries).grows hdb.grows⟩
  | ended outcome =>
    intro hsettled
    obtain ⟨checkin, hmem, hfor⟩ := h hsettled
    exact ⟨checkin, hdb.grows.checkins checkin hmem, hfor⟩

theorem CheckinPhase.keeps_refused {outcome : CheckinOutcome} (h : outcome.settled = false) :
    (CheckinPhase.ended outcome).Keeps call db := by
  intro hsettled
  rw [h] at hsettled
  cases hsettled

end

section

variable {env : Env} {call : CheckinCall} {s : Service} {p : CheckinPhase}

theorem checkinStep_advances (env : Env) (call : CheckinCall) (s : Service) (p : CheckinPhase) :
    Progresses s.db (checkinStep env call s p).1.db := by
  refine ⟨(checkinStep_move env call s p).grows, ?_⟩
  cases p with
  | start =>
    simp only [checkinStep]
    split
    · exact Or.inl rfl
    · split <;> exact Or.inl rfl
  | ready target plan =>
    simp only [checkinStep]
    split
    · exact Or.inl rfl
    · rename_i hinsert
      obtain ⟨-, -, -, hdb⟩ := insertCheckin_eq_some hinsert
      rw [hdb]
      exact Or.inl rfl
  | inserted target plan checkin => exact Or.inr ⟨plan.registration.id, rfl⟩
  | consuming target plan checkin rowId => exact Or.inl rfl
  | finished plan checkin => exact Or.inl rfl
  | ended outcome => exact Or.inl rfl
  | _ =>
    simp only [checkinStep]
    split <;> exact Or.inl rfl

theorem planGates_eq_ok {target : String} {event : Event} {method : CheckinMethod}
    {qr : Option (QrToken × String)} {db : Database} {plan : CheckinPlan}
    (h : planGates env call target event method qr db = .ok plan) :
    registrationGate db call.eventId target = .ok plan.registration := by
  obtain ⟨geo, -, h⟩ := Except.bind_eq_ok.mp h
  obtain ⟨registration, hregistration, h⟩ := Except.bind_eq_ok.mp h
  cases h
  exact hregistration

theorem OnlyRefuses.planGates (target : String) (event : Event) (method : CheckinMethod)
    (qr : Option (QrToken × String)) (db : Database) :
    OnlyRefuses (planGates env call target event method qr db) :=
  bind (geoGate _ _ _ _) fun _ => bind (registrationGate _ _ _) fun _ => ok _

theorem live_of_registrationGate {db : Database} {eventId : Int} {target : String}
    {registration : EventRegistration}
    (h : registrationGate db eventId target = .ok registration) :
    Live db registration.id eventId target := by
  obtain ⟨hfound, hlive⟩ := registrationGate_eq_ok.mp h
  obtain ⟨hmem, hevent, htarget⟩ := findRegistration_eq_some.mp hfound
  exact ⟨registration, hmem, rfl, hevent, htarget, hlive⟩

theorem Live.markAttended {db : Database} {id eventId : Int} {target : String}
    (h : Live db id eventId target) : Attended (markAttended id db) eventId target := by
  obtain ⟨r, hr, hid, hevent, htarget, hlive⟩ := h
  refine ⟨r.attend, ?_, ?_⟩
  · exact List.mem_map.mpr ⟨r, hr, if_pos hid⟩
  · simp [EventRegistration.attend, hlive, hevent, htarget]

theorem CheckinPhase.Sound.carried {db : Database} {plan : CheckinPlan} {checkin : EventCheckin}
    {hash : String} (hp : p.Sound db) (hcommitted : p.committed = some (plan, checkin))
    (hqr : p.qr = plan.qr) (hcarries : checkin.qrTokenHash = some hash) :
    ∃ row t, plan.qr = some (row, hash) ∧ t ∈ db.qrTokens.rows ∧ t.id = row.id ∧
      t.tokenHash = hash := by
  have hwritten := (hp.written plan checkin hcommitted).2
  rw [hcarries] at hwritten
  obtain ⟨⟨row, hash'⟩, hplan, rfl⟩ := Option.map_eq_some_iff.mp hwritten.symm
  obtain ⟨t, ht, hid, hhash⟩ := hp.peeked row _ (hqr.trans hplan)
  exact ⟨row, t, hplan, ht, hid, hhash⟩

theorem checkinStep_keeps (env : Env) (hsound : p.Sound s.db) (h : p.Keeps call s.db) :
    (checkinStep env call s p).2.Keeps call (checkinStep env call s p).1.db := by
  cases p with
  | start =>
    simp only [checkinStep]
    split
    · exact CheckinPhase.keeps_refused rfl
    · rename_i target htarget
      split
      · exact CheckinPhase.keeps_refused rfl
      · exact htarget
  | admitted target =>
    simp only [checkinStep]
    split
    · rename_i outcome hopen
      exact CheckinPhase.keeps_refused (OnlyRefuses.openGates _ _ _ _ _ hopen)
    · exact h
  | opened target event method =>
    simp only [checkinStep]
    split
    · rename_i outcome hqr
      exact CheckinPhase.keeps_refused (OnlyRefuses.qrGate _ _ _ _ _ _ hqr)
    · exact h
  | peeked target event method qr =>
    simp only [checkinStep]
    split
    · rename_i outcome hplan
      exact CheckinPhase.keeps_refused (OnlyRefuses.planGates _ _ _ _ _ _ hplan)
    · rename_i plan hplan
      exact ⟨h, live_of_registrationGate (planGates_eq_ok hplan)⟩
  | ready target plan =>
    obtain ⟨htarget, hlive⟩ := h
    simp only [checkinStep]
    split
    · rename_i hinsert
      intro _
      -- the insert was refused for a row, which the answer names
      obtain ⟨checkin, hfound⟩ := Option.ne_none_iff_exists'.mp (insertCheckin_eq_none.mp hinsert)
      obtain ⟨hmem, hevent, hattendee⟩ := findCheckin_eq_some.mp hfound
      refine ⟨checkin, hmem, ⟨hevent, hattendee ▸ htarget⟩, ?_⟩
      simp [duplicateResponse, hfound]
    · rename_i checkin db hinsert
      obtain ⟨-, hcheckin, -, hdb⟩ := insertCheckin_eq_some hinsert
      rw [hcheckin]
      refine ⟨⟨rfl, htarget⟩, rfl, ?_⟩
      rw [hdb]
      exact hlive
  | inserted target plan checkin =>
    obtain ⟨hfor, htarget, hlive⟩ := h
    refine ⟨hfor, ?_⟩
    rw [htarget, hfor.1]
    exact hlive.markAttended
  | attended target plan checkin =>
    simp only [checkinStep]
    split
    · rename_i hread
      refine ⟨h, ?_⟩
      intro hash hcarries
      obtain ⟨row, t, hqr, ht, hid, hhash⟩ := hsound.carried rfl rfl hcarries
      have hunburnt := readToken_eq_none hread hqr ht hid
      refine ⟨t, ht, hhash, ?_⟩
      intro hsingle
      simpa [QrToken.unburnt, hsingle] using hunburnt
    · exact h
  | consuming target plan checkin rowId =>
    have hprogresses := checkinStep_advances env call s (.consuming target plan checkin rowId)
    refine ⟨⟨h.1, h.2.progresses hprogresses⟩, ?_⟩
    intro hash hcarries
    obtain ⟨row, t, hqr, ht, hid, hhash⟩ := hsound.carried rfl rfl hcarries
    obtain ⟨row', hash', hqr', hrowId⟩ := hsound.found target plan checkin rowId rfl
    cases hqr.symm.trans hqr'
    refine ⟨t.burn call.clock.utcnow (some target), ?_, hhash, fun _ => rfl⟩
    simp only [checkinStep]
    rw [burnToken_rows, List.mem_map]
    exact ⟨t, ht, if_pos (hid.trans hrowId.symm)⟩
  | finished plan checkin => exact h
  | ended outcome => exact h

theorem TokenMove.enters {s' : Service} {p' : CheckinPhase} (h : TokenMove call s p s' p') :
    Enters s.db.checkins.rows p.entry s'.db.checkins.rows p'.entry := by
  cases h with
  | read checkins _ committed _ =>
    rw [checkins, CheckinPhase.entry, CheckinPhase.entry, committed]
    exact .rest
  | insert insert =>
    obtain ⟨-, -, hrows, -⟩ := insertCheckin_eq_some insert
    rw [hrows]
    exact .enter
  | release _ => exact .rest
  | burn burnt =>
    rw [burnt]
    exact .rest

end

def CheckinPhase.rank : CheckinPhase → ℕ
  | .start => 8
  | .admitted .. => 7
  | .opened .. => 6
  | .peeked .. => 5
  | .ready .. => 4
  | .inserted .. => 3
  | .attended .. => 2
  | .consuming .. => 1
  | .finished .. => 0
  | .ended .. => 0

theorem checkinStep_rank (env : Env) (call : CheckinCall) (s : Service) (p : CheckinPhase) :
    (checkinStep env call s p).2.rank ≤ p.rank - 1 := by
  cases p with
  | start =>
    simp only [checkinStep]
    split
    · exact Nat.zero_le 7
    · split <;> simp [CheckinPhase.rank]
  | inserted target plan checkin => exact le_rfl
  | consuming target plan checkin rowId => exact le_rfl
  | finished plan checkin => exact le_rfl
  | ended outcome => exact le_rfl
  | _ =>
    simp only [checkinStep]
    split <;> simp [CheckinPhase.rank]

theorem CheckinPhase.outcome_of_rank {p : CheckinPhase} (h : p.rank = 0) :
    p.outcome.isSome = true := by
  cases p with
  | finished plan checkin => rfl
  | ended outcome => rfl
  | _ => cases h

variable {ι : Type}

structure Truthful (old : List EventCheckin) (calls : ι → CheckinCall) (c : Race ι) : Prop where
  logged : Logged old c.shared.db.checkins.rows fun i => (c.locals i).entry
  success : ∀ i r, (c.locals i).outcome = some (.returned r) → r.status = .success →
    ∃ checkin, (c.locals i).entry = some checkin ∧ (calls i).IsFor checkin ∧
      r.checkinId = some checkin.id ∧
      Attended c.shared.db checkin.eventId checkin.attendeeUserId ∧
      ∀ hash, checkin.qrTokenHash = some hash → Spent c.shared.db hash
  duplicate : ∀ i r, (c.locals i).outcome = some (.returned r) → r.status = .duplicate →
    ∃ checkin ∈ c.shared.db.checkins.rows, (calls i).IsFor checkin ∧
      r.checkinId = some checkin.id ∧ (c.locals i).entry = none
  once : ∀ i j, (c.locals i).entry.isSome = true → (c.locals j).entry.isSome = true →
    (calls i).eventId = (calls j).eventId → checkinTarget (calls i) = checkinTarget (calls j) →
      i = j

structure Tallied (old : List EventCheckin) (calls : ι → CheckinCall) (c : Race ι) : Prop where
  sound : ∀ j, (c.locals j).Sound c.shared.db
  keeps : ∀ j, (c.locals j).Keeps (calls j) c.shared.db
  logged : Logged old c.shared.db.checkins.rows fun i => (c.locals i).entry

section

variable {old : List EventCheckin} {calls : ι → CheckinCall} {c : Race ι}

theorem Tallied.start (calls : ι → CheckinCall) (s : Service) :
    Tallied s.db.checkins.rows calls (raceStart s) where
  sound _ := .trivial rfl rfl rfl
  keeps _ := trivial
  logged := .start _ fun _ => rfl

theorem Tallied.after_turn [DecidableEq ι] (env : Env) (h : Tallied old calls c) (i : ι) :
    Tallied old calls (turn (submissions env calls) c i) := by
  have hprogresses := checkinStep_advances env (calls i) c.shared (c.locals i)
  constructor
  · apply turn_forall (P := fun _ s p => CheckinPhase.Sound s.db p) (submissions env calls)
    · exact checkinStep_sound env (calls i) (h.sound i)
    · intro j _
      exact (h.sound j).grows hprogresses.grows
  · apply turn_forall (P := fun j s p => CheckinPhase.Keeps (calls j) s.db p)
      (submissions env calls)
    · exact checkinStep_keeps env (h.sound i) (h.keeps i)
    · intro j _
      exact (h.keeps j).progresses hprogresses
  · apply Logged.after_turn (fun s : Service => s.db.checkins.rows) CheckinPhase.entry h.logged
    exact (checkinStep_move env (calls i) c.shared (c.locals i)).enters

theorem CheckinPhase.Keeps.entered {call : CheckinCall} {db : Database} {p : CheckinPhase}
    (h : p.Keeps call db) {checkin : EventCheckin} (hentry : p.entry = some checkin) :
    call.IsFor checkin := by
  cases p with
  | inserted target plan checkin' =>
    cases hentry
    exact h.1
  | attended target plan checkin' =>
    cases hentry
    exact h.1
  | consuming target plan checkin' rowId =>
    cases hentry
    exact h.1
  | finished plan checkin' =>
    cases hentry
    exact h.1.1
  | _ => cases hentry

theorem Tallied.truthful (h : Tallied old calls c) : Truthful old calls c where
  logged := h.logged
  success := by
    intro i r hout hsuccess
    have hkeeps := h.keeps i
    cases hp : c.locals i with
    | finished plan checkin =>
      rw [hp] at hout hkeeps
      cases hout
      obtain ⟨⟨hfor, hattended⟩, hspent⟩ := hkeeps
      exact ⟨checkin, rfl, hfor, rfl, hattended, hspent⟩
    | ended outcome =>
      rw [hp] at hout hkeeps
      cases hout
      obtain ⟨checkin, -, -, hr⟩ := hkeeps (by simp [CheckinOutcome.settled, hsuccess])
      cases hr
      cases hsuccess
    | _ =>
      rw [hp] at hout
      cases hout
  duplicate := by
    intro i r hout hduplicate
    have hkeeps := h.keeps i
    cases hp : c.locals i with
    | finished plan checkin =>
      rw [hp] at hout
      cases hout
      cases hduplicate
    | ended outcome =>
      rw [hp] at hout hkeeps
      cases hout
      obtain ⟨checkin, hmem, hfor, hr⟩ := hkeeps (by simp [CheckinOutcome.settled, hduplicate])
      cases hr
      exact ⟨checkin, hmem, hfor, rfl, rfl⟩
    | _ =>
      rw [hp] at hout
      cases hout
  once := by
    intro i j hi hj hevent htarget
    obtain ⟨checkin, hci⟩ := Option.isSome_iff_exists.mp hi
    obtain ⟨checkin', hcj⟩ := Option.isSome_iff_exists.mp hj
    obtain ⟨hevent₁, htarget₁⟩ := (h.keeps i).entered hci
    obtain ⟨hevent₂, htarget₂⟩ := (h.keeps j).entered hcj
    have hsame : checkin.attendeeUserId = checkin'.attendeeUserId :=
      Except.ok.inj (htarget₁.symm.trans (htarget.trans htarget₂))
    -- the UNIQUE key lets in one row for both, and only one request has entered it
    have hrow : checkin = checkin' := by
      apply c.shared.db.checkins.eq_of_key (h.logged.mem hci) (h.logged.mem hcj)
        (k := (checkin.eventId, checkin.attendeeUserId))
      · simp [Row.keys]
      · simp [Row.keys, hevent₁, hevent₂, hevent, hsame]
    rw [← hrow] at hcj
    exact h.logged.injective c.shared.db.checkins.nodup hci hcj

end

/-- However the steps of any check-in requests interleave, the answers are true all along: a
success has entered its own check-in and marked its registration and its token, a duplicate names
the check-in that was there first, and an attendee is let in once.  Nobody has to wait: a request
that has had eight turns has its answer. -/
theorem race_truthful [DecidableEq ι] (env : Env) (calls : ι → CheckinCall) (s : Service)
    (schedule : List ι) :
    Machine.Always (turn (submissions env calls)) (Truthful s.db.checkins.rows calls)
        (raceStart s) schedule ∧
      ∀ i, 8 ≤ schedule.count i → (((Machine.run (turn (submissions env calls)) (raceStart s)
        schedule).locals i).outcome).isSome = true := by
  constructor
  · apply Machine.Always.imp fun _ h => Tallied.truthful h
    exact Machine.always_invariant (fun _ i h => h.after_turn env i) (.start calls s) schedule
  · intro i hturns
    have hless : ∀ j s p, (submissions env calls j s p).2.rank ≤ p.rank - 1 :=
      fun j s p => checkinStep_rank env (calls j) s p
    have hrank := run_rank_le _ hless schedule (raceStart s) i
    have hstart : CheckinPhase.rank ((raceStart s : Race ι).locals i) = 8 := rfl
    apply CheckinPhase.outcome_of_rank
    omega

end CheckinService
