import CheckinService.Laws.Checkins

namespace CheckinService

open Relational

def Redeems (env : Env) (call : CheckinCall) (event : Event) (t : QrToken) : Prop :=
  (effectiveMethod call.payload event).needsQr = true ∧ t.singleUse = true ∧
    ∃ rawToken, Py.orNone call.payload.qrToken = some rawToken ∧
      t.tokenHash = env.crypto.sha256Full rawToken

instance (env : Env) (call : CheckinCall) (event : Event) (t : QrToken) :
    Decidable (Redeems env call event t) :=
  match h : Py.orNone call.payload.qrToken with
  | none => .isFalse fun hr => by
      obtain ⟨-, -, rawToken, hraw, -⟩ := hr
      rw [h] at hraw
      cases hraw
  | some rawToken =>
    decidable_of_iff ((effectiveMethod call.payload event).needsQr = true ∧
        t.singleUse = true ∧ t.tokenHash = env.crypto.sha256Full rawToken) <| by
      simp [Redeems, h]

structure CheckinEffect (env : Env) (call : CheckinCall) (target : String) (event : Event)
    (db db' : Database) : Prop where
  checkins : ∃ checkin, db'.checkins.rows = db.checkins.rows ++ [checkin] ∧
    checkin.eventId = call.eventId ∧ checkin.attendeeUserId = target ∧
    checkin.schoolId = event.schoolId
  registered : ∃ r ∈ db.registrations.rows, r.eventId = call.eventId ∧ r.attendeeUserId = target
  registrations : db'.registrations.rows = db.registrations.rows.map fun r =>
    if r.eventId = call.eventId ∧ r.attendeeUserId = target then { r with status := .attended }
    else r
  presented : (effectiveMethod call.payload event).needsQr = true →
    ∃ rawToken, Py.orNone call.payload.qrToken = some rawToken ∧
      ∃ t ∈ db.qrTokens.rows, t.tokenHash = env.crypto.sha256Full rawToken
  qrTokens : db'.qrTokens.rows = db.qrTokens.rows.map fun t =>
    if Redeems env call event t then
      { t with usedAt := some call.clock.utcnow, usedByUserId := some target }
    else t
  events : db'.events = db.events
  invitations : db'.invitations = db.invitations
  groups : db'.groups = db.groups
  members : db'.members = db.members
  relationships : db'.relationships = db.relationships

theorem markAttended_rows {db : Database} {eventId : Int} {target : String}
    {registration : EventRegistration}
    (hfind : findRegistration db eventId target = some registration)
    (hlive : registration.status ≠ .cancelled) :
    (markAttended registration.id db).registrations.rows = db.registrations.rows.map fun r =>
      if r.eventId = eventId ∧ r.attendeeUserId = target then { r with status := .attended }
      else r := by
  obtain ⟨hmem, hkey⟩ := findRegistration_eq_some.mp hfind
  apply Table.update_rows_eq EventRegistration.attend_keepsKeys hmem rfl hkey
  · intro r hr h
    exact eq_of_attendee hr hmem (h.1.trans hkey.1.symm) (h.2.trans hkey.2.symm)
  · rw [EventRegistration.attend, if_neg hlive]

theorem unburnt_of_not_spent {t : QrToken} (h : t.spent = false) : t.unburnt = t.singleUse := by
  rw [QrToken.unburnt]
  cases hsingle : t.singleUse with
  | false => rfl
  | true => simpa [QrToken.spent, hsingle] using h

theorem consumeToken_frame (rowId : Int) (user : Option String) (now : ℚ) (db : Database) :
    consumeToken rowId user now db =
      { db with qrTokens := (consumeToken rowId user now db).qrTokens } := by
  rw [consumeToken]
  split
  · rfl
  · split <;> rfl

theorem consumeQr_frame (call : CheckinCall) (target : String) (plan : CheckinPlan)
    (db : Database) :
    consumeQr call target plan db =
      { db with qrTokens := (consumeQr call target plan db).qrTokens } := by
  rw [consumeQr]
  split
  · rfl
  · exact consumeToken_frame _ _ _ _

theorem checkinTarget_ne_empty {call : CheckinCall} {target : String}
    (h : checkinTarget call = .ok target) : target ≠ "" := by
  rw [checkinTarget] at h
  split at h
  · cases h
  · rename_i t ht
    cases hself : assertSelfOrAdmin call.actor t with
    | error f =>
      rw [hself] at h
      cases h
    | ok _ =>
      rw [hself] at h
      cases h
      exact targetUserId_ne_empty ht

theorem Cleared.consumeQr_rows {env : Env} {call : CheckinCall} {target : String}
    {db db' : Database} {plan : CheckinPlan} (h : Cleared env call target db plan)
    (ht : target ≠ "") (hsame : db'.qrTokens = db.qrTokens) :
    (consumeQr call target plan db').qrTokens.rows = db.qrTokens.rows.map fun t =>
      if Redeems env call plan.event t then
        { t with usedAt := some call.clock.utcnow, usedByUserId := some target }
      else t := by
  rw [consumeQr]
  rcases h.qr_eq with ⟨hneeds, hqr⟩ | ⟨hneeds, rawToken, row, hpeek, hqr⟩
  · rw [hqr]
    rw [h.effective] at hneeds
    simp [Redeems, hneeds, hsame]
  · obtain ⟨hraw, -, hfind, hspent⟩ := peeksOk_iff.mp hpeek
    obtain ⟨hmem, hhash⟩ := findToken_eq_some.mp hfind
    rw [h.effective] at hneeds
    rw [hqr, ← hsame]
    simp only
    rw [consumeToken_rows]
    apply List.map_congr_left
    intro t htm
    rw [hsame] at htm
    have hredeems : Redeems env call plan.event t ↔
        t.singleUse = true ∧ t.tokenHash = row.tokenHash := by
      simp [Redeems, hneeds, hraw, hhash]
    by_cases hrow : t = row
    · subst hrow
      simp only [hredeems, unburnt_of_not_spent hspent, true_and, and_true, QrToken.burn,
        Py.orNone, ht, ↓reduceIte, Option.orElse_some]
    · have hid : t.id ≠ row.id := fun h => hrow (db.qrTokens.eq_of_id htm hmem h)
      have hhash' : t.tokenHash ≠ row.tokenHash := by
        intro h
        apply hrow
        apply db.qrTokens.eq_of_key htm hmem (k := row.tokenHash)
        · simp [Row.keys, h]
        · simp [Row.keys]
      rw [if_neg fun h => hid h.1, if_neg fun h => hhash' (hredeems.mp h).2]

theorem Recorded.effect {env : Env} {call : CheckinCall} {s : Service} {target : String}
    {plan : CheckinPlan} (h : Recorded env call s target plan) :
    CheckinEffect env call target plan.event s.db (submitCheckin env call s).1.db := by
  obtain ⟨inserted, limiter, hinsert, hsubmit⟩ := h.result
  obtain ⟨-, -, hrows, hinserted⟩ := insertCheckin_eq_some hinsert
  obtain ⟨hfind, hlive⟩ := h.cleared.registered
  obtain ⟨hmem, hkey⟩ := findRegistration_eq_some.mp hfind
  rw [hsubmit, consumeQr_frame]
  refine {
    checkins := ⟨_, hrows, rfl, rfl, rfl⟩
    registered := ⟨plan.registration, hmem, hkey⟩
    registrations := ?_
    presented := ?_
    qrTokens := ?_
    events := by rw [hinserted]; rfl
    invitations := by rw [hinserted]; rfl
    groups := by rw [hinserted]; rfl
    members := by rw [hinserted]; rfl
    relationships := by rw [hinserted]; rfl }
  · have hsame : inserted.registrations = s.db.registrations := by rw [hinserted]
    rw [← hsame]
    apply markAttended_rows _ hlive
    rw [findRegistration, hsame]
    exact hfind
  · intro hneeds
    obtain ⟨rawToken, row, hpeek⟩ := h.cleared.peeked hneeds
    obtain ⟨hraw, -, hrow, -⟩ := peeksOk_iff.mp hpeek
    exact ⟨rawToken, hraw, row, findToken_eq_some.mp hrow⟩
  · apply h.cleared.consumeQr_rows (checkinTarget_ne_empty h.resolved)
    rw [hinserted]
    rfl

/-- Ending in anything but `success`, a check-in changes no table; ending in `success`, it
changes exactly what `CheckinEffect` lists. -/
theorem submitCheckin_all_or_nothing (env : Env) (call : CheckinCall) (s : Service) :
    ((submitCheckin env call s).2.succeeded = false →
      (submitCheckin env call s).1.db = s.db) ∧
    ((submitCheckin env call s).2.succeeded = true →
      ∃ target event, checkinTarget call = .ok target ∧
        findEvent s.db call.eventId = some event ∧
        CheckinEffect env call target event s.db (submitCheckin env call s).1.db) := by
  constructor
  · intro h
    exact submitCheckin_unchanged h
  · intro h
    obtain ⟨target, plan, hrec⟩ := submitCheckin_succeeded.mp h
    exact ⟨target, plan.event, hrec.resolved, hrec.cleared.event_found, hrec.effect⟩

end CheckinService
