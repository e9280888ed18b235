import CheckinService.Laws.Consent
import CheckinService.Laws.InvitationBatch
import CheckinService.Laws.Retention

namespace CheckinService

open Relational

def Asks (eventId : Int) (user : String) (s : Service) (op : Operation) : Prop :=
  ∃ call event, op = .send call ∧ call.eventId = eventId ∧
    organizedEvent call.actor eventId s.db = .ok event ∧
    user ∈ call.payload.invitees.map InvitationSendItem.inviteeUserId

def TakesUp (eventId : Int) (user : String) (s : Service) (op : Operation) : Prop :=
  ∃ call i, op = .respond call ∧ respondTarget call s.db = .ok i ∧ i.eventId = eventId ∧
    call.actor.userId = some user ∧ call.decision = .accepted

def Enrols (eventId : Int) (user : String) (event : Event) (actor : Actor) (s : Service)
    (op : Operation) : Prop :=
  ∃ call, op = .register call ∧ call.actor = actor ∧ call.eventId = eventId ∧
    Registers call user event s.db

def Attends (env : Env) (eventId : Int) (user : String) (s : Service) (op : Operation) : Prop :=
  ∃ call plan, op = .checkin call ∧ call.eventId = eventId ∧ Recorded env call s user plan

def Asked (db : Database) (eventId : Int) (user : String) : Prop :=
  InvitedIn db.invitations.rows eventId user

structure Stranger (db : Database) (eventId : Int) (user : String) : Prop where
  unasked : ¬ Asked db eventId user
  unregistered : ¬ Registered db eventId user
  unchecked : ¬ CheckedIn db eventId user

section

variable {env : Env} {s : Service} {op : Operation} {eventId : Int} {user : String}

theorem Invited.asked (h : Invited s.db eventId user) : Asked s.db eventId user := by
  obtain ⟨i, hi, hevent, hinvitee, -⟩ := h
  exact ⟨i, hi, hevent, hinvitee⟩

theorem sendInvitations_asks {c : Crypto} {call : SendCall} {db : Database}
    (h : Asked (sendInvitations c call db).1 eventId user) :
    Asked db eventId user ∨ call.eventId = eventId ∧
      (∃ event, organizedEvent call.actor eventId db = .ok event) ∧
      user ∈ call.payload.invitees.map InvitationSendItem.inviteeUserId := by
  rw [sendInvitations] at h
  split at h
  · exact Or.inl h
  · rename_i event hevent
    obtain ⟨batch, hloop, new, hprocessed⟩ :=
      processed_all c call event db call.payload.invitees
    simp only [hloop, Asked, hprocessed.rows, invitedIn_append] at h
    rcases h with hold | ⟨i, hi, hid, rfl⟩
    · exact Or.inl hold
    · have hcall : call.eventId = eventId := (hprocessed.eventId hi).symm.trans hid
      refine Or.inr ⟨hcall, ⟨event, hcall ▸ hevent⟩, ?_⟩
      exact ((hprocessed.fresh i.inviteeUserId).mp (List.mem_map_of_mem hi)).1

theorem serve_asks (hbefore : ¬ Asked s.db eventId user)
    (h : Asked (serve env s op).db eventId user) : Asks eventId user s op := by
  by_cases hsend : ∃ call, op = .send call
  · obtain ⟨call, rfl⟩ := hsend
    rcases sendInvitations_asks h with hold | ⟨hid, ⟨event, hevent⟩, hlisted⟩
    · exact absurd hold hbefore
    · exact ⟨call, event, rfl, hid, hevent, hlisted⟩
  · have hold : Asked s.db eventId user := by
      obtain ⟨i', hi', hevent, hinvitee⟩ := h
      by_cases hrespond : ∃ call, op = .respond call
      · obtain ⟨call, rfl⟩ := hrespond
        rcases respondToInvitation_cases call s.db with hsame | ⟨i₀, -, hresponded⟩
        · simp only [serve, hsame] at hi'
          exact ⟨i', hi', hevent, hinvitee⟩
        · simp only [serve, hresponded] at hi'
          obtain ⟨i, hi, rfl⟩ := List.mem_map.mp hi'
          refine ⟨i, hi, ?_, ?_⟩
          · split at hevent <;> exact hevent
          · split at hinvitee <;> exact hinvitee
      · have hframe := (serve_serves env s op).frame.invitations
        have hsame : (serve env s op).db.invitations = s.db.invitations := by
          apply hframe
          cases op with
          | send call => exact absurd ⟨call, rfl⟩ hsend
          | respond call => exact absurd ⟨call, rfl⟩ hrespond
          | _ => rfl
        exact ⟨i', hsame ▸ hi', hevent, hinvitee⟩
    exact absurd hold hbefore

theorem serve_accepts (hbefore : ¬ Invited s.db eventId user)
    (h : Invited (serve env s op).db eventId user) : TakesUp eventId user s op := by
  obtain ⟨i', hi', hevent, hinvitee, haccepted⟩ := h
  rcases (serve_invitations env s op).brings i' hi' with ⟨i, hi, hanswered⟩ | hsent
  · have hoffer := hanswered.offer
    simp only [EventInvitation.offer, Prod.mk.injEq] at hoffer
    have hevent₀ : i.eventId = eventId := hoffer.2.1.symm.trans hevent
    have hinvitee₀ : i.inviteeUserId = user := hoffer.2.2.1.symm.trans hinvitee
    have hstatus := hanswered.status
    cases hanswer : answers s i op with
    | none =>
      rw [hanswer, haccepted] at hstatus
      exact absurd ⟨i, hi, hevent₀, hinvitee₀, hstatus.symm⟩ hbefore
    | some status =>
      obtain ⟨call, rfl, hdecision, i₀, htarget, hid, hinvitee₁⟩ := answers_eq_some.mp hanswer
      obtain ⟨hmem, -, -, hself⟩ := respondTarget_eq_ok.mp htarget
      have hsame : i₀ = i := s.db.invitations.eq_of_id hmem hi hid
      refine ⟨call, i₀, rfl, htarget, hsame ▸ hevent₀, ?_, ?_⟩
      · rw [hself, hinvitee₁, hinvitee₀]
      · rw [hanswer, haccepted, ← hdecision] at hstatus
        cases hcall : call.decision with
        | accepted => rfl
        | declined =>
          rw [hcall] at hstatus
          cases hstatus
  · cases hsent.symm.trans haccepted

theorem serve_enrols (hbefore : ¬ Registered s.db eventId user)
    (h : Registered (serve env s op).db eventId user) :
    ∃ event actor, Enrols eventId user event actor s op := by
  rcases (serve_serves env s op).registered h with hold | ⟨call, event, rfl, hid, hregisters⟩
  · exact absurd hold hbefore
  · exact ⟨event, call.actor, call, rfl, rfl, hid, hregisters⟩

theorem serve_attends (hbefore : ¬ CheckedIn s.db eventId user)
    (h : CheckedIn (serve env s op).db eventId user) : Attends env eventId user s op := by
  obtain ⟨c, hc, hevent, hattendee⟩ := h
  obtain ⟨new, hrows, hnew, -⟩ := serve_checkins env s op
  rw [hrows] at hc
  rcases List.mem_append.mp hc with hold | hc
  · obtain ⟨c₀, hc₀, rfl⟩ := List.mem_map.mp hold
    have hkey := c₀.step_key op
    simp only [EventCheckin.key, Prod.mk.injEq] at hkey
    exact absurd ⟨c₀, hc₀, hkey.1.symm.trans hevent, hkey.2.symm.trans hattendee⟩ hbefore
  · have hkey : c.key ∈ (op.attends env s).toList := by
      rw [← hnew]
      exact List.mem_map_of_mem hc
    obtain ⟨call, target, plan, rfl, hrec, hkey⟩ :=
      attends_eq_some.mp (Option.mem_toList.mp hkey)
    simp only [EventCheckin.key, Prod.mk.injEq] at hkey
    rw [← hkey.2, hattendee] at hrec
    exact ⟨call, plan, rfl, hkey.1.symm.trans hevent, hrec⟩

theorem TakesUp.asked (h : TakesUp eventId user s op) : Asked s.db eventId user := by
  obtain ⟨call, i, -, htarget, hevent, huser, -⟩ := h
  obtain ⟨hmem, -, -, hself⟩ := respondTarget_eq_ok.mp htarget
  exact ⟨i, hmem, hevent, Option.some.inj (hself.symm.trans huser)⟩

theorem Enrols.invited {event : Event} {actor : Actor} (h : Enrols eventId user event actor s op)
    (honly : event.visibility = .inviteOnly) (houtside : isOwnerOrAdmin actor event = false) :
    Invited s.db eventId user := by
  obtain ⟨call, -, rfl, rfl, hregisters⟩ := h
  have hvisible := visibilityGate_eq_ok.mp hregisters.visible
  simpa [houtside, TierOpen, honly] using hvisible

theorem Attends.registered (h : Attends env eventId user s op) :
    Registered s.db eventId user := by
  obtain ⟨call, plan, -, rfl, hrec⟩ := h
  obtain ⟨hmem, hevent, hattendee⟩ := findRegistration_eq_some.mp hrec.cleared.registered.1
  exact ⟨plan.registration, hmem, hevent, hattendee⟩

end

def Welcomed (env : Env) (s : Service) (eventId : Int) (user : String) (past : List Operation) :
    Prop :=
  Machine.Occurs (fun past accept =>
    TakesUp eventId user (Machine.run (serve env) s past) accept ∧
      Machine.Occurs (fun past => Asks eventId user (Machine.run (serve env) s past)) past) past

/-- In the run of `past` a registration of the user has passed every gate; to an event that was for
the invited, through its owner or an admin, or after they were welcomed. -/
def Enrolled (env : Env) (s : Service) (eventId : Int) (user : String) (past : List Operation) :
    Prop :=
  Machine.Occurs (fun past register => ∃ event actor,
    Enrols eventId user event actor (Machine.run (serve env) s past) register ∧
      (event.visibility = .inviteOnly → isOwnerOrAdmin actor event = false →
        Welcomed env s eventId user past)) past

theorem Stranger.welcomed {env : Env} {s : Service} {eventId : Int} {user : String}
    (hstranger : Stranger s.db eventId user) {past : List Operation}
    (h : Invited (Machine.run (serve env) s past).db eventId user) :
    Welcomed env s eventId user past := by
  apply (Machine.occurs_of_change (P := fun s : Service => Invited s.db eventId user)
    (fun hold => hstranger.unasked hold.asked) h).imp
  rintro past op ⟨hbefore, hafter⟩
  have haccepts := serve_accepts hbefore hafter
  refine ⟨haccepts, ?_⟩
  apply (Machine.occurs_of_change (P := fun s : Service => Asked s.db eventId user)
    hstranger.unasked haccepts.asked).imp
  rintro past op ⟨hbefore, hafter⟩
  exact serve_asks hbefore hafter

theorem Stranger.enrolled {env : Env} {s : Service} {eventId : Int} {user : String}
    (hstranger : Stranger s.db eventId user) {past : List Operation}
    (h : Registered (Machine.run (serve env) s past).db eventId user) :
    Enrolled env s eventId user past := by
  apply (Machine.occurs_of_change (P := fun s : Service => Registered s.db eventId user)
    hstranger.unregistered h).imp
  rintro past op ⟨hbefore, hafter⟩
  obtain ⟨event, actor, henrols⟩ := serve_enrols hbefore hafter
  refine ⟨event, actor, henrols, ?_⟩
  intro honly houtside
  exact hstranger.welcomed (henrols.invited honly houtside)

/-- Whoever was a stranger to an event and is checked in after a run has a trail behind them: a
check-in that passed every gate, before it a registration that did, and before that, where the
event was for the invited, their own acceptance of an organizer's invitation. -/
theorem admission_trail (env : Env) (s : Service) (ops : List Operation) (eventId : Int)
    (user : String) (hstranger : Stranger s.db eventId user)
    (h : CheckedIn (Machine.run (serve env) s ops).db eventId user) :
    Machine.Occurs (fun past checkin =>
      Attends env eventId user (Machine.run (serve env) s past) checkin ∧
        Enrolled env s eventId user past) ops := by
  apply (Machine.occurs_of_change (P := fun s : Service => CheckedIn s.db eventId user)
    hstranger.unchecked h).imp
  rintro past op ⟨hbefore, hafter⟩
  have hattends := serve_attends hbefore hafter
  exact ⟨hattends, hstranger.enrolled hattends.registered⟩

def sampleReception : List Operation :=
  [.create
      { payload :=
          { title := "Reception"
            checkinMethod := .manual
            status := .published
            visibility := .inviteOnly }
        actor := sampleCreator },
    .send sampleReinvite, .respond (sampleAnswer .accepted), .register (sampleRegister sampleFan),
    .checkin (sampleScan 1 100)]

theorem admission_trail_sample :
    Machine.Occurs (fun past checkin =>
      Attends sampleEnv 1 "fan-1" (Machine.run (serve sampleEnv) {} past) checkin ∧
        Enrolled sampleEnv {} 1 "fan-1" past) sampleReception := by
  apply admission_trail sampleEnv {} sampleReception 1 "fan-1"
  · constructor <;> rintro ⟨row, hrow, -⟩ <;> cases hrow
  · rw [CheckedIn]
    decide +kernel

end CheckinService
