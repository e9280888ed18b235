import CheckinService.Laws.Admission
import CheckinService.Laws.Lifecycle
import CheckinService.Laws.Management

namespace CheckinService

open Relational

def Operation.caller : Operation → Option Actor
  | .create call => some call.actor
  | .update call => some call.actor
  | .delete call => some call.actor
  | .register call => some call.actor
  | .cancel call => some call.actor
  | .checkin call => some call.actor
  | .mint call => some call.actor
  | .send call => some call.actor
  | .respond call => some call.actor
  | .purge _ => none
  | .rosters _ _ _ => none

structure Actor.IsPlain (user : String) (actor : Actor) : Prop where
  userId : actor.userId = some user
  plain : actor.isAdmin = false

def QrToken.UsedBy (user : String) (t t' : QrToken) : Prop :=
  t' = t ∨ t.unburnt = true ∧ ∃ at_,
    t' = { t with usedAt := some at_, usedByUserId := some user }

/-- Whatever has changed is the user's own: their events, registrations, check-ins, the
invitations they sent or answered, and the tokens they spent. -/
structure Confined (user : String) (db db' : Database) : Prop where
  events : Table.SameBut (fun e => e.ownerUserId = user) db.events db'.events
  registrations :
    Table.SameBut (fun r => r.attendeeUserId = user) db.registrations db'.registrations
  checkins : Table.SameBut (fun c => c.attendeeUserId = user) db.checkins db'.checkins
  invitations : Table.SameBut (fun i => i.inviterUserId = user ∨ i.inviteeUserId = user)
    db.invitations db'.invitations
  qrTokens : Table.Evolves (QrToken.UsedBy user) (fun _ => False) db.qrTokens db'.qrTokens
  groups : db'.groups = db.groups
  members : db'.members = db.members
  relationships : db'.relationships = db.relationships

section

variable {user : String} {actor : Actor} {db db' db'' : Database}

theorem QrToken.UsedBy.refl (user : String) (t : QrToken) : QrToken.UsedBy user t t := Or.inl rfl

theorem QrToken.UsedBy.trans {t t' t'' : QrToken} (h : QrToken.UsedBy user t t')
    (h' : QrToken.UsedBy user t' t'') : QrToken.UsedBy user t t'' := by
  rcases h with rfl | ⟨hunburnt, at_, rfl⟩
  · exact h'
  · rcases h' with rfl | ⟨hburnt, -⟩
    · exact Or.inr ⟨hunburnt, at_, rfl⟩
    · simp [QrToken.unburnt] at hburnt

theorem Confined.refl (user : String) (db : Database) : Confined user db db where
  events := .refl _ _
  registrations := .refl _ _
  checkins := .refl _ _
  invitations := .refl _ _
  qrTokens := .refl (QrToken.UsedBy.refl user) _
  groups := rfl
  members := rfl
  relationships := rfl

theorem Confined.trans (h : Confined user db db') (h' : Confined user db' db'') :
    Confined user db db'' where
  events := h.events.trans h'.events
  registrations := h.registrations.trans h'.registrations
  checkins := h.checkins.trans h'.checkins
  invitations := h.invitations.trans h'.invitations
  qrTokens := by
    apply Table.Evolves.trans _ _ h.qrTokens h'.qrTokens
    · exact QrToken.UsedBy.trans
    · exact fun hN _ => hN
  groups := h'.groups.trans h.groups
  members := h'.members.trans h.members
  relationships := h'.relationships.trans h.relationships

theorem Actor.IsPlain.owner (h : actor.IsPlain user) {owner school : String}
    (hassert : assertEventOwnerOrAdmin actor owner school = .ok ()) : owner = user := by
  rcases assertEventOwnerOrAdmin_eq_ok.mp hassert with howner | ⟨hadmin, -⟩ | hservice
  · exact (Option.some.inj (h.userId.symm.trans howner)).symm
  · exact absurd hadmin (by simp [h.plain])
  · exact absurd (isAdmin_of_service hservice) (by simp [h.plain])

theorem Actor.IsPlain.self (h : actor.IsPlain user) {target : String}
    (hself : actor.userId = some target ∨ actor.isAdmin = true) : target = user := by
  rcases hself with hself | hadmin
  · exact (Option.some.inj (h.userId.symm.trans hself)).symm
  · exact absurd hadmin (by simp [h.plain])

theorem Creates.confined {call : CreateCall} {event : Event} (huser : user ≠ "")
    (h : call.actor.IsPlain user) (hcreates : Creates call event db db') :
    Confined user db db' := by
  obtain ⟨key, title, -, hevent⟩ := hcreates.reads
  have howner : event.ownerUserId = user := by
    rw [hevent, newEvent, h.userId, Py.orNone_eq_some.mpr ⟨rfl, huser⟩]
    rfl
  have hevents : Table.SameBut (fun e => e.ownerUserId = user) db.events db'.events :=
    .of_append hcreates.rows (by simpa using howner)
  rw [hcreates.rest]
  exact { Confined.refl user db with events := hevents }

theorem Saves.confined {eventId : Int} {old new : Event} (h : actor.IsPlain user)
    (hsaves : Saves actor eventId old new db db') : Confined user db db' := by
  have howner : old.ownerUserId = user := h.owner (ownEvent_eq_ok.mp hsaves.owned).2.2.2
  have hevents : Table.SameBut (fun e => e.ownerUserId = user) db.events db'.events := by
    apply Table.SameBut.of_map hsaves.rows
    intro e _
    split
    · rename_i he
      rw [he]
      exact Or.inr ⟨howner, hsaves.same.ownerUserId.trans howner⟩
    · exact Or.inl rfl
  rw [hsaves.rest]
  exact { Confined.refl user db with events := hevents }

theorem Registers.confined {call : RegisterCall} {target : String} {event : Event}
    (h : call.actor.IsPlain user) (hregisters : Registers call target event db) :
    Confined user db (registerForEvent call db).1 := by
  have htarget : target = user := h.self (registerTarget_eq_ok_iff.mp hregisters.resolved).2.2
  obtain ⟨registrations, hresult, hrows⟩ := hregisters.result
  rw [hresult]
  refine { Confined.refl user db with registrations := .of_append hrows ?_ }
  simpa [newRegistration] using htarget

theorem cancelled_confined {call : CancelCall} {r : EventRegistration}
    (h : call.actor.IsPlain user) (htarget : cancelTarget call db = .ok r) :
    Confined user db (cancelled r.id db) := by
  obtain ⟨hself, -, hfound⟩ := cancelTarget_eq_ok.mp htarget
  obtain ⟨hmem, -, hattendee⟩ := findRegistration_eq_some.mp hfound
  have huser : r.attendeeUserId = user := hattendee.trans (h.self hself)
  refine { Confined.refl user db with registrations := .of_map rfl ?_ }
  intro r' hr'
  split
  · rename_i hid
    rw [db.registrations.eq_of_id hr' hmem hid]
    exact Or.inr ⟨huser, huser⟩
  · exact Or.inl rfl

theorem checkinTarget_eq_ok {call : CheckinCall} {target : String}
    (h : checkinTarget call = .ok target) :
    call.actor.userId = some target ∨ call.actor.isAdmin = true := by
  rw [checkinTarget] at h
  split at h
  · cases h
  · rename_i t ht
    cases hself : assertSelfOrAdmin call.actor t with
    | error f =>
      rw [hself] at h
      cases h
    | ok _ =>
      rw [hself] at h
      cases h
      exact assertSelfOrAdmin_eq_ok.mp hself

theorem Recorded.usedBy {env : Env} {call : CheckinCall} {s : Service} {target : String}
    {plan : CheckinPlan} (hrec : Recorded env call s target plan) {t : QrToken}
    (ht : t ∈ s.db.qrTokens.rows) (hredeems : Redeems env call plan.event t) :
    QrToken.UsedBy target t
      { t with usedAt := some call.clock.utcnow, usedByUserId := some target } := by
  obtain ⟨hneeds, hsingle, rawToken, hraw, hhash⟩ := hredeems
  refine Or.inr ⟨?_, call.clock.utcnow, rfl⟩
  rw [unburnt_of_not_spent (hrec.cleared.unspent hneeds hraw ht hhash), hsingle]

theorem Recorded.confined {env : Env} {call : CheckinCall} {s : Service} {target : String}
    {plan : CheckinPlan} (h : call.actor.IsPlain user) (hrec : Recorded env call s target plan) :
    Confined user s.db (submitCheckin env call s).1.db := by
  have heffect := hrec.effect
  obtain rfl : target = user := h.self (checkinTarget_eq_ok hrec.resolved)
  obtain ⟨checkin, hrows, -, hattendee, -⟩ := heffect.checkins
  refine ⟨?_, ?_, .of_append hrows (by simpa using hattendee), ?_, ?_, heffect.groups,
    heffect.members, heffect.relationships⟩
  · rw [heffect.events]
    exact .refl _ _
  · apply Table.SameBut.of_map heffect.registrations
    intro r _
    split
    · rename_i hkey
      exact Or.inr ⟨hkey.2, hkey.2⟩
    · exact Or.inl rfl
  · rw [heffect.invitations]
    exact .refl _ _
  · apply Table.Evolves.of_map heffect.qrTokens
    intro t ht
    split
    · rename_i hredeems
      exact hrec.usedBy ht hredeems
    · exact .refl target t

theorem mintQrToken_of_plain {c : Crypto} {call : MintCall} (h : call.actor.IsPlain user) :
    (mintQrToken c call db).1 = db := by
  rcases mintQrToken_cases c call db with hsame | ⟨schoolId, row, hmints⟩
  · exact hsame
  · have hadmin := (mintSchool_eq_ok.mp hmints.allowed).1
    exact absurd hadmin (by simp [h.plain])

theorem sendInvitations_confined {c : Crypto} {call : SendCall} (huser : user ≠ "")
    (h : call.actor.IsPlain user) : Confined user db (sendInvitations c call db).1 := by
  rcases sendInvitations_cases c call db with hsame | ⟨event, -, hrest, new, hrows, -⟩
  · rw [hsame]
    exact .refl user db
  · have hnew : ∀ i ∈ new, i.inviterUserId = user := by
      intro i hi
      have hmem : i ∈ (sendInvitations c call db).1.invitations.rows := by
        rw [hrows]
        exact List.mem_append_right _ hi
      have hnodup := (sendInvitations c call db).1.invitations.nodup
      rw [hrows] at hnodup
      rcases sendInvitations_brings hmem with hold | ⟨event, item, id, rfl⟩
      · exact absurd hi (List.disjoint_of_nodup_append hnodup hold)
      · show call.inviterUserId = user
        rw [SendCall.inviterUserId, h.userId, Py.orNone_eq_some.mpr ⟨rfl, huser⟩]
        rfl
    have hinvitations := Table.SameBut.of_append
      (P := fun i => i.inviterUserId = user ∨ i.inviteeUserId = user) hrows
      fun i hi => Or.inl (hnew i hi)
    rw [hrest]
    exact { Confined.refl user db with invitations := hinvitations }

theorem responded_confined {call : RespondCall} {i : EventInvitation}
    (h : call.actor.IsPlain user) (htarget : respondTarget call db = .ok i) :
    Confined user db (responded call i.id db) := by
  obtain ⟨hmem, -, -, hself⟩ := respondTarget_eq_ok.mp htarget
  have huser : i.inviteeUserId = user := h.self (Or.inl hself)
  refine { Confined.refl user db with invitations := .of_map rfl ?_ }
  intro i' hi'
  split
  · rename_i hid
    rw [db.invitations.eq_of_id hi' hmem hid]
    exact Or.inr ⟨Or.inr huser, Or.inr huser⟩
  · exact Or.inl rfl

theorem serve_confined (env : Env) (huser : user ≠ "") (s : Service) {op : Operation}
    (hcaller : op.caller = some actor) (h : actor.IsPlain user) :
    Confined user s.db (serve env s op).db := by
  have hunchanged : ∀ db, db = s.db → Confined user s.db db := by
    rintro _ rfl
    exact .refl user s.db
  cases op with
  | create call =>
    cases hcaller
    simp only [serve]
    rcases createEvent_cases call s.db with hsame | ⟨event, hcreates⟩
    · exact hunchanged _ hsame
    · exact hcreates.confined huser h
  | update call =>
    cases hcaller
    simp only [serve]
    rcases updateEvent_cases call s.db with hsame | ⟨old, new, hsaves⟩
    · exact hunchanged _ hsame
    · exact hsaves.confined h
  | delete call =>
    cases hcaller
    simp only [serve]
    rcases deleteEvent_cases call s.db with hsame | ⟨old, hsaves⟩
    · exact hunchanged _ hsame
    · exact hsaves.confined h
  | register call =>
    cases hcaller
    simp only [serve]
    rcases registerForEvent_cases call s.db with hsame | ⟨target, event, hregisters⟩
    · exact hunchanged _ hsame
    · exact hregisters.confined h
  | cancel call =>
    cases hcaller
    simp only [serve]
    cases htarget : cancelTarget call s.db with
    | error f =>
      rw [cancelRegistration_of_error htarget]
      exact .refl user s.db
    | ok r =>
      rw [cancelRegistration_of_ok htarget]
      exact cancelled_confined h htarget
  | checkin call =>
    cases hcaller
    simp only [serve]
    rcases submitCheckin_cases env call s with hsame | ⟨target, plan, hrec⟩
    · exact hunchanged _ hsame
    · exact hrec.confined h
  | mint call =>
    cases hcaller
    simp only [serve]
    exact hunchanged _ (mintQrToken_of_plain h)
  | send call =>
    cases hcaller
    simp only [serve]
    exact sendInvitations_confined huser h
  | respond call =>
    cases hcaller
    simp only [serve]
    rcases respondToInvitation_cases call s.db with hsame | ⟨i, htarget, hresponded⟩
    · exact hunchanged _ hsame
    · rw [hresponded]
      exact responded_confined h htarget
  | purge call => cases hcaller
  | rosters groups members relationships => cases hcaller

end

end CheckinService
