import CheckinService.Laws.Admission
import CheckinService.Laws.Attendance
import CheckinService.Laws.Discovery
import CheckinService.Laws.Tenancy
import CheckinService.Laws.Visibility

namespace CheckinService

open Relational

def EventInvitation.offer (i : EventInvitation) : Int × Int × String × String × Option String :=
  (i.id, i.eventId, i.inviteeUserId, i.inviterUserId, i.reasonSn)

def answers (s : Service) (i : EventInvitation) : Operation → Option InvitationStatus
  | .respond call =>
    if call.invitationId = i.id ∧ call.actor.userId = some i.inviteeUserId ∧
        (respondToInvitation call s.db).2.isOk = true then
      some call.decision.status
    else none
  | _ => none

def latestAnswer (env : Env) (i : EventInvitation) :
    Service → List Operation → InvitationStatus → InvitationStatus
  | _, [], status => status
  | s, op :: ops, status =>
    latestAnswer env i (serve env s op) ops ((answers s i op).getD status)

structure Answered (s : Service) (op : Operation) (i i' : EventInvitation) : Prop where
  offer : i'.offer = i.offer
  status : i'.status = (answers s i op).getD i.status

section

variable {env : Env} {s : Service} {op : Operation} {db' : Database} {i i' : EventInvitation}

theorem answers_congr (hid : i'.id = i.id) (hinvitee : i'.inviteeUserId = i.inviteeUserId) :
    answers s i' op = answers s i op := by
  cases op with
  | respond call => simp only [answers, hid, hinvitee]
  | _ => rfl

theorem respondToInvitation_isOk {call : RespondCall} {db : Database} :
    (respondToInvitation call db).2.isOk = true ↔ ∃ i, respondTarget call db = .ok i := by
  rw [respondToInvitation]
  cases respondTarget call db <;> simp [Except.isOk, Except.toBool]

theorem answers_eq_some {status : InvitationStatus} :
    answers s i op = some status ↔
      ∃ call, op = .respond call ∧ call.decision.status = status ∧
        ∃ i₀, respondTarget call s.db = .ok i₀ ∧ i₀.id = i.id ∧
          i₀.inviteeUserId = i.inviteeUserId := by
  cases op with
  | respond call =>
    simp only [answers, Operation.respond.injEq, exists_eq_left', Option.ite_none_right_eq_some,
      Option.some.injEq, respondToInvitation_isOk]
    constructor
    · rintro ⟨⟨hid, hself, i₀, htarget⟩, hstatus⟩
      obtain ⟨-, hid₀, -, hself₀⟩ := respondTarget_eq_ok.mp htarget
      rw [hself, Option.some.injEq] at hself₀
      exact ⟨hstatus, i₀, htarget, hid₀.trans hid, hself₀.symm⟩
    · rintro ⟨hstatus, i₀, htarget, hid, hinvitee⟩
      obtain ⟨-, hid₀, -, hself₀⟩ := respondTarget_eq_ok.mp htarget
      exact ⟨⟨hid₀.symm.trans hid, hinvitee ▸ hself₀, i₀, htarget⟩, hstatus⟩
  | _ => simp [answers]

theorem Answered.refl (h : answers s i op = none) : Answered s op i i :=
  ⟨rfl, by rw [h]; rfl⟩

theorem answers_of_not_respond (h : ∀ call, op ≠ .respond call) : answers s i op = none := by
  cases op with
  | respond call => exact absurd rfl (h call)
  | _ => rfl

theorem answers_of_refused {call : RespondCall} {f : Failure}
    (h : respondTarget call s.db = .error f) : answers s i (.respond call) = none := by
  rw [Option.eq_none_iff_forall_ne_some]
  intro status hsome
  obtain ⟨_, hcall, -, i₀, htarget, -⟩ := answers_eq_some.mp hsome
  cases hcall
  cases h.symm.trans htarget

theorem responded_answered {call : RespondCall} {i₀ : EventInvitation}
    (htarget : respondTarget call s.db = .ok i₀) (hi : i ∈ s.db.invitations.rows) :
    Answered s (.respond call) i
      (if i.id = i₀.id then i.respond call.decision call.utcnow else i) := by
  obtain ⟨hmem, hid₀, -, -⟩ := respondTarget_eq_ok.mp htarget
  split
  · rename_i hid
    have hsame : i = i₀ := s.db.invitations.eq_of_id hi hmem hid
    refine ⟨rfl, ?_⟩
    rw [answers_eq_some.mpr ⟨call, rfl, rfl, i₀, htarget, hid.symm, by rw [hsame]⟩]
    rfl
  · rename_i hid
    apply Answered.refl
    rw [Option.eq_none_iff_forall_ne_some]
    intro status hsome
    obtain ⟨_, hcall, -, i₁, htarget', hid₁, -⟩ := answers_eq_some.mp hsome
    cases hcall
    cases htarget.symm.trans htarget'
    exact hid hid₁.symm

theorem Serves.invitations (h : Serves env s op db') (hop : ∀ call, op ≠ .respond call) :
    db'.invitations = s.db.invitations ∨
      ∃ call event, op = .send call ∧ Invites call event s.db db' ∧
        db' = (sendInvitations env.crypto call s.db).1 := by
  cases op with
  | send call =>
    cases h with
    | nothing _ => exact Or.inl rfl
    | invites _ h => exact Or.inr ⟨_, _, rfl, h, rfl⟩
  | respond call => exact absurd rfl (hop call)
  | _ => exact Or.inl (h.frame.invitations rfl)

theorem serve_invitations (env : Env) (s : Service) (op : Operation) :
    Table.Evolves (Answered s op) (fun i => i.status = .sent) s.db.invitations
      (serve env s op).db.invitations := by
  by_cases hop : ∃ call, op = .respond call
  · obtain ⟨call, rfl⟩ := hop
    simp only [serve, respondToInvitation]
    cases htarget : respondTarget call s.db with
    | error f => exact .refl (fun i => .refl (answers_of_refused htarget)) _
    | ok i₀ => exact .of_map rfl fun i hi => responded_answered htarget hi
  · rw [not_exists] at hop
    have hkeep : ∀ i, Answered s op i i := fun i => .refl (answers_of_not_respond hop)
    rcases (serve_serves env s op).invitations hop with hsame | ⟨call, event, -, hinvites, hdb⟩
    · rw [hsame]
      exact .refl hkeep _
    · obtain ⟨-, new, hrows, -⟩ := hinvites
      constructor
      · intro i hi
        refine ⟨i, ?_, hkeep i⟩
        rw [hrows]
        exact List.mem_append_left _ hi
      · intro i hi
        rw [hdb] at hi
        rcases sendInvitations_brings hi with hold | ⟨event, item, id, rfl⟩
        · exact Or.inl ⟨i, hold, hkeep i⟩
        · exact Or.inr rfl

theorem EventInvitation.id_of_offer (h : i'.offer = i.offer) : i'.id = i.id :=
  congrArg Prod.fst h

theorem answers_of_absent (h : ∀ i₀ ∈ s.db.invitations.rows, i₀.id ≠ i.id) :
    answers s i op = none := by
  rw [Option.eq_none_iff_forall_ne_some]
  intro status hsome
  obtain ⟨call, -, -, i₀, htarget, hid, -⟩ := answers_eq_some.mp hsome
  exact h i₀ (respondTarget_eq_ok.mp htarget).1 hid

theorem status_eq_latestAnswer (ops : List Operation)
    (hi : i ∈ (Machine.run (serve env) s ops).db.invitations.rows) :
    (∃ i₀ ∈ s.db.invitations.rows, i₀.offer = i.offer ∧
        i.status = latestAnswer env i s ops i₀.status) ∨
      (∀ i₀ ∈ s.db.invitations.rows, i₀.id ≠ i.id) ∧ i.status = latestAnswer env i s ops .sent := by
  induction ops generalizing s with
  | nil => exact Or.inl ⟨i, hi, rfl, rfl⟩
  | cons op ops ih =>
    have hstep := serve_invitations env s op
    rw [Machine.run] at hi
    by_cases hold : ∃ i₀ ∈ s.db.invitations.rows, i₀.id = i.id
    · obtain ⟨i₀, hi₀, hid⟩ := hold
      obtain ⟨i₀', hi₀', hanswered⟩ := hstep.keeps i₀ hi₀
      have hid' : i₀'.id = i.id := (EventInvitation.id_of_offer hanswered.offer).trans hid
      rcases ih hi with ⟨i₁, hi₁, hoffer, hstatus⟩ | ⟨hnone, -⟩
      · have hsame : i₁ = i₀' := (serve env s op).db.invitations.eq_of_id hi₁ hi₀'
          ((EventInvitation.id_of_offer hoffer).trans hid'.symm)
        subst hsame
        have hoffer₀ : i₀.offer = i.offer := hanswered.offer.symm.trans hoffer
        refine Or.inl ⟨i₀, hi₀, hoffer₀, ?_⟩
        simp only [EventInvitation.offer, Prod.mk.injEq] at hoffer₀
        rw [hstatus, hanswered.status, answers_congr hoffer₀.1 hoffer₀.2.2.1]
        rfl
      · exact absurd hid' (hnone i₀' hi₀')
    · push Not at hold
      refine Or.inr ⟨hold, ?_⟩
      rw [latestAnswer, answers_of_absent hold]
      rcases ih hi with ⟨i₁, hi₁, hoffer, hstatus⟩ | ⟨-, hstatus⟩
      · rcases hstep.brings i₁ hi₁ with ⟨i₀, hi₀, hanswered⟩ | hsent
        · exact absurd ((EventInvitation.id_of_offer hanswered.offer).symm.trans
            (EventInvitation.id_of_offer hoffer)) (hold i₀ hi₀)
        · rw [hstatus, hsent]
          rfl
      · exact hstatus

end

/-- From no invitations on, the status of every invitation is its invitee's latest answer, and
nothing else rewrites an invitation: neither its status nor the offer itself. -/
theorem consent_integrity (env : Env) (s : Service) (ops : List Operation) :
    (∀ i ∈ (Machine.run (serve env) { s with db := { s.db with invitations := .empty } }
        ops).db.invitations.rows,
      i.status =
        latestAnswer env i { s with db := { s.db with invitations := .empty } } ops .sent) ∧
      ∀ s op, ∀ i ∈ s.db.invitations.rows,
        ∃ i' ∈ (serve env s op).db.invitations.rows, Answered s op i i' := by
  constructor
  · intro i hi
    rcases status_eq_latestAnswer ops hi with ⟨i₀, hi₀, -⟩ | ⟨-, hstatus⟩
    · cases hi₀
    · exact hstatus
  · intro s op
    exact (serve_invitations env s op).keeps

/-- The user's invitation to the invite-only event has been taken back, or has run out; they have
no registration, and the event is not theirs. -/
structure Withdrawn (db : Database) (e : Event) (user : String) : Prop where
  event : e ∈ db.events.rows
  tier : e.visibility = .inviteOnly
  foreign : e.ownerUserId ≠ user
  invitation : ∃ i ∈ db.invitations.rows, i.eventId = e.id ∧ i.inviteeUserId = user ∧
    (i.status = .revoked ∨ i.status = .expired)
  unregistered : ¬ Registered db e.id user

def Operation.Patches (eventId : Int) : Operation → Prop
  | .update call => call.eventId = eventId
  | _ => False

/-- The user does not accept the invitation after all, and no admin in whose scope the event is
registers them. -/
def Withheld (e : Event) (user : String) (s : Service) : Operation → Prop
  | .respond call => ∀ i, respondTarget call s.db = .ok i → i.eventId = e.id →
      i.inviteeUserId = user → call.decision ≠ .accepted
  | .register call => call.eventId = e.id → registerTarget call = .ok user →
      call.actor.isAdmin = true → ¬ InAdminScope call.actor e
  | _ => True

structure ShutOut (e : Event) (user : String) (db : Database) : Prop where
  event : ∃ e' ∈ db.events.rows, Event.Same e e' ∧ e'.visibility = .inviteOnly
  uninvited : ¬ Invited db e.id user
  unregistered : ¬ Registered db e.id user

section

variable {env : Env} {s : Service} {op : Operation} {db db' : Database} {e e' : Event}
  {user : String}

theorem Withdrawn.shutOut (h : Withdrawn db e user) : ShutOut e user db where
  event := ⟨e, h.event, .refl e, h.tier⟩
  uninvited := by
    obtain ⟨i, hi, hevent, hinvitee, hstatus⟩ := h.invitation
    rintro ⟨i', hi', hevent', hinvitee', haccepted⟩
    -- the UNIQUE key leaves the user one invitation
    have hsame : i' = i := db.invitations.eq_of_key hi' hi (k := (e.id, user))
      (by simp [Row.keys, hevent', hinvitee']) (by simp [Row.keys, hevent, hinvitee])
    rw [hsame] at haccepted
    rcases hstatus with hstatus | hstatus
    · cases hstatus.symm.trans haccepted
    · cases hstatus.symm.trans haccepted
  unregistered := h.unregistered

theorem Saves.keeps_tier {actor : Actor} {eventId : Int} {old new : Event}
    (h : Saves actor eventId old new db db') (he : e ∈ db.events.rows)
    (htier : e = old → new.visibility = e.visibility) :
    ∃ e' ∈ db'.events.rows, Event.Same e e' ∧ e'.visibility = e.visibility := by
  rw [h.rows]
  refine ⟨_, List.mem_map_of_mem he, ?_⟩
  split
  · rename_i hold
    exact ⟨hold ▸ h.same, htier hold⟩
  · exact ⟨.refl e, rfl⟩

theorem Serves.keeps_tier (h : Serves env s op db') (he : e ∈ s.db.events.rows)
    (hop : ¬ op.Patches e.id) :
    ∃ e' ∈ db'.events.rows, Event.Same e e' ∧ e'.visibility = e.visibility := by
  have hsame : db'.events = s.db.events →
      ∃ e' ∈ db'.events.rows, Event.Same e e' ∧ e'.visibility = e.visibility := by
    intro hevents
    exact ⟨e, hevents ▸ he, .refl e, rfl⟩
  cases op with
  | create call =>
    cases h with
    | nothing _ => exact hsame rfl
    | creates h =>
      refine ⟨e, ?_, .refl e, rfl⟩
      rw [h.rows]
      exact List.mem_append_left _ he
  | update call =>
    cases h with
    | nothing _ => exact hsame rfl
    | updates h =>
      apply h.keeps_tier he
      rintro rfl
      exact absurd (ownEvent_eq_ok.mp h.owned).2.1.symm hop
  | delete call =>
    cases h with
    | nothing _ => exact hsame rfl
    | deletes h =>
      apply h.keeps_tier he
      rintro rfl
      rfl
  | _ => exact hsame (h.frame.events rfl)

theorem registered_of_map {db db' : Database} {f : EventRegistration → EventRegistration}
    (hf : ∀ r, (f r).reference = r.reference)
    (hrows : db'.registrations.rows = db.registrations.rows.map f) {eventId : Int} {user : String}
    (h : Registered db' eventId user) : Registered db eventId user := by
  obtain ⟨_, hmem, hevent, hattendee⟩ := h
  rw [hrows] at hmem
  obtain ⟨r, hr, rfl⟩ := List.mem_map.mp hmem
  have hsame := hf r
  simp only [EventRegistration.reference, Prod.mk.injEq] at hsame
  exact ⟨r, hr, hsame.1.symm.trans hevent, hsame.2.2.symm.trans hattendee⟩

theorem Serves.registered {eventId : Int} (h : Serves env s op db')
    (hr : Registered db' eventId user) :
    Registered s.db eventId user ∨
      ∃ call event, op = .register call ∧ call.eventId = eventId ∧
        Registers call user event s.db := by
  have hsame : db'.registrations = s.db.registrations → Registered s.db eventId user := by
    intro hregistrations
    rw [Registered, hregistrations] at hr
    exact hr
  cases op with
  | register call =>
    cases h with
    | nothing _ => exact Or.inl hr
    | @registers _ target event h =>
      obtain ⟨registrations, hresult, hrows⟩ := h.result
      obtain ⟨r, hr, hevent, hattendee⟩ := hr
      rw [hresult] at hr
      simp only [hrows] at hr
      rcases List.mem_append.mp hr with hr | hr
      · exact Or.inl ⟨r, hr, hevent, hattendee⟩
      · rw [List.mem_singleton.mp hr] at hevent hattendee
        exact Or.inr ⟨call, event, rfl, hevent, hattendee ▸ h⟩
  | cancel call =>
    cases h with
    | nothing _ => exact Or.inl hr
    | cancels _ => exact Or.inl (registered_of_map (fun r => by split <;> rfl) rfl hr)
  | checkin call =>
    cases h with
    | nothing _ => exact Or.inl hr
    | records h =>
      exact Or.inl (registered_of_map (fun r => by split <;> rfl) h.effect.registrations hr)
  | _ => exact Or.inl (hsame (h.frame.registrations rfl))

theorem serve_checkedIn {eventId : Int} (h : CheckedIn (serve env s op).db eventId user) :
    CheckedIn s.db eventId user ∨ Registered s.db eventId user := by
  obtain ⟨c', hc', hevent, hattendee⟩ := h
  rcases (serve_effect env s op).checkins.brings c' hc' with ⟨c, hc, hsame⟩ | ⟨-, hregistered⟩
  · simp only [Table.Keeps, EventCheckin.reference, Prod.mk.injEq] at hsame
    exact Or.inl ⟨c, hc, hsame.1.symm.trans hevent, hsame.2.2.symm.trans hattendee⟩
  · rw [hevent, hattendee] at hregistered
    exact Or.inr hregistered

theorem ShutOut.uninvited_next (h : ShutOut e user s.db) (hwithheld : Withheld e user s op) :
    ¬ Invited (serve env s op).db e.id user := by
  rintro ⟨i', hi', hevent, hinvitee, haccepted⟩
  rcases (serve_invitations env s op).brings i' hi' with ⟨i, hi, hanswered⟩ | hsent
  · have hoffer := hanswered.offer
    simp only [EventInvitation.offer, Prod.mk.injEq] at hoffer
    have hevent₀ : i.eventId = e.id := hoffer.2.1.symm.trans hevent
    have hinvitee₀ : i.inviteeUserId = user := hoffer.2.2.1.symm.trans hinvitee
    cases hanswer : answers s i op with
    | none =>
      have hstatus : i'.status = i.status := by
        rw [hanswered.status, hanswer]
        rfl
      exact h.uninvited ⟨i, hi, hevent₀, hinvitee₀, hstatus ▸ haccepted⟩
    | some status =>
      have hstatus : i'.status = status := by
        rw [hanswered.status, hanswer]
        rfl
      obtain ⟨call, rfl, hdecision, i₀, htarget, hid, -⟩ := answers_eq_some.mp hanswer
      have hsame : i₀ = i :=
        s.db.invitations.eq_of_id (respondTarget_eq_ok.mp htarget).1 hi hid
      subst hsame
      refine hwithheld i₀ htarget hevent₀ hinvitee₀ ?_
      cases hcall : call.decision with
      | accepted => rfl
      | declined =>
        rw [← hdecision, hcall] at hstatus
        cases hstatus.symm.trans haccepted
  · cases hsent.symm.trans haccepted

theorem ShutOut.not_registers (h : ShutOut e user s.db) (hforeign : e.ownerUserId ≠ user)
    {call : RegisterCall} {event : Event} (hid : call.eventId = e.id)
    (hwithheld : Withheld e user s (.register call)) :
    ¬ Registers call user event s.db := by
  intro hregisters
  obtain ⟨e', he', hsame, htier⟩ := h.event
  obtain ⟨hmem, hfound⟩ := findEvent_eq_some.mp hregisters.found
  have hevent : event = e' :=
    s.db.events.eq_of_id hmem he' (hfound.trans (hid.trans hsame.id.symm))
  subst hevent
  obtain ⟨-, -, hself⟩ := registerTarget_eq_ok_iff.mp hregisters.resolved
  by_cases hadmin : call.actor.isAdmin = true
  · apply hwithheld hid hregisters.resolved hadmin
    intro _ school hschool
    have hscope := (resolveEventOr404_eq_ok.mp hregisters.inScope).2 school
      (schoolFilter_eq_some.mpr ⟨hadmin, hschool⟩)
    rw [← hsame.schoolId]
    exact hscope
  · have huser : call.actor.userId = some user := hself.resolve_right hadmin
    rcases visibilityGate_eq_ok.mp hregisters.visible with hprivileged | hopen
    · simp only [isOwnerOrAdmin, Registrations.isAdmin_eq, hadmin, Bool.or_false,
        decide_eq_true_eq] at hprivileged
      have howner := (Py.orNone_eq_some.mp hprivileged).1
      rw [huser, Option.some.injEq, hsame.ownerUserId] at howner
      exact hforeign howner.symm
    · rw [TierOpen, htier, hid] at hopen
      exact h.uninvited hopen

theorem ShutOut.next (h : ShutOut e user s.db) (hforeign : e.ownerUserId ≠ user)
    (hop : ¬ op.Patches e.id) (hwithheld : Withheld e user s op) :
    ShutOut e user (serve env s op).db where
  event := by
    obtain ⟨e', he', hsame, htier⟩ := h.event
    obtain ⟨e'', he'', hsame', htier'⟩ := (serve_serves env s op).keeps_tier he'
      (hsame.id.symm ▸ hop)
    exact ⟨e'', he'', hsame.trans hsame', htier'.trans htier⟩
  uninvited := h.uninvited_next hwithheld
  unregistered := by
    intro hr
    rcases (serve_serves env s op).registered hr with hold | ⟨call, event, rfl, hid, hregisters⟩
    · exact h.unregistered hold
    · exact h.not_registers hforeign hid hwithheld hregisters

end

/-- As long as the user does not accept the withdrawn invitation after all, and no admin of the
event's scope brings them in, they get neither a registration nor a check-in. -/
theorem withdrawn_grants_nothing (env : Env) (s : Service) (e : Event) (user : String)
    (ops : List Operation) (hstart : Withdrawn s.db e user) (hops : ∀ op ∈ ops, ¬ op.Patches e.id)
    (hwithheld : Machine.Guarded (serve env) (Withheld e user) s ops) :
    Machine.Always (serve env)
      (fun s' => ¬ Registered s'.db e.id user ∧
        (CheckedIn s'.db e.id user → CheckedIn s.db e.id user)) s ops := by
  have hrun : Machine.Always (serve env)
      (fun s' => ShutOut e user s'.db ∧ (CheckedIn s'.db e.id user → CheckedIn s.db e.id user))
      s ops := by
    refine Machine.always_of_guarded_rest (K := fun _ ops => ∀ op ∈ ops, ¬ op.Patches e.id)
      ?_ ?_ hops ⟨hstart.shutOut, id⟩ hwithheld
    · intro _ op ops hops op' hop'
      exact hops op' (List.mem_cons_of_mem _ hop')
    · intro s' op ops hops h hwithheld
      refine ⟨h.1.next hstart.foreign (hops op List.mem_cons_self) hwithheld, ?_⟩
      intro hchecked
      rcases serve_checkedIn hchecked with hold | hregistered
      · exact h.2 hold
      · exact absurd hregistered h.1.unregistered
  exact hrun.imp fun s' h => ⟨h.1.unregistered, h.2⟩

def sampleSoiree : Event :=
  { id := 1, schoolId := "user:7", ownerUserId := "7", title := "Soiree"
    checkinMethod := .manual, status := .published, visibility := .inviteOnly }

def sampleRevoked : EventInvitation :=
  { id := 1, schoolId := "user:7", eventId := 1, inviterUserId := "7", hashedInviterId := ""
    inviteeUserId := "fan-1", hashedInviteeId := "", status := .revoked }

def sampleSoireeService : Service :=
  { db := { events := .single sampleSoiree, invitations := .single sampleRevoked } }

theorem withdrawn_sampleRevoked : Withdrawn sampleSoireeService.db sampleSoiree "fan-1" where
  event := List.mem_singleton_self _
  tier := rfl
  foreign := by decide
  invitation := ⟨sampleRevoked, List.mem_singleton_self _, rfl, rfl, Or.inl rfl⟩
  unregistered := by
    rintro ⟨r, hr, -⟩
    cases hr

def sampleAnswer (decision : InvitationDecision) : RespondCall where
  eventId := 1
  invitationId := 1
  decision := decision
  actor := sampleFan
  utcnow := 100

def sampleReinvite : SendCall where
  eventId := 1
  payload := { invitees := [.plain "fan-1" (by decide)] }
  actor := sampleCreator

theorem withdrawn_grants_nothing_sample :
    Machine.Always (serve sampleEnv)
      (fun s => ¬ Registered s.db 1 "fan-1" ∧
        (CheckedIn s.db 1 "fan-1" → CheckedIn sampleSoireeService.db 1 "fan-1"))
      sampleSoireeService
      [.send sampleReinvite, .respond (sampleAnswer .declined),
        .register (sampleRegister sampleFan)] := by
  apply withdrawn_grants_nothing sampleEnv sampleSoireeService sampleSoiree "fan-1" _
    withdrawn_sampleRevoked
  · simp [Operation.Patches]
  · refine ⟨trivial, ?_, ?_, trivial⟩
    · intro _ _ _ _ h
      cases h
    · intro _ _ h
      exact absurd h (by decide)

/-- A fan accepts the invitation that was revoked, and registers. -/
theorem withdrawn_grants_nothing_fails_accepted :
    Withdrawn sampleSoireeService.db sampleSoiree "fan-1" ∧ sampleSoiree.status.isOpen = true ∧
      sampleFan.isAdmin = false ∧
      ¬ Machine.Always (serve sampleEnv) (fun s => ¬ Registered s.db 1 "fan-1")
        sampleSoireeService
        [.respond (sampleAnswer .accepted), .register (sampleRegister sampleFan)] := by
  refine ⟨withdrawn_sampleRevoked, rfl, by decide, ?_⟩
  intro h
  apply h.run
  rw [Registered]
  decide +kernel

end CheckinService
