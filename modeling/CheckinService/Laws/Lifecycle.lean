import CheckinService.Laws.Operations
import CheckinService.Lib.AppendOnly
import CheckinService.Lib.Lockstep

namespace CheckinService

open Relational

def Operation.cancels (s : Service) : Operation → Option Int
  | .cancel call => (cancelRegistration call s.db).2.toOption
  | _ => none

def Operation.attends (env : Env) (s : Service) : Operation → Option (Int × String)
  | .checkin call =>
    if (submitCheckin env call s).2.succeeded then
      (checkinTarget call).toOption.map fun target => (call.eventId, target)
    else none
  | _ => none

def RegistrationStatus.after (cancelled attended : Prop) [Decidable cancelled]
    [Decidable attended] (status : RegistrationStatus) : RegistrationStatus :=
  if cancelled then .cancelled else if attended then .attended else status

def EventRegistration.step (env : Env) (s : Service) (op : Operation) (r : EventRegistration) :
    EventRegistration :=
  { r with
    status := r.status.after (op.cancels s = some r.id)
      (op.attends env s = some (r.eventId, r.attendeeUserId)) }

def cancellations (env : Env) : Service → List Operation → List (Option Int) :=
  Machine.outputs (serve env) fun s op => op.cancels s

def attendances (env : Env) : Service → List Operation → List (Option (Int × String)) :=
  Machine.outputs (serve env) fun s op => op.attends env s

def EventRegistration.fate (env : Env) (s : Service) (ops : List Operation)
    (r : EventRegistration) : EventRegistration :=
  { r with
    status := r.status.after (some r.id ∈ cancellations env s ops)
      (some (r.eventId, r.attendeeUserId) ∈ attendances env s ops) }

section

variable {env : Env} {s : Service} {op : Operation} {r : EventRegistration}

theorem EventRegistration.step_of_silent (hcancels : op.cancels s = none)
    (hattends : op.attends env s = none) (r : EventRegistration) : r.step env s op = r := by
  simp [EventRegistration.step, RegistrationStatus.after, hcancels, hattends]

theorem EventRegistration.step_of_cancels {registrationId : Int}
    (hcancels : op.cancels s = some registrationId) (hattends : op.attends env s = none)
    (r : EventRegistration) :
    r.step env s op = if r.id = registrationId then r.cancel else r := by
  simp only [EventRegistration.step, RegistrationStatus.after, hcancels, hattends,
    Option.some.injEq, reduceCtorEq, ↓reduceIte, eq_comm (a := registrationId)]
  split <;> rfl

theorem EventRegistration.step_of_attends {eventId : Int} {target : String}
    (hcancels : op.cancels s = none) (hattends : op.attends env s = some (eventId, target))
    (r : EventRegistration) :
    r.step env s op =
      if r.eventId = eventId ∧ r.attendeeUserId = target then { r with status := .attended }
      else r := by
  simp only [EventRegistration.step, RegistrationStatus.after, hcancels, hattends,
    Option.some.injEq, Prod.mk.injEq, reduceCtorEq, ↓reduceIte, eq_comm (a := eventId),
    eq_comm (a := target)]
  split <;> rfl

theorem cancelRegistration_of_error {call : CancelCall} {db : Database} {f : Failure}
    (h : cancelTarget call db = .error f) : cancelRegistration call db = (db, .error f) := by
  unfold cancelRegistration
  simp only [h]

theorem cancelRegistration_of_ok {call : CancelCall} {db : Database} {r : EventRegistration}
    (h : cancelTarget call db = .ok r) :
    cancelRegistration call db = (cancelled r.id db, .ok r.id) := by
  unfold cancelRegistration
  simp only [h]

theorem cancels_of_answer {call : CancelCall} {db : Database} {answer : Handler Int}
    (h : cancelRegistration call s.db = (db, answer)) :
    (Operation.cancel call).cancels s = answer.toOption := by
  rw [Operation.cancels, h]

theorem cancelled_rows (registrationId : Int) (db : Database) :
    (cancelled registrationId db).registrations.rows =
      db.registrations.rows.map fun r => if r.id = registrationId then r.cancel else r := rfl

theorem step_prefix_of_silent (op : Operation) {rows new : List EventRegistration}
    (hcancels : op.cancels s = none) (hattends : op.attends env s = none)
    (hrows : rows = s.db.registrations.rows ++ new) :
    s.db.registrations.rows.map (EventRegistration.step env s op) <+: rows := by
  rw [List.map_congr_left fun r _ => EventRegistration.step_of_silent hcancels hattends r,
    List.map_id', hrows]
  exact List.prefix_append _ _

theorem attends_eq_some {key : Int × String} :
    op.attends env s = some key ↔
      ∃ call target plan, op = .checkin call ∧ Recorded env call s target plan ∧
        key = (call.eventId, target) := by
  cases op with
  | checkin call =>
    simp only [Operation.attends, Option.ite_none_right_eq_some, submitCheckin_succeeded,
      Option.map_eq_some_iff, Operation.checkin.injEq, exists_and_left, exists_eq_left']
    constructor
    · rintro ⟨⟨target, plan, hrec⟩, target', htarget, rfl⟩
      rw [hrec.resolved] at htarget
      cases htarget
      exact ⟨target, plan, hrec, rfl⟩
    · rintro ⟨target, plan, hrec, rfl⟩
      exact ⟨⟨target, plan, hrec⟩, target, by rw [hrec.resolved]; rfl, rfl⟩
  | _ => simp [Operation.attends]

theorem attends_ne_of_cancelled (hr : r ∈ s.db.registrations.rows)
    (hcancelled : r.status = .cancelled) :
    op.attends env s ≠ some (r.eventId, r.attendeeUserId) := by
  intro hattends
  obtain ⟨call, target, plan, -, hrec, hkey⟩ := attends_eq_some.mp hattends
  obtain ⟨hfound, hlive⟩ := hrec.cleared.registered
  rw [Prod.mk.injEq] at hkey
  have hsame : findRegistration s.db call.eventId target = some r :=
    findRegistration_eq_some.mpr ⟨hr, hkey.1, hkey.2⟩
  cases hfound.symm.trans hsame
  exact hlive hcancelled

theorem serve_registrations (env : Env) :
    Machine.Appends (serve env) (fun s => s.db.registrations.rows)
      (fun s op => EventRegistration.step env s op) := by
  intro s op
  show s.db.registrations.rows.map (EventRegistration.step env s op) <+:
    (serve env s op).db.registrations.rows
  have hframe := (serve_serves env s op).frame.registrations
  cases op with
  | register call =>
    simp only [serve]
    have hrows : ∃ new, (registerForEvent call s.db).1.registrations.rows =
        s.db.registrations.rows ++ new := by
      rcases registerForEvent_cases call s.db with hsame | ⟨target, event, hregisters⟩
      · exact ⟨[], by rw [hsame, List.append_nil]⟩
      · obtain ⟨registrations, hresult, hrows⟩ := hregisters.result
        rw [hresult]
        exact ⟨_, hrows⟩
    obtain ⟨new, hrows⟩ := hrows
    exact step_prefix_of_silent (.register call) rfl rfl hrows
  | cancel call =>
    have hattends : (Operation.cancel call).attends env s = none := rfl
    simp only [serve]
    cases htarget : cancelTarget call s.db with
    | error f =>
      have hcancel := cancelRegistration_of_error htarget
      have hcancels := cancels_of_answer hcancel
      rw [hcancel]
      exact step_prefix_of_silent (.cancel call) hcancels hattends (List.append_nil _).symm
    | ok found =>
      have hcancel := cancelRegistration_of_ok htarget
      have hcancels := cancels_of_answer hcancel
      rw [hcancel, cancelled_rows,
        List.map_congr_left fun r _ => r.step_of_cancels hcancels hattends]
  | checkin call =>
    have hcancels : (Operation.checkin call).cancels s = none := rfl
    simp only [serve]
    cases hsuccess : (submitCheckin env call s).2.succeeded with
    | false =>
      have hsilent : (Operation.checkin call).attends env s = none := by
        simp [Operation.attends, hsuccess]
      rw [submitCheckin_unchanged hsuccess]
      exact step_prefix_of_silent (.checkin call) hcancels hsilent (List.append_nil _).symm
    | true =>
      obtain ⟨target, plan, hrec⟩ := submitCheckin_succeeded.mp hsuccess
      have hattends : (Operation.checkin call).attends env s = some (call.eventId, target) :=
        attends_eq_some.mpr ⟨call, target, plan, rfl, hrec, rfl⟩
      rw [List.map_congr_left fun r _ => r.step_of_attends hcancels hattends,
        hrec.effect.registrations]
  -- nothing else writes the table
  | _ =>
    rw [hframe rfl]
    exact step_prefix_of_silent _ rfl rfl (List.append_nil _).symm

theorem not_mem_attendances (ops : List Operation) (hr : r ∈ s.db.registrations.rows)
    (hcancelled : r.status = .cancelled) :
    some (r.eventId, r.attendeeUserId) ∉ attendances env s ops := by
  induction ops generalizing s r with
  | nil => exact List.not_mem_nil
  | cons op ops ih =>
    have hne : op.attends env s ≠ some (r.eventId, r.attendeeUserId) :=
      attends_ne_of_cancelled hr hcancelled
    have hstays : (r.step env s op).status = .cancelled := by
      simp [EventRegistration.step, RegistrationStatus.after, hne, hcancelled]
    intro hmem
    rcases List.mem_cons.mp hmem with heq | hmem
    · exact hne heq.symm
    · exact ih ((serve_registrations env).mem op hr) hstays hmem

theorem fate_of_cancelled (ops : List Operation) (hr : r ∈ s.db.registrations.rows)
    (hcancelled : r.status = .cancelled) : r.fate env s ops = r := by
  have hnever : some (r.eventId, r.attendeeUserId) ∉ attendances env s ops :=
    not_mem_attendances ops hr hcancelled
  simp [EventRegistration.fate, RegistrationStatus.after, hnever, ← hcancelled]

theorem fate_cons (s : Service) (op : Operation) (ops : List Operation)
    (r : EventRegistration) (hr : r ∈ s.db.registrations.rows) :
    r.fate env s (op :: ops) = (r.step env s op).fate env (serve env s op) ops := by
  have hlater : op.cancels s = some r.id →
      some (r.eventId, r.attendeeUserId) ∉ attendances env (serve env s op) ops := by
    intro hcancels
    apply not_mem_attendances (r := r.step env s op) ops ((serve_registrations env).mem op hr)
    simp [EventRegistration.step, RegistrationStatus.after, hcancels]
  have hheard : (some r.id ∈ cancellations env s (op :: ops) ↔
        op.cancels s = some r.id ∨ some r.id ∈ cancellations env (serve env s op) ops) ∧
      (some (r.eventId, r.attendeeUserId) ∈ attendances env s (op :: ops) ↔
        op.attends env s = some (r.eventId, r.attendeeUserId) ∨
          some (r.eventId, r.attendeeUserId) ∈ attendances env (serve env s op) ops) := by
    simp [cancellations, attendances, Machine.outputs, eq_comm]
  simp only [EventRegistration.fate, EventRegistration.step, hheard, RegistrationStatus.after]
  congr 1
  grind

end

theorem registrations_fate (env : Env) (s : Service) (ops : List Operation) :
    s.db.registrations.rows.map (EventRegistration.fate env s ops) <+:
      (Machine.run (serve env) s ops).db.registrations.rows := by
  apply (serve_registrations env).run (F := EventRegistration.fate env)
  · intro s r _
    simp [EventRegistration.fate, RegistrationStatus.after, cancellations, attendances,
      Machine.outputs]
  · exact fate_cons

/-- Over every run of the service, whatever its operations and its state at the start, the
registrations stay where they are with all their columns, and the status of each is what the
answers say: cancelled if a cancellation has named it, else attended if a check-in of its attendee
has succeeded, else as it was.  A cancelled one stays as it is. -/
theorem registrations_follow_answers (env : Env) (s : Service) (ops : List Operation) :
    s.db.registrations.rows.map (EventRegistration.fate env s ops) <+:
        (Machine.run (serve env) s ops).db.registrations.rows ∧
      ∀ r ∈ s.db.registrations.rows, r.status = .cancelled → r.fate env s ops = r := by
  refine ⟨registrations_fate env s ops, ?_⟩
  intro r hr hcancelled
  exact fate_of_cancelled ops hr hcancelled

end CheckinService
