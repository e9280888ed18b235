import CheckinService.Laws.Edits
import CheckinService.Laws.Lifecycle

namespace CheckinService

open Relational

def Operation.edits (s : Service) : Operation → Option (Int × Edit)
  | .update call =>
    (updateEvent call s.db).2.toOption.map fun _ => (call.eventId, call.payload.edit)
  | .delete call =>
    (deleteEvent call s.db).2.toOption.map fun _ =>
      (call.eventId, { status := .supplied .cancelled })
  | _ => none

def Event.step (s : Service) (op : Operation) (e : Event) : Event :=
  (editOf e.id (op.edits s)).apply e

def acceptedEdits (env : Env) : Service → List Operation → List (Option (Int × Edit)) :=
  Machine.outputs (serve env) fun s op => op.edits s

def Event.fate (env : Env) (s : Service) (ops : List Operation) (e : Event) : Event :=
  (Edit.all ((acceptedEdits env s ops).map (editOf e.id))).apply e

section

variable {env : Env} {s : Service} {op : Operation} {e : Event}

theorem Event.step_of_silent (h : op.edits s = none) (e : Event) : e.step s op = e := by
  rw [Event.step, h]
  rfl

theorem replaced_rows {eventId : Int} {edit : Edit} {old : Event}
    (hedits : op.edits s = some (eventId, edit)) (hold : old ∈ s.db.events.rows)
    (hid : old.id = eventId) :
    (s.db.events.rows.map fun e => if e = old then edit.apply old else e) =
      s.db.events.rows.map (Event.step s op) := by
  apply List.map_congr_left
  intro e he
  rw [Event.step, hedits, editOf]
  by_cases hsame : e = old
  · rw [if_pos hsame, hsame, if_pos hid.symm]
  · have hother : eventId ≠ e.id := by
      intro heq
      exact hsame (s.db.events.eq_of_id he hold (heq.symm.trans hid.symm))
    rw [if_neg hsame, if_neg hother]
    rfl

theorem serve_edits (env : Env) :
    Machine.Appends (serve env) (fun s => s.db.events.rows) Event.step := by
  intro s op
  have hsilent : op.edits s = none → ∀ new,
      (serve env s op).db.events.rows = s.db.events.rows ++ new →
        s.db.events.rows.map (Event.step s op) <+: (serve env s op).db.events.rows := by
    intro hedits new hrows
    rw [List.map_congr_left fun e _ => Event.step_of_silent hedits e, List.map_id', hrows]
    exact List.prefix_append _ _
  have hframe := (serve_serves env s op).frame.events
  cases op with
  | create call =>
    have hedits : (Operation.create call).edits s = none := rfl
    simp only [serve] at hsilent ⊢
    rcases createEvent_cases call s.db with hsame | ⟨event, hcreates⟩
    · exact hsilent hedits [] (by rw [hsame, List.append_nil])
    · exact hsilent hedits [event] hcreates.rows
  | update call =>
    have hanswer : ∀ {db answer}, updateEvent call s.db = (db, answer) →
        (Operation.update call).edits s =
          answer.toOption.map fun _ => (call.eventId, call.payload.edit) := by
      intro db answer h
      rw [Operation.edits, h]
    simp only [serve] at hsilent ⊢
    cases howned : ownEvent call.actor call.eventId s.db with
    | error f =>
      have hresult := updateEvent_of_not_own howned
      exact hsilent (hanswer hresult) [] (by simp [hresult])
    | ok old =>
      obtain ⟨hmem, hid, -⟩ := ownEvent_eq_ok.mp howned
      cases hpatched : patched call.payload old with
      | error f =>
        have hresult := updateEvent_of_error howned hpatched
        exact hsilent (hanswer hresult) [] (by simp [hresult])
      | ok new =>
        have hresult := updateEvent_of_ok howned hpatched
        have hpatches := (patched_patches hpatched).2
        rw [hresult]
        simp only [saveEvent_rows hmem hpatches.same]
        rw [hpatches.eq_apply, replaced_rows (hanswer hresult) hmem hid]
  | delete call =>
    have hanswer : ∀ {db answer}, deleteEvent call s.db = (db, answer) →
        (Operation.delete call).edits s =
          answer.toOption.map fun _ => (call.eventId, { status := .supplied .cancelled }) := by
      intro db answer h
      rw [Operation.edits, h]
    simp only [serve] at hsilent ⊢
    cases howned : ownEvent call.actor call.eventId s.db with
    | error f =>
      have hresult : deleteEvent call s.db = (s.db, .error f) := by simp [deleteEvent, howned]
      exact hsilent (hanswer hresult) [] (by simp [hresult])
    | ok old =>
      obtain ⟨hmem, hid, -⟩ := ownEvent_eq_ok.mp howned
      have hresult : deleteEvent call s.db =
          (saveEvent { old with status := .cancelled } s.db, .ok call.eventId) := by
        simp [deleteEvent, howned]
      have hsame : Event.Same old { old with status := .cancelled } :=
        ⟨rfl, rfl, rfl, rfl, rfl, rfl⟩
      have hrows := saveEvent_rows hmem hsame
      rw [hresult]
      simp only [hrows]
      rw [← replaced_rows (hanswer hresult) hmem hid]
      exact List.prefix_refl _
  | _ => exact hsilent rfl [] (by rw [hframe rfl, List.append_nil])

theorem Event.fate_cons (s : Service) (op : Operation) (ops : List Operation) (e : Event) :
    e.fate env s (op :: ops) = (e.step s op).fate env (serve env s op) ops := by
  have hid : (e.step s op).id = e.id := rfl
  simp only [Event.fate, acceptedEdits, Machine.outputs, List.map_cons, Edit.all_cons,
    Edit.apply_andThen, hid]
  rfl

theorem events_fate (env : Env) (s : Service) (ops : List Operation) :
    s.db.events.rows.map (Event.fate env s ops) <+:
      (Machine.run (serve env) s ops).db.events.rows := by
  apply (serve_edits env).run (F := Event.fate env)
  · intro s e _
    rfl
  · exact fun s op ops e _ => e.fate_cons s op ops

end

/-- Over every run of the service, whatever its operations and its state at the start, the events
stay where they are, and each column is what the last PATCH or DELETE that was accepted for the
event and supplied the column has written; the others, and those that no request reaches, are as
they were. -/
theorem events_follow_answers (env : Env) (s : Service) (ops : List Operation) :
    s.db.events.rows.map (Event.fate env s ops) <+:
        (Machine.run (serve env) s ops).db.events.rows ∧
      ∀ e ∈ s.db.events.rows, ∀ e' ∈ (Machine.run (serve env) s ops).db.events.rows,
        e'.id = e.id → e' = e.fate env s ops := by
  have hfate := events_fate env s ops
  refine ⟨hfate, ?_⟩
  intro e he e' he' hid
  exact (Machine.run (serve env) s ops).db.events.eq_of_id he'
    (hfate.subset (List.mem_map_of_mem he)) hid

end CheckinService
