import CheckinService.Lib.Except
import CheckinService.Routers.Invitations

namespace CheckinService

open Relational

theorem resolveEventForOwner_eq_ok {db : Database} {eventId : Int} {actor : Actor}
    {event : Event} :
    resolveEventForOwner db eventId actor = .ok event ↔
      event ∈ db.events.rows ∧ event.id = eventId ∧
        event.schoolId ∈ candidateTenants actor := by
  have hfirst : (db.events.first fun e => e.id = eventId && e.schoolId ∈ candidateTenants actor) =
      some event ↔ event ∈ db.events.rows ∧ event.id = eventId ∧
        event.schoolId ∈ candidateTenants actor :=
    Table.first_id_and_eq_some
  rw [← hfirst, resolveEventForOwner]
  split
  · rename_i hnone
    simp [hnone, Table.first, List.find?_eq_some_iff_append]
  · split <;> simp [*]

theorem organizedEvent_eq_ok {actor : Actor} {eventId : Int} {db : Database} {event : Event} :
    organizedEvent actor eventId db = .ok event ↔
      event ∈ db.events.rows ∧ event.id = eventId ∧ event.schoolId ∈ candidateTenants actor ∧
        assertEventOwnerOrAdmin actor event.ownerUserId event.schoolId = .ok () := by
  simp only [organizedEvent, Except.bind_eq_ok, resolveEventForOwner_eq_ok, pure, Except.pure,
    Except.ok.injEq]
  constructor
  · rintro ⟨found, ⟨hmem, hid, htenant⟩, _, hassert, rfl⟩
    exact ⟨hmem, hid, htenant, hassert⟩
  · rintro ⟨hmem, hid, htenant, hassert⟩
    exact ⟨event, ⟨hmem, hid, htenant⟩, (), hassert, rfl⟩

theorem organizedEvent_of_events {actor : Actor} {eventId : Int} {db db' : Database}
    (h : db'.events = db.events) :
    organizedEvent actor eventId db' = organizedEvent actor eventId db := by
  simp only [organizedEvent, resolveEventForOwner, h]

def Invites (call : SendCall) (event : Event) (db db' : Database) : Prop :=
  db' = { db with invitations := db'.invitations } ∧
    ∃ new, db'.invitations.rows = db.invitations.rows ++ new ∧
      ∀ i ∈ new, i.eventId = call.eventId ∧ i.schoolId = event.schoolId

theorem sendOne_cases {c : Crypto} {call : SendCall} {event : Event} {batch batch' : Batch}
    {item : InvitationSendItem} (hturn : sendOne c call event batch item = .ok batch') :
    batch'.db = batch.db ∨
      batch'.db = { batch.db with invitations := batch'.db.invitations } ∧
        batch'.db.invitations.rows = batch.db.invitations.rows ++
          [newInvitation c call event item batch.db.invitations.nextId] := by
  rw [sendOne] at hturn
  split at hturn
  · cases hturn
    exact Or.inl rfl
  · simp only at hturn
    split at hturn
    · rename_i invitations hinsert
      cases hturn
      exact Or.inr ⟨rfl, (Table.insert?_eq_some.mp hinsert).2⟩
    · cases hturn

theorem Invites.sendOne {c : Crypto} {call : SendCall} {event : Event} {db : Database}
    {batch batch' : Batch} {item : InvitationSendItem} (h : Invites call event db batch.db)
    (hturn : sendOne c call event batch item = .ok batch') :
    Invites call event db batch'.db := by
  rcases sendOne_cases hturn with hsame | ⟨hdb, hadded⟩
  · rw [hsame]
    exact h
  · obtain ⟨hrest, new, hrows, hnew⟩ := h
    refine ⟨?_, new ++ [newInvitation c call event item batch.db.invitations.nextId], ?_, ?_⟩
    · rw [hdb, hrest]
    · rw [hadded, hrows, List.append_assoc]
    · intro i hi
      rcases List.mem_append.mp hi with hi | hi
      · exact hnew i hi
      · rw [List.mem_singleton.mp hi]
        exact ⟨rfl, rfl⟩

theorem sendInvitations_cases (c : Crypto) (call : SendCall) (db : Database) :
    (sendInvitations c call db).1 = db ∨
      ∃ event, organizedEvent call.actor call.eventId db = .ok event ∧
        Invites call event db (sendInvitations c call db).1 := by
  rw [sendInvitations]
  split
  · exact Or.inl rfl
  · rename_i event hevent
    split
    · exact Or.inl rfl
    · rename_i batch hloop
      refine Or.inr ⟨event, hevent, ?_⟩
      apply Except.foldlM_invariant (P := fun batch => Invites call event db batch.db) _ _ hloop
      · intro batch item batch' h hturn
        exact h.sendOne hturn
      · exact ⟨rfl, [], (List.append_nil _).symm, by simp⟩

theorem sendInvitations_brings {c : Crypto} {call : SendCall} {db : Database}
    {i : EventInvitation} (hi : i ∈ (sendInvitations c call db).1.invitations.rows) :
    i ∈ db.invitations.rows ∨
      ∃ event item id, i = newInvitation c call event item id := by
  rw [sendInvitations] at hi
  split at hi
  · exact Or.inl hi
  · rename_i event hevent
    split at hi
    · exact Or.inl hi
    · rename_i batch hloop
      revert i
      apply Except.foldlM_invariant
        (P := fun batch : Batch => ∀ i ∈ batch.db.invitations.rows, i ∈ db.invitations.rows ∨
          ∃ event item id, i = newInvitation c call event item id) _ _ hloop
      · intro batch item batch' h hturn i hi
        rcases sendOne_cases hturn with hsame | ⟨-, hadded⟩
        · rw [hsame] at hi
          exact h i hi
        · rw [hadded] at hi
          rcases List.mem_append.mp hi with hi | hi
          · exact h i hi
          · exact Or.inr ⟨event, item, _, List.mem_singleton.mp hi⟩
      · intro i hi
        exact Or.inl hi

theorem respondTarget_eq_ok {call : RespondCall} {db : Database} {i : EventInvitation} :
    respondTarget call db = .ok i ↔
      i ∈ db.invitations.rows ∧ i.id = call.invitationId ∧ i.eventId = call.eventId ∧
        call.actor.userId = some i.inviteeUserId := by
  have hfirst : (db.invitations.first fun i =>
      i.id = call.invitationId && i.eventId = call.eventId) = some i ↔
      i ∈ db.invitations.rows ∧ i.id = call.invitationId ∧ i.eventId = call.eventId :=
    Table.first_id_and_eq_some
  rw [← and_assoc, ← and_assoc, and_assoc (a := i ∈ _), ← hfirst, respondTarget]
  split
  · rename_i hnone
    simp [hnone, httpError]
  · rename_i found hfound
    rw [hfound, Option.some.injEq]
    split
    · rename_i hself
      rw [Except.ok.injEq]
      exact ⟨fun h => ⟨h, h ▸ hself⟩, And.left⟩
    · rename_i hself
      simp only [httpError, reduceCtorEq, false_iff, not_and]
      rintro rfl
      exact hself

theorem respondToInvitation_cases (call : RespondCall) (db : Database) :
    (respondToInvitation call db).1 = db ∨
      ∃ i, respondTarget call db = .ok i ∧
        (respondToInvitation call db).1 = responded call i.id db := by
  rw [respondToInvitation]
  cases htarget : respondTarget call db with
  | error f => exact Or.inl rfl
  | ok i => exact Or.inr ⟨i, rfl, rfl⟩

end CheckinService
