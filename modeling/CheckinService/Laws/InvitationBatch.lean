import CheckinService.Laws.Factors
import CheckinService.Laws.InvitationSteps
import Mathlib.Data.Finset.Card

namespace CheckinService

open Relational

def IsInvitation (eventId : Int) (inviteeUserId : String) (i : EventInvitation) : Prop :=
  i.eventId = eventId ∧ i.inviteeUserId = inviteeUserId

instance (rows : List EventInvitation) (eventId : Int) (inviteeUserId : String) :
    Decidable (InvitedIn rows eventId inviteeUserId) := by
  unfold InvitedIn
  infer_instance

def newInvitees (rows : List EventInvitation) (eventId : Int)
    (invitees : List InvitationSendItem) : Finset String :=
  (invitees.map InvitationSendItem.inviteeUserId).toFinset.filter
    fun id => ¬ InvitedIn rows eventId id

def firstMention (invitees : List InvitationSendItem) (inviteeUserId : String) :
    Option InvitationSendItem :=
  invitees.find? fun item => item.inviteeUserId = inviteeUserId

theorem invitedIn_append {old new : List EventInvitation} {eventId : Int} {user : String} :
    InvitedIn (old ++ new) eventId user ↔
      InvitedIn old eventId user ∨ InvitedIn new eventId user := by
  simp only [InvitedIn, List.mem_append, or_and_right, exists_or]

theorem firstMention_eq_none {invitees : List InvitationSendItem} {user : String} :
    firstMention invitees user = none ↔
      user ∉ invitees.map InvitationSendItem.inviteeUserId := by
  simp [firstMention, List.find?_eq_none]

theorem firstMention_append_of_some {done rest : List InvitationSendItem} {user : String}
    {item : InvitationSendItem} (h : firstMention done user = some item) :
    firstMention (done ++ rest) user = some item := by
  rw [firstMention, List.find?_append]
  exact Option.or_of_isSome (by rw [← firstMention, h]; rfl) |>.trans h

theorem firstMention_append_self {done : List InvitationSendItem} {item : InvitationSendItem}
    (h : item.inviteeUserId ∉ done.map InvitationSendItem.inviteeUserId) :
    firstMention (done ++ [item]) item.inviteeUserId = some item := by
  have hdone : done.find? (fun x => x.inviteeUserId = item.inviteeUserId) = none :=
    firstMention_eq_none.mpr h
  simp [firstMention, List.find?_append, hdone]

structure Processed (c : Crypto) (call : SendCall) (event : Event) (db : Database)
    (new : List EventInvitation) (done : List InvitationSendItem) (batch : Batch) : Prop where
  rest : batch.db = { db with invitations := batch.db.invitations }
  rows : batch.db.invitations.rows = db.invitations.rows ++ new
  nodup : (new.map EventInvitation.inviteeUserId).Nodup
  fresh : ∀ user, user ∈ new.map EventInvitation.inviteeUserId ↔
    user ∈ done.map InvitationSendItem.inviteeUserId ∧
      ¬ InvitedIn db.invitations.rows call.eventId user
  made : ∀ i ∈ new, ∃ item, firstMention done i.inviteeUserId = some item ∧
    i = newInvitation c call event item i.id
  sent : batch.sent = new.length
  total : batch.sent + batch.alreadyExisted = done.length
  answered : List.Forall₂
    (fun item i => i ∈ batch.db.invitations.rows ∧
      IsInvitation call.eventId item.inviteeUserId i) done batch.rows

section

variable {c : Crypto} {call : SendCall} {event : Event} {db : Database}
  {new : List EventInvitation} {done : List InvitationSendItem} {batch : Batch}
  {item : InvitationSendItem}

theorem Processed.eventId (h : Processed c call event db new done batch) {i : EventInvitation}
    (hi : i ∈ new) : i.eventId = call.eventId := by
  obtain ⟨item, -, heq⟩ := h.made i hi
  rw [heq]
  rfl

theorem Processed.invitedIn_new (h : Processed c call event db new done batch) {user : String} :
    InvitedIn new call.eventId user ↔ user ∈ new.map EventInvitation.inviteeUserId := by
  rw [List.mem_map]
  constructor
  · rintro ⟨i, hi, -, huser⟩
    exact ⟨i, hi, huser⟩
  · rintro ⟨i, hi, huser⟩
    exact ⟨i, hi, h.eventId hi, huser⟩

theorem Processed.invitedIn (h : Processed c call event db new done batch) {user : String} :
    InvitedIn batch.db.invitations.rows call.eventId user ↔
      InvitedIn db.invitations.rows call.eventId user ∨
        user ∈ done.map InvitationSendItem.inviteeUserId := by
  rw [h.rows, invitedIn_append, h.invitedIn_new, h.fresh]
  tauto

theorem Processed.existing (h : Processed c call event db new done batch)
    {existing : EventInvitation}
    (hfound : findInvitation batch.db call.eventId item.inviteeUserId = some existing) :
    Processed c call event db new (done ++ [item]) (batch.existing existing) := by
  have hrow := Table.first_eq_some hfound
  simp only [Bool.and_eq_true, decide_eq_true_eq] at hrow
  have hinvited : InvitedIn batch.db.invitations.rows call.eventId item.inviteeUserId :=
    ⟨existing, hrow.1, hrow.2⟩
  rw [h.rows, invitedIn_append, h.invitedIn_new] at hinvited
  refine ⟨h.rest, h.rows, h.nodup, ?_, ?_, h.sent, ?_, ?_⟩
  · intro user
    rw [h.fresh, List.map_append, List.mem_append]
    constructor
    · rintro ⟨hdone, hold⟩
      exact ⟨Or.inl hdone, hold⟩
    · rintro ⟨hdone | hlast, hold⟩
      · exact ⟨hdone, hold⟩
      · rw [List.map_singleton, List.mem_singleton] at hlast
        rw [hlast] at hold ⊢
        exact (h.fresh _).mp (hinvited.resolve_left hold)
  · intro i hi
    obtain ⟨first, hfirst, heq⟩ := h.made i hi
    exact ⟨first, firstMention_append_of_some hfirst, heq⟩
  · rw [List.length_append, ← h.total]
    rfl
  · exact List.rel_append h.answered (.cons ⟨hrow.1, hrow.2⟩ .nil)

theorem Processed.add (h : Processed c call event db new done batch)
    (hmissing : findInvitation batch.db call.eventId item.inviteeUserId = none) :
    ∃ i batch', sendOne c call event batch item = .ok batch' ∧
      Processed c call event db (new ++ [i]) (done ++ [item]) batch' := by
  have hunseen := find?_eq_none_iff_not_invitedIn.mp hmissing
  obtain ⟨hold, hlater⟩ := not_or.mp (mt h.invitedIn.mpr hunseen)
  have hnew : item.inviteeUserId ∉ new.map EventInvitation.inviteeUserId := by
    rw [h.fresh]
    exact fun hmem => hlater hmem.1
  obtain ⟨table, htable, hrows⟩ := insert?_newInvitation c event hmissing
  refine ⟨newInvitation c call event item batch.db.invitations.nextId,
    { batch with
      db := { batch.db with invitations := table }
      sent := batch.sent + 1
      rows := batch.rows ++ [newInvitation c call event item batch.db.invitations.nextId] }, ?_, ?_⟩
  · rw [sendOne, hmissing]
    simp only [htable]
  refine ⟨?_, ?_, ?_, ?_, ?_, ?_, ?_, ?_⟩
  · change ({ batch.db with invitations := table } : Database) = _
    rw [h.rest]
  · change table.rows = _
    rw [hrows, h.rows, List.append_assoc]
  · rw [List.map_append, List.nodup_append]
    exact ⟨h.nodup, List.nodup_singleton _, fun x hx y hy => by
      rintro rfl
      rw [List.mem_singleton.mp hy] at hx
      exact hnew hx⟩
  · intro user
    rw [List.map_append, List.map_append, List.mem_append, List.mem_append, h.fresh, or_and_right]
    apply or_congr_right
    simp only [List.map_singleton, List.mem_singleton]
    constructor
    · rintro rfl
      exact ⟨rfl, hold⟩
    · rintro ⟨rfl, -⟩
      rfl
  · intro i hi
    rcases List.mem_append.mp hi with hi | hi
    · obtain ⟨first, hfirst, heq⟩ := h.made i hi
      exact ⟨first, firstMention_append_of_some hfirst, heq⟩
    · rw [List.mem_singleton.mp hi]
      exact ⟨item, firstMention_append_self hlater, rfl⟩
  · change batch.sent + 1 = _
    rw [h.sent, List.length_append]
    rfl
  · change batch.sent + 1 + batch.alreadyExisted = _
    rw [List.length_append, ← h.total, List.length_singleton]
    omega
  · change List.Forall₂ (fun item i => i ∈ table.rows ∧ _) _ (batch.rows ++ [_])
    rw [hrows]
    refine List.rel_append (h.answered.imp fun item i hi => ?_) (.cons ⟨?_, rfl, rfl⟩ .nil)
    · exact ⟨List.mem_append_left _ hi.1, hi.2⟩
    · exact List.mem_append_right _ (List.mem_singleton_self _)

theorem Processed.sendOne (h : Processed c call event db new done batch)
    (item : InvitationSendItem) :
    ∃ batch', sendOne c call event batch item = .ok batch' ∧
      ∃ new', Processed c call event db new' (done ++ [item]) batch' := by
  cases hfind : findInvitation batch.db call.eventId item.inviteeUserId with
  | some existing =>
    refine ⟨batch.existing existing, ?_, new, h.existing hfind⟩
    rw [CheckinService.sendOne, hfind]
  | none =>
    obtain ⟨i, batch', hturn, hadded⟩ := h.add hfind
    exact ⟨batch', hturn, new ++ [i], hadded⟩

theorem processed_all (c : Crypto) (call : SendCall) (event : Event) (db : Database)
    (invitees : List InvitationSendItem) :
    ∃ batch, invitees.foldlM (CheckinService.sendOne c call event) { db := db } = .ok batch ∧
      ∃ new, Processed c call event db new invitees batch := by
  refine Except.foldlM_prefix
    (P := fun done batch => ∃ new, Processed c call event db new done batch)
    (fun done item batch ⟨new, h⟩ => h.sendOne item) invitees [] ⟨[], ?_⟩
  exact ⟨rfl, (List.append_nil _).symm, List.nodup_nil, by simp, by simp, rfl, rfl, .nil⟩

theorem Processed.newInvitees_eq (h : Processed c call event db new done batch) :
    (new.map EventInvitation.inviteeUserId).toFinset =
      newInvitees db.invitations.rows call.eventId done := by
  ext user
  rw [List.mem_toFinset, h.fresh, newInvitees, Finset.mem_filter, List.mem_toFinset]

theorem Processed.card_newInvitees (h : Processed c call event db new done batch) :
    (newInvitees db.invitations.rows call.eventId done).card = batch.sent := by
  rw [← h.newInvitees_eq, List.toFinset_card_of_nodup h.nodup, List.length_map, h.sent]

end

structure BatchAccounted (c : Crypto) (call : SendCall) (event : Event) (db db' : Database)
    (response : InvitationCreateBatchResponse) : Prop where
  total : response.sent + response.alreadyExisted = call.payload.invitees.length
  sent : response.sent =
    (newInvitees db.invitations.rows call.eventId call.payload.invitees).card
  answered : List.Forall₂
    (fun item row => ∃ i, row = i.batchRow ∧
      ∀ j, j ∈ db'.invitations.rows ∧ IsInvitation call.eventId item.inviteeUserId j ↔ j = i)
    call.payload.invitees response.invitations
  rest : db' = { db with invitations := db'.invitations }
  added : ∃ new, db'.invitations.rows = db.invitations.rows ++ new ∧
    (new.map EventInvitation.inviteeUserId).Nodup ∧
    (new.map EventInvitation.inviteeUserId).toFinset =
      newInvitees db.invitations.rows call.eventId call.payload.invitees ∧
    ∀ i ∈ new, ∃ item, firstMention call.payload.invitees i.inviteeUserId = some item ∧
      i = newInvitation c call event item i.id

/-- The batch of an organizer tells each invitee's row, counts the new ones, and adds these
and nothing else. -/
theorem batch_accounted (c : Crypto) (call : SendCall) (db : Database) (event : Event)
    (h : organizedEvent call.actor call.eventId db = .ok event) :
    ∃ response, (sendInvitations c call db).2 = .ok response ∧
      BatchAccounted c call event db (sendInvitations c call db).1 response := by
  obtain ⟨batch, hloop, new, hbatch⟩ := processed_all c call event db call.payload.invitees
  have hsend : sendInvitations c call db = (batch.db, .ok batch.response) := by
    rw [sendInvitations, h]
    simp only [hloop]
  rw [hsend]
  refine ⟨batch.response, rfl, hbatch.total, hbatch.card_newInvitees.symm, ?_, hbatch.rest,
    new, hbatch.rows, hbatch.nodup, hbatch.newInvitees_eq, hbatch.made⟩
  refine List.forall₂_map_right_iff.mpr (hbatch.answered.imp ?_)
  rintro item i ⟨hi, hevent, huser⟩
  refine ⟨i, rfl, fun j => ⟨?_, ?_⟩⟩
  · rintro ⟨hj, hevent', huser'⟩
    refine batch.db.invitations.eq_of_key (k := (call.eventId, item.inviteeUserId)) hj hi ?_ ?_
    · simp [Row.keys, hevent', huser']
    · simp [Row.keys, hevent, huser]
  · rintro rfl
    exact ⟨hi, hevent, huser⟩

def sampleRepeats : SendCall where
  eventId := 1
  payload :=
    { invitees := [.plain "guest-1" (by decide), .plain "guest-2" (by decide),
        .plain "guest-1" (by decide)] }
  actor := sampleCoach

theorem batch_accounted_repeats :
    ∃ response, (sendInvitations sampleCrypto sampleRepeats sampleDatabase).2 = .ok response ∧
      BatchAccounted sampleCrypto sampleRepeats sampleEvent sampleDatabase
        (sendInvitations sampleCrypto sampleRepeats sampleDatabase).1 response :=
  batch_accounted sampleCrypto sampleRepeats sampleDatabase sampleEvent (by decide +kernel)

example :
    ((sendInvitations sampleCrypto sampleRepeats sampleDatabase).2.map
      fun r => (r.sent, r.alreadyExisted, r.invitations.map InvitationCreateBatchRow.id)) =
      .ok (2, 1, [1, 2, 1]) := by
  decide +kernel

end CheckinService
