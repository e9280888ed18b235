import CheckinService.Laws.Invitations
import CheckinService.Routers.InvitationSteps
import Mathlib.Logic.Function.Iterate

namespace CheckinService

open Relational

def InvitedIn (rows : List EventInvitation) (eventId : Int) (inviteeUserId : String) : Prop :=
  ∃ r ∈ rows, r.eventId = eventId ∧ r.inviteeUserId = inviteeUserId

section

variable {ι : Type} {c : Crypto} {call : SendCall} {event : Event} {item : InvitationSendItem}

theorem clash_newInvitation {t : Table EventInvitation} {r : EventInvitation} (hr : r ∈ t.rows) :
    Clash r (newInvitation c call event item t.nextId) ↔
      r.eventId = call.eventId ∧ r.inviteeUserId = item.inviteeUserId := by
  have hid : Row.id r ≠ t.nextId := by
    have := Table.id_lt_nextId hr
    omega
  simp only [Clash, Row.keys, newInvitation, List.mem_singleton, exists_eq_left, Prod.mk.injEq]
  exact or_iff_right hid

variable [DecidableEq ι] {s : InvitationServer ι} {i : ι} {snapshot : Database}
  {eventId : Int} {inviteeUserId : String}

theorem find?_eq_none_iff_not_invitedIn {rows : List EventInvitation} :
    (rows.find? fun r => r.eventId = eventId && r.inviteeUserId = inviteeUserId) = none ↔
      ¬ InvitedIn rows eventId inviteeUserId := by
  simp [InvitedIn, List.find?_eq_none]

theorem findInvitation_eq_none :
    s.findInvitation i snapshot eventId inviteeUserId = none ↔
      ¬ InvitedIn (s.visible i snapshot) eventId inviteeUserId := find?_eq_none_iff_not_invitedIn

theorem insert?_newInvitation (c : Crypto) (event : Event) {db : Database}
    (h : CheckinService.findInvitation db call.eventId item.inviteeUserId = none) :
    ∃ table, db.invitations.insert? (newInvitation c call event item db.invitations.nextId) =
        some table ∧
      table.rows =
        db.invitations.rows ++ [newInvitation c call event item db.invitations.nextId] := by
  cases hinsert : db.invitations.insert?
      (newInvitation c call event item db.invitations.nextId) with
  | some table => exact ⟨table, rfl, (Table.insert?_eq_some.mp hinsert).2⟩
  | none =>
    obtain ⟨r, hr, hclash⟩ := Table.insert?_eq_none.mp hinsert
    exact absurd ⟨r, hr, (clash_newInvitation hr).mp hclash⟩
      (find?_eq_none_iff_not_invitedIn.mp h)

theorem invitedIn_of_findInvitation {r : EventInvitation}
    (h : s.findInvitation i snapshot eventId inviteeUserId = some r) :
    InvitedIn (s.visible i snapshot) eventId inviteeUserId := by
  by_contra hnone
  rw [findInvitation_eq_none.mpr hnone] at h
  cases h

end

inductive InvitationMove {ι : Type} [DecidableEq ι] (c : Crypto) (call : SendCall) (i : ι)
    (s : InvitationServer ι) :
    InvitationPhase → InvitationServer ι → InvitationPhase → Prop where
  | fail {f} (organized : organizedEvent call.actor call.eventId s.db = .error f) :
      InvitationMove c call i s .start s (.ended (.error f))
  | begin {event} :
      InvitationMove c call i s .start s
        (.looping event { db := s.snapshot } call.payload.invitees)
  | found {event batch item rest existing}
      (seen : InvitedIn (s.visible i batch.db) call.eventId item.inviteeUserId) :
      InvitationMove c call i s (.looping event batch (item :: rest)) s
        (.looping event (batch.existing existing) rest)
  | miss {event batch item rest}
      (unseen : ¬ InvitedIn (s.visible i batch.db) call.eventId item.inviteeUserId) :
      InvitationMove c call i s (.looping event batch (item :: rest)) s
        (.inserting event batch item rest)
  | insert {event batch item rest invite invitations}
      (invite_eq : invite = newInvitation c call event item s.db.invitations.nextId)
      (stored : s.invitations.insert i invite = .stored invitations) :
      InvitationMove c call i s (.inserting event batch item rest) (s.save invitations)
        (.looping event (batch.add invite) rest)
  | conflict {event batch item rest}
      (refused : s.invitations.insert i
        (newInvitation c call event item s.db.invitations.nextId) = .refused) :
      InvitationMove c call i s (.inserting event batch item rest) s
        (.refused event batch item rest)
  | wait {event batch item rest}
      (waits : s.invitations.insert i
        (newInvitation c call event item s.db.invitations.nextId) = .waits) :
      InvitationMove c call i s (.inserting event batch item rest) s
        (.inserting event batch item rest)
  | recover {event batch item rest existing}
      (seen : InvitedIn (s.visible i batch.db) call.eventId item.inviteeUserId) :
      InvitationMove c call i s (.refused event batch item rest) s
        (.looping event (batch.existing existing) rest)
  | lose {event batch item rest}
      (unseen : ¬ InvitedIn (s.visible i batch.db) call.eventId item.inviteeUserId) :
      InvitationMove c call i s (.refused event batch item rest)
        (s.save (s.invitations.rollback i)) (.ended (.error (.unhandled .integrityError)))
  | commit {event batch} :
      InvitationMove c call i s (.looping event batch []) (s.save (s.invitations.commit i))
        (.ended (.ok batch.response))
  | finish {result} : InvitationMove c call i s (.ended result) s (.ended result)

theorem invitationStep_move {ι : Type} [DecidableEq ι] (c : Crypto) (call : SendCall) (i : ι)
    (s : InvitationServer ι) (p : InvitationPhase) :
    InvitationMove c call i s p (invitationStep c call i s p).1
      (invitationStep c call i s p).2 := by
  cases p with
  | start =>
    simp only [invitationStep]
    split
    · rename_i horganized
      exact .fail horganized
    · exact .begin
  | looping event batch rest =>
    cases rest with
    | nil => exact .commit
    | cons item rest =>
      simp only [invitationStep]
      split
      · rename_i hfound
        exact .found (invitedIn_of_findInvitation hfound)
      · rename_i hmissing
        exact .miss (findInvitation_eq_none.mp hmissing)
  | inserting event batch item rest =>
    simp only [invitationStep]
    split
    · rename_i hstored
      exact .insert rfl hstored
    · rename_i hrefused
      exact .conflict hrefused
    · rename_i hwaits
      exact .wait hwaits
  | refused event batch item rest =>
    simp only [invitationStep]
    split
    · rename_i hfound
      exact .recover (invitedIn_of_findInvitation hfound)
    · rename_i hmissing
      exact .lose (findInvitation_eq_none.mp hmissing)
  | ended result => exact .finish

def soloInvitation (c : Crypto) (call : SendCall) (x : InvitationServer Unit × InvitationPhase) :
    InvitationServer Unit × InvitationPhase := invitationStep c call () x.1 x.2

structure SoloAgrees (s : InvitationServer Unit) (batch seq : Batch) : Prop where
  db : s.db = seq.db
  visible : s.visible () batch.db = seq.db.invitations.rows
  counts : batch = { seq with db := batch.db }

section

variable (c : Crypto) (call : SendCall) (event : Event) (item : InvitationSendItem)
  {s : InvitationServer Unit} {batch seq : Batch} (rest : List InvitationSendItem)

theorem SoloAgrees.findInvitation (h : SoloAgrees s batch seq) (eventId : Int) (user : String) :
    s.findInvitation () batch.db eventId user =
      CheckinService.findInvitation seq.db eventId user := by
  rw [InvitationServer.findInvitation, h.visible]
  rfl

theorem SoloAgrees.turn (h : SoloAgrees s batch seq) :
    ∃ n s' batch' seq', (soloInvitation c call)^[n] (s, .looping event batch (item :: rest)) =
        (s', .looping event batch' rest) ∧
      sendOne c call event seq item = .ok seq' ∧ SoloAgrees s' batch' seq' := by
  have hlookup := h.findInvitation call.eventId item.inviteeUserId
  rw [sendOne]
  cases hfind : CheckinService.findInvitation seq.db call.eventId item.inviteeUserId with
  | some existing =>
    rw [hfind] at hlookup
    refine ⟨1, s, batch.existing existing, _, ?_, rfl, h.db, h.visible, ?_⟩
    · simp only [Function.iterate_one, soloInvitation, invitationStep, hlookup]
    · rw [h.counts]
      rfl
  | none =>
    rw [hfind] at hlookup
    obtain ⟨table, htable, hrows⟩ := insert?_newInvitation c event hfind
    rw [← h.db] at htable hrows
    obtain ⟨stored, hstored, rfl⟩ : ∃ stored, s.invitations.insert ()
        (newInvitation c call event item s.db.invitations.nextId) = .stored stored ∧
          stored.table = table := ⟨_, Store.insert_of_insert? htable, rfl⟩
    have hown := Store.insert_own_rows hstored
    simp only [← h.db, htable]
    refine ⟨2, s.save stored,
      batch.add (newInvitation c call event item s.db.invitations.nextId), _, ?_, rfl, rfl, ?_, ?_⟩
    · simp only [Function.iterate_succ_apply, Function.iterate_zero, id, soloInvitation,
        invitationStep, hlookup, hstored]
    · change batch.db.invitations.rows ++ (stored.own ()).rows = stored.table.rows
      rw [hown, ← List.append_assoc, hrows]
      change s.visible () batch.db ++ _ = _
      rw [h.visible, ← h.db]
    · rw [h.counts]
      rfl

theorem SoloAgrees.loop (h : SoloAgrees s batch seq) :
    ∃ n s' batch' seq', (soloInvitation c call)^[n] (s, .looping event batch rest) =
        (s', .looping event batch' []) ∧
      rest.foldlM (sendOne c call event) seq = .ok seq' ∧ SoloAgrees s' batch' seq' := by
  induction rest generalizing s batch seq with
  | nil => exact ⟨0, s, batch, seq, rfl, rfl, h⟩
  | cons item rest ih =>
    obtain ⟨m, s₁, batch₁, seq₁, hsteps, hturn, hagrees⟩ :=
      h.turn c call event item rest
    obtain ⟨n, s₂, batch₂, seq₂, hsteps', hloop, hagrees'⟩ := ih hagrees
    refine ⟨n + m, s₂, batch₂, seq₂, ?_, ?_, hagrees'⟩
    · rw [Function.iterate_add_apply, hsteps, hsteps']
    · rw [List.foldlM_cons, Except.bind_of_ok hturn, hloop]

theorem SoloAgrees.response (h : SoloAgrees s batch seq) : batch.response = seq.response := by
  rw [h.counts]
  rfl

theorem SoloAgrees.commit (h : SoloAgrees s batch seq) :
    s.save (s.invitations.commit ()) = ⟨seq.db, fun _ => none⟩ := by
  have hwriter : (s.invitations.commit ()).writer = fun _ => none := by
    funext k
    apply Store.settle_eq_none.mpr
    cases s.invitations.writer k with
    | none => exact Or.inl rfl
    | some i => exact Or.inr rfl
  rw [InvitationServer.save, hwriter, ← h.db]
  rfl

end

theorem soloAgrees_start (db : Database) :
    SoloAgrees ⟨db, fun _ => none⟩ { db := db } { db := db } where
  db := rfl
  visible := by
    simp [InvitationServer.visible, InvitationServer.invitations, Store.own, Table.filter]
  counts := rfl

theorem snapshot_settled (db : Database) :
    (⟨db, fun _ => none⟩ : InvitationServer Unit).snapshot = db := by
  have hall : (⟨db.invitations, fun _ => none⟩ : Store EventInvitation Unit).committed =
      db.invitations := by
    apply Table.ext
    simp [Store.committed, Table.filter]
  rw [InvitationServer.snapshot, InvitationServer.invitations, hall]

/-- A batch that runs alone does what the handler does, and leaves nothing uncommitted. -/
theorem invitationStep_solo (c : Crypto) (call : SendCall) (db : Database) :
    ∃ n, (soloInvitation c call)^[n] (⟨db, fun _ => none⟩, .start) =
      (⟨(sendInvitations c call db).1, fun _ => none⟩, .ended (sendInvitations c call db).2) := by
  rw [sendInvitations]
  cases horganized : organizedEvent call.actor call.eventId db with
  | error f =>
    refine ⟨1, ?_⟩
    simp only [Function.iterate_one, soloInvitation, invitationStep, snapshot_settled, horganized]
  | ok event =>
    obtain ⟨n, s, batch, seq, hsteps, hloop, hagrees⟩ :=
      (soloAgrees_start db).loop c call event call.payload.invitees
    refine ⟨1 + n + 1, ?_⟩
    rw [Function.iterate_add_apply, Function.iterate_one, Function.iterate_add_apply]
    simp only [soloInvitation, invitationStep, snapshot_settled, horganized]
    change soloInvitation c call ((soloInvitation c call)^[n] _) = _
    rw [hsteps]
    simp only [soloInvitation, invitationStep, hloop, hagrees.commit, hagrees.response]

end CheckinService
