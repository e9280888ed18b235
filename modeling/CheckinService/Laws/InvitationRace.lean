import CheckinService.Laws.Factors
import CheckinService.Laws.InvitationSteps
import CheckinService.Lib.Interleaving
import CheckinService.Lib.Machine

/-! Many batches of invitations at once.  The SAVEPOINT saves the batch from an INSERT that is
refused, but the lookup that is to find the other writer's row reads the old snapshot, and does
not find it. -/

namespace CheckinService

open Relational Interleaving

variable {ι : Type}

namespace InvitationPhase

def isEnded : InvitationPhase → Bool
  | .ended _ => true
  | _ => false

def isLost : InvitationPhase → Bool
  | .refused .. => true
  | .ended (.error _) => true
  | _ => false

def invites : InvitationPhase → Option String
  | .inserting _ _ item _ => some item.inviteeUserId
  | _ => none

def stepsLeft (call : SendCall) : InvitationPhase → Nat
  | .start => 3 * call.payload.invitees.length + 2
  | .looping _ _ rest => 3 * rest.length + 1
  | .inserting _ _ _ rest => 3 * rest.length + 3
  | .refused _ _ _ rest => 3 * rest.length + 2
  | .ended _ => 0

end InvitationPhase

abbrev Mailing (ι : Type) := Config (InvitationServer ι) ι InvitationPhase

def mailingStart (db : Database) : Mailing ι := ⟨{ db }, fun _ => .start⟩

def EndsWell (call : SendCall) (s : InvitationServer ι) (p : InvitationPhase) : Prop :=
  ∀ result, p = .ended result →
    ∃ response, result = .ok response ∧ ∀ item ∈ call.payload.invitees,
      ∃! r, r ∈ s.invitations.committed.rows ∧
        r.eventId = call.eventId ∧ r.inviteeUserId = item.inviteeUserId

def Delivered (calls : ι → SendCall) (m : Mailing ι) : Prop :=
  ∀ i, EndsWell (calls i) m.shared (m.locals i)

def NoneLost (m : Mailing ι) : Prop := ∀ i, (m.locals i).isLost = false

theorem Delivered.not_lost {calls : ι → SendCall} {m : Mailing ι} (h : Delivered calls m) {i : ι}
    (hended : (m.locals i).isEnded = true) : (m.locals i).isLost = false := by
  cases hp : m.locals i with
  | ended result =>
    obtain ⟨response, hok, -⟩ := h i result hp
    rw [hok]
    rfl
  | _ =>
    rw [hp] at hended
    cases hended

/-- An INSERT comes upon no row of its invitee that is committed. -/
def FreshInsert (calls : ι → SendCall) (m : Mailing ι) (i : ι) : Prop :=
  ∀ user, (m.locals i).invites = some user →
    ¬ InvitedIn m.shared.invitations.committed.rows (calls i).eventId user

variable [DecidableEq ι]

def batches (c : Crypto) (calls : ι → SendCall) (i : ι) :
    InvitationServer ι → InvitationPhase → InvitationServer ι × InvitationPhase :=
  invitationStep c (calls i) i

def Advances (c : Crypto) (calls : ι → SendCall) (m : Mailing ι) (i : ι) : Prop :=
  (m.locals i).isEnded = true ∨
    ((turn (batches c calls) m i).locals i).stepsLeft (calls i) <
      (m.locals i).stepsLeft (calls i) ∨
    ∃ user, (m.locals i).invites = some user ∧ ∃ j, j ≠ i ∧ (m.locals j).isEnded = false ∧
      InvitedIn (m.shared.invitations.own j).rows (calls i).eventId user

structure Underway (call : SendCall) (i : ι) (s : InvitationServer ι) (batch : Batch)
    (rest : List InvitationSendItem) : Prop where
  snapshot : ∀ r ∈ batch.db.invitations.rows, r ∈ s.invitations.committed.rows
  done : ∃ done, call.payload.invitees = done ++ rest ∧ ∀ item ∈ done,
    InvitedIn (s.visible i batch.db) call.eventId item.inviteeUserId

def InvitationPhase.Sound (call : SendCall) (i : ι) (s : InvitationServer ι) :
    InvitationPhase → Prop
  | .start => (s.invitations.own i).rows = []
  | .looping _ batch rest => Underway call i s batch rest
  | .inserting _ batch item rest =>
    Underway call i s batch (item :: rest) ∧
      ¬ InvitedIn (s.visible i batch.db) call.eventId item.inviteeUserId
  | .refused _ batch item rest =>
    Underway call i s batch (item :: rest) ∧
      ¬ InvitedIn (s.visible i batch.db) call.eventId item.inviteeUserId
  | .ended result =>
    (s.invitations.own i).rows = [] ∧ ∀ response, result = .ok response →
      ∀ item ∈ call.payload.invitees,
        InvitedIn s.invitations.committed.rows call.eventId item.inviteeUserId

structure MailingInvariant (calls : ι → SendCall) (db : Database) (m : Mailing ι) : Prop where
  events : m.shared.db.events = db.events
  sound : ∀ i, (m.locals i).Sound (calls i) i m.shared

section

variable {c : Crypto} {call : SendCall} {i j : ι} {s s' : InvitationServer ι}
  {p p' : InvitationPhase} {batch : Batch} {item : InvitationSendItem}
  {rest : List InvitationSendItem} {eventId : Int} {user : String}

theorem InvitationMove.events (h : InvitationMove c call i s p s' p') :
    s'.db.events = s.db.events := by
  cases h with
  | _ => rfl

theorem InvitationMove.keeps (h : InvitationMove c call i s p s' p') (hji : j ≠ i) :
    Store.Keeps j s.invitations s'.invitations := by
  cases h with
  | insert _ stored => exact Store.insert_keeps stored hji
  | lose _ => exact Store.rollback_keeps hji
  | commit => exact Store.commit_keeps hji
  | _ => exact .refl j _

theorem invitedIn_visible {snapshot : Database} :
    InvitedIn (s.visible i snapshot) eventId user ↔
      InvitedIn snapshot.invitations.rows eventId user ∨
        InvitedIn (s.invitations.own i).rows eventId user := by
  simp only [InvitedIn, InvitationServer.visible, List.mem_append, or_and_right, exists_or]

theorem InvitedIn.mono {rows rows' : List EventInvitation} (h : InvitedIn rows eventId user)
    (hrows : ∀ r ∈ rows, r ∈ rows') : InvitedIn rows' eventId user := by
  obtain ⟨r, hr, hkey⟩ := h
  exact ⟨r, hrows r hr, hkey⟩

theorem invitedIn_visible_congr {snapshot : Database}
    (h : Store.Keeps i s.invitations s'.invitations) :
    InvitedIn (s'.visible i snapshot) eventId user ↔
      InvitedIn (s.visible i snapshot) eventId user := by
  rw [invitedIn_visible, invitedIn_visible]
  simp only [InvitedIn, h.own]

theorem Underway.keeps (h : Underway call i s batch rest)
    (hkeeps : Store.Keeps i s.invitations s'.invitations) : Underway call i s' batch rest where
  snapshot r hr := hkeeps.committed r (h.snapshot r hr)
  done := by
    obtain ⟨done, hsplit, hdone⟩ := h.done
    exact ⟨done, hsplit, fun item hitem => (invitedIn_visible_congr hkeeps).mpr (hdone item hitem)⟩

theorem InvitationPhase.Sound.keeps (h : p.Sound call i s)
    (hkeeps : Store.Keeps i s.invitations s'.invitations) : p.Sound call i s' := by
  have hown : (s.invitations.own i).rows = [] → (s'.invitations.own i).rows = [] := by
    simp only [List.eq_nil_iff_forall_not_mem, hkeeps.own]
    exact id
  cases p with
  | start => exact hown h
  | looping _ _ _ => exact Underway.keeps h hkeeps
  | inserting _ _ _ _ =>
    exact ⟨h.1.keeps hkeeps, fun hin => h.2 ((invitedIn_visible_congr hkeeps).mp hin)⟩
  | refused _ _ _ _ =>
    exact ⟨h.1.keeps hkeeps, fun hin => h.2 ((invitedIn_visible_congr hkeeps).mp hin)⟩
  | ended result =>
    refine ⟨hown h.1, ?_⟩
    intro response hok item hitem
    exact (h.2 response hok item hitem).mono hkeeps.committed

theorem Underway.next (h : Underway call i s batch (item :: rest)) {batch' : Batch}
    (hsnapshot : batch'.db = batch.db)
    (hcommitted : ∀ r ∈ s.invitations.committed.rows, r ∈ s'.invitations.committed.rows)
    (hown : ∀ r ∈ (s.invitations.own i).rows, r ∈ (s'.invitations.own i).rows)
    (hitem : InvitedIn (s'.visible i batch.db) call.eventId item.inviteeUserId) :
    Underway call i s' batch' rest := by
  obtain ⟨done, hsplit, hdone⟩ := h.done
  refine ⟨?_, done ++ [item], by simp [hsplit], ?_⟩
  · rw [hsnapshot]
    intro r hr
    exact hcommitted r (h.snapshot r hr)
  · rw [hsnapshot]
    intro old hold
    rcases List.mem_append.mp hold with hold | hold
    · have := hdone old hold
      rw [invitedIn_visible] at this ⊢
      exact this.imp id fun h => h.mono hown
    · rw [List.mem_singleton.mp hold]
      exact hitem

theorem InvitationMove.sound (h : InvitationMove c call i s p s' p') (hp : p.Sound call i s) :
    p'.Sound call i s' := by
  cases h with
  | fail _ => exact ⟨hp, by simp⟩
  | begin => exact ⟨fun _ hr => hr, [], rfl, by simp⟩
  | found seen => exact Underway.next hp rfl (fun _ hr => hr) (fun _ hr => hr) seen
  | miss unseen => exact ⟨hp, unseen⟩
  | @insert event batch item rest invite invitations invite_eq stored =>
    have hown : (invitations.own i).rows = (s.invitations.own i).rows ++ [invite] :=
      Store.insert_own_rows stored
    change Underway call i (s.save invitations) (batch.add invite) rest
    apply Underway.next hp.1
    · rfl
    · intro r hr
      exact Store.insert_committed stored hr
    · intro r hr
      change r ∈ (invitations.own i).rows
      rw [hown]
      exact List.mem_append_left _ hr
    · refine invitedIn_visible.mpr (Or.inr ⟨invite, ?_, ?_⟩)
      · change invite ∈ (invitations.own i).rows
        simp [hown]
      · rw [invite_eq]
        exact ⟨rfl, rfl⟩
  | conflict _ => exact hp
  | wait _ => exact hp
  | recover seen => exact Underway.next hp.1 rfl (fun _ hr => hr) (fun _ hr => hr) seen
  | lose _ =>
    refine ⟨?_, by simp⟩
    change ((s.invitations.rollback i).own i).rows = []
    rw [Store.own_rollback, Table.empty_rows]
  | @commit event batch =>
    refine ⟨?_, ?_⟩
    · change ((s.invitations.commit i).own i).rows = []
      rw [Store.own_commit, Table.empty_rows]
    · intro _ _ item hitem
      -- what the batch saw was committed before, or is its own and is committed now
      obtain ⟨done, hsplit, hdone⟩ := Underway.done hp
      rw [hsplit, List.append_nil] at hitem
      rcases invitedIn_visible.mp (hdone item hitem) with hold | hown
      · apply hold.mono
        intro r hr
        exact Store.mem_committed_commit.mpr (Or.inl (Underway.snapshot hp r hr))
      · apply hown.mono
        intro r hr
        exact Store.mem_committed_commit.mpr (Or.inr hr)
  | finish => exact hp

theorem insert_refused_iff {event : Event} {snapshot : Database}
    (hunseen : ¬ InvitedIn (s.visible i snapshot) call.eventId item.inviteeUserId) :
    s.invitations.insert i (newInvitation c call event item s.db.invitations.nextId) = .refused ↔
      InvitedIn s.invitations.committed.rows call.eventId item.inviteeUserId := by
  rw [Store.insert_eq_refused]
  constructor
  · rintro ⟨t, hclash, hcommitted | hown⟩
    · exact ⟨t, hcommitted, (clash_newInvitation (Store.mem_committed.mp hcommitted).1).mp hclash⟩
    · have hkey := (clash_newInvitation (Store.mem_own.mp hown).1).mp hclash
      exact absurd (invitedIn_visible.mpr (Or.inr ⟨t, hown, hkey⟩)) hunseen
  · rintro ⟨t, ht, hkey⟩
    exact ⟨t, (clash_newInvitation (Store.mem_committed.mp ht).1).mpr hkey, Or.inl ht⟩

end

section

variable {c : Crypto} {calls : ι → SendCall} {db : Database} {m : Mailing ι} {i : ι}

theorem MailingInvariant.after_turn (h : MailingInvariant calls db m) (i : ι) :
    MailingInvariant calls db (turn (batches c calls) m i) := by
  have hmove : InvitationMove c (calls i) i m.shared (m.locals i) _ _ :=
    invitationStep_move c (calls i) i m.shared (m.locals i)
  constructor
  · exact hmove.events.trans h.events
  · apply turn_forall (P := fun i s p => InvitationPhase.Sound (calls i) i s p) (batches c calls)
    · exact hmove.sound (h.sound i)
    · intro j hji
      exact (h.sound j).keeps (hmove.keeps hji)

theorem MailingInvariant.noneLost_turn_iff
    (hauthorized : ∀ i, ∃ event, organizedEvent (calls i).actor (calls i).eventId db = .ok event)
    (h : MailingInvariant calls db m) (i : ι) :
    NoneLost (turn (batches c calls) m i) ↔ NoneLost m ∧ FreshInsert calls m i := by
  have hmove : InvitationMove c (calls i) i m.shared (m.locals i) _ _ :=
    invitationStep_move c (calls i) i m.shared (m.locals i)
  have hsound := h.sound i
  rw [NoneLost, NoneLost, turn_forall_iff (batches c calls) (P := fun _ p => p.isLost = false),
    forall_iff_self i, and_right_comm, batches, FreshInsert]
  apply and_congr_left
  intro _
  generalize invitationStep c (calls i) i m.shared (m.locals i) = result at hmove ⊢
  obtain ⟨s', p'⟩ := result
  simp only at hmove ⊢
  generalize m.locals i = p at hmove hsound ⊢
  cases hmove with
  | fail organized =>
    obtain ⟨event, hevent⟩ := hauthorized i
    rw [organizedEvent_of_events h.events, hevent] at organized
    cases organized
  | begin => simp [InvitationPhase.isLost, InvitationPhase.invites]
  | found _ => simp [InvitationPhase.isLost, InvitationPhase.invites]
  | miss _ => simp [InvitationPhase.isLost, InvitationPhase.invites]
  | insert invite_eq stored =>
    have hfresh : ¬ InvitedIn _ _ _ := mt (insert_refused_iff (c := c) hsound.2).mpr (by
      rw [← invite_eq, stored]
      simp)
    simp [InvitationPhase.isLost, InvitationPhase.invites, hfresh]
  | conflict refused =>
    have := (insert_refused_iff hsound.2).mp refused
    simp [InvitationPhase.isLost, InvitationPhase.invites, this]
  | wait waits =>
    have hfresh : ¬ InvitedIn _ _ _ := mt (insert_refused_iff (c := c) hsound.2).mpr (by
      rw [waits]
      simp)
    simp [InvitationPhase.isLost, InvitationPhase.invites, hfresh]
  -- the snapshot has not changed since it did not show the row
  | recover seen => exact absurd seen hsound.2
  | lose _ => simp [InvitationPhase.isLost]
  | commit => simp [InvitationPhase.isLost, InvitationPhase.invites]
  | finish => simp [InvitationPhase.invites]

theorem MailingInvariant.advances (h : MailingInvariant calls db m) (i : ι) :
    Advances c calls m i := by
  have hmove : InvitationMove c (calls i) i m.shared (m.locals i) _ _ :=
    invitationStep_move c (calls i) i m.shared (m.locals i)
  rw [Advances, turn_locals_self, batches]
  generalize invitationStep c (calls i) i m.shared (m.locals i) = result at hmove ⊢
  obtain ⟨s', p'⟩ := result
  simp only at hmove ⊢
  generalize hp : m.locals i = p at hmove ⊢
  cases hmove with
  | finish => exact Or.inl rfl
  | wait waits =>
    obtain ⟨-, j, hji, t, ht, hclash⟩ := Store.insert_eq_waits waits
    refine Or.inr (Or.inr ⟨_, rfl, j, hji, ?_, t, ht, ?_⟩)
    · have hsound := h.sound j
      cases hj : m.locals j with
      | ended result =>
        rw [hj] at hsound
        rw [hsound.1] at ht
        cases ht
      | _ => rfl
    · exact (clash_newInvitation (Store.mem_own.mp ht).1).mp hclash
  | _ =>
    refine Or.inr (Or.inl ?_)
    simp only [InvitationPhase.stepsLeft, List.length_cons]
    omega

theorem MailingInvariant.delivered (h : MailingInvariant calls db m)
    (hkept : NoneLost m) : Delivered calls m := by
  intro i result hended
  have hsound := h.sound i
  have hnot := hkept i
  rw [hended] at hsound hnot
  cases result with
  | error f => cases hnot
  | ok response =>
    refine ⟨response, rfl, ?_⟩
    intro item hitem
    obtain ⟨r, hr, hkey⟩ := hsound.2 response rfl item hitem
    refine ⟨r, ⟨hr, hkey⟩, ?_⟩
    rintro r' ⟨hr', hkey'⟩
    apply m.shared.invitations.committed.eq_of_key (k := ((calls i).eventId, item.inviteeUserId))
      hr' hr
    · simp [Row.keys, hkey']
    · simp [Row.keys, hkey]

end

theorem mailingInvariant_start (calls : ι → SendCall) (db : Database) :
    MailingInvariant calls db (mailingStart db) := by
  refine ⟨rfl, ?_⟩
  intro i
  change ((mailingStart db : Mailing ι).shared.invitations.own i).rows = []
  simp [mailingStart, InvitationServer.invitations, Store.own, Table.filter]

/-- However the statements of any batches interleave, every request that ends has kept its batch
as long as every insert is fresh; and where all requests have ended, only then.  A request that
has not ended comes closer to its end with every turn, but for those that it has to wait. -/
theorem delivered_iff_freshInserts (c : Crypto) (calls : ι → SendCall) (db : Database)
    (schedule : List ι)
    (hauthorized :
      ∀ i, ∃ event, organizedEvent (calls i).actor (calls i).eventId db = .ok event) :
    (Machine.Guarded (turn (batches c calls)) (FreshInsert calls) (mailingStart db) schedule →
      Machine.Always (turn (batches c calls)) (Delivered calls) (mailingStart db) schedule) ∧
    Machine.Guarded (turn (batches c calls)) (Advances c calls) (mailingStart db) schedule ∧
    ((∀ i, ((Machine.run (turn (batches c calls)) (mailingStart db) schedule).locals i).isEnded =
        true) →
      Machine.Always (turn (batches c calls)) (Delivered calls) (mailingStart db) schedule →
      Machine.Guarded (turn (batches c calls)) (FreshInsert calls) (mailingStart db) schedule) := by
  have hstart : MailingInvariant calls db (mailingStart db) := mailingInvariant_start calls db
  have hkeep : ∀ (m : Mailing ι) i, MailingInvariant calls db m →
      MailingInvariant calls db (turn (batches c calls) m i) := fun m i h => h.after_turn i
  have hexact : ∀ (m : Mailing ι) i, MailingInvariant calls db m →
      (NoneLost (turn (batches c calls) m i) ↔ NoneLost m ∧ FreshInsert calls m i) :=
    fun m i h => h.noneLost_turn_iff hauthorized i
  refine ⟨?_, ?_, ?_⟩
  · intro hguarded
    apply Machine.Always.imp (I := fun m => MailingInvariant calls db m ∧ NoneLost m)
    · intro m h
      exact h.1.delivered h.2
    · apply Machine.always_of_guarded hkeep _ hstart ⟨hstart, fun _ => rfl⟩ hguarded
      intro m i h hkept hfresh
      exact ⟨h.after_turn i, (hexact m i h).mpr ⟨hkept.2, hfresh⟩⟩
  · exact Machine.guarded_invariant hkeep (fun m i h => h.advances i) hstart schedule
  · intro hended halways
    have hkept : NoneLost (Machine.run (turn (batches c calls)) (mailingStart db) schedule) :=
      fun i => halways.run.not_lost (hended i)
    exact ((Machine.run_iff_guarded hkeep hexact hstart).mp hkept).2

instance (calls : ι → SendCall) (m : Mailing ι) (i : ι) : Decidable (FreshInsert calls m i) :=
  inferInstanceAs (Decidable (∀ user ∈ (m.locals i).invites,
    ¬ ∃ r ∈ m.shared.invitations.committed.rows,
      r.eventId = (calls i).eventId ∧ r.inviteeUserId = user))

def sampleMailing (second : Bool) : SendCall where
  eventId := 1
  payload :=
    if second then { invitees := [.plain "fan-3" (by decide), .plain "fan-4" (by decide)] }
    else { invitees := [.plain "fan-2" (by decide), .plain "fan-3" (by decide)] }
  actor := sampleCoach

theorem sampleMailing_authorized (second : Bool) :
    ∃ event, organizedEvent (sampleMailing second).actor (sampleMailing second).eventId
      sampleDatabase = .ok event := ⟨sampleEvent, by decide +revert +kernel⟩

theorem delivered_one_after_the_other :
    Machine.Always (turn (batches sampleCrypto sampleMailing)) (Delivered sampleMailing)
      (mailingStart sampleDatabase) (List.replicate 6 false ++ List.replicate 5 true) := by
  apply (delivered_iff_freshInserts sampleCrypto sampleMailing sampleDatabase _
    sampleMailing_authorized).1
  decide +kernel

/-- Both requests take their snapshots first: the second loses its whole batch over the fan whom
the first has invited. -/
theorem delivered_fails_interleaved :
    ¬ Machine.Always (turn (batches sampleCrypto sampleMailing)) (Delivered sampleMailing)
      (mailingStart sampleDatabase)
      ([false, true] ++ List.replicate 5 false ++ List.replicate 3 true) := by
  intro h
  have hkept := h.run.not_lost (i := true) (by decide +kernel)
  revert hkept
  decide +kernel

end CheckinService
