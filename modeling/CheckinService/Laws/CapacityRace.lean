import CheckinService.Laws.Capacity
import CheckinService.Laws.RegistrationSteps
import CheckinService.Lib.Interleaving
import CheckinService.Lib.Machine

/-! Many registrations for one event at once.  The lock lets them insert one at a time, but each
counts the seats in the snapshot that it took before it had the lock. -/

namespace CheckinService

open Relational Interleaving Locking

variable {ι : Type}

def registrations (calls : ι → RegisterCall) (i : ι) :
    Server ι → RegistrationPhase → Server ι × RegistrationPhase := registrationStep (calls i) i

abbrev Rush (ι : Type) := Config (Server ι) ι RegistrationPhase

def rushStart (db : Database) : Rush ι := ⟨{ db }, fun _ => .start⟩

/-- A request gets the event's lock while a seat that it sees in its snapshot is still free,
unless one of its UNIQUE keys is taken. -/
def FreshLock (calls : ι → RegisterCall) (eventId capacity : Int) (c : Rush ι) (i : ι) : Prop :=
  match c.locals i with
  | .waiting target snapshot =>
    (calls i).eventId = eventId → c.shared.locks eventId = none →
      (activeCount snapshot eventId : Int) < capacity →
        Unclaimed (calls i) target c.shared.db →
          (activeCount c.shared.db eventId : Int) < capacity
  | _ => True

def RegistrationPhase.seats (eventId capacity : Int) : RegistrationPhase → Option String
  | .locked target snapshot _ =>
    if (activeCount snapshot eventId : Int) < capacity then some target else none
  | .seated target _ seat => if seat.isActive then some target else none
  | _ => none

def SeatThere (eventId capacity : Int) (db : Database) (call : RegisterCall)
    (p : RegistrationPhase) : Prop :=
  call.eventId = eventId → ∀ target, p.seats eventId capacity = some target →
    Unclaimed call target db → (activeCount db eventId : Int) < capacity

def InHand (calls : ι → RegisterCall) (eventId capacity : Int) (c : Rush ι) : Prop :=
  WithinCapacity eventId capacity c.shared.db ∧
    ∀ j, SeatThere eventId capacity c.shared.db (calls j) (c.locals j)

structure RushInvariant (calls : ι → RegisterCall) (eventId capacity : Int) (c : Rush ι) :
    Prop where
  capped : Capped eventId capacity c.shared.db
  owned : Owned c.shared.locks fun j => (c.locals j).held (calls j)
  read : ∀ j snapshot, (c.locals j).snapshot = some snapshot →
    snapshot.events = c.shared.db.events
  found : ∀ j event, (c.locals j).event = some event →
    findEvent c.shared.db (calls j).eventId = some event

section

variable {call : RegisterCall} {i : ι} {s s' : Server ι} {p p' : RegistrationPhase}
  {eventId capacity : Int}

theorem RegistrationMove.events (h : RegistrationMove call i s p s' p') :
    s'.db.events = s.db.events := by
  cases h with
  | insert insert =>
    obtain ⟨-, -, hdb⟩ := insertRegistration_eq_some insert
    rw [hdb]
  | _ => rfl

theorem RegistrationMove.snapshot (h : RegistrationMove call i s p s' p') {snapshot : Database}
    (hsnapshot : p'.snapshot = some snapshot) : p.snapshot = some snapshot ∨ snapshot = s.db := by
  cases h with
  | read => exact Or.inr (Option.some.inj hsnapshot).symm
  | wait taken => exact Or.inl hsnapshot
  | lock free found => exact Or.inl hsnapshot
  | _ => cases hsnapshot

theorem findEvent_of_events {db db' : Database} (h : db'.events = db.events) (eventId : Int) :
    findEvent db' eventId = findEvent db eventId := by rw [findEvent, h, findEvent]

/-- While nobody edits the event, what was loaded is what is locked. -/
theorem RegistrationMove.event (h : RegistrationMove call i s p s' p')
    (hread : ∀ snapshot, p.snapshot = some snapshot → snapshot.events = s.db.events)
    {event : Event} (hevent : p'.event = some event) :
    p.event = some event ∨ findEvent s.db call.eventId = some event := by
  cases h with
  | @lock target snapshot row free found =>
    have hloaded : findEvent snapshot call.eventId = some row := by
      rw [findEvent_of_events (hread snapshot rfl), found]
    rw [RegistrationPhase.event, loadedEvent_of_found hloaded] at hevent
    exact Or.inr (found.trans hevent)
  | count => exact Or.inl hevent
  | _ => cases hevent

theorem insertRegistration_unclaimed {target : String} {locked : Event} {seat : Seat}
    {db db' : Database} {registration : EventRegistration}
    (h : insertRegistration call target locked seat db = some (registration, db'))
    {other : RegisterCall} (hother : call.eventId ≠ other.eventId) (user : String) :
    Unclaimed other user db' ↔ Unclaimed other user db := by
  obtain ⟨hregistration, hrows, -⟩ := insertRegistration_eq_some h
  have hevent : registration.eventId ≠ other.eventId := by
    rw [hregistration]
    exact hother
  simp only [Unclaimed, hrows, List.mem_append, List.mem_singleton]
  constructor
  · intro hall r hr
    exact hall r (Or.inl hr)
  · intro hall r hr hid
    rcases hr with hr | rfl
    · exact hall r hr hid
    · exact absurd hid hevent

theorem insertRegistration_activeCount {target : String} {locked : Event} {seat : Seat}
    {db db' : Database} {registration : EventRegistration}
    (h : insertRegistration call target locked seat db = some (registration, db')) :
    activeCount db' eventId = activeCount db eventId +
      if call.eventId = eventId ∧ seat.isActive = true then 1 else 0 := by
  obtain ⟨hregistration, hrows, -⟩ := insertRegistration_eq_some h
  rw [activeCount_append hrows, hregistration]
  rfl

theorem RegistrationPhase.seats_held {target : String}
    (h : p.seats eventId capacity = some target) : p.held call = some call.eventId := by
  cases p with
  | locked _ _ _ => rfl
  | seated _ _ _ => rfl
  | _ => cases h

theorem seatThere_of_seats_eq_none {db : Database} (h : p.seats eventId capacity = none) :
    SeatThere eventId capacity db call p := by
  intro _ target hseats
  rw [h] at hseats
  cases hseats

theorem seatThere_congr {db db' : Database}
    (hcount : activeCount db' eventId = activeCount db eventId)
    (hunclaimed : call.eventId = eventId → ∀ target, Unclaimed call target db' ↔
      Unclaimed call target db) :
    SeatThere eventId capacity db' call p ↔ SeatThere eventId capacity db call p := by
  rw [SeatThere, SeatThere, hcount]
  constructor
  · intro h hid target hseats hu
    exact h hid target hseats ((hunclaimed hid target).mpr hu)
  · intro h hid target hseats hu
    exact h hid target hseats ((hunclaimed hid target).mp hu)

variable {calls : ι → RegisterCall} {c : Rush ι}

theorem freshLock_of_ne_waiting (h : ∀ target snapshot, c.locals i ≠ .waiting target snapshot) :
    FreshLock calls eventId capacity c i := by
  rw [FreshLock]
  split
  · rename_i target snapshot hp
    exact absurd hp (h target snapshot)
  · trivial

theorem RushInvariant.seatThere_of_ne (h : RushInvariant calls eventId capacity c) {i j : ι}
    (hheld : (c.locals i).held (calls i) = some eventId) (hji : j ≠ i) (db : Database) :
    SeatThere eventId capacity db (calls j) (c.locals j) := by
  intro hid target hseats
  have hj : (c.locals j).held (calls j) = some eventId := by
    rw [RegistrationPhase.seats_held hseats, hid]
  exact absurd (h.owned.unique hj hheld) hji

theorem RushInvariant.seats_counted (h : RushInvariant calls eventId capacity c)
    {target : String} {snapshot : Database} {event : Event}
    (hp : c.locals i = .locked target snapshot event) (hid : (calls i).eventId = eventId) :
    (RegistrationPhase.seated target event (assignSeat snapshot event)).seats eventId capacity =
      (RegistrationPhase.locked target snapshot event).seats eventId capacity := by
  have hfound := h.found i event (by rw [hp]; rfl)
  rw [hid] at hfound
  simp only [RegistrationPhase.seats, assignSeat_isActive, h.capped.hasRoom_iff hfound]

theorem RushInvariant.inserted_iff (h : RushInvariant calls eventId capacity c)
    {target : String} {event : Event} {seat : Seat} {registration : EventRegistration}
    {db : Database} (hp : c.locals i = .seated target event seat)
    (hinsert : insertRegistration (calls i) target event seat c.shared.db =
      some (registration, db)) :
    (WithinCapacity eventId capacity db ∧
        ∀ j, j ≠ i → SeatThere eventId capacity db (calls j) (c.locals j)) ↔
      InHand calls eventId capacity c := by
  have hcount : activeCount db eventId = _ := insertRegistration_activeCount hinsert
  rw [InHand, forall_iff_self i]
  by_cases hid : (calls i).eventId = eventId
  · have hheld : (c.locals i).held (calls i) = some eventId := by
      rw [hp, ← hid]
      rfl
    have hothers : ∀ db j, j ≠ i → SeatThere eventId capacity db (calls j) (c.locals j) :=
      fun db j hji => h.seatThere_of_ne hheld hji db
    have hunclaimed : Unclaimed (calls i) target c.shared.db := .of_insert hinsert
    rw [and_iff_left (hothers db), and_iff_left (hothers c.shared.db), hp, WithinCapacity,
      WithinCapacity, hcount, SeatThere]
    cases hactive : seat.isActive with
    | false => simp [RegistrationPhase.seats, hactive]
    | true =>
      simp only [RegistrationPhase.seats, hid, hactive, hunclaimed, Option.some.injEq,
        forall_eq', if_true, true_implies, and_self]
      omega
  · have hsame : activeCount db eventId = activeCount c.shared.db eventId := by
      simpa [hid] using hcount
    have hown : SeatThere eventId capacity c.shared.db (calls i) (c.locals i) :=
      fun hid' => absurd hid' hid
    have hothers : ∀ j, SeatThere eventId capacity db (calls j) (c.locals j) ↔
        SeatThere eventId capacity c.shared.db (calls j) (c.locals j) := by
      intro j
      apply seatThere_congr hsame
      intro hj user
      exact insertRegistration_unclaimed hinsert (by rw [hj]; exact hid) user
    simp only [WithinCapacity, hsame, hothers, hown, true_and]

theorem inHand_read_iff (hown : SeatThere eventId capacity c.shared.db (calls i) p' ↔
      SeatThere eventId capacity c.shared.db (calls i) (c.locals i) ∧
        FreshLock calls eventId capacity c i) :
    (WithinCapacity eventId capacity c.shared.db ∧
        SeatThere eventId capacity c.shared.db (calls i) p' ∧
        ∀ j, j ≠ i → SeatThere eventId capacity c.shared.db (calls j) (c.locals j)) ↔
      InHand calls eventId capacity c ∧ FreshLock calls eventId capacity c i := by
  rw [hown, InHand, forall_iff_self i]
  tauto

theorem inHand_quiet_iff (hbefore : (c.locals i).seats eventId capacity = none)
    (hafter : p'.seats eventId capacity = none) (hfresh : FreshLock calls eventId capacity c i) :
    (WithinCapacity eventId capacity c.shared.db ∧
        SeatThere eventId capacity c.shared.db (calls i) p' ∧
        ∀ j, j ≠ i → SeatThere eventId capacity c.shared.db (calls j) (c.locals j)) ↔
      InHand calls eventId capacity c ∧ FreshLock calls eventId capacity c i := by
  apply inHand_read_iff
  constructor
  · intro _
    exact ⟨seatThere_of_seats_eq_none hbefore, hfresh⟩
  · intro _
    exact seatThere_of_seats_eq_none hafter

variable [DecidableEq ι]

theorem RushInvariant.after_turn (h : RushInvariant calls eventId capacity c) (i : ι) :
    RushInvariant calls eventId capacity (turn (registrations calls) c i) := by
  have hmove : RegistrationMove (calls i) i c.shared (c.locals i) _ _ :=
    registrationStep_move (calls i) i c.shared (c.locals i)
  constructor
  · exact h.capped.of_events hmove.events
  · refine h.owned.move (i := i) ?_ ?_
    · rw [turn_locals_self]
      exact hmove.lockMove
    · intro j hji
      rw [turn_locals_of_ne _ _ hji]
  · intro j snapshot hsnapshot
    rw [turn_shared]
    refine Eq.trans ?_ hmove.events.symm
    by_cases hji : j = i
    · subst hji
      rw [turn_locals_self] at hsnapshot
      rcases hmove.snapshot hsnapshot with hsnapshot | rfl
      · exact h.read j snapshot hsnapshot
      · rfl
    · rw [turn_locals_of_ne _ _ hji] at hsnapshot
      exact h.read j snapshot hsnapshot
  · intro j event hevent
    change findEvent (registrationStep (calls i) i c.shared (c.locals i)).1.db _ = _
    rw [findEvent_of_events hmove.events]
    by_cases hji : j = i
    · subst hji
      rw [turn_locals_self] at hevent
      rcases hmove.event (h.read j) hevent with hevent | hfound
      · exact h.found j event hevent
      · exact hfound
    · rw [turn_locals_of_ne _ _ hji] at hevent
      exact h.found j event hevent

theorem RushInvariant.inHand_turn_iff (h : RushInvariant calls eventId capacity c) (i : ι) :
    InHand calls eventId capacity (turn (registrations calls) c i) ↔
      InHand calls eventId capacity c ∧ FreshLock calls eventId capacity c i := by
  have hmove := registrationStep_move (calls i) i c.shared (c.locals i)
  rw [InHand, turn_shared, turn_forall_iff (P := fun j p => SeatThere _ _ _ (calls j) p),
    registrations]
  generalize registrationStep (calls i) i c.shared (c.locals i) = result at hmove ⊢
  obtain ⟨s', p'⟩ := result
  simp only at hmove ⊢
  generalize hp : c.locals i = p at hmove
  have hfresh : (∀ target snapshot, p ≠ .waiting target snapshot) →
      FreshLock calls eventId capacity c i := by
    intro hne
    apply freshLock_of_ne_waiting
    rw [hp]
    exact hne
  cases hmove with
  | read => exact inHand_quiet_iff (by rw [hp]; rfl) rfl (hfresh (by simp))
  | wait taken =>
    apply inHand_quiet_iff (by rw [hp]; rfl) rfl
    rw [FreshLock, hp]
    intro hid hfree
    rw [← hid] at hfree
    exact absurd hfree taken
  | lost missing =>
    apply inHand_quiet_iff (by rw [hp]; rfl) rfl
    rw [FreshLock, hp]
    intro hid
    obtain ⟨event, hfind, -⟩ := h.capped
    rw [hid, hfind] at missing
    cases missing
  | @lock target snapshot row free found =>
    -- the one step that announces a seat
    apply inHand_read_iff
    rw [FreshLock, hp]
    simp only [seatThere_of_seats_eq_none (p := .waiting target snapshot) rfl, true_and]
    constructor
    · intro hseat hid _ hroom
      exact hseat hid target (if_pos hroom)
    · intro hlock hid user hseats hunclaimed
      simp only [RegistrationPhase.seats] at hseats
      split at hseats
      · rename_i hroom
        cases hseats
        exact hlock hid (by rw [← hid]; exact free) hroom hunclaimed
      · cases hseats
  | @count target snapshot event =>
    apply inHand_read_iff
    rw [SeatThere, SeatThere, hp]
    simp only [hfresh (by simp), and_true]
    apply forall_congr'
    intro hid
    rw [h.seats_counted hp hid]
  | insert insert =>
    simp only [hfresh (by simp), and_true]
    rw [← h.inserted_iff hp insert]
    simp only [seatThere_of_seats_eq_none (p := .ended _) rfl, true_and]
  | @conflict target event seat claimed =>
    -- nothing was asked of a seat whose row is refused
    apply inHand_read_iff
    have hrefused : SeatThere eventId capacity c.shared.db (calls i)
        (.seated target event seat) := by
      intro _ user hseats hunclaimed
      simp only [RegistrationPhase.seats] at hseats
      split at hseats
      · cases hseats
        exact absurd hunclaimed claimed
      · cases hseats
    simp only [hp, seatThere_of_seats_eq_none (p := .refused target) rfl, hrefused,
      hfresh (by simp), and_self]
  | rollback => exact inHand_quiet_iff (by rw [hp]; rfl) rfl (hfresh (by simp))
  | finish free early =>
    have hbefore : p.seats eventId capacity = none := by
      rw [Option.eq_none_iff_forall_ne_some]
      intro target hseats
      rw [RegistrationPhase.seats_held hseats] at free
      cases free
    exact inHand_quiet_iff (by rw [hp]; exact hbefore) rfl (hfresh early)

end

variable {calls : ι → RegisterCall} {eventId capacity : Int}

theorem rushInvariant_start {db : Database} (hcapped : Capped eventId capacity db) :
    RushInvariant calls eventId capacity (rushStart db) := by
  constructor
  · exact hcapped
  · intro j k hj
    cases hj
  · intro j snapshot hj
    cases hj
  · intro j event hj
    cases hj

theorem inHand_start {db : Database} (hstart : WithinCapacity eventId capacity db) :
    InHand calls eventId capacity (rushStart db) := by
  refine ⟨hstart, ?_⟩
  intro j
  exact seatThere_of_seats_eq_none rfl

theorem RushInvariant.inHand_of_unlocked {c : Rush ι}
    (h : RushInvariant calls eventId capacity c) (hfree : c.shared.locks eventId = none)
    (hwithin : WithinCapacity eventId capacity c.shared.db) :
    InHand calls eventId capacity c := by
  refine ⟨hwithin, ?_⟩
  intro j hid target hseats
  have hheld : (c.locals j).held (calls j) = some eventId := by
    rw [RegistrationPhase.seats_held hseats, hid]
  rw [h.owned j eventId hheld] at hfree
  cases hfree

variable [DecidableEq ι]

/-- However the statements of any requests interleave, the event stays within its capacity as
long as its lock is always taken fresh; and a run that leaves the lock free has stayed within
the capacity only if it was. -/
theorem withinCapacity_iff_freshLocks (calls : ι → RegisterCall) (eventId capacity : Int)
    (db : Database) (schedule : List ι) (hcapped : Capped eventId capacity db)
    (hstart : WithinCapacity eventId capacity db) :
    (Machine.Guarded (turn (registrations calls)) (FreshLock calls eventId capacity)
        (rushStart db) schedule →
      Machine.Always (turn (registrations calls))
        (fun c => WithinCapacity eventId capacity c.shared.db) (rushStart db) schedule) ∧
    ((Machine.run (turn (registrations calls)) (rushStart db) schedule).shared.locks eventId =
        none →
      Machine.Always (turn (registrations calls))
        (fun c => WithinCapacity eventId capacity c.shared.db) (rushStart db) schedule →
      Machine.Guarded (turn (registrations calls)) (FreshLock calls eventId capacity)
        (rushStart db) schedule) := by
  have hinv : RushInvariant calls eventId capacity (rushStart db) := rushInvariant_start hcapped
  have hkeep : ∀ c i, RushInvariant calls eventId capacity c →
      RushInvariant calls eventId capacity (turn (registrations calls) c i) :=
    fun c i h => h.after_turn i
  constructor
  · intro hguarded
    apply Machine.Always.imp (I := InHand calls eventId capacity)
    · intro c h
      exact h.1
    · apply Machine.always_of_guarded hkeep _ hinv (inHand_start hstart) hguarded
      intro c i h hhand hfresh
      exact (h.inHand_turn_iff i).mpr ⟨hhand, hfresh⟩
  · intro hfree halways
    have hend := Machine.run_invariant hkeep hinv schedule
    have hhand := hend.inHand_of_unlocked hfree halways.run
    exact ((Machine.run_iff_guarded hkeep (fun c i h => h.inHand_turn_iff i) hinv).mp hhand).2

instance (calls : ι → RegisterCall) (eventId capacity : Int) (c : Rush ι) (i : ι) :
    Decidable (FreshLock calls eventId capacity c i) := by
  unfold FreshLock
  split <;> infer_instance

def sampleRush (second : Bool) : RegisterCall :=
  sampleRegister (if second then sampleSecondFan else sampleFan)

theorem withinCapacity_one_after_the_other :
    Machine.Always (turn (registrations sampleRush)) (fun c => WithinCapacity 1 1 c.shared.db)
      (rushStart sampleSmallService.db) (List.replicate 4 false ++ List.replicate 4 true) := by
  apply (withinCapacity_iff_freshLocks sampleRush 1 1 _ _ _ _).1
  · decide +kernel
  · exact ⟨newEvent sampleSmallEvent "user:7" none "Mixer" 1, by decide +kernel, rfl⟩
  · decide +kernel

/-- Both fans read the event before either locks it: the second counts in its old snapshot. -/
theorem withinCapacity_fails_interleaved :
    WithinCapacity 1 1 sampleSmallService.db ∧
      ¬ Machine.Always (turn (registrations sampleRush))
        (fun c => WithinCapacity 1 1 c.shared.db) (rushStart sampleSmallService.db)
        [false, true, false, false, false, true, true, true] := by
  refine ⟨by decide +kernel, ?_⟩
  intro h
  exact absurd h.run (by decide +kernel)

end CheckinService
