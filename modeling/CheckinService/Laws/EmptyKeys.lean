import CheckinService.Laws.Capacity
import CheckinService.Laws.Registrations
import CheckinService.Lib.Lockstep

/-! An empty Idempotency-Key beside none, over runs of `register_for_event`.  The handler drops
the key that it has validated and stores the header as it came; `normal` is what a handler that
went on with the validated key would have. -/

namespace CheckinService

open Relational

def RegisterCall.normal (call : RegisterCall) : RegisterCall :=
  { call with idempotencyKey := Py.orNone call.idempotencyKey }

def EventRegistration.normal (r : EventRegistration) : EventRegistration :=
  { r with idempotencyKey := Py.orNone r.idempotencyKey }

theorem EventRegistration.clash_normal (r s : EventRegistration) (h : Clash r.normal s.normal) :
    Clash r s := by
  have hkeys : ∀ (r : EventRegistration) k, k ∈ Row.keys r.normal → k ∈ Row.keys r := by
    intro r k hk
    simp only [Row.keys, EventRegistration.normal, List.mem_cons, List.mem_map,
      Option.mem_toList, Py.orNone_eq_some] at hk ⊢
    exact hk.imp_right fun ⟨key, hkey, heq⟩ => ⟨key, hkey.1, heq⟩
  rcases h with hid | ⟨k, hr, hs⟩
  · exact Or.inl hid
  · exact Or.inr ⟨k, hkeys r k hr, hkeys s k hs⟩

def Database.normal (db : Database) : Database :=
  { db with
    registrations :=
      db.registrations.relax EventRegistration.normal EventRegistration.clash_normal }

def EventRegistration.seat (r : EventRegistration) : Seat := ⟨r.status, r.waitlistPosition⟩

def outcome : Handler EventRegistration → Nat × Option (String × Seat)
  | .ok r => (201, some (r.attendeeUserId, r.seat))
  | .error (.http e) => (e.statusCode, none)
  | .error (.unhandled _) => (500, none)

def seats (db : Database) : List (Int × String × Seat) :=
  db.registrations.rows.map fun r => (r.eventId, r.attendeeUserId, r.seat)

def registerStep (db : Database) (call : RegisterCall) : Database := (registerForEvent call db).1

def registerOutcome (db : Database) (call : RegisterCall) : Nat × Option (String × Seat) :=
  outcome (registerForEvent call db).2

def DropsEmptyKey (call call' : RegisterCall) : Prop :=
  call' = call ∨
    call.idempotencyKey = some "" ∧ call' = { call with idempotencyKey := none }

structure Passes (call : RegisterCall) (target : String) (event : Event) (db : Database) :
    Prop where
  resolved : registerTarget call = .ok target
  inScope : resolveEventOr404 db call.eventId (Registrations.schoolFilter call.actor) = .ok event
  isOpen : event.status.isOpen = true
  visible : visibilityGate db call target event = .ok ()

def HoldsEmptyKey (db : Database) (eventId : Int) : Prop :=
  ∃ r ∈ db.registrations.rows, r.eventId = eventId ∧ r.idempotencyKey = some ""

/-- The empty key of a new attendee meets no other. -/
def NoEmptyClash (db : Database) (call : RegisterCall) : Prop :=
  call.idempotencyKey = some "" → ∀ target event, Passes call target event db →
    findRegistration db call.eventId target = none → ¬ HoldsEmptyKey db call.eventId

/-- A new attendee who passes all gates, and whose request repeats none, gets a row. -/
def Served (db : Database) (call : RegisterCall) : Prop :=
  ∀ target event, Passes call target event db →
    findRegistration db call.eventId target = none → replayedRegistration db call = none →
      ∃ r ∈ (registerStep db call).registrations.rows,
        r.eventId = call.eventId ∧ r.attendeeUserId = target

section

variable {call : RegisterCall} {target : String} {event locked : Event} {db : Database}

theorem registerTarget_normal : registerTarget call.normal = registerTarget call := by
  simp only [registerTarget, validateIdemKey, RegisterCall.normal, Py.orNone_orNone]

theorem findRegistration_normal (eventId : Int) (attendee : String) :
    findRegistration db.normal eventId attendee =
      (findRegistration db eventId attendee).map EventRegistration.normal :=
  Table.relax_first EventRegistration.clash_normal fun _ => rfl

theorem replayedRegistration_normal :
    replayedRegistration db.normal call.normal =
      (replayedRegistration db call).map EventRegistration.normal := by
  simp only [replayedRegistration, RegisterCall.normal, Py.orNone_orNone]
  cases hkey : Py.orNone call.idempotencyKey with
  | none => rfl
  | some key =>
    apply Table.relax_first EventRegistration.clash_normal
    intro r
    have hne := (Py.orNone_eq_some.mp hkey).2
    refine congrArg (decide (r.eventId = call.eventId) && ·) (decide_eq_decide.mpr ?_)
    exact Py.orNone_eq_some.trans (and_iff_left hne)

theorem activeCount_normal (eventId : Int) : activeCount db.normal eventId = activeCount db eventId :=
  List.countP_map

theorem maxWaitlistPosition_normal (eventId : Int) :
    maxWaitlistPosition db.normal eventId = maxWaitlistPosition db eventId := by
  simp only [maxWaitlistPosition, Database.normal, Table.relax, List.filter_map,
    List.filterMap_map]
  rfl

theorem assignSeat_normal : assignSeat db.normal locked = assignSeat db locked := by
  have hroom : hasRoom db.normal locked = hasRoom db locked := by
    simp only [hasRoom, activeCount_normal]
  rw [assignSeat, assignSeat, hroom, maxWaitlistPosition_normal]

theorem registrationReads_normal :
    registrationReads call.normal target db.normal =
      (registrationReads call target db).map (Option.map EventRegistration.normal) := by
  simp only [registrationReads, replayedRegistration_normal]
  change (resolveEventOr404 db call.eventId (Registrations.schoolFilter call.actor) >>= fun event =>
    openForRegistration event >>= fun _ => visibilityGate db call target event >>= fun _ => _) = _
  cases resolveEventOr404 db call.eventId (Registrations.schoolFilter call.actor) with
  | error f => rfl
  | ok event =>
    simp only [Except.bind_of_ok rfl]
    cases openForRegistration event with
    | error f => rfl
    | ok _ =>
      simp only [Except.bind_of_ok rfl]
      cases visibilityGate db call target event <;> rfl

theorem findRegistration_eq_none {eventId : Int} {attendee : String} :
    findRegistration db eventId attendee = none ↔
      ∀ r ∈ db.registrations.rows, r.eventId = eventId → r.attendeeUserId ≠ attendee := by
  simp [findRegistration, Table.first_eq_none]

theorem replayedRegistration_eq_none :
    replayedRegistration db call = none ↔
      ∀ key, call.idempotencyKey = some key → key ≠ "" →
        ∀ r ∈ db.registrations.rows, r.eventId = call.eventId → r.idempotencyKey ≠ some key := by
  simp only [replayedRegistration, Option.bind_eq_none_iff, Py.orNone_eq_some, and_imp,
    Table.first_eq_none, Bool.and_eq_false_imp, decide_eq_true_eq, decide_eq_false_iff_not]

theorem unclaimed_iff_lookups :
    Unclaimed call target db ↔
      findRegistration db call.eventId target = none ∧ replayedRegistration db call = none ∧
        (call.idempotencyKey = some "" → ¬ HoldsEmptyKey db call.eventId) := by
  rw [findRegistration_eq_none, replayedRegistration_eq_none]
  constructor
  · intro h
    refine ⟨fun r hr hevent => (h r hr hevent).1, fun key hkey _ r hr hevent =>
      (h r hr hevent).2 key hkey, ?_⟩
    rintro hkey ⟨r, hr, hevent, hempty⟩
    exact (h r hr hevent).2 "" hkey hempty
  · rintro ⟨hown, hreplay, hempty⟩ r hr hevent
    refine ⟨hown r hr hevent, fun key hkey hheld => ?_⟩
    by_cases hne : key = ""
    · rw [hne] at hkey hheld
      exact hempty hkey ⟨r, hr, hevent, hheld⟩
    · exact hreplay key hkey hne r hr hevent hheld

theorem unclaimed_normal_iff :
    Unclaimed call.normal target db.normal ↔
      findRegistration db call.eventId target = none ∧ replayedRegistration db call = none := by
  have hkey : call.normal.idempotencyKey ≠ some "" := by
    intro h
    exact (Py.orNone_eq_some.mp h).2 rfl
  rw [unclaimed_iff_lookups, replayedRegistration_normal, Option.map_eq_none_iff,
    show call.normal.eventId = call.eventId from rfl, findRegistration_normal,
    Option.map_eq_none_iff]
  simp only [hkey, false_implies, and_true]

theorem passes_normal_iff :
    Passes call.normal target event db.normal ↔ Passes call target event db := by
  constructor
  · rintro ⟨hresolved, hscope, hopen, hvisible⟩
    rw [registerTarget_normal] at hresolved
    exact ⟨hresolved, hscope, hopen, hvisible⟩
  · rintro ⟨hresolved, hscope, hopen, hvisible⟩
    rw [← registerTarget_normal] at hresolved
    exact ⟨hresolved, hscope, hopen, hvisible⟩

theorem registers_iff :
    Registers call target event db ↔ Passes call target event db ∧ Unclaimed call target db :=
  ⟨fun h => ⟨⟨h.resolved, h.inScope, h.isOpen, h.visible⟩, h.unclaimed⟩,
    fun ⟨h, hunclaimed⟩ => ⟨h.resolved, h.inScope, h.isOpen, h.visible, hunclaimed⟩⟩

theorem NoEmptyClash.unclaimed_normal (h : NoEmptyClash db call)
    (hpasses : Passes call target event db) :
    Unclaimed call.normal target db.normal ↔ Unclaimed call target db := by
  rw [unclaimed_normal_iff, unclaimed_iff_lookups]
  constructor
  · rintro ⟨hown, hreplay⟩
    exact ⟨hown, hreplay, fun hkey => h hkey target event hpasses hown⟩
  · rintro ⟨hown, hreplay, -⟩
    exact ⟨hown, hreplay⟩

theorem NoEmptyClash.registers_normal (h : NoEmptyClash db call) :
    Registers call.normal target event db.normal ↔ Registers call target event db := by
  rw [registers_iff, registers_iff, passes_normal_iff]
  exact and_congr_right h.unclaimed_normal

theorem Passes.reads (h : Passes call target event db) :
    registrationReads call target db = .ok (replayedRegistration db call) :=
  registrationReads_eq_ok.mpr ⟨event, h.inScope, h.isOpen, h.visible, rfl⟩

theorem Passes.lock (h : Passes call target event db) : lockEvent db call.eventId = .ok event :=
  lockEvent_eq_ok.mpr (resolveEventOr404_eq_ok.mp h.inScope).1

theorem insertRegistration_normal (seat : Seat)
    (h : Unclaimed call.normal target db.normal ↔ Unclaimed call target db) :
    insertRegistration call.normal target locked seat db.normal =
      (insertRegistration call target locked seat db).map
        fun result => (result.1.normal, result.2.normal) := by
  cases hinsert : insertRegistration call target locked seat db with
  | none => exact insertRegistration_eq_none.mpr (mt h.mp (insertRegistration_eq_none.mp hinsert))
  | some result =>
    obtain ⟨registration, db'⟩ := result
    obtain ⟨hnew, hrows, hdb⟩ := insertRegistration_eq_some hinsert
    cases hinsert' : insertRegistration call.normal target locked seat db.normal with
    | none =>
      exact absurd (h.mpr (.of_insert hinsert)) (insertRegistration_eq_none.mp hinsert')
    | some result' =>
      obtain ⟨registration', db''⟩ := result'
      obtain ⟨hnew', hrows', hdb'⟩ := insertRegistration_eq_some hinsert'
      have hnextId : db.normal.registrations.nextId = db.registrations.nextId :=
        Table.relax_nextId EventRegistration.clash_normal fun _ => rfl
      have hsame : registration' = registration.normal := by
        rw [hnew', hnextId, hnew]
        rfl
      have htable : db''.registrations = db'.normal.registrations := by
        apply Table.ext
        rw [hrows', hsame]
        change db.registrations.rows.map _ ++ _ = db'.registrations.rows.map _
        rw [hrows, List.map_append, List.map_singleton]
      rw [Option.map_some, hsame, hdb', htable, hdb]
      rfl

theorem registerForEvent_normal (h : NoEmptyClash db call) :
    registerForEvent call.normal db.normal =
      ((registerForEvent call db).1.normal,
        (registerForEvent call db).2.map EventRegistration.normal) := by
  rw [registerForEvent, registerForEvent, registerTarget_normal]
  cases htarget : registerTarget call with
  | error f => rfl
  | ok target =>
    simp only [registrationReads_normal]
    cases hreads : registrationReads call target db with
    | error f => rfl
    | ok replay =>
      cases replay with
      | some existing => rfl
      | none =>
        obtain ⟨event, hscope, hopen, hvisible, -⟩ := registrationReads_eq_ok.mp hreads
        have hpasses : Passes call target event db := ⟨htarget, hscope, hopen, hvisible⟩
        have hlock : lockEvent db.normal call.normal.eventId = .ok event := hpasses.lock
        simp only [Except.map, Option.map_none, hlock, hpasses.lock, assignSeat_normal,
          insertRegistration_normal _ (h.unclaimed_normal hpasses)]
        cases insertRegistration call target event (assignSeat db event) db with
        | some result => rfl
        | none =>
          simp only [Option.map_none, existingRegistration,
            show call.normal.eventId = call.eventId from rfl, findRegistration_normal]
          cases findRegistration db call.eventId target <;> rfl

theorem outcome_normal (answer : Handler EventRegistration) :
    outcome (answer.map EventRegistration.normal) = outcome answer := by
  cases answer with
  | ok r => rfl
  | error f => cases f <;> rfl

theorem seats_normal : seats db.normal = seats db := List.map_map

theorem holdsEmptyKey_step {eventId : Int} :
    HoldsEmptyKey (registerStep db call) eventId ↔
      HoldsEmptyKey db eventId ∨ eventId = call.eventId ∧ call.idempotencyKey = some "" ∧
        ∃ target event, Registers call target event db := by
  by_cases hregisters : ∃ target event, Registers call target event db
  · obtain ⟨target, event, h⟩ := hregisters
    obtain ⟨registrations, hresult, hrows⟩ := h.result
    rw [registerStep, hresult]
    simp only [HoldsEmptyKey, hrows, List.mem_append, List.mem_singleton, or_and_right, exists_or,
      exists_eq_left]
    apply or_congr_right
    constructor
    · rintro ⟨hevent, hkey⟩
      exact ⟨hevent.symm, hkey, target, event, h⟩
    · rintro ⟨hevent, hkey, -⟩
      exact ⟨hevent.symm, hkey⟩
  · rw [registerStep, registerForEvent_unchanged hregisters]
    simp [hregisters]

end

structure LosesEmptyKeys (db db' : Database) : Prop where
  normal : db'.normal = db.normal
  held : ∀ eventId, HoldsEmptyKey db' eventId → HoldsEmptyKey db eventId

section

variable {call call' : RegisterCall} {target : String} {event : Event} {db db' : Database}

theorem DropsEmptyKey.normal (h : DropsEmptyKey call call') : call'.normal = call.normal := by
  rcases h with rfl | ⟨hkey, rfl⟩
  · rfl
  · rw [RegisterCall.normal, RegisterCall.normal, hkey]
    rfl

theorem DropsEmptyKey.key (h : DropsEmptyKey call call') (hkey : call'.idempotencyKey = some "") :
    call.idempotencyKey = some "" := by
  rcases h with rfl | ⟨-, rfl⟩
  · exact hkey
  · cases hkey

theorem DropsEmptyKey.eventId (h : DropsEmptyKey call call') : call'.eventId = call.eventId := by
  have hsame := congrArg RegisterCall.eventId h.normal
  exact hsame

theorem LosesEmptyKeys.findRegistration_eq_none (h : LosesEmptyKeys db db') (eventId : Int)
    (attendee : String) :
    findRegistration db' eventId attendee = none ↔ findRegistration db eventId attendee = none := by
  rw [← Option.map_eq_none_iff (f := EventRegistration.normal), ← findRegistration_normal, h.normal,
    findRegistration_normal, Option.map_eq_none_iff]

theorem NoEmptyClash.loses (h : NoEmptyClash db call) (hdb : LosesEmptyKeys db db')
    (hcall : DropsEmptyKey call call') : NoEmptyClash db' call' := by
  intro hkey target event hpasses hown hheld
  rw [← passes_normal_iff, hdb.normal, hcall.normal, passes_normal_iff] at hpasses
  rw [hcall.eventId, hdb.findRegistration_eq_none] at hown
  rw [hcall.eventId] at hheld
  exact h (hcall.key hkey) target event hpasses hown (hdb.held _ hheld)

theorem LosesEmptyKeys.step (hdb : LosesEmptyKeys db db') (hcall : DropsEmptyKey call call')
    (h : NoEmptyClash db call) :
    registerOutcome db' call' = registerOutcome db call ∧
      LosesEmptyKeys (registerStep db call) (registerStep db' call') := by
  have h' := h.loses hdb hcall
  have hsquare := registerForEvent_normal h
  have hsquare' := registerForEvent_normal h'
  rw [hdb.normal, hcall.normal, hsquare, Prod.mk.injEq] at hsquare'
  refine ⟨?_, hsquare'.1.symm, ?_⟩
  · rw [registerOutcome, registerOutcome, ← outcome_normal, ← hsquare'.2, outcome_normal]
  · intro eventId hheld
    rw [holdsEmptyKey_step] at hheld ⊢
    refine hheld.imp (hdb.held eventId) ?_
    rintro ⟨hevent, hkey, target, event, hregisters⟩
    rw [← h'.registers_normal, hdb.normal, hcall.normal, h.registers_normal] at hregisters
    exact ⟨hevent.trans hcall.eventId, hcall.key hkey, target, event, hregisters⟩

theorem dropsEmptyKey_refl (call : RegisterCall) : DropsEmptyKey call call := Or.inl rfl

theorem noEmptyClash_of_outcome
    (h : ∀ call', DropsEmptyKey call call' → registerOutcome db call' = registerOutcome db call) :
    NoEmptyClash db call := by
  intro hkey target event hpasses hown hheld
  have hreplay : replayedRegistration db call = none := by
    rw [replayedRegistration, hkey]
    rfl
  -- with its key the request is refused
  have hclaimed : ¬ Unclaimed call target db := fun hunclaimed =>
    (unclaimed_iff_lookups.mp hunclaimed).2.2 hkey hheld
  have hrefused : registerOutcome db call = (409, none) := by
    simp only [registerOutcome, registerForEvent, hpasses.resolved, hpasses.reads, hreplay,
      hpasses.lock, insertRegistration_eq_none.mpr hclaimed, existingRegistration, hown]
    rfl
  -- and without it the request gets its row
  have hdrops : DropsEmptyKey call { call with idempotencyKey := none } := Or.inr ⟨hkey, rfl⟩
  have hregisters : Registers { call with idempotencyKey := none } target event db := by
    refine registers_iff.mpr ⟨?_, unclaimed_iff_lookups.mpr ⟨hown, rfl, ?_⟩⟩
    · rw [← passes_normal_iff, hdrops.normal, passes_normal_iff]
      exact hpasses
    · intro hempty
      cases hempty
  obtain ⟨registrations, hresult, -⟩ := hregisters.result
  have hsame := h _ hdrops
  rw [hrefused, registerOutcome, hresult] at hsame
  cases hsame

theorem NoEmptyClash.served (h : NoEmptyClash db call) : Served db call := by
  intro target event hpasses hown hreplay
  have hregisters : Registers call target event db := registers_iff.mpr
    ⟨hpasses, unclaimed_iff_lookups.mpr ⟨hown, hreplay, fun hkey => h hkey target event hpasses hown⟩⟩
  obtain ⟨registrations, hresult, hrows⟩ := hregisters.result
  rw [registerStep, hresult, hrows]
  exact ⟨_, List.mem_append_right _ (List.mem_singleton_self _), rfl, rfl⟩

end

structure EmptyIsAbsent (db : Database) (calls : List RegisterCall) : Prop where
  indifferent : ∀ calls', List.Forall₂ DropsEmptyKey calls calls' →
    Machine.outputs registerStep registerOutcome db calls' =
        Machine.outputs registerStep registerOutcome db calls ∧
      seats (Machine.run registerStep db calls') = seats (Machine.run registerStep db calls)
  served : Machine.Guarded registerStep Served db calls

/-- An empty key is the same as none exactly as long as no two new attendees of an event send
one. -/
theorem emptyIsAbsent_iff (db : Database) (calls : List RegisterCall) :
    EmptyIsAbsent db calls ↔ Machine.Guarded registerStep NoEmptyClash db calls := by
  constructor
  · intro h
    exact Machine.guarded_of_outputs dropsEmptyKey_refl (fun _ _ => noEmptyClash_of_outcome)
      fun calls' hcalls' => (h.indifferent calls' hcalls').1
  · intro h
    refine ⟨fun calls' hcalls' => ?_, h.imp fun _ _ => NoEmptyClash.served⟩
    have hsame : LosesEmptyKeys db db := ⟨rfl, fun _ => id⟩
    obtain ⟨houtputs, hrun⟩ := Machine.lockstep (R := LosesEmptyKeys) (Q := DropsEmptyKey)
      (G := NoEmptyClash) (fun _ _ _ _ hdb hcall hguard => hdb.step hcall hguard) hsame hcalls' h
    refine ⟨houtputs, ?_⟩
    rw [← seats_normal, hrun.normal, seats_normal]

def sampleEmptyKey (actor : Actor) : RegisterCall :=
  { sampleRegister actor with idempotencyKey := some "" }

/-- Two fans send an empty key, and the second is told of a duplicate that there is not. -/
theorem emptyIsAbsent_fails_second :
    ¬ ∀ (db : Database) (calls : List RegisterCall), EmptyIsAbsent db calls := by
  intro h
  have hsame := ((h sampleSmallService.db
    [sampleEmptyKey sampleFan, sampleEmptyKey sampleSecondFan]).indifferent
    [sampleEmptyKey sampleFan, sampleRegister sampleSecondFan]
    (.cons (dropsEmptyKey_refl _) (.cons (Or.inr ⟨rfl, rfl⟩) .nil))).1
  revert hsame
  decide +kernel

end CheckinService
