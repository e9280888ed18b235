import CheckinService.Laws.EventSteps
import CheckinService.Laws.Factors
import CheckinService.Lib.Interleaving
import CheckinService.Lib.Machine

namespace CheckinService

open Relational Interleaving

variable {ι : Type}

def creations (calls : ι → CreateCall) (i : ι) : Database → CreatePhase → Database × CreatePhase :=
  createStep (calls i)

abbrev Creations (ι : Type) := Config Database ι CreatePhase

def creationStart (db : Database) : Creations ι := ⟨db, fun _ => .start⟩

structure CreatedOnce (calls : ι → CreateCall) (db : Database) (tenant key : String)
    (c : Creations ι) : Prop where
  one : c.shared.events.rows.countP (Event.keyed tenant key) ≤ 1
  same : ∀ i event, Resolves (calls i) db tenant (some key) → c.locals i = .ended (.ok event) →
    ∃ row ∈ c.shared.events.rows, row.keyed tenant key = true ∧ event.id = row.id
  handled : ∀ i, Resolves (calls i) db tenant (some key) →
    c.locals i ≠ .ended (.error (.unhandled .integrityError))

def CreatePhase.Sound (tenant key : String) (db : Database) : CreatePhase → Prop
  | .start => True
  | .pending t k _ => t = tenant ∧ k = some key
  | .refused t k => t = tenant ∧ k = some key ∧ ∃ row ∈ db.events.rows, row.keyed t key = true
  | .rolledBack t k => t = tenant ∧ k = some key ∧ ∃ row ∈ db.events.rows, row.keyed t key = true
  | .ended (.ok event) => event ∈ db.events.rows ∧ event.keyed tenant key = true
  | .ended (.error f) => f ≠ .unhandled .integrityError

structure CreationInvariant (calls : ι → CreateCall) (db : Database) (tenant key : String)
    (c : Creations ι) : Prop where
  groups : c.shared.groups = db.groups
  sound : ∀ i, Resolves (calls i) db tenant (some key) →
    (c.locals i).Sound tenant key c.shared

section

variable {call : CreateCall} {db db' : Database} {p p' : CreatePhase} {tenant key : String}

theorem CreateMove.groups (h : CreateMove call db p db' p') : db'.groups = db.groups := by
  cases h with
  | insert _ _ rest => rw [rest]
  | _ => rfl

theorem CreateMove.grows (h : CreateMove call db p db' p') :
    ∀ e ∈ db.events.rows, e ∈ db'.events.rows := by
  cases h with
  | insert _ rows _ =>
    intro e he
    rw [rows]
    exact List.mem_append_left _ he
  | _ => exact fun _ he => he

theorem CreatePhase.Sound.grows (h : p.Sound tenant key db)
    (hgrows : ∀ e ∈ db.events.rows, e ∈ db'.events.rows) : p.Sound tenant key db' := by
  cases p with
  | start => trivial
  | pending _ _ _ => exact h
  | refused t k =>
    obtain ⟨ht, hk, row, hrow, hkeyed⟩ := h
    exact ⟨ht, hk, row, hgrows row hrow, hkeyed⟩
  | rolledBack t k =>
    obtain ⟨ht, hk, row, hrow, hkeyed⟩ := h
    exact ⟨ht, hk, row, hgrows row hrow, hkeyed⟩
  | ended result =>
    cases result with
    | error f => exact h
    | ok event => exact ⟨hgrows event h.1, h.2⟩

theorem sound_of_findByIdemKey {event : Event}
    (h : findByIdemKey db tenant (some key) = some event) :
    (CreatePhase.ended (.ok event)).Sound tenant key db := by
  obtain ⟨_, ⟨⟩, hmem, hkeyed⟩ := findByIdemKey_eq_some.mp h
  exact ⟨hmem, hkeyed⟩

theorem CreateMove.sound (h : CreateMove call db p db' p')
    (hresolves : Resolves call db tenant (some key)) (hp : p.Sound tenant key db) :
    p'.Sound tenant key db' := by
  cases h with
  | fail reads =>
    obtain ⟨replay, hok⟩ := hresolves
    rw [reads] at hok
    cases hok
  | replay reads =>
    obtain ⟨rfl, rfl⟩ := hresolves.unique reads
    exact sound_of_findByIdemKey (createReads_replay reads).symm
  | untitled _ => simp [CreatePhase.Sound]
  | read reads => exact hresolves.unique reads
  | insert event_eq rows _ =>
    obtain ⟨rfl, rfl⟩ := hp
    refine ⟨?_, ?_⟩
    · simp [rows]
    · simp [event_eq, Event.keyed, newEvent]
  | conflict taken =>
    obtain ⟨rfl, rfl⟩ := hp
    obtain ⟨_, ⟨⟩, hmem, hkeyed⟩ := findByIdemKey_eq_some.mp taken
    exact ⟨rfl, rfl, _, hmem, hkeyed⟩
  | rollback => exact hp
  | recover found =>
    obtain ⟨rfl, rfl, -⟩ := hp
    exact sound_of_findByIdemKey found
  | lose missing =>
    -- the row that refused the insert is still there
    obtain ⟨rfl, rfl, row, hrow, hkeyed⟩ := hp
    have := findByIdemKey_eq_none.mp missing key rfl row hrow
    rw [hkeyed] at this
    cases this
  | finish => exact hp

end

variable {calls : ι → CreateCall} {db : Database} {tenant key : String} {c : Creations ι}

theorem CreationInvariant.createdOnce (h : CreationInvariant calls db tenant key c) :
    CreatedOnce calls db tenant key c where
  one := c.shared.events.countP_le_one Event.keyed_clash
  same i event hresolves hended := by
    have hsound := h.sound i hresolves
    rw [hended] at hsound
    exact ⟨event, hsound.1, hsound.2, rfl⟩
  handled i hresolves hended := by
    have hsound := h.sound i hresolves
    rw [hended] at hsound
    exact hsound rfl

variable [DecidableEq ι]

theorem CreationInvariant.after_turn (h : CreationInvariant calls db tenant key c) (i : ι) :
    CreationInvariant calls db tenant key (turn (creations calls) c i) := by
  have hmove : CreateMove (calls i) c.shared (c.locals i) _ _ :=
    createStep_move (calls i) c.shared (c.locals i)
  constructor
  · exact hmove.groups.trans h.groups
  · apply turn_forall
      (P := fun i db' p => Resolves (calls i) db tenant (some key) → p.Sound tenant key db')
      (creations calls)
    · intro hresolves
      exact hmove.sound ((resolves_congr h.groups).mpr hresolves) (h.sound i hresolves)
    · intro j _ hresolves
      exact (h.sound j hresolves).grows hmove.grows

/-- However the steps of any creations interleave, those that resolve to one tenant and carry one
key create one event, and all answer with it. -/
theorem create_idempotent (calls : ι → CreateCall) (db : Database) (tenant key : String)
    (schedule : List ι) :
    Machine.Always (turn (creations calls)) (CreatedOnce calls db tenant key) (creationStart db)
      schedule := by
  have hstart : CreationInvariant calls db tenant key (creationStart db) := ⟨rfl, fun _ _ => trivial⟩
  apply Machine.Always.imp (I := CreationInvariant calls db tenant key)
  · intro c h
    exact h.createdOnce
  · exact Machine.always_invariant (fun c i h => h.after_turn i) hstart schedule

def sampleRetriedEvent : CreateCall where
  payload := { title := "Mixer" }
  actor := sampleCoach
  idempotencyKey := some "create-1"

/-- Both lookups miss: the second insert is refused, and the second lookup finds the row. -/
example : ∀ again : Bool,
    (match (Machine.run (turn (creations fun _ => sampleRetriedEvent)) (creationStart {})
        [false, true, false, true, true, true]).locals again with
      | .ended (.ok event) => some event.id
      | _ => none) = some 1 := by
  decide +kernel

end CheckinService
