import CheckinService.Laws.Visibility
import Mathlib.Tactic.Linarith

namespace CheckinService

open Relational

inductive EventWrite (geofenceMax : Int) where
  | create (call : CreateCall) (accepted : call.payload.accepted geofenceMax = true)
  | update (call : UpdateCall) (accepted : call.payload.accepted geofenceMax = true)

def eventWrite {geofenceMax : Int} (db : Database) : EventWrite geofenceMax → Database
  | .create call _ => (createEvent call db).1
  | .update call _ => (updateEvent call db).1

inductive Writes {geofenceMax : Int} (db : Database) : EventWrite geofenceMax → Event → Prop where
  | create {call accepted tenant key title}
      (reads : createReads call db = .ok (tenant, key, none))
      (titled : sanitizedTitle (some call.payload.title) = .ok title) :
      Writes db (.create call accepted) (newEvent call tenant key title db.events.nextId)
  | update {call accepted old new} (owned : ownEvent call.actor call.eventId db = .ok old)
      (merged : patched call.payload old = .ok new) : Writes db (.update call accepted) new

variable {geofenceMax : Int}

theorem eventWrite_forall_iff {P : Event → Prop} {db : Database} {w : EventWrite geofenceMax}
    (h : ∀ e ∈ db.events.rows, P e) :
    (∀ e ∈ (eventWrite db w).events.rows, P e) ↔ ∀ e, Writes db w e → P e := by
  cases w with
  | create call accepted =>
    rw [eventWrite, createEvent_forall_iff h]
    constructor
    · intro hall e hwrites
      cases hwrites with
      | create reads titled => exact hall _ _ _ reads titled
    · intro hall tenant key title reads titled
      exact hall _ (.create reads titled)
  | update call accepted =>
    rw [eventWrite, updateEvent_forall_iff h]
    constructor
    · intro hall e hwrites
      cases hwrites with
      | update owned merged => exact hall _ _ owned merged
    · intro hall old new owned merged
      exact hall _ (.update owned merged)

theorem columns_iff_guarded {P : Event → Prop} {G : Database → EventWrite geofenceMax → Prop}
    (row : ∀ db w e, (∀ e ∈ db.events.rows, P e) → Writes db w e → (P e ↔ G db w))
    (db : Database) (writes : List (EventWrite geofenceMax)) :
    Machine.Always eventWrite (fun db => ∀ e ∈ db.events.rows, P e)
        { db with events := .empty } writes ↔
      Machine.Guarded eventWrite (fun db w => (∃ e, Writes db w e) → G db w)
        { db with events := .empty } writes := by
  apply Machine.always_iff_guarded_of_step
  · intro s w h
    rw [eventWrite_forall_iff h]
    constructor
    · rintro hall ⟨e, he⟩
      exact (row s w e h he).mp (hall e he)
    · intro hguard e he
      exact (row s w e h he).mpr (hguard ⟨e, he⟩)
  · intro e he
    cases he

def Event.InOrder (e : Event) : Prop :=
  ∀ start ∈ e.startTime, ∀ end_ ∈ e.endTime, start < end_

instance (e : Event) : Decidable e.InOrder := by
  unfold Event.InOrder
  infer_instance

def EventWrite.startTime : EventWrite geofenceMax → Field (Option Datetime)
  | .create call _ => call.payload.startTime
  | .update call _ => call.payload.startTime

def EventWrite.endTime : EventWrite geofenceMax → Field (Option Datetime)
  | .create call _ => call.payload.endTime
  | .update call _ => call.payload.endTime

/-- The event takes longer than its end lags behind its start in UTC offset. -/
def Outlasts (start end_ : Datetime) (x y : ℚ) : Prop :=
  x - y < (end_.wall - y) - (start.wall - x)

/-- Asked of a body that has both times, with offsets. -/
def EventWrite.KeepsOrder (w : EventWrite geofenceMax) : Prop :=
  ∀ start end_ x y, w.startTime = .supplied (some start) → w.endTime = .supplied (some end_) →
    start.offset = some x → end_.offset = some y → Outlasts start end_ x y

theorem outlasts_iff {start end_ : Datetime} {x y : ℚ} :
    Outlasts start end_ x y ↔ start.wall < end_.wall := by
  rw [Outlasts]
  constructor <;> intro h <;> linarith

theorem wall_lt_iff {start end_ : Datetime} (h : end_.le start = .ok false) :
    start.wall < end_.wall ↔
      ∀ x y, start.offset = some x → end_.offset = some y → Outlasts start end_ x y := by
  simp only [outlasts_iff]
  constructor
  · intro hlt x y _ _
    exact hlt
  · intro hall
    rw [Datetime.le] at h
    split at h
    · simpa using h
    · rename_i y x hend hstart
      exact hall x y hstart hend
    · cases h

theorem EventCreate.endAfterStart_eq_true {b : EventCreate} {start end_ : Datetime}
    (h : b.endAfterStart = .ok true) (hstart : b.startTime.getD none = some start)
    (hend : b.endTime = .supplied (some end_)) : end_.le start = .ok false := by
  rw [EventCreate.endAfterStart, hstart, hend] at h
  obtain ⟨late, hle, hlate⟩ := Except.bind_eq_ok.mp h
  rw [hle]
  cases late with
  | true => cases hlate
  | false => rfl

theorem Field.getD_none_eq_some {f : Field (Option α)} {v : α} :
    f.getD none = some v ↔ f = .supplied (some v) := by
  cases f <;> simp [Field.getD]

theorem Field.getD_storedTime_aware {f : Field (Option Datetime)} {stored : Option ℚ}
    {v : Datetime} {x : ℚ} (h : v.offset = some x) :
    f.getD (storedTime stored) = some v ↔ f = .supplied (some v) := by
  cases f with
  | supplied value => simp [Field.getD]
  | unset =>
    simp only [Field.getD, reduceCtorEq, iff_false, storedTime, Option.map_eq_some_iff, not_exists,
      not_and]
    rintro wall - rfl
    cases h

theorem le_of_endsAfterStart {payload : EventUpdate} {event : Event} {start end_ : Datetime}
    (h : endsAfterStart payload event = .ok ()) (hstart : payload.newStart event = some start)
    (hend : payload.newEnd event = some end_) : end_.le start = .ok false := by
  obtain ⟨hmixed, hearly⟩ := endsAfterStart_eq_ok.mp h
  rcases end_.le_cases start with ⟨hne, -⟩ | ⟨-, early, hle⟩
  · exact absurd ⟨start, end_, hstart, hend, hne.symm⟩ hmixed
  · cases early with
    | true => exact absurd ⟨start, end_, hstart, hend, hle⟩ hearly
    | false => exact hle

theorem inOrder_iff {e : Event} (start end_ : Option Datetime)
    (hstart : start.map Datetime.wall = e.startTime) (hend : end_.map Datetime.wall = e.endTime)
    (hcompared : ∀ s t, start = some s → end_ = some t → t.le s = .ok false) :
    e.InOrder ↔ ∀ s t x y, start = some s → end_ = some t →
      s.offset = some x → t.offset = some y → Outlasts s t x y := by
  rw [Event.InOrder, ← hstart, ← hend]
  cases start with
  | none => simp
  | some s =>
    cases end_ with
    | none => simp
    | some t =>
      have hlt := wall_lt_iff (hcompared s t rfl rfl)
      constructor
      · intro h _ _ x y hs ht hx hy
        cases hs
        cases ht
        exact hlt.mp (h _ rfl _ rfl) x y hx hy
      · intro h _ hs _ ht
        cases hs
        cases ht
        exact hlt.mpr fun x y hx hy => h s t x y rfl rfl hx hy

theorem writes_inOrder_iff {db : Database} {w : EventWrite geofenceMax} {e : Event}
    (hw : Writes db w e) : e.InOrder ↔ w.KeepsOrder := by
  cases hw with
  | @create call accepted tenant key title reads titled =>
    have htimes : call.payload.endAfterStart = .ok true := by
      simp only [EventCreate.accepted, Bool.and_eq_true, decide_eq_true_eq] at accepted
      exact accepted.2
    rw [inOrder_iff (call.payload.startTime.getD none) (call.payload.endTime.getD none) rfl rfl]
    · simp only [Field.getD_none_eq_some]
      rfl
    · intro s t hs ht
      exact EventCreate.endAfterStart_eq_true htimes hs (Field.getD_none_eq_some.mp ht)
  | @update call accepted old _ owned merged =>
    obtain ⟨htimes, hpatches⟩ := patched_patches merged
    rw [inOrder_iff _ _ ((Field.getD_storedTime _ _).trans hpatches.startTime)
      ((Field.getD_storedTime _ _).trans hpatches.endTime)]
    · constructor
      · intro h s t x y hs ht hx hy
        exact h s t x y ((Field.getD_storedTime_aware hx).mpr hs)
          ((Field.getD_storedTime_aware hy).mpr ht) hx hy
      · intro h s t x y hs ht hx hy
        exact h s t x y ((Field.getD_storedTime_aware hx).mp hs)
          ((Field.getD_storedTime_aware hy).mp ht) hx hy
    · intro s t hs ht
      exact le_of_endsAfterStart htimes hs ht

/-- Over every run, the stored times stay in order exactly as long as no event is so short that
the offsets of its two times, which are dropped, turn it round. -/
theorem inOrder_iff_keepsOrder (db : Database) (writes : List (EventWrite geofenceMax)) :
    Machine.Always eventWrite (fun db => ∀ e ∈ db.events.rows, e.InOrder)
        { db with events := .empty } writes ↔
      Machine.Guarded eventWrite (fun db w => (∃ e, Writes db w e) → w.KeepsOrder)
        { db with events := .empty } writes :=
  columns_iff_guarded (fun _ _ _ _ hw => writes_inOrder_iff hw) db writes

def sampleFlight : CreateCall where
  payload :=
    { title := "Mixer"
      startTime := .supplied (some ⟨43200, some 0⟩)
      endTime := .supplied (some ⟨39600, some (-18000)⟩) }
  actor := sampleCreator

/-- From 12:00 UTC to 11:00 five hours west of it: four hours that the columns turn round. -/
theorem inOrder_fails_offsets :
    ¬ ∀ (db : Database) (writes : List (EventWrite 500)),
      Machine.Always eventWrite (fun db => ∀ e ∈ db.events.rows, e.InOrder)
        { db with events := .empty } writes := by
  intro h
  have hrun := (h {} [.create sampleFlight (by decide +kernel)]).run
  revert hrun
  decide +kernel

def Event.Placed (e : Event) : Prop := e.latitude = none ↔ e.longitude = none

instance (e : Event) : Decidable e.Placed := by
  unfold Event.Placed
  infer_instance

def Field.Flips (f : Field (Option α)) (stored : Option β) : Prop :=
  ∃ value, f = .supplied value ∧ (value = none ↔ stored ≠ none)

/-- Asked of a new event that its longitude is not left out beside a latitude, and of a PATCH
that it flips both coordinates or none. -/
def KeepsPlace (db : Database) : EventWrite geofenceMax → Prop
  | .create call _ => call.payload.longitude = .unset → call.payload.latitude.getD none = none
  | .update call _ => ∀ old, ownEvent call.actor call.eventId db = .ok old →
      (call.payload.latitude.Flips old.latitude ↔ call.payload.longitude.Flips old.longitude)

theorem Field.flips_iff {f : Field (Option α)} {stored : Option β} (convert : α → β) :
    f.Flips stored ↔ ¬ ((f.map (Option.map convert)).getD stored = none ↔ stored = none) := by
  cases f with
  | unset => simp [Field.Flips, Field.map, Field.getD]
  | supplied value =>
    simp only [Field.Flips, Field.map, Field.getD, Field.supplied.injEq, exists_eq_left',
      Option.map_eq_none_iff]
    tauto

theorem Patches.placed_iff {payload : EventUpdate} {old new : Event} (h : Patches payload old new)
    (hold : old.Placed) :
    new.Placed ↔ (payload.latitude.Flips old.latitude ↔ payload.longitude.Flips old.longitude) := by
  rw [Event.Placed] at *
  rw [← h.latitude, ← h.longitude, Field.flips_iff Coordinate.ofFloat,
    Field.flips_iff Coordinate.ofFloat]
  tauto

theorem newEvent_placed_iff {call : CreateCall} {tenant title : String} {key : Option String}
    {id : Int} (h : call.payload.lonRequiresLat = true) :
    (newEvent call tenant key title id).Placed ↔
      (call.payload.longitude = .unset → call.payload.latitude.getD none = none) := by
  change ((call.payload.latitude.getD none).map Coordinate.ofFloat = none ↔
    (call.payload.longitude.getD none).map Coordinate.ofFloat = none) ↔ _
  rw [Option.map_eq_none_iff, Option.map_eq_none_iff]
  rw [EventCreate.lonRequiresLat] at h
  split at h
  · rename_i hunset
    simp [hunset, Field.getD]
  · rename_i value hsupplied
    rw [beq_iff_eq, Bool.eq_iff_iff, Option.isNone_iff_eq_none, Option.isNone_iff_eq_none] at h
    simp [hsupplied, Field.getD, h]

theorem writes_placed_iff {db : Database} {w : EventWrite geofenceMax} {e : Event}
    (h : ∀ e ∈ db.events.rows, e.Placed) (hw : Writes db w e) : e.Placed ↔ KeepsPlace db w := by
  cases hw with
  | @create call accepted tenant key title reads titled =>
    apply newEvent_placed_iff
    simp only [EventCreate.accepted, Bool.and_eq_true] at accepted
    exact accepted.1.2
  | @update call accepted old _ owned merged =>
    rw [(patched_patches merged).2.placed_iff (h old (ownEvent_eq_ok.mp owned).1), KeepsPlace,
      owned]
    simp only [Except.ok.injEq, forall_eq']

/-- Over every run, the coordinates stay in pairs exactly as long as no new event leaves out the
longitude alone and no PATCH flips one of them alone. -/
theorem placed_iff_keepsPlace (db : Database) (writes : List (EventWrite geofenceMax)) :
    Machine.Always eventWrite (fun db => ∀ e ∈ db.events.rows, e.Placed)
        { db with events := .empty } writes ↔
      Machine.Guarded eventWrite (fun db w => (∃ e, Writes db w e) → KeepsPlace db w)
        { db with events := .empty } writes :=
  columns_iff_guarded (fun _ _ _ => writes_placed_iff) db writes

def sampleHalfPlaced : CreateCall where
  payload := { title := "Mixer", latitude := .supplied (some 33) }
  actor := sampleCreator

/-- The validator of the longitude does not run on a body without one. -/
theorem placed_fails_latitude :
    ¬ ∀ (db : Database) (writes : List (EventWrite 500)),
      Machine.Always eventWrite (fun db => ∀ e ∈ db.events.rows, e.Placed)
        { db with events := .empty } writes := by
  intro h
  have hrun := (h {} [.create sampleHalfPlaced (by decide +kernel)]).run
  revert hrun
  decide +kernel

end CheckinService
