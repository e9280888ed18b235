import CheckinService.Lib.OrderBy
import CheckinService.Lib.Paging
import CheckinService.Routers.Events
import Mathlib.Data.Prod.Lex
import Mathlib.Order.WithBot

namespace CheckinService

open Relational OrderBy Paging

structure Listed (actor : Actor) (eventType : Option String) (e : Event) : Prop where
  isOpen : e.status = .published ∨ e.status = .active
  visible : e.visibility = .public_ ∨ e.visibility = .schoolOnly ∧
    ∃ school, school ≠ "" ∧ actor.schoolId = some school ∧ e.schoolId = school
  ofType : ∀ type, type ≠ "" → eventType = some type → e.eventType.name = type

def startOrEnd : Option ℚ → WithTop ℚ
  | none => ⊤
  | some t => t

def feedKey (e : Event) : WithTop ℚ ×ₗ ℤᵒᵈ :=
  toLex (startOrEnd e.startTime, OrderDual.toDual e.id)

theorem discoverOrder_eq : discoverOrder = fun a b => decide (feedKey a ≤ feedKey b) := by
  funext a b
  rw [Bool.eq_iff_iff, decide_eq_true_eq, feedKey, feedKey, Prod.Lex.toLex_le_toLex,
    discoverOrder]
  cases a.startTime with
  | none =>
    cases b.startTime with
    | none => simp [startOrEnd]
    | some t => simp [startOrEnd]
  | some s =>
    cases b.startTime with
    | none => simp [startOrEnd]
    | some t => simp [startOrEnd]

theorem Event.eq_of_feedKey {db : Database} {e e' : Event} (he : e ∈ db.events.rows)
    (he' : e' ∈ db.events.rows) (h : feedKey e = feedKey e') : e = e' :=
  db.events.eq_of_id he he' (OrderDual.toDual.injective (Prod.ext_iff.mp (toLex.injective h)).2)

theorem discoverable_iff {actor : Actor} {e : Event} :
    discoverable actor e = true ↔ (e.status = .published ∨ e.status = .active) ∧
      (e.visibility = .public_ ∨ e.visibility = .schoolOnly ∧
        Py.orNone actor.schoolId = some e.schoolId) := by
  rw [discoverable]
  cases Py.orNone actor.schoolId with
  | none => simp [EventStatus.isOpen]
  | some school => simp [EventStatus.isOpen, eq_comm (a := school)]

theorem discoverFilter_iff {call : DiscoverCall} {e : Event} :
    discoverFilter call e = true ↔ Listed call.actor call.eventType e := by
  have hschool : Py.orNone call.actor.schoolId = some e.schoolId ↔
      ∃ school, school ≠ "" ∧ call.actor.schoolId = some school ∧ e.schoolId = school := by
    rw [Py.orNone_eq_some]
    constructor
    · rintro ⟨hschool, hne⟩
      exact ⟨e.schoolId, hne, hschool, rfl⟩
    · rintro ⟨school, hne, hschool, rfl⟩
      exact ⟨hschool, hne⟩
  have htype : ((Py.orNone call.eventType).all fun type => e.eventType.name = type) = true ↔
      ∀ type, type ≠ "" → call.eventType = some type → e.eventType.name = type := by
    simp only [Option.all_eq_true, Py.orNone_eq_some, decide_eq_true_eq, and_imp]
    exact forall_congr' fun type => forall_comm
  rw [discoverFilter, Bool.and_eq_true, discoverable_iff, hschool, htype]
  exact ⟨fun h => ⟨h.1.1, h.1.2, h.2⟩, fun h => ⟨⟨h.isOpen, h.visible⟩, h.ofType⟩⟩

def feed (call : DiscoverCall) (db : Database) : List Event :=
  (db.events.rows.filter (discoverFilter call)).mergeSort discoverOrder

section

variable {call : DiscoverCall} {db : Database}

theorem mem_feed {e : Event} :
    e ∈ feed call db ↔ e ∈ db.events.rows ∧ Listed call.actor call.eventType e := by
  rw [feed, List.mem_mergeSort, List.mem_filter, discoverFilter_iff]

theorem feed_ordered : (feed call db).Pairwise fun a b => feedKey a < feedKey b := by
  rw [feed, discoverOrder_eq]
  apply pairwise_lt_mergeSort feedKey (db.events.nodup.filter _)
  intro a ha b hb hsame
  exact Event.eq_of_feedKey (List.mem_of_mem_filter ha) (List.mem_of_mem_filter hb) hsame

theorem discoverEvents_page (k : Nat) :
    (discoverEvents { call with offset := k * call.limit } db).events =
      (page (feed call db) call.limit k).map Event.discoverResponse := rfl

theorem discoverEvents_total (offset : Nat) :
    (discoverEvents { call with offset } db).total = (feed call db).length :=
  (List.length_mergeSort _).symm

end

/-- Page after page until one is empty, the reader sees every event of the feed once, in its
order; and each page tells how many there are. -/
theorem discover_pages_exact (call : DiscoverCall) (db : Database) :
    ∃ events : List Event, events.Nodup ∧
      (∀ e, e ∈ events ↔ e ∈ db.events.rows ∧ Listed call.actor call.eventType e) ∧
      events.Pairwise (fun a b => feedKey a < feedKey b) ∧
      (∃ n, (∀ k < n, (discoverEvents { call with offset := k * call.limit } db).events ≠ []) ∧
        (discoverEvents { call with offset := n * call.limit } db).events = [] ∧
        ((List.range n).flatMap fun k =>
            (discoverEvents { call with offset := k * call.limit } db).events) =
          events.map Event.discoverResponse) ∧
      ∀ offset, (discoverEvents { call with offset } db).total = events.length := by
  have hlimit : 0 < call.limit := by
    have hrange := call.limit_range
    simp only [within, Bool.and_eq_true, decide_eq_true_eq] at hrange
    exact hrange.1
  refine ⟨feed call db, feed_ordered.imp fun h => ?_, fun e => mem_feed, feed_ordered, ?_,
    discoverEvents_total⟩
  · rintro rfl
    exact lt_irrefl _ h
  · obtain ⟨n, hfull, hempty, hall⟩ := pages_until_empty (feed call db) hlimit
    refine ⟨n, ?_, ?_, ?_⟩
    · intro k hk
      rw [discoverEvents_page, ne_eq, List.map_eq_nil_iff]
      exact hfull k hk
    · rw [discoverEvents_page, List.map_eq_nil_iff]
      exact hempty
    · simp only [discoverEvents_page]
      rw [← List.map_flatMap, hall]

end CheckinService
