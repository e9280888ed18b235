import CheckinService.Laws.Lifecycle
import CheckinService.Laws.Velocity
import Mathlib.Data.List.ReduceOption

namespace CheckinService

open Relational

def PurgeCall.cutoff (call : PurgeCall) : Option ℚ :=
  let days := call.maxAgeDays.getD (retentionDays call.retentionDaysEnv)
  if days ≤ 0 then none else purgeCutoff days call.utcnow

def Operation.forgets : Operation → EventCheckin → Bool
  | .purge call, c => call.cutoff.any fun cutoff => c.checkinAt < cutoff
  | _, _ => false

def EventCheckin.step (op : Operation) (c : EventCheckin) : EventCheckin :=
  if op.forgets c then c.scrub else c

def EventCheckin.fate (ops : List Operation) (c : EventCheckin) : EventCheckin :=
  if ops.any fun op => op.forgets c then c.scrub else c

def EventCheckin.key (c : EventCheckin) : Int × String := (c.eventId, c.attendeeUserId)

def Forgotten (cutoff : ℚ) (db : Database) : Prop :=
  ∀ c ∈ db.checkins.rows, c.checkinAt < cutoff → c.latHash = none ∧ c.lonHash = none

section

variable {env : Env} {s : Service} {op : Operation} {c : EventCheckin}

theorem purgeOldGeofenceHashes_eq (call : PurgeCall) (db : Database) :
    (purgeOldGeofenceHashes call db).1 =
      call.cutoff.elim db fun cutoff => scrubbed cutoff db := by
  simp only [purgeOldGeofenceHashes, PurgeCall.cutoff]
  split
  · rfl
  · split <;> simp [*]

theorem EventCheckin.scrub_of_not_expired {cutoff : ℚ} (hage : c.checkinAt < cutoff)
    (h : c.expired cutoff = false) : c.scrub = c := by
  simp only [EventCheckin.expired, hage, decide_true, Bool.true_and, Bool.or_eq_false_iff,
    Option.isSome_eq_false_iff, Option.isNone_iff_eq_none] at h
  obtain ⟨hlat, hlon⟩ := h
  cases c
  cases hlat
  cases hlon
  rfl

theorem scrubbed_rows (cutoff : ℚ) (db : Database) :
    (scrubbed cutoff db).checkins.rows =
      db.checkins.rows.map fun c => if c.checkinAt < cutoff then c.scrub else c := by
  apply List.map_congr_left
  intro c _
  by_cases hage : c.checkinAt < cutoff
  · rw [if_pos hage]
    split
    · rfl
    · rename_i hkept
      exact (EventCheckin.scrub_of_not_expired hage (Bool.eq_false_iff.mpr hkept)).symm
  · simp [EventCheckin.expired, hage]

theorem serve_checkins (env : Env) (s : Service) (op : Operation) :
    ∃ new, (serve env s op).db.checkins.rows =
        s.db.checkins.rows.map (EventCheckin.step op) ++ new ∧
      new.map EventCheckin.key = (op.attends env s).toList ∧
      ∀ c ∈ new, ∃ call, op = .checkin call ∧ c.checkinAt = call.clock.dbNow := by
  have hframe := (serve_serves env s op).frame.checkins
  have hkeeps : (∀ c, op.forgets c = false) →
      s.db.checkins.rows.map (EventCheckin.step op) = s.db.checkins.rows := by
    intro h
    refine (List.map_congr_left fun c _ => ?_).trans (List.map_id _)
    simp [EventCheckin.step, h]
  cases op with
  | checkin call =>
    rw [hkeeps fun _ => rfl]
    simp only [serve]
    cases hsuccess : (submitCheckin env call s).2.succeeded with
    | false =>
      rw [submitCheckin_unchanged hsuccess]
      refine ⟨[], (List.append_nil _).symm, ?_, by simp⟩
      simp [Operation.attends, hsuccess]
    | true =>
      obtain ⟨target, plan, hrec⟩ := submitCheckin_succeeded.mp hsuccess
      have hattends : (Operation.checkin call).attends env s = some (call.eventId, target) :=
        attends_eq_some.mpr ⟨call, target, plan, rfl, hrec, rfl⟩
      refine ⟨_, hrec.checkins_rows, ?_, ?_⟩
      · rw [hattends]
        rfl
      · intro c hc
        rw [List.mem_singleton.mp hc]
        exact ⟨call, rfl, rfl⟩
  | purge call =>
    refine ⟨[], ?_, rfl, by simp⟩
    simp only [serve, purgeOldGeofenceHashes_eq, List.append_nil]
    cases hcutoff : call.cutoff with
    | none =>
      rw [hkeeps fun c => by simp [Operation.forgets, hcutoff]]
      rfl
    | some cutoff =>
      refine (scrubbed_rows cutoff s.db).trans (List.map_congr_left fun c _ => ?_)
      simp [EventCheckin.step, Operation.forgets, hcutoff]
  | _ =>
    refine ⟨[], ?_, rfl, by simp⟩
    rw [hframe rfl, hkeeps fun _ => rfl, List.append_nil]

theorem serve_appends_checkins (env : Env) :
    Machine.Appends (serve env) (fun s => s.db.checkins.rows) fun _ => EventCheckin.step := by
  intro s op
  obtain ⟨new, hrows, -, -⟩ := serve_checkins env s op
  exact ⟨new, hrows.symm⟩

theorem EventCheckin.fate_cons (op : Operation) (ops : List Operation) (c : EventCheckin) :
    c.fate (op :: ops) = (c.step op).fate ops := by
  have hscrub : ∀ op : Operation, op.forgets c.scrub = op.forgets c := by
    intro op
    cases op <;> rfl
  cases h : op.forgets c with
  | false => simp [EventCheckin.fate, EventCheckin.step, h]
  | true =>
    have hagain : c.scrub.scrub = c.scrub := rfl
    simp [EventCheckin.fate, EventCheckin.step, h, hscrub, hagain]

theorem EventCheckin.step_key (op : Operation) (c : EventCheckin) : (c.step op).key = c.key := by
  rw [EventCheckin.step]
  split <;> rfl

end

/-- Over every run of the service, from whatever state, the check-ins are a log of the answers:
each success, and nothing else, adds its row behind the others.  No row is ever lost or altered,
but that the purges whose cutoff lies after a check-in take its location hashes away. -/
theorem checkins_follow_answers (env : Env) (s : Service) (ops : List Operation) :
    s.db.checkins.rows.map (EventCheckin.fate ops) <+:
        (Machine.run (serve env) s ops).db.checkins.rows ∧
      (Machine.run (serve env) s ops).db.checkins.rows.map EventCheckin.key =
        s.db.checkins.rows.map EventCheckin.key ++ (attendances env s ops).reduceOption := by
  constructor
  · apply (serve_appends_checkins env).run (F := fun _ => EventCheckin.fate)
    · exact fun _ _ _ => rfl
    · exact fun _ op ops c _ => c.fate_cons op ops
  · induction ops generalizing s with
    | nil => simp [attendances, Machine.outputs, Machine.run, List.reduceOption]
    | cons op ops ih =>
      obtain ⟨new, hrows, hnew, -⟩ := serve_checkins env s op
      have hkeys : (s.db.checkins.rows.map (EventCheckin.step op)).map EventCheckin.key =
          s.db.checkins.rows.map EventCheckin.key := by
        rw [List.map_map]
        exact List.map_congr_left fun c _ => c.step_key op
      have hheard : (attendances env s (op :: ops)).reduceOption =
          (op.attends env s).toList ++ (attendances env (serve env s op) ops).reduceOption := by
        rw [attendances, Machine.outputs]
        cases op.attends env s <;> rfl
      rw [Machine.run, ih, hrows, List.map_append, hkeys, hnew, hheard, List.append_assoc]

theorem Forgotten.next {env : Env} {s : Service} {op : Operation} {cutoff : ℚ}
    (h : Forgotten cutoff s.db)
    (hclock : ∀ call, op = .checkin call → cutoff ≤ call.clock.dbNow) :
    Forgotten cutoff (serve env s op).db := by
  obtain ⟨new, hrows, -, hstamped⟩ := serve_checkins env s op
  intro c hc hage
  rw [hrows, List.mem_append, List.mem_map] at hc
  rcases hc with ⟨old, hold, rfl⟩ | hnew
  · rw [EventCheckin.step] at hage ⊢
    split
    · exact ⟨rfl, rfl⟩
    · rename_i hkept
      rw [if_neg hkept] at hage
      exact h old hold hage
  · obtain ⟨call, hop, hat⟩ := hstamped c hnew
    rw [hat] at hage
    exact absurd (hclock call hop) (not_le.mpr hage)

theorem forgotten_purge {env : Env} {s : Service} {call : PurgeCall} {cutoff : ℚ}
    (hcutoff : call.cutoff = some cutoff) :
    Forgotten cutoff (serve env s (.purge call)).db := by
  have hrows : (serve env s (.purge call)).db.checkins.rows = s.db.checkins.rows.map fun c =>
      if c.checkinAt < cutoff then c.scrub else c := by
    simp only [serve, purgeOldGeofenceHashes_eq, hcutoff, Option.elim_some, scrubbed_rows]
  intro c hc hage
  rw [hrows, List.mem_map] at hc
  obtain ⟨old, -, rfl⟩ := hc
  split
  · exact ⟨rfl, rfl⟩
  · rename_i hyoung
    rw [if_neg hyoung] at hage
    exact absurd hage hyoung

/-- Once a purge has run, no state of a later run holds a location of a check-in before its
cutoff, as long as the database's clock does not go back behind it. -/
theorem forgotten_always (env : Env) (s : Service) (call : PurgeCall) (ops : List Operation)
    {cutoff : ℚ} (hcutoff : call.cutoff = some cutoff)
    (hclock : ∀ checkin, Operation.checkin checkin ∈ ops → cutoff ≤ checkin.clock.dbNow) :
    Machine.Always (serve env) (fun s => Forgotten cutoff s.db) (serve env s (.purge call)) ops := by
  refine Machine.always_of_rest
    (K := fun s ops => Forgotten cutoff s.db ∧
      ∀ checkin, Operation.checkin checkin ∈ ops → cutoff ≤ checkin.clock.dbNow) ?_ ?_
    ⟨forgotten_purge hcutoff, hclock⟩
  · rintro s op ops ⟨h, hclock⟩
    constructor
    · apply h.next
      rintro call rfl
      exact hclock call List.mem_cons_self
    · intro checkin hmem
      exact hclock checkin (List.mem_cons_of_mem op hmem)
  · exact fun _ _ h => h.1

def sampleLocated : Service where
  db :=
    { checkins := .single
        { id := 1, schoolId := "school-1", eventId := 1, attendeeUserId := "fan-1",
          checkinAt := 50, checkinMethod := .geo, latHash := some "9a3f", lonHash := some "04c1" } }

theorem forgotten_always_sample :
    Machine.Always (serve sampleEnv) (fun s => Forgotten 100 s.db)
      (serve sampleEnv sampleLocated (.purge { maxAgeDays := some 1, utcnow := 86500 }))
      [.checkin (sampleScan 2 200)] := by
  apply forgotten_always
  · decide +kernel
  · intro checkin hmem
    cases List.mem_singleton.mp hmem
    decide +kernel

end CheckinService
