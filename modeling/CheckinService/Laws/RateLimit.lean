import CheckinService.Lib.Machine
import CheckinService.Lib.SlidingWindow
import CheckinService.Routers.RateLimit

namespace CheckinService

open SlidingWindow

structure LimiterCall where
  attendeeUserId : String
  eventId : Int
  clientIp : Option String := none
  now : ℚ

def LimiterCall.key (c : LimiterCall) : String × Int := (c.attendeeUserId, c.eventId)

def RateLimiter.answer (rl : RateLimiter) (c : LimiterCall) : RateLimiter × Option (String × Int) :=
  rl.rateLimit c.attendeeUserId c.eventId c.clientIp c.now

structure Meter where
  limiter : RateLimiter := {}
  accepted : List LimiterCall := []

def Meter.next (m : Meter) (c : LimiterCall) : Meter :=
  match m.limiter.answer c with
  | (limiter, none) => ⟨limiter, m.accepted ++ [c]⟩
  | (limiter, some _) => { m with limiter := limiter }

def attendeeLog (accepted : List LimiterCall) (key : String × Int) : List ℚ :=
  (accepted.filter fun a => a.key = key).map LimiterCall.now

def ipLog (accepted : List LimiterCall) (ip : String) : List ℚ :=
  (accepted.filter fun a => Py.orNone a.clientIp = some ip).map LimiterCall.now

def inLastMinute (log : List ℚ) (now : ℚ) : Nat :=
  (log.filter fun t => now - 60 ≤ t && t ≤ now).length

/-- What a call is refused with, told from the calls that were accepted before it. -/
def slidingWindowPolicy (accepted : List LimiterCall) (c : LimiterCall) : Option String :=
  if 5 ≤ inLastMinute (attendeeLog accepted c.key) c.now then some "rate_limited_attendee"
  else match Py.orNone c.clientIp with
    | none => none
    | some ip =>
      if 60 ≤ inLastMinute (ipLog accepted ip) c.now then some "rate_limited_ip" else none

def WithinQuota (accepted : List LimiterCall) : Prop :=
  (∀ key, Paced 60 5 (attendeeLog accepted key)) ∧ ∀ ip, Paced 60 60 (ipLog accepted ip)

structure Meter.Coupled (m : Meter) (now : ℚ) : Prop where
  attendeeEvent : Metered rlWindowS rlAttendeeEventMax now m.limiter.attendeeEvent
    (attendeeLog m.accepted)
  ip : Metered rlWindowS rlIpMax now m.limiter.ip (ipLog m.accepted)

theorem prune_eq (dq : List ℚ) (now window : ℚ) : prune dq now window = expire window dq now := rfl

theorem attendeeLog_append (accepted : List LimiterCall) (c : LimiterCall) :
    attendeeLog (accepted ++ [c]) =
      Function.update (attendeeLog accepted) c.key (attendeeLog accepted c.key ++ [c.now]) := by
  funext key
  by_cases hkey : key = c.key
  · subst hkey
    simp [attendeeLog]
  · simp [attendeeLog, hkey, Ne.symm hkey]

theorem ipLog_append_of_absent (accepted : List LimiterCall) {c : LimiterCall}
    (h : Py.orNone c.clientIp = none) : ipLog (accepted ++ [c]) = ipLog accepted := by
  funext ip
  simp [ipLog, h]

theorem ipLog_append (accepted : List LimiterCall) {c : LimiterCall} {ip : String}
    (h : Py.orNone c.clientIp = some ip) :
    ipLog (accepted ++ [c]) =
      Function.update (ipLog accepted) ip (ipLog accepted ip ++ [c.now]) := by
  funext ip'
  by_cases hip : ip' = ip
  · subst hip
    simp [ipLog, h]
  · simp [ipLog, h, hip, Ne.symm hip]

inductive Meter.Move (m : Meter) (c : LimiterCall) : RateLimiter → Option (String × Int) → Prop where
  | attendeeFull
      (full : rlAttendeeEventMax ≤ (prune (m.limiter.attendeeEvent c.key) c.now rlWindowS).length) :
      Move m c
        { m.limiter with
          attendeeEvent := Function.update m.limiter.attendeeEvent c.key
            (prune (m.limiter.attendeeEvent c.key) c.now rlWindowS) }
        (some ("rate_limited_attendee",
          retryAfter (prune (m.limiter.attendeeEvent c.key) c.now rlWindowS) c.now))
  | noAddress
      (room : (prune (m.limiter.attendeeEvent c.key) c.now rlWindowS).length < rlAttendeeEventMax)
      (absent : Py.orNone c.clientIp = none) :
      Move m c
        { m.limiter with
          attendeeEvent := Function.update m.limiter.attendeeEvent c.key
            (prune (m.limiter.attendeeEvent c.key) c.now rlWindowS ++ [c.now]) }
        none
  | addressFull {ip}
      (room : (prune (m.limiter.attendeeEvent c.key) c.now rlWindowS).length < rlAttendeeEventMax)
      (given : Py.orNone c.clientIp = some ip)
      (full : rlIpMax ≤ (prune (m.limiter.ip ip) c.now rlWindowS).length) :
      Move m c
        ⟨Function.update m.limiter.attendeeEvent c.key
            (prune (m.limiter.attendeeEvent c.key) c.now rlWindowS),
          Function.update m.limiter.ip ip (prune (m.limiter.ip ip) c.now rlWindowS)⟩
        (some ("rate_limited_ip", retryAfter (prune (m.limiter.ip ip) c.now rlWindowS) c.now))
  | accept {ip}
      (room : (prune (m.limiter.attendeeEvent c.key) c.now rlWindowS).length < rlAttendeeEventMax)
      (given : Py.orNone c.clientIp = some ip)
      (roomIp : (prune (m.limiter.ip ip) c.now rlWindowS).length < rlIpMax) :
      Move m c
        ⟨Function.update m.limiter.attendeeEvent c.key
            (prune (m.limiter.attendeeEvent c.key) c.now rlWindowS ++ [c.now]),
          Function.update m.limiter.ip ip (prune (m.limiter.ip ip) c.now rlWindowS ++ [c.now])⟩
        none

theorem Meter.answer_move (m : Meter) (c : LimiterCall) :
    m.Move c (m.limiter.answer c).1 (m.limiter.answer c).2 := by
  simp only [RateLimiter.answer, RateLimiter.rateLimit]
  split
  · rename_i hfull
    exact .attendeeFull hfull
  · rename_i hroom
    split
    · rename_i habsent
      exact .noAddress (not_le.mp hroom) habsent
    · rename_i ip hgiven
      split
      · rename_i hfull
        exact .addressFull (not_le.mp hroom) hgiven hfull
      · rename_i hroomIp
        exact .accept (not_le.mp hroom) hgiven (not_le.mp hroomIp)

section

variable {m : Meter} {c : LimiterCall} {now : ℚ}

theorem Meter.Coupled.later (h : m.Coupled now) (hle : now ≤ c.now) : m.Coupled c.now :=
  ⟨h.attendeeEvent.later hle, h.ip.later hle⟩

theorem Meter.Coupled.next (h : m.Coupled c.now) : (m.next c).Coupled c.now := by
  have hmove := m.answer_move c
  rw [Meter.next]
  generalize m.limiter.answer c = result at hmove ⊢
  obtain ⟨limiter, answer⟩ := result
  have hpushed : (prune (m.limiter.attendeeEvent c.key) c.now rlWindowS).length <
      rlAttendeeEventMax → _ := fun hroom =>
    h.attendeeEvent.pushed c.key (by rw [← h.attendeeEvent.expire_eq]; exact hroom)
  cases hmove with
  | attendeeFull full => exact ⟨h.attendeeEvent.pruned c.key, h.ip⟩
  | noAddress room absent =>
    refine ⟨?_, ?_⟩
    · simp only [attendeeLog_append]
      exact hpushed room
    · simp only [ipLog_append_of_absent m.accepted absent]
      exact h.ip
  | @addressFull ip room given full =>
    exact ⟨h.attendeeEvent.pruned c.key, h.ip.pruned ip⟩
  | @accept ip room given roomIp =>
    refine ⟨?_, ?_⟩
    · simp only [attendeeLog_append]
      exact hpushed room
    · simp only [ipLog_append m.accepted given]
      exact h.ip.pushed ip (by rw [← h.ip.expire_eq]; exact roomIp)

def refusal (accepted : List LimiterCall) (c : LimiterCall) : Option (String × Int) :=
  let dqAe := recent rlWindowS (attendeeLog accepted c.key) c.now
  if rlAttendeeEventMax ≤ dqAe.length then some ("rate_limited_attendee", retryAfter dqAe c.now)
  else match Py.orNone c.clientIp with
    | none => none
    | some ip =>
      let dqIp := recent rlWindowS (ipLog accepted ip) c.now
      if rlIpMax ≤ dqIp.length then some ("rate_limited_ip", retryAfter dqIp c.now) else none

theorem inLastMinute_eq {log : List ℚ} (hpast : ∀ t ∈ log, t ≤ now) :
    inLastMinute log now = (recent rlWindowS log now).length := by
  rw [inLastMinute, recent]
  congr 1
  apply List.filter_congr
  intro t ht
  simp [rlWindowS, hpast t ht]

theorem Meter.Coupled.answer_eq (h : m.Coupled c.now) :
    (m.limiter.answer c).2 = refusal m.accepted c := by
  have hae := h.attendeeEvent.expire_eq c.key
  have hip := fun ip => h.ip.expire_eq ip
  rw [refusal, ← hae]
  have hmove := m.answer_move c
  generalize m.limiter.answer c = result at hmove ⊢
  obtain ⟨limiter, answer⟩ := result
  cases hmove with
  | attendeeFull full => exact (if_pos full).symm
  | noAddress room absent =>
    rw [absent]
    exact (if_neg (not_le.mpr room)).symm
  | @addressFull ip room given full =>
    simp only [given, ← hip ip]
    exact ((if_neg (not_le.mpr room)).trans (if_pos full)).symm
  | @accept ip room given roomIp =>
    simp only [given, ← hip ip]
    exact ((if_neg (not_le.mpr room)).trans (if_neg (not_le.mpr roomIp))).symm

theorem Meter.Coupled.policy (h : m.Coupled c.now) :
    (refusal m.accepted c).map Prod.fst = slidingWindowPolicy m.accepted c := by
  have hae := inLastMinute_eq (h.attendeeEvent.tracks c.key).past
  have hip := fun ip => inLastMinute_eq (h.ip.tracks ip).past
  by_cases hfull : 5 ≤ (recent rlWindowS (attendeeLog m.accepted c.key) c.now).length
  · simp [refusal, slidingWindowPolicy, rlAttendeeEventMax, hae, hfull]
  · cases hgiven : Py.orNone c.clientIp with
    | none => simp [refusal, slidingWindowPolicy, rlAttendeeEventMax, hae, hfull, hgiven]
    | some ip =>
      simp only [refusal, slidingWindowPolicy, rlAttendeeEventMax, rlIpMax, hae, hip, hfull, hgiven,
        if_false]
      exact apply_ite (Option.map Prod.fst) _ _ _

theorem Meter.next_of_refused (h : (m.limiter.answer c).2.isSome) :
    m.next c = { m with limiter := (m.limiter.answer c).1 } := by
  rw [Meter.next]
  generalize m.limiter.answer c = result at h ⊢
  obtain ⟨limiter, answer⟩ := result
  cases answer with
  | none => cases h
  | some _ => rfl

def Meter.Ahead (m : Meter) (calls : List LimiterCall) : Prop :=
  calls.Pairwise (fun c c' => c.now ≤ c'.now) ∧ ∀ c ∈ calls, m.Coupled c.now

theorem Meter.Ahead.start {calls : List LimiterCall}
    (h : calls.Pairwise fun c c' => c.now ≤ c'.now) : Meter.Ahead {} calls :=
  ⟨h, fun _ _ => ⟨Metered.empty, Metered.empty⟩⟩

theorem Meter.Ahead.here {calls : List LimiterCall} (h : m.Ahead (c :: calls)) :
    m.Coupled c.now := h.2 c List.mem_cons_self

theorem Meter.Ahead.next {calls : List LimiterCall} (h : m.Ahead (c :: calls)) :
    (m.next c).Ahead calls := by
  obtain ⟨hfirst, hrest⟩ := List.pairwise_cons.mp h.1
  refine ⟨hrest, ?_⟩
  intro c' hc'
  exact (h.here.next).later (hfirst c' hc')

end

/-- The limiter decides as the policy does on every call, which keeps the calls it accepts within
the quota; and a call that is refused leaves every later answer as it would have been. -/
theorem rate_limiter_is_sliding_window (calls : List LimiterCall)
    (hclock : calls.Pairwise fun c c' => c.now ≤ c'.now) :
    Machine.Guarded Meter.next
        (fun m c => (m.limiter.answer c).2.map Prod.fst = slidingWindowPolicy m.accepted c)
        {} calls ∧
      Machine.Always Meter.next (fun m => WithinQuota m.accepted) {} calls ∧
      Machine.Guarded Meter.next
        (fun m c => (m.limiter.answer c).2.isSome → ∀ later : LimiterCall, c.now ≤ later.now →
          ((m.next c).limiter.answer later).2 = (m.limiter.answer later).2)
        {} calls := by
  have hstart := Meter.Ahead.start hclock
  refine ⟨?_, ?_, ?_⟩
  · refine Machine.guarded_of_rest (fun _ _ _ h => h.next) ?_ hstart
    intro m c calls h
    rw [h.here.answer_eq, h.here.policy]
  · have hquota : WithinQuota ({} : Meter).accepted := ⟨fun _ => .nil, fun _ => .nil⟩
    refine Machine.always_of_rest (K := fun m calls => m.Ahead calls ∧ WithinQuota m.accepted)
      ?_ (fun _ _ h => h.2) ⟨hstart, hquota⟩
    intro m c calls h
    have hcoupled := h.1.here.next
    exact ⟨h.1.next, hcoupled.attendeeEvent.paced, hcoupled.ip.paced⟩
  · refine Machine.guarded_of_rest (fun _ _ _ h => h.next) ?_ hstart
    intro m c calls h hrefused later hlater
    have hsame : (m.next c).accepted = m.accepted := by rw [m.next_of_refused hrefused]
    rw [(h.here.next.later hlater).answer_eq, (h.here.later hlater).answer_eq, hsame]

def sampleScans : List LimiterCall :=
  [0, 7, 12, 20, 31, 45].map fun now => { attendeeUserId := "42", eventId := 1, now := now }

theorem rate_limiter_is_sliding_window_sample :
    (Machine.Guarded Meter.next
        (fun m c => (m.limiter.answer c).2.map Prod.fst = slidingWindowPolicy m.accepted c)
        {} sampleScans ∧
      Machine.Always Meter.next (fun m => WithinQuota m.accepted) {} sampleScans ∧
      Machine.Guarded Meter.next
        (fun m c => (m.limiter.answer c).2.isSome → ∀ later : LimiterCall, c.now ≤ later.now →
          ((m.next c).limiter.answer later).2 = (m.limiter.answer later).2)
        {} sampleScans) ∧
      (Machine.run Meter.next {} sampleScans).accepted.length = 5 :=
  ⟨rate_limiter_is_sliding_window sampleScans (by decide +kernel), by decide +kernel⟩

def RateLimiter.RoomAt (rl : RateLimiter) (c : LimiterCall) (code : String) (t : ℚ) : Prop :=
  (code = "rate_limited_attendee" ∧
      (prune (rl.attendeeEvent c.key) t rlWindowS).length < rlAttendeeEventMax) ∨
    code = "rate_limited_ip" ∧ ∃ ip, Py.orNone c.clientIp = some ip ∧
      (prune (rl.ip ip) t rlWindowS).length < rlIpMax

theorem retryAfter_isLeast {dq : List ℚ} {now : ℚ} {max : Nat} (hfull : dq.length = max)
    (hmax : 0 < max) (hin : ∀ t ∈ dq, now - rlWindowS ≤ t) :
    IsLeast {r : ℤ | 0 < r ∧ (prune dq (now + r) rlWindowS).length < max} (retryAfter dq now) := by
  obtain _ | ⟨t, dq⟩ := dq
  · exact absurd hfull hmax.ne
  have hnonneg : 0 ≤ rlWindowS - (now - t) := by
    linarith [hin t List.mem_cons_self]
  have hretry : retryAfter (t :: dq) now = ⌊rlWindowS - (now - t)⌋ + 1 := by
    have hfloor : 0 ≤ ⌊rlWindowS - (now - t)⌋ := Int.floor_nonneg.mpr hnonneg
    rw [retryAfter, List.headD_cons, Py.trunc_of_nonneg hnonneg]
    omega
  have hopen : ∀ r : ℤ, (prune (t :: dq) (now + r) rlWindowS).length < max ↔
      retryAfter (t :: dq) now ≤ r := by
    intro r
    rw [← hfull, prune_eq, expire_length_lt_iff, hretry, Int.add_one_le_iff, Int.floor_lt]
    constructor
    · intro h
      linarith
    · intro h
      linarith
  have hpos : 0 < retryAfter (t :: dq) now := by
    rw [retryAfter]
    omega
  exact ⟨⟨hpos, (hopen _).mpr le_rfl⟩, fun r hr => (hopen r).mp hr.2⟩

theorem Meter.Coupled.retry_isLeast {m : Meter} {c : LimiterCall} (h : m.Coupled c.now)
    {code : String} {r : ℤ} (hrefused : (m.limiter.answer c).2 = some (code, r)) :
    IsLeast {r : ℤ | 0 < r ∧ (m.limiter.answer c).1.RoomAt c code (c.now + r)} r := by
  have hmove := m.answer_move c
  generalize m.limiter.answer c = result at hmove hrefused ⊢
  obtain ⟨limiter, answer⟩ := result
  subst hrefused
  cases hmove with
  | attendeeFull full =>
    have hleast := retryAfter_isLeast (h.attendeeEvent.full_length c.key full) (by decide)
      (fun t ht => h.attendeeEvent.expire_in ht)
    simpa only [RateLimiter.RoomAt, prune_eq, true_and, Function.update_self, String.reduceEq,
      false_and, or_false] using hleast
  | @addressFull ip room given full =>
    have hleast := retryAfter_isLeast (h.ip.full_length ip full) (by decide)
      (fun t ht => h.ip.expire_in ht)
    simpa only [RateLimiter.RoomAt, prune_eq, given, Option.some.injEq, exists_eq_left', true_and,
      Function.update_self, String.reduceEq, false_and, false_or] using hleast

/-- The wait a refused caller is told is the shortest whole number of seconds after which the
window that refused has room again. -/
theorem retry_after_is_exact (calls : List LimiterCall)
    (hclock : calls.Pairwise fun c c' => c.now ≤ c'.now) :
    Machine.Guarded Meter.next
      (fun m c => ∀ code r, (m.limiter.answer c).2 = some (code, r) →
        IsLeast {r : ℤ | 0 < r ∧ (m.limiter.answer c).1.RoomAt c code (c.now + r)} r)
      {} calls := by
  refine Machine.guarded_of_rest (fun _ _ _ h => h.next) ?_ (Meter.Ahead.start hclock)
  intro m c calls h code r hrefused
  exact h.here.retry_isLeast hrefused

theorem retry_after_is_exact_sample :
    Machine.Guarded Meter.next
        (fun m c => ∀ code r, (m.limiter.answer c).2 = some (code, r) →
          IsLeast {r : ℤ | 0 < r ∧ (m.limiter.answer c).1.RoomAt c code (c.now + r)} r)
        {} sampleScans ∧
      ((Machine.run Meter.next {} sampleScans).limiter.answer
        { attendeeUserId := "42", eventId := 1, now := 45 }).2 =
          some ("rate_limited_attendee", 16) :=
  ⟨retry_after_is_exact sampleScans (by decide +kernel), by decide +kernel⟩

end CheckinService
