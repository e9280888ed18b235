import CheckinService.Lib.Python.Int
import Mathlib.Logic.Function.Basic

/-! The sliding-window limiter of `routers/checkins.py`: one deque of accepted readings of
the monotonic clock per (attendee, event) and one per client IP, kept in process memory. -/

namespace CheckinService

def rlWindowS : ℚ := 60

def rlAttendeeEventMax : Nat := 5

def rlIpMax : Nat := 60

structure RateLimiter where
  attendeeEvent : String × Int → List ℚ := fun _ => []
  ip : String → List ℚ := fun _ => []

def prune (dq : List ℚ) (now window : ℚ) : List ℚ := dq.dropWhile fun t => t < now - window

def retryAfter (dq : List ℚ) (now : ℚ) : Int :=
  max (Py.trunc (rlWindowS - (now - dq.headD now)) + 1) 1

def RateLimiter.rateLimit (rl : RateLimiter) (attendeeUserId : String) (eventId : Int)
    (clientIp : Option String) (now : ℚ) : RateLimiter × Option (String × Int) :=
  let key := (attendeeUserId, eventId)
  let dqAe := prune (rl.attendeeEvent key) now rlWindowS
  let withAe dq := Function.update rl.attendeeEvent key dq
  if rlAttendeeEventMax ≤ dqAe.length then
    ({ rl with attendeeEvent := withAe dqAe },
      some ("rate_limited_attendee", retryAfter dqAe now))
  else match Py.orNone clientIp with
    | none => ({ rl with attendeeEvent := withAe (dqAe ++ [now]) }, none)
    | some ip =>
      let dqIp := prune (rl.ip ip) now rlWindowS
      if rlIpMax ≤ dqIp.length then
        (⟨withAe dqAe, Function.update rl.ip ip dqIp⟩,
          some ("rate_limited_ip", retryAfter dqIp now))
      else
        (⟨withAe (dqAe ++ [now]), Function.update rl.ip ip (dqIp ++ [now])⟩, none)

end CheckinService
