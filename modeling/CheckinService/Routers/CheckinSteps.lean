import CheckinService.Routers.Checkins

/-! `submit_checkin` cut where other requests can come in between: at its reads, and at each
of its commits.  `consume_token` reads its row and writes it back in two steps. -/

namespace CheckinService

inductive CheckinPhase where
  | start
  | admitted (target : String)
  | opened (target : String) (event : Event) (method : CheckinMethod)
  | peeked (target : String) (event : Event) (method : CheckinMethod)
      (qr : Option (QrToken × String))
  | ready (target : String) (plan : CheckinPlan)
  | inserted (target : String) (plan : CheckinPlan) (checkin : EventCheckin)
  | attended (target : String) (plan : CheckinPlan) (checkin : EventCheckin)
  | consuming (target : String) (plan : CheckinPlan) (checkin : EventCheckin) (rowId : Int)
  | finished (plan : CheckinPlan) (checkin : EventCheckin)
  | ended (outcome : CheckinOutcome)

def CheckinPhase.outcome : CheckinPhase → Option CheckinOutcome
  | .finished plan checkin => some (.returned (successResponse plan checkin))
  | .ended outcome => some outcome
  | _ => none

def planGates (env : Env) (call : CheckinCall) (target : String) (event : Event)
    (method : CheckinMethod) (qr : Option (QrToken × String)) (db : Database) :
    Gate CheckinPlan := do
  let geo ← geoGate env call.payload method event
  let registration ← registrationGate db call.eventId target
  return { event, method, qr, geo, registration }

def readToken (plan : CheckinPlan) (db : Database) : Option QrToken := do
  let (row, _) ← plan.qr
  (db.qrTokens.byId row.id).filter QrToken.unburnt

def checkinStep (env : Env) (call : CheckinCall) (s : Service) :
    CheckinPhase → Service × CheckinPhase
  | .start =>
    match checkinTarget call with
    | .error f => (s, .ended (.raised f))
    | .ok target =>
      match s.limiter.rateLimit target call.eventId (clientIp call) call.clock.monotonic with
      | (limiter, some (code, retry)) =>
        ({ s with limiter := limiter }, .ended (.raised (.http (throttled code retry))))
      | (limiter, none) => ({ s with limiter := limiter }, .admitted target)
  | .admitted target =>
    match openGates env call target s.db with
    | .error outcome => (s, .ended outcome)
    | .ok (event, method) => (s, .opened target event method)
  | .opened target event method =>
    match qrGate env call target method s.db with
    | .error outcome => (s, .ended outcome)
    | .ok qr => (s, .peeked target event method qr)
  | .peeked target event method qr =>
    match planGates env call target event method qr s.db with
    | .error outcome => (s, .ended outcome)
    | .ok plan => (s, .ready target plan)
  | .ready target plan =>
    match insertCheckin call target plan s.db with
    | none => (s, .ended (.returned (duplicateResponse call target s.db)))
    | some (checkin, db) => ({ s with db := db }, .inserted target plan checkin)
  | .inserted target plan checkin =>
    ({ s with db := markAttended plan.registration.id s.db }, .attended target plan checkin)
  | .attended target plan checkin =>
    match readToken plan s.db with
    | none => (s, .finished plan checkin)
    | some row => (s, .consuming target plan checkin row.id)
  | .consuming target plan checkin rowId =>
    ({ s with db := burnToken rowId (some target) call.clock.utcnow s.db }, .finished plan checkin)
  | .finished plan checkin => (s, .finished plan checkin)
  | .ended outcome => (s, .ended outcome)

end CheckinService
