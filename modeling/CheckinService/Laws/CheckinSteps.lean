import CheckinService.Laws.CheckinEffect
import CheckinService.Routers.CheckinSteps

namespace CheckinService

def soloStep (env : Env) (call : CheckinCall) (c : Service × CheckinPhase) :
    Service × CheckinPhase := checkinStep env call c.1 c.2

theorem soloStep_ended (env : Env) (call : CheckinCall) (s : Service) (o : CheckinOutcome)
    (n : Nat) : (soloStep env call)^[n] (s, .ended o) = (s, .ended o) :=
  Function.iterate_fixed rfl n

theorem soloStep_finished (env : Env) (call : CheckinCall) (s : Service) (plan : CheckinPlan)
    (checkin : EventCheckin) (n : Nat) :
    (soloStep env call)^[n] (s, .finished plan checkin) = (s, .finished plan checkin) :=
  Function.iterate_fixed rfl n

theorem consumeQr_of_readToken (call : CheckinCall) (target : String) (plan : CheckinPlan)
    (db : Database) : consumeQr call target plan db = match readToken plan db with
      | none => db
      | some row => burnToken row.id (some target) call.clock.utcnow db := by
  rw [consumeQr, readToken]
  cases plan.qr with
  | none => rfl
  | some q =>
    obtain ⟨row, hash⟩ := q
    change consumeToken row.id _ _ db =
      match (db.qrTokens.byId row.id).filter QrToken.unburnt with
      | none => db
      | some row => burnToken row.id (some target) call.clock.utcnow db
    rw [consumeToken]
    cases hrow : db.qrTokens.byId row.id with
    | none => rfl
    | some found =>
      have hid : found.id = row.id := (Relational.Table.byId_eq_some.mp hrow).2
      cases hunburnt : found.unburnt with
      | false => simp [Option.filter, hunburnt]
      | true => simp [Option.filter, hunburnt, hid]

theorem recordCheckin_solo (env : Env) (call : CheckinCall) (s : Service) (target : String)
    (plan : CheckinPlan) :
    let r := (soloStep env call)^[4] (s, .ready target plan)
    r.1 = { s with db := (recordCheckin call target plan s.db).1 } ∧
      r.2.outcome = some (recordCheckin call target plan s.db).2 := by
  rw [Function.iterate_succ_apply, recordCheckin]
  simp only [soloStep, checkinStep]
  cases hinsert : insertCheckin call target plan s.db with
  | none =>
    simp only
    rw [soloStep_ended]
    exact ⟨rfl, rfl⟩
  | some result =>
    obtain ⟨checkin, inserted⟩ := result
    simp only
    rw [Function.iterate_succ_apply, Function.iterate_succ_apply, consumeQr_of_readToken]
    simp only [soloStep, checkinStep]
    cases hread : readToken plan (markAttended plan.registration.id inserted) with
    | none =>
      simp only
      rw [soloStep_finished]
      exact ⟨rfl, rfl⟩
    | some row => exact ⟨rfl, rfl⟩

/-- A request that runs alone does what the handler does. -/
theorem checkinStep_solo (env : Env) (call : CheckinCall) (s : Service) :
    let r := (soloStep env call)^[8] (s, .start)
    r.1 = (submitCheckin env call s).1 ∧ r.2.outcome = some (submitCheckin env call s).2 := by
  rw [Function.iterate_succ_apply, submitCheckin]
  simp only [soloStep, checkinStep]
  cases checkinTarget call with
  | error f =>
    simp only
    rw [soloStep_ended]
    exact ⟨rfl, rfl⟩
  | ok target =>
    simp only
    rcases s.limiter.rateLimit target call.eventId (clientIp call) call.clock.monotonic with
      ⟨limiter, _ | ⟨code, retry⟩⟩
    · simp only [admittedCheckin, checkinGates]
      rw [Function.iterate_succ_apply]
      simp only [soloStep, checkinStep]
      cases openGates env call target s.db with
      | error o =>
        simp only
        rw [soloStep_ended]
        exact ⟨rfl, rfl⟩
      | ok opened =>
        obtain ⟨event, method⟩ := opened
        simp only [bind, Except.bind]
        rw [Function.iterate_succ_apply]
        simp only [soloStep, checkinStep]
        cases qrGate env call target method s.db with
        | error o =>
          simp only
          rw [soloStep_ended]
          exact ⟨rfl, rfl⟩
        | ok qr =>
          simp only
          rw [Function.iterate_succ_apply]
          simp only [soloStep, checkinStep, planGates, bind, Except.bind]
          cases geoGate env call.payload method event with
          | error o =>
            simp only
            rw [soloStep_ended]
            exact ⟨rfl, rfl⟩
          | ok geo =>
            simp only
            cases registrationGate s.db call.eventId target with
            | error o =>
              simp only
              rw [soloStep_ended]
              exact ⟨rfl, rfl⟩
            | ok registration =>
              exact recordCheckin_solo env call ⟨s.db, limiter⟩ target
                ⟨event, method, qr, geo, registration⟩
    · simp only
      rw [soloStep_ended]
      exact ⟨rfl, rfl⟩

end CheckinService
