import CheckinService.Laws.Answers
import CheckinService.Laws.Velocity
import CheckinService.Lib.Noninterference
import CheckinService.Lib.OrderBy

namespace CheckinService

open Relational

theorem EventCheckin.clash_of_scrub (r s : EventCheckin) (h : Clash r.scrub s.scrub) :
    Clash r s := h

def Database.unlocated (db : Database) : Database :=
  { db with checkins := db.checkins.relax EventCheckin.scrub EventCheckin.clash_of_scrub }

def Service.unlocated (s : Service) : Service := { s with db := s.db.unlocated }

@[simp] theorem Service.unlocated_db (s : Service) : s.unlocated.db = s.db.unlocated := rfl

@[simp] theorem Database.unlocated_unlocated (db : Database) :
    db.unlocated.unlocated = db.unlocated := by
  have hrows : db.unlocated.unlocated.checkins = db.unlocated.checkins := by
    apply Table.ext
    simp only [Database.unlocated, Table.relax, List.map_map]
    rfl
  exact congrArg (fun checkins => { db with checkins := checkins }) hrows

def CheckinOutcome.coarse : CheckinOutcome → CheckinOutcome
  | .raised f => .raised f
  | .returned r => .returned { r with distanceM := none }

def Answer.coarse : Answer → Answer
  | .checkin outcome => .checkin outcome.coarse
  | a => a

def GeoFacts.coarse (geo : GeoFacts) : GeoFacts := { geo with distanceM := none }

def GeoFacts.unlocated (geo : GeoFacts) : GeoFacts := { geofencePassed := geo.geofencePassed }

def CheckinPlan.withGeo (φ : GeoFacts → GeoFacts) (plan : CheckinPlan) : CheckinPlan :=
  { plan with geo := φ plan.geo }

def Gate.seen (φ : α → β) (x : Gate α) : Gate β := (x.map φ).mapError CheckinOutcome.coarse

def CheckinCall.placeless (call : CheckinCall) : CheckinCall :=
  { call with
    payload := { call.payload with
      lat := none
      lon := none
      lat_range := rfl
      lon_range := rfl } }

theorem CheckinCall.eq_of_placeless {call call' : CheckinCall}
    (hsame : call'.placeless = call.placeless) (F : CheckinCall → α)
    (hF : ∀ call, F call.placeless = F call) : F call' = F call :=
  calc
    F call' = F call'.placeless := (hF call').symm
    _ = F call.placeless := by rw [hsame]
    _ = F call := hF call

section

variable (db : Database)

theorem createEvent_unlocated (call : CreateCall) :
    createEvent call db.unlocated =
      ((createEvent call db).1.unlocated, (createEvent call db).2) := by
  have hreads : createReads call db.unlocated = createReads call db := rfl
  have hevents : db.unlocated.events = db.events := rfl
  have hkeyed : ∀ tenant key, findByIdemKey db.unlocated tenant key =
      findByIdemKey db tenant key := fun _ _ => rfl
  unfold createEvent
  simp only [hreads, hevents, hkeyed]
  split
  · rfl
  · rfl
  · split
    · rfl
    · split
      · rfl
      · split <;> rfl

theorem updateEvent_unlocated (call : UpdateCall) :
    updateEvent call db.unlocated =
      ((updateEvent call db).1.unlocated, (updateEvent call db).2) := by
  have hreads : ownEvent call.actor call.eventId db.unlocated =
      ownEvent call.actor call.eventId db := rfl
  unfold updateEvent
  rw [hreads]
  split <;> rfl

theorem deleteEvent_unlocated (call : DeleteCall) :
    deleteEvent call db.unlocated =
      ((deleteEvent call db).1.unlocated, (deleteEvent call db).2) := by
  have hreads : ownEvent call.actor call.eventId db.unlocated =
      ownEvent call.actor call.eventId db := rfl
  unfold deleteEvent
  rw [hreads]
  split <;> rfl

theorem registerForEvent_unlocated (call : RegisterCall) :
    registerForEvent call db.unlocated =
      ((registerForEvent call db).1.unlocated, (registerForEvent call db).2) := by
  have hreads : ∀ target, registrationReads call target db.unlocated =
      registrationReads call target db := fun _ => rfl
  have hlock : lockEvent db.unlocated call.eventId = lockEvent db call.eventId := rfl
  have hseat : ∀ locked, assignSeat db.unlocated locked = assignSeat db locked := fun _ => rfl
  have hinsert : ∀ target locked seat, insertRegistration call target locked seat db.unlocated =
      (insertRegistration call target locked seat db).map fun r => (r.1, r.2.unlocated) := by
    intro target locked seat
    simp only [insertRegistration, Option.map_map]
    rfl
  have hexisting : ∀ target, existingRegistration db.unlocated call.eventId target =
      existingRegistration db call.eventId target := fun _ => rfl
  unfold registerForEvent
  simp only [hreads, hlock, hseat, hinsert, hexisting]
  split
  · rfl
  · split
    · rfl
    · rfl
    · split
      · rfl
      · rename_i target _ _ _ _ locked _
        cases insertRegistration call target locked (assignSeat db locked) db <;> rfl

theorem cancelRegistration_unlocated (call : CancelCall) :
    cancelRegistration call db.unlocated =
      ((cancelRegistration call db).1.unlocated, (cancelRegistration call db).2) := by
  have hreads : cancelTarget call db.unlocated = cancelTarget call db := rfl
  unfold cancelRegistration
  rw [hreads]
  split <;> rfl

theorem mintToken_unlocated (c : Crypto) (args : MintArgs) (nonce : Nonce) (utcnow : ℚ) :
    mintToken c args nonce utcnow db.unlocated =
      (mintToken c args nonce utcnow db).map fun r => (r.1, r.2.1, r.2.2.unlocated) := by
  have htokens : db.unlocated.qrTokens = db.qrTokens := rfl
  simp only [mintToken, htokens]
  split
  · rfl
  · split
    · rfl
    · cases Py.str args.eventId with
      | error e => rfl
      | ok eventId =>
        cases Py.str (Py.trunc (utcnow + args.ttlMinutes * 60)) with
        | error e => rfl
        | ok expires =>
          simp only [Except.bind_of_ok rfl]
          split <;> rfl

theorem mintQrToken_unlocated (c : Crypto) (call : MintCall) :
    mintQrToken c call db.unlocated =
      ((mintQrToken c call db).1.unlocated, (mintQrToken c call db).2) := by
  have hschool : mintSchool call db.unlocated = mintSchool call db := rfl
  unfold mintQrToken
  simp only [hschool, mintToken_unlocated]
  split
  · rfl
  · rename_i schoolId _
    cases mintToken c (call.args schoolId) call.nonce call.utcnow db <;> rfl

theorem sendOne_unlocated (c : Crypto) (call : SendCall) (event : Event) (batch : Batch)
    (item : InvitationSendItem) :
    sendOne c call event { batch with db := batch.db.unlocated } item =
      (sendOne c call event batch item).map fun b => { b with db := b.db.unlocated } := by
  have hfind : ∀ invitee, findInvitation batch.db.unlocated call.eventId invitee =
      findInvitation batch.db call.eventId invitee := fun _ => rfl
  have hinvitations : batch.db.unlocated.invitations = batch.db.invitations := rfl
  simp only [sendOne, hfind, hinvitations]
  split
  · rfl
  · split <;> rfl

theorem sendInvitations_unlocated (c : Crypto) (call : SendCall) :
    sendInvitations c call db.unlocated =
      ((sendInvitations c call db).1.unlocated, (sendInvitations c call db).2) := by
  have hreads : organizedEvent call.actor call.eventId db.unlocated =
      organizedEvent call.actor call.eventId db := rfl
  unfold sendInvitations
  rw [hreads]
  split
  · rfl
  · rename_i event _
    rw [Except.foldlM_map (sendOne_unlocated c call event) call.payload.invitees { db := db }]
    cases call.payload.invitees.foldlM (sendOne c call event) { db := db } <;> rfl

theorem respondToInvitation_unlocated (call : RespondCall) :
    respondToInvitation call db.unlocated =
      ((respondToInvitation call db).1.unlocated, (respondToInvitation call db).2) := by
  have hreads : respondTarget call db.unlocated = respondTarget call db := rfl
  unfold respondToInvitation
  rw [hreads]
  split <;> rfl

theorem purge_unlocated (call : PurgeCall) :
    (purgeOldGeofenceHashes call db).1.unlocated = db.unlocated := by
  have hscrub : ∀ cutoff, (scrubbed cutoff db).unlocated = db.unlocated := by
    intro cutoff
    have hrows : (scrubbed cutoff db).unlocated.checkins = db.unlocated.checkins := by
      apply Table.ext
      simp only [Database.unlocated, scrubbed, Table.relax, Table.updateWhere, List.map_map]
      apply List.map_congr_left
      intro c _
      rw [Function.comp_apply]
      split <;> rfl
    exact congrArg (fun t => { db with checkins := t }) hrows
  unfold purgeOldGeofenceHashes
  simp only
  split
  · rfl
  · split
    · rfl
    · exact hscrub _

theorem priorCheckin_unlocated (target : String) (eventId : Int) (since : ℚ) :
    priorCheckin db.unlocated target eventId since =
      (priorCheckin db target eventId since).map EventCheckin.scrub := by
  have hrows : db.unlocated.checkins.rows = db.checkins.rows.map EventCheckin.scrub := rfl
  rw [priorCheckin, hrows, List.filter_map, OrderBy.argmax_map]
  rfl

theorem velocityCheck_unlocated (settings : Settings) (haversineDistanceM : ℚ → ℚ → ℚ → ℚ → ℚ)
    (target : String) (event : Event) (now : ℚ) :
    velocityCheck settings haversineDistanceM db.unlocated target event now =
      velocityCheck settings haversineDistanceM db target event now := by
  simp only [velocityCheck, priorCheckin_unlocated]
  cases priorCheckin db target event.id (now - settings.velocityWindowSeconds) <;> rfl

theorem checkToken_unlocated (c : Crypto) (rawToken : String) (eventId : Int)
    (eventTable : String) (attendeeUserId : Option String) (time : ℚ) :
    checkToken c rawToken eventId eventTable attendeeUserId time db.unlocated =
      checkToken c rawToken eventId eventTable attendeeUserId time db := by
  have htokens : db.unlocated.qrTokens = db.qrTokens := rfl
  simp only [checkToken, htokens]

theorem checkinGates_unlocated (env : Env) (call : CheckinCall) (target : String) :
    checkinGates env call target db.unlocated = checkinGates env call target db := by
  have hvelocity : ∀ event now, velocityGate env db.unlocated target event now =
      velocityGate env db target event now := by
    intro event now
    simp only [velocityGate, velocityCheck_unlocated]
  have hopen : openGates env call target db.unlocated = openGates env call target db := by
    simp only [openGates, hvelocity]
    rfl
  have hqr : ∀ method, qrGate env call target method db.unlocated =
      qrGate env call target method db := by
    intro method
    simp only [qrGate, peekToken_eq, checkToken_unlocated]
  have hregistration : registrationGate db.unlocated call.eventId target =
      registrationGate db call.eventId target := rfl
  simp only [checkinGates, hopen, hqr, hregistration]

theorem findCheckin_unlocated (eventId : Int) (target : String) :
    findCheckin db.unlocated eventId target =
      (findCheckin db eventId target).map EventCheckin.scrub :=
  Table.relax_first EventCheckin.clash_of_scrub fun _ => rfl

theorem insertCheckin_unlocated (call : CheckinCall) (target : String) (plan : CheckinPlan) :
    insertCheckin call target (plan.withGeo GeoFacts.unlocated) db.unlocated =
      (insertCheckin call target plan db).map fun r => (r.1.scrub, r.2.unlocated) := by
  have hid : db.unlocated.checkins.nextId = db.checkins.nextId :=
    Table.relax_nextId EventCheckin.clash_of_scrub fun _ => rfl
  have hnew : ∀ id, newCheckin call target (plan.withGeo GeoFacts.unlocated) id =
      (newCheckin call target plan id).scrub := fun _ => rfl
  have hstored : ∀ c, db.unlocated.checkins.insert? c.scrub =
      (db.checkins.insert? c).map fun t => t.relax EventCheckin.scrub EventCheckin.clash_of_scrub :=
    Table.relax_insert? EventCheckin.clash_of_scrub EventCheckin.scrub_keepsKeys
  simp only [insertCheckin, hid, hnew, hstored, Option.map_map]
  rfl

theorem consumeToken_unlocated (rowId : Int) (user : Option String) (utcnow : ℚ) :
    consumeToken rowId user utcnow db.unlocated =
      (consumeToken rowId user utcnow db).unlocated := by
  have htokens : db.unlocated.qrTokens = db.qrTokens := rfl
  unfold consumeToken
  rw [htokens]
  split
  · rfl
  · split <;> rfl

theorem recordCheckin_unlocated (call : CheckinCall) (target : String) (plan : CheckinPlan) :
    recordCheckin call target (plan.withGeo GeoFacts.unlocated) db.unlocated =
      ((recordCheckin call target plan db).1.unlocated,
        (recordCheckin call target plan db).2.coarse) := by
  have hduplicate : duplicateResponse call target db.unlocated =
      duplicateResponse call target db := by
    simp only [duplicateResponse, findCheckin_unlocated, Option.map_map]
    rfl
  have hconsume : ∀ db : Database, consumeQr call target (plan.withGeo GeoFacts.unlocated)
      db.unlocated = (consumeQr call target plan db).unlocated := by
    intro db
    obtain ⟨event, method, _ | ⟨row, hash⟩, geo, registration⟩ := plan
    · rfl
    · exact consumeToken_unlocated db row.id (some target) call.clock.utcnow
  unfold recordCheckin
  simp only [insertCheckin_unlocated, hduplicate]
  cases insertCheckin call target plan db with
  | none => rfl
  | some r => exact Prod.ext (hconsume (markAttended plan.registration.id r.2)) rfl

theorem recordCheckin_coarse (call : CheckinCall) (target : String) (plan : CheckinPlan) :
    recordCheckin call target (plan.withGeo GeoFacts.coarse) db =
      ((recordCheckin call target plan db).1, (recordCheckin call target plan db).2.coarse) := by
  have hinsert : insertCheckin call target (plan.withGeo GeoFacts.coarse) db =
      insertCheckin call target plan db := rfl
  unfold recordCheckin
  rw [hinsert]
  cases insertCheckin call target plan db <;> rfl

end

section

variable {env : Env} {call call' : CheckinCall} {target : String} {db : Database} {s : Service}

theorem Gate.seen_eq {f : α → β} {x x' : Gate α} (h : x'.seen f = x.seen f) :
    (∃ outcome outcome', x = .error outcome ∧ x' = .error outcome' ∧
        outcome'.coarse = outcome.coarse) ∨
      ∃ a a', x = .ok a ∧ x' = .ok a' ∧ f a' = f a := by
  cases x with
  | error outcome =>
    cases x' with
    | error outcome' => exact Or.inl ⟨outcome, outcome', rfl, rfl, Except.error.inj h⟩
    | ok a' => cases h
  | ok a =>
    cases x' with
    | error outcome' => cases h
    | ok a' => exact Or.inr ⟨a, a', rfl, rfl, Except.ok.inj h⟩

theorem Gate.seen_bind {f : α → β} {g : γ → δ} {x x' : Gate α} {k k' : α → Gate γ}
    (hx : x'.seen f = x.seen f)
    (hk : ∀ a a', x = .ok a → f a' = f a → (k' a').seen g = (k a).seen g) :
    Gate.seen g (x' >>= k') = Gate.seen g (x >>= k) := by
  rcases Gate.seen_eq hx with ⟨outcome, outcome', rfl, rfl, hcoarse⟩ | ⟨a, a', rfl, rfl, hf⟩
  · exact congrArg Except.error hcoarse
  · exact hk a a' rfl hf

theorem Gate.seen_bind_self {g : β → γ} (x : Gate α) {k k' : α → Gate β}
    (hk : ∀ a, x = .ok a → (k' a).seen g = (k a).seen g) :
    Gate.seen g (x >>= k') = Gate.seen g (x >>= k) := by
  cases x with
  | error outcome => rfl
  | ok a => exact hk a rfl

theorem checkinGates_seen {φ : GeoFacts → GeoFacts} (hsame : call'.placeless = call.placeless)
    (hgeo : ∀ event method, findEvent db call.eventId = some event →
      (geoGate env call'.payload method event).seen φ =
        (geoGate env call.payload method event).seen φ) :
    (checkinGates env call' target db).seen (CheckinPlan.withGeo φ) =
      (checkinGates env call target db).seen (CheckinPlan.withGeo φ) := by
  have hopen : openGates env call' target db = openGates env call target db :=
    CheckinCall.eq_of_placeless hsame (fun call => openGates env call target db) fun _ => rfl
  have hqr : ∀ method, qrGate env call' target method db = qrGate env call target method db :=
    fun method =>
      CheckinCall.eq_of_placeless hsame (fun call => qrGate env call target method db) fun _ => rfl
  have hevent : call'.eventId = call.eventId :=
    CheckinCall.eq_of_placeless hsame CheckinCall.eventId fun _ => rfl
  simp only [checkinGates, hopen, hqr, hevent]
  apply Gate.seen_bind_self
  rintro ⟨event, method⟩ hok
  have hfound := (eventGate_eq_ok.mp (openGates_eq_ok.mp hok).2.1).1
  apply Gate.seen_bind_self
  intro qr _
  apply Gate.seen_bind (hgeo event method hfound)
  intro geo geo' _ hgeo
  apply Gate.seen_bind_self
  intro registration _
  exact congrArg (fun geo => Except.ok (CheckinPlan.mk event method qr geo registration)) hgeo

theorem geoGate_seen_unlocated {payload payload' : CheckinRequest} {event : Event}
    (hverdict : (checkDistance env payload' event).passed =
      (checkDistance env payload event).passed) (method : CheckinMethod) :
    (geoGate env payload' method event).seen GeoFacts.unlocated =
      (geoGate env payload method event).seen GeoFacts.unlocated := by
  simp only [geoGate, hverdict]
  split
  · rfl
  · split <;> rfl

theorem hashCoordinate_congr (c : Crypto) {value value' : Option Py.Float}
    (h : value'.map c.roundedText = value.map c.roundedText) :
    c.hashCoordinate value' = c.hashCoordinate value := by
  have hhashed : ∀ value : Option Py.Float,
      c.hashCoordinate value = (value.map c.roundedText).map c.hashPii := by
    intro value
    rw [Option.map_map]
    rfl
  rw [hhashed, hhashed, h]

theorem geoGate_seen_coarse {payload payload' : CheckinRequest} {event : Event}
    (hverdict : (checkDistance env payload' event).passed =
      (checkDistance env payload event).passed)
    (hlat : payload'.lat.map env.crypto.roundedText = payload.lat.map env.crypto.roundedText)
    (hlon : payload'.lon.map env.crypto.roundedText = payload.lon.map env.crypto.roundedText)
    (method : CheckinMethod) :
    (geoGate env payload' method event).seen GeoFacts.coarse =
      (geoGate env payload method event).seen GeoFacts.coarse := by
  simp only [geoGate, hverdict, hashCoordinate_congr env.crypto hlat,
    hashCoordinate_congr env.crypto hlon]
  split
  · rfl
  · split <;> rfl

theorem submitCheckin_seen (φ : GeoFacts → GeoFacts) (view : Database → Database)
    (hsame : call'.placeless = call.placeless)
    (hgeo : ∀ event method, findEvent s.db call.eventId = some event →
      (geoGate env call'.payload method event).seen φ =
        (geoGate env call.payload method event).seen φ)
    (hrecord : ∀ target plan, recordCheckin call target (plan.withGeo φ) (view s.db) =
      (view (recordCheckin call target plan s.db).1,
        (recordCheckin call target plan s.db).2.coarse)) :
    (submitCheckin env call' s).2.coarse = (submitCheckin env call s).2.coarse ∧
      (submitCheckin env call' s).1.limiter = (submitCheckin env call s).1.limiter ∧
      view (submitCheckin env call' s).1.db = view (submitCheckin env call s).1.db := by
  -- only the geofence gate looks at the coordinates
  have htarget : checkinTarget call' = checkinTarget call :=
    CheckinCall.eq_of_placeless hsame checkinTarget fun _ => rfl
  have hip : clientIp call' = clientIp call :=
    CheckinCall.eq_of_placeless hsame clientIp fun _ => rfl
  have hevent : call'.eventId = call.eventId :=
    CheckinCall.eq_of_placeless hsame CheckinCall.eventId fun _ => rfl
  have hclock : call'.clock = call.clock :=
    CheckinCall.eq_of_placeless hsame CheckinCall.clock fun _ => rfl
  have hsteps : recordCheckin call' = recordCheckin call :=
    CheckinCall.eq_of_placeless hsame recordCheckin fun _ => rfl
  simp only [submitCheckin, htarget, hip, hevent, hclock]
  split
  · exact ⟨rfl, rfl, rfl⟩
  · split
    · exact ⟨rfl, rfl, rfl⟩
    · rename_i target _ _ limiter _
      have hgates : (checkinGates env call' target s.db).seen (CheckinPlan.withGeo φ) =
          (checkinGates env call target s.db).seen (CheckinPlan.withGeo φ) :=
        checkinGates_seen hsame hgeo
      simp only [admittedCheckin, hsteps]
      rcases Gate.seen_eq hgates with
        ⟨outcome, outcome', hgate, hgate', hcoarse⟩ | ⟨plan, plan', hgate, hgate', hplan⟩
      · simp only [hgate, hgate']
        exact ⟨hcoarse, trivial, trivial⟩
      · have hboth := hrecord target plan'
        rw [hplan, hrecord target plan, Prod.mk.injEq] at hboth
        simp only [hgate, hgate']
        exact ⟨hboth.2.symm, trivial, hboth.1.symm⟩

theorem submitCheckin_unlocated (env : Env) (call : CheckinCall) (s : Service) :
    (submitCheckin env call s.unlocated).2.coarse = (submitCheckin env call s).2.coarse ∧
      (submitCheckin env call s.unlocated).1.unlocated =
        (submitCheckin env call s).1.unlocated := by
  have hlimiter : s.unlocated.limiter = s.limiter := rfl
  simp only [submitCheckin, hlimiter]
  split
  · simp [Service.unlocated]
  · split
    · simp [Service.unlocated]
    · rename_i target _ _ limiter _
      have hgates : checkinGates env call target s.unlocated.db =
          checkinGates env call target s.db := checkinGates_unlocated s.db env call target
      simp only [admittedCheckin, hgates]
      split
      · simp [Service.unlocated]
      · rename_i plan _
        have hboth := recordCheckin_unlocated s.db.unlocated call target plan
        rw [Database.unlocated_unlocated, recordCheckin_unlocated, Prod.mk.injEq] at hboth
        exact ⟨hboth.2.symm, congrArg (fun db => Service.mk db limiter) hboth.1.symm⟩

end

/-- Nothing that the service answers or does depends on the location hashes in the table. -/
theorem handle_blind (env : Env) :
    Machine.Blind (handle env) (fun s request => (answer env s request).coarse)
      Service.unlocated where
  out s request := by
    cases request with
    | ask stamps query => cases query <;> rfl
    | act op =>
      cases op with
      | checkin call => exact congrArg Answer.checkin (submitCheckin_unlocated env call s).1
      | purge call => rfl
      | rosters groups members relationships => rfl
      | _ =>
        simp only [answer, Operation.answer, Service.unlocated_db, createEvent_unlocated,
          updateEvent_unlocated, deleteEvent_unlocated, registerForEvent_unlocated,
          cancelRegistration_unlocated, mintQrToken_unlocated, sendInvitations_unlocated,
          respondToInvitation_unlocated]
  next s request := by
    cases request with
    | ask stamps query => simp only [handle, Service.unlocated, Database.unlocated_unlocated]
    | act op =>
      cases op with
      | checkin call => exact (submitCheckin_unlocated env call s).2
      | rosters groups members relationships =>
        have hcheckins := congrArg Database.checkins s.db.unlocated_unlocated
        simp only [handle, serve, Service.unlocated]
        exact congrArg (fun checkins => Service.mk
          { s.db with
            checkins := checkins, groups := groups, members := members,
            relationships := relationships } s.limiter) hcheckins
      | _ =>
        simp only [handle, serve, Service.unlocated, createEvent_unlocated,
          updateEvent_unlocated, deleteEvent_unlocated, registerForEvent_unlocated,
          cancelRegistration_unlocated, mintQrToken_unlocated, sendInvitations_unlocated,
          respondToInvitation_unlocated, purge_unlocated, Database.unlocated_unlocated]

/-- The requests of two runs that differ in nothing but whereabouts: in the coordinates of a
check-in, as long as they make no difference to the geofence verdict, and in what a purge takes
away. -/
inductive Interaction.Twin (env : Env) (s : Service) : Interaction → Interaction → Prop where
  | same (request : Interaction) : Twin env s request request
  | purge (call call' : PurgeCall) : Twin env s (.act (.purge call)) (.act (.purge call'))
  | checkin {call call' : CheckinCall} (same : call'.placeless = call.placeless)
    (verdict : ∀ event, findEvent s.db call.eventId = some event →
      (checkDistance env call'.payload event).passed =
        (checkDistance env call.payload event).passed) :
    Twin env s (.act (.checkin call)) (.act (.checkin call'))

/-- Nobody can tell two such runs apart: from tables that differ in the location hashes only, all
requests get the same answers, but for the distance that an attendee is told, and the tables go on
to differ in the location hashes only. -/
theorem whereabouts_unread (env : Env) (s s' : Service) (requests requests' : List Interaction)
    (hstart : s'.unlocated = s.unlocated)
    (htwins : Machine.Twins (handle env) (Interaction.Twin env) s requests requests') :
    Machine.outputs (handle env) (fun s request => (answer env s request).coarse) s' requests' =
        Machine.outputs (handle env) (fun s request => (answer env s request).coarse) s requests ∧
      (Machine.run (handle env) s' requests').unlocated =
        (Machine.run (handle env) s requests).unlocated := by
  apply (handle_blind env).twins _ hstart htwins
  rintro s _ _ (request | ⟨call, call'⟩ | ⟨hsame, hverdict⟩)
  · exact ⟨rfl, rfl⟩
  · refine ⟨rfl, ?_⟩
    simp only [handle, serve, Service.unlocated, purge_unlocated]
  · obtain ⟨hcoarse, hlimiter, hdb⟩ := submitCheckin_seen GeoFacts.unlocated Database.unlocated
      hsame (fun event method hfound => geoGate_seen_unlocated (hverdict event hfound) method)
      (recordCheckin_unlocated s.db _)
    refine ⟨congrArg Answer.checkin hcoarse, ?_⟩
    simp only [handle, serve, Service.unlocated, hlimiter, hdb]

def sampleMarked : Service where
  db :=
    { events := .single
        { id := 1, schoolId := "school-1", ownerUserId := "coach-1", title := "Mixer"
          latitude := some ⟨0⟩, longitude := some ⟨0⟩, checkinMethod := .geo
          status := .published }
      registrations := .single sampleRegistration
      checkins := .single
        { id := 1, schoolId := "school-1", eventId := 2, attendeeUserId := "fan-2"
          checkinAt := 50, checkinMethod := .geo, latHash := some "9a3f", lonHash := some "04c1" } }

def samplePinned (lat : Py.Float) (hlat : within (-90) 90 lat.value = true) : Interaction :=
  .act (.checkin
    { sampleScan 1 100 with
      payload := { CheckinRequest.empty with
        lat := some lat
        lon := some (.ofRat 0)
        lat_range := hlat
        lon_range := by decide +kernel } })

theorem whereabouts_unread_sample :
    Machine.outputs (handle sampleGlobe) (fun s request => (answer sampleGlobe s request).coarse)
        sampleMarked.unlocated [samplePinned (.ofRat (3 / 5000)) (by decide +kernel),
          .act (.purge { maxAgeDays := some 0, utcnow := 86500 })] =
      Machine.outputs (handle sampleGlobe)
        (fun s request => (answer sampleGlobe s request).coarse)
        sampleMarked [samplePinned (.ofRat (1 / 5000)) (by decide +kernel),
          .act (.purge { maxAgeDays := some 1, utcnow := 86500 })] := by
  refine (whereabouts_unread sampleGlobe sampleMarked sampleMarked.unlocated _ _ ?_ ?_).1
  · exact congrArg (fun db => Service.mk db {}) (Database.unlocated_unlocated _)
  · refine .cons (.checkin rfl ?_) (.cons (.purge _ _) .nil)
    intro event hfound
    cases hfound
    decide +kernel

/-- The same again, from coordinates whose rounded texts are the same. -/
inductive Interaction.Neighbour (env : Env) (s : Service) : Interaction → Interaction → Prop where
  | same (request : Interaction) : Neighbour env s request request
  | checkin {call call' : CheckinCall} (same : call'.placeless = call.placeless)
    (verdict : ∀ event, findEvent s.db call.eventId = some event →
      (checkDistance env call'.payload event).passed =
        (checkDistance env call.payload event).passed)
    (lat : call'.payload.lat.map env.crypto.roundedText =
      call.payload.lat.map env.crypto.roundedText)
    (lon : call'.payload.lon.map env.crypto.roundedText =
      call.payload.lon.map env.crypto.roundedText) :
    Neighbour env s (.act (.checkin call)) (.act (.checkin call'))

/-- What is kept of a place is its rounded text: check-ins from places that share it leave the same
tables behind, hashes included. -/
theorem whereabouts_coarse (env : Env) (s : Service) (requests requests' : List Interaction)
    (hneighbours : Machine.Twins (handle env) (Interaction.Neighbour env) s requests requests') :
    Machine.outputs (handle env) (fun s request => (answer env s request).coarse) s requests' =
        Machine.outputs (handle env) (fun s request => (answer env s request).coarse) s requests ∧
      Machine.run (handle env) s requests' = Machine.run (handle env) s requests := by
  apply (Machine.Blind.id _ _).twins _ rfl hneighbours
  rintro s _ _ (request | ⟨hsame, hverdict, hlat, hlon⟩)
  · exact ⟨rfl, rfl⟩
  · obtain ⟨hcoarse, hlimiter, hdb⟩ := submitCheckin_seen GeoFacts.coarse id hsame
      (fun event method hfound => geoGate_seen_coarse (hverdict event hfound) hlat hlon method)
      (recordCheckin_coarse s.db _)
    have hservice : ∀ t t' : Service, t'.limiter = t.limiter → t'.db = t.db → t' = t := by
      rintro ⟨db, limiter⟩ ⟨_, _⟩ rfl rfl
      rfl
    exact ⟨congrArg Answer.checkin hcoarse, hservice _ _ hlimiter hdb⟩

theorem whereabouts_coarse_sample :
    Machine.run (handle sampleGlobe) sampleMarked
        [samplePinned (.ofRat (3 / 10000)) (by decide +kernel)] =
      Machine.run (handle sampleGlobe) sampleMarked
        [samplePinned (.ofRat (1 / 5000)) (by decide +kernel)] := by
  refine (whereabouts_coarse sampleGlobe sampleMarked _ _ (.cons ?_ .nil)).2
  refine .checkin rfl ?_ (by decide +kernel) rfl
  intro event hfound
  cases hfound
  decide +kernel

end CheckinService
