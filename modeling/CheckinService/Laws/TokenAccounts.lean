import CheckinService.Laws.Retention
import CheckinService.Laws.TokenRace

namespace CheckinService

open Relational

def EventCheckin.voucher (c : EventCheckin) : Option String × String × Int :=
  (c.qrTokenHash, c.attendeeUserId, c.eventId)

inductive SpentOnce (db : Database) (t : QrToken) : Prop where
  | unspent (unused : t.usedAt = none) (nobody : t.usedByUserId = none)
      (absent : ∀ c ∈ db.checkins.rows, c.bears t.tokenHash = false)
  | spent (used : t.usedAt.isSome = true) (c : EventCheckin) (mem : c ∈ db.checkins.rows)
      (bears : c.bears t.tokenHash = true) (user : t.usedByUserId = some c.attendeeUserId)
      (alone : ∀ c' ∈ db.checkins.rows, c'.bears t.tokenHash = true → c' = c)

structure Accounted (db : Database) : Prop where
  presented : ∀ c ∈ db.checkins.rows, ∀ hash, c.qrTokenHash = some hash →
    ∃ t ∈ db.qrTokens.rows, t.tokenHash = hash ∧ t.eventId = c.eventId
  once : ∀ t ∈ db.qrTokens.rows, t.singleUse = true → SpentOnce db t
  reusable : ∀ t ∈ db.qrTokens.rows, t.singleUse = false →
    t.usedAt = none ∧ t.usedByUserId = none

def Stamped (c : Crypto) (t : QrToken) : Prop :=
  ∃ args nonce utcnow rawToken p, Printed c args nonce utcnow rawToken p ∧
    t.tokenHash = c.sha256Full rawToken ∧ t.eventId = args.eventId

structure Balanced (c : Crypto) (db : Database) : Prop extends Accounted db where
  stamped : ∀ t ∈ db.qrTokens.rows, Stamped c t

section

variable {env : Env} {s : Service} {op : Operation} {db db' : Database} {c : Crypto}

theorem EventCheckin.bears_eq_true {hash : String} {ch : EventCheckin} :
    ch.bears hash = true ↔ ch.qrTokenHash = some hash := by
  simp [EventCheckin.bears]

theorem Serves.qrTokens (h : Serves env s op db') (hmint : ∀ call, op ≠ .mint call)
    (hcheckin : ∀ call, op ≠ .checkin call) : db'.qrTokens = s.db.qrTokens := by
  cases h with
  | records _ => exact absurd rfl (hcheckin _)
  | mints _ => exact absurd rfl (hmint _)
  | creates h | updates h | deletes h => rw [h.rest]
  | registers h =>
    obtain ⟨registrations, hresult, -⟩ := h.result
    rw [hresult]
  | invites _ h => rw [h.1]
  | _ => rfl

structure Vouches (db db' : Database) (new : List EventCheckin) : Prop where
  rows : ∃ f : EventCheckin → EventCheckin, (∀ ch, (f ch).voucher = ch.voucher) ∧
    db'.checkins.rows = db.checkins.rows.map f ++ new

theorem Vouches.of_append {new : List EventCheckin}
    (h : db'.checkins.rows = db.checkins.rows ++ new) : Vouches db db' new :=
  ⟨id, fun _ => rfl, by rw [List.map_id, h]⟩

theorem SpentOnce.next {new : List EventCheckin} {t : QrToken} (h : SpentOnce db t)
    (hvouches : Vouches db db' new) (hnew : ∀ ch ∈ new, ch.bears t.tokenHash = false) :
    SpentOnce db' t := by
  obtain ⟨f, hf, hrows⟩ := hvouches.rows
  have hkeeps : ∀ ch, (f ch).bears t.tokenHash = ch.bears t.tokenHash ∧
      (f ch).attendeeUserId = ch.attendeeUserId := by
    intro ch
    have hsame := hf ch
    simp only [EventCheckin.voucher, Prod.mk.injEq] at hsame
    exact ⟨by rw [EventCheckin.bears, hsame.1, EventCheckin.bears], hsame.2.1⟩
  rcases h with ⟨hunused, hnobody, habsent⟩ | ⟨hused, ch, hch, hbears, huser, halone⟩
  · refine .unspent hunused hnobody ?_
    intro ch hch
    rw [hrows, List.mem_append, List.mem_map] at hch
    rcases hch with ⟨old, hold, rfl⟩ | hch
    · rw [(hkeeps old).1]
      exact habsent old hold
    · exact hnew ch hch
  · refine .spent hused (f ch) ?_ ?_ ?_ ?_
    · rw [hrows]
      exact List.mem_append_left _ (List.mem_map_of_mem hch)
    · rw [(hkeeps ch).1]
      exact hbears
    · rw [(hkeeps ch).2]
      exact huser
    · intro ch' hch' hsame
      rw [hrows, List.mem_append, List.mem_map] at hch'
      rcases hch' with ⟨old, hold, rfl⟩ | hch'
      · rw [(hkeeps old).1] at hsame
        rw [halone old hold hsame]
      · rw [hnew ch' hch'] at hsame
        cases hsame

theorem Accounted.presented_next (h : Accounted db) {new : List EventCheckin}
    (hvouches : Vouches db db' new)
    (htokens : ∀ t ∈ db.qrTokens.rows, ∃ t' ∈ db'.qrTokens.rows,
      t'.tokenHash = t.tokenHash ∧ t'.eventId = t.eventId)
    (hnew : ∀ ch ∈ new, ∀ hash, ch.qrTokenHash = some hash →
      ∃ t ∈ db.qrTokens.rows, t.tokenHash = hash ∧ t.eventId = ch.eventId) :
    ∀ ch ∈ db'.checkins.rows, ∀ hash, ch.qrTokenHash = some hash →
      ∃ t ∈ db'.qrTokens.rows, t.tokenHash = hash ∧ t.eventId = ch.eventId := by
  obtain ⟨f, hf, hrows⟩ := hvouches.rows
  intro ch hch hash hbears
  have hfound : ∃ t ∈ db.qrTokens.rows, t.tokenHash = hash ∧ t.eventId = ch.eventId := by
    rw [hrows, List.mem_append, List.mem_map] at hch
    rcases hch with ⟨old, hold, rfl⟩ | hch
    · have hsame := hf old
      simp only [EventCheckin.voucher, Prod.mk.injEq] at hsame
      rw [hsame.1] at hbears
      rw [hsame.2.2]
      exact h.presented old hold hash hbears
    · exact hnew ch hch hash hbears
  obtain ⟨t, ht, hhash, hevent⟩ := hfound
  obtain ⟨t', ht', hhash', hevent'⟩ := htokens t ht
  exact ⟨t', ht', hhash'.trans hhash, hevent'.trans hevent⟩

theorem Balanced.of_qrTokens (h : Balanced c db) (hvouches : Vouches db db' [])
    (htokens : db'.qrTokens = db.qrTokens) : Balanced c db' where
  presented := by
    refine h.presented_next hvouches ?_ (by simp)
    rw [htokens]
    exact fun t ht => ⟨t, ht, rfl, rfl⟩
  once := by
    rw [htokens]
    exact fun t ht hsingle => (h.once t ht hsingle).next hvouches (by simp)
  reusable := by
    rw [htokens]
    exact h.reusable
  stamped := by
    rw [htokens]
    exact h.stamped

theorem mintQrToken_eq (c : Crypto) (call : MintCall) (db : Database) :
    (mintQrToken c call db).1 = db ∨
      ∃ schoolId rawToken row, mintToken c (call.args schoolId) call.nonce call.utcnow db =
        .ok (rawToken, row, (mintQrToken c call db).1) := by
  unfold mintQrToken
  cases mintSchool call db with
  | error f => exact Or.inl rfl
  | ok schoolId =>
    simp only
    cases hmint : mintToken c (call.args schoolId) call.nonce call.utcnow db with
    | error e => exact Or.inl rfl
    | ok minted => exact Or.inr ⟨schoolId, minted.1, minted.2.1, hmint⟩

theorem mintToken_nobody {args : MintArgs} {nonce : Nonce} {utcnow : ℚ} {rawToken : String}
    {row : QrToken} (h : mintToken c args nonce utcnow db = .ok (rawToken, row, db')) :
    row.usedByUserId = none := by
  rw [mintToken] at h
  split at h
  · cases h
  · split at h
    · cases h
    · obtain ⟨eventId, -, h⟩ := Except.bind_eq_ok.mp h
      obtain ⟨expiresUnix, -, h⟩ := Except.bind_eq_ok.mp h
      simp only at h
      split at h
      · cases h
      · cases h
        rfl

theorem Balanced.mint (h : Balanced c db) {args : MintArgs} {nonce : Nonce} {utcnow : ℚ}
    {rawToken : String} {row : QrToken}
    (hmint : mintToken c args nonce utcnow db = .ok (rawToken, row, db')) : Balanced c db' := by
  obtain ⟨⟨p, hprinted⟩, hins⟩ := mintToken_eq_ok hmint
  obtain ⟨hevent, -, hrest⟩ := mintToken_refers hmint
  have hvouches : Vouches db db' [] := .of_append (by rw [hrest, List.append_nil])
  have hforall : ∀ {P : QrToken → Prop}, (∀ t ∈ db.qrTokens.rows, P t) → P row →
      ∀ t ∈ db'.qrTokens.rows, P t := by
    intro P hold hnew t ht
    rw [hins.rows, List.mem_append, List.mem_singleton] at ht
    rcases ht with ht | rfl
    · exact hold t ht
    · exact hnew
  have hunclaimed : ∀ ch ∈ db.checkins.rows, ch.bears row.tokenHash = false := by
    intro ch hch
    rw [Bool.eq_false_iff, Ne, EventCheckin.bears_eq_true]
    intro hbears
    obtain ⟨t, ht, hhash, -⟩ := h.presented ch hch row.tokenHash hbears
    exact (hins.fresh t ht).2 hhash
  have hrow : SpentOnce db row := .unspent hins.unused (mintToken_nobody hmint) hunclaimed
  refine ⟨⟨?_, ?_, ?_⟩, ?_⟩
  · refine h.presented_next hvouches ?_ (by simp)
    intro t ht
    rw [hins.rows]
    exact ⟨t, List.mem_append_left _ ht, rfl, rfl⟩
  · apply hforall
    · exact fun t ht hsingle => (h.once t ht hsingle).next hvouches (by simp)
    · exact fun _ => hrow.next hvouches (by simp)
  · exact hforall h.reusable fun _ => ⟨hins.unused, mintToken_nobody hmint⟩
  · exact hforall h.stamped
      ⟨args, nonce, utcnow, rawToken, p, hprinted, hins.tokenHash, hevent⟩

end

def QrToken.spendOn (ch : EventCheckin) (utcnow : ℚ) (t : QrToken) : QrToken :=
  if t.singleUse = true ∧ ch.bears t.tokenHash = true then
    { t with usedAt := some utcnow, usedByUserId := some ch.attendeeUserId }
  else t

section

variable {env : Env} {call : CheckinCall} {s : Service} {target : String} {plan : CheckinPlan}
  {t : QrToken} {db db' : Database} {ch : EventCheckin} {utcnow : ℚ}

@[simp] theorem QrToken.spendOn_tokenHash : (t.spendOn ch utcnow).tokenHash = t.tokenHash := by
  rw [QrToken.spendOn]
  split <;> rfl

@[simp] theorem QrToken.spendOn_eventId : (t.spendOn ch utcnow).eventId = t.eventId := by
  rw [QrToken.spendOn]
  split <;> rfl

@[simp] theorem QrToken.spendOn_singleUse : (t.spendOn ch utcnow).singleUse = t.singleUse := by
  rw [QrToken.spendOn]
  split <;> rfl

theorem Recorded.unspent_of_bears (h : Recorded env call s target plan) (id : Int)
    (ht : t ∈ s.db.qrTokens.rows)
    (hbears : (newCheckin call target plan id).bears t.tokenHash = true) :
    t.spent = false ∧ (effectiveMethod call.payload plan.event).needsQr = true ∧
      ∃ rawToken, Py.orNone call.payload.qrToken = some rawToken ∧
        t.tokenHash = env.crypto.sha256Full rawToken ∧
        Genuine env.crypto rawToken call.eventId "events" (some target) call.clock.time := by
  rw [EventCheckin.bears_eq_true] at hbears
  rcases h.cleared.qr_eq with ⟨-, hqr⟩ | ⟨hneeds, rawToken, row, hpeek, hqr⟩
  · simp [newCheckin, hqr] at hbears
  · obtain ⟨hraw, hgenuine, hfind, hspent⟩ := peeksOk_iff.mp hpeek
    obtain ⟨hmem, hhash⟩ := findToken_eq_some.mp hfind
    simp only [newCheckin, hqr, Option.map_some, Option.some.injEq] at hbears
    obtain rfl : t = row := by
      apply s.db.qrTokens.eq_of_key ht hmem (k := t.tokenHash)
      · simp [Row.keys]
      · simp [Row.keys, hhash, hbears]
    rw [h.cleared.effective] at hneeds
    exact ⟨hspent, hneeds, rawToken, hraw, hhash, hgenuine⟩

theorem Recorded.redeems_iff (h : Recorded env call s target plan) (id : Int)
    (ht : t ∈ s.db.qrTokens.rows) :
    Redeems env call plan.event t ↔
      t.singleUse = true ∧ (newCheckin call target plan id).bears t.tokenHash = true := by
  constructor
  · rintro ⟨hneeds, hsingle, rawToken, hraw, hhash⟩
    refine ⟨hsingle, EventCheckin.bears_eq_true.mpr ?_⟩
    rcases h.cleared.qr_eq with ⟨hnot, -⟩ | ⟨-, rawToken', row, hpeek, hqr⟩
    · rw [h.cleared.effective, hneeds] at hnot
      cases hnot
    · cases hraw.symm.trans (peeksOk_iff.mp hpeek).1
      simp [newCheckin, hqr, hhash]
  · rintro ⟨hsingle, hbears⟩
    obtain ⟨-, hneeds, rawToken, hraw, hhash, -⟩ := h.unspent_of_bears id ht hbears
    exact ⟨hneeds, hsingle, rawToken, hraw, hhash⟩

theorem Stamped.eventId (hinj : Function.Injective env.crypto.sha256) (ht : Stamped env.crypto t)
    {rawToken : String} (hhash : t.tokenHash = env.crypto.sha256Full rawToken) {eventId : Int}
    {presented : Option String} {time : ℚ}
    (hgenuine : Genuine env.crypto rawToken eventId "events" presented time) :
    t.eventId = eventId := by
  obtain ⟨args, nonce, utcnow, printed, p, hprinted, hprintedHash, hevent⟩ := ht
  obtain rfl : printed = rawToken := hinj (hprintedHash.symm.trans hhash)
  exact hevent.trans (hprinted.genuine.mp hgenuine).2.1

theorem Recorded.qrTokens_rows (h : Recorded env call s target plan) (id : Int) :
    (submitCheckin env call s).1.db.qrTokens.rows = s.db.qrTokens.rows.map
      (QrToken.spendOn (newCheckin call target plan id) call.clock.utcnow) := by
  rw [h.effect.qrTokens]
  apply List.map_congr_left
  intro t ht
  have hiff := h.redeems_iff id ht
  rw [QrToken.spendOn]
  split
  · rename_i hredeems
    rw [if_pos (hiff.mp hredeems)]
    rfl
  · rename_i hkept
    rw [if_neg fun hcarried => hkept (hiff.mpr hcarried)]

theorem SpentOnce.spend (h : SpentOnce db t)
    (hcheckins : db'.checkins.rows = db.checkins.rows ++ [ch]) (hsingle : t.singleUse = true)
    (hunspent : ch.bears t.tokenHash = true → t.spent = false) :
    SpentOnce db' (t.spendOn ch utcnow) := by
  cases hbears : ch.bears t.tokenHash with
  | false =>
    have hsame : t.spendOn ch utcnow = t := by simp [QrToken.spendOn, hbears]
    rw [hsame]
    exact h.next (.of_append hcheckins) (by simpa using hbears)
  | true =>
    have hspent : t.spendOn ch utcnow =
        { t with usedAt := some utcnow, usedByUserId := some ch.attendeeUserId } := by
      simp [QrToken.spendOn, hbears, hsingle]
    rw [hspent]
    rcases h with ⟨-, -, habsent⟩ | ⟨hused, -⟩
    · refine .spent rfl ch (by simp [hcheckins]) hbears rfl ?_
      intro ch' hch' hsame
      rw [hcheckins, List.mem_append, List.mem_singleton] at hch'
      rcases hch' with hold | rfl
      · exact absurd hsame (by simp [habsent ch' hold])
      · rfl
    · have := hunspent hbears
      simp [QrToken.spent, hsingle, hused] at this

theorem Balanced.carried (hinj : Function.Injective env.crypto.sha256)
    (h : Balanced env.crypto s.db) (hrec : Recorded env call s target plan) (id : Int)
    (hash : String) (hcarries : (newCheckin call target plan id).qrTokenHash = some hash) :
    ∃ t ∈ s.db.qrTokens.rows, t.tokenHash = hash ∧
      t.eventId = (newCheckin call target plan id).eventId := by
  have hfound : ∃ t ∈ s.db.qrTokens.rows, t.tokenHash = hash := by
    rcases hrec.cleared.qr_eq with ⟨-, hqr⟩ | ⟨-, rawToken, row, hpeek, hqr⟩
    · simp [newCheckin, hqr] at hcarries
    · obtain ⟨hmem, hhash⟩ := findToken_eq_some.mp (peeksOk_iff.mp hpeek).2.2.1
      simp only [newCheckin, hqr, Option.map_some, Option.some.injEq] at hcarries
      exact ⟨row, hmem, hhash.trans hcarries⟩
  obtain ⟨t, ht, rfl⟩ := hfound
  obtain ⟨-, -, rawToken, -, hhash, hgenuine⟩ :=
    hrec.unspent_of_bears id ht (EventCheckin.bears_eq_true.mpr hcarries)
  exact ⟨t, ht, rfl, (h.stamped t ht).eventId hinj hhash hgenuine⟩

theorem Balanced.record (hinj : Function.Injective env.crypto.sha256)
    (h : Balanced env.crypto s.db) (hrec : Recorded env call s target plan) :
    Balanced env.crypto (submitCheckin env call s).1.db := by
  have hcheckins := hrec.checkins_rows
  have hunspent := fun t => hrec.unspent_of_bears (t := t) s.db.checkins.nextId
  have hrows := hrec.qrTokens_rows s.db.checkins.nextId
  have hcarried := h.carried hinj hrec s.db.checkins.nextId
  generalize newCheckin call target plan s.db.checkins.nextId = new
    at hcheckins hunspent hrows hcarried
  have hforall : ∀ {P : QrToken → Prop},
      (∀ t ∈ s.db.qrTokens.rows, P (t.spendOn new call.clock.utcnow)) →
        ∀ t ∈ (submitCheckin env call s).1.db.qrTokens.rows, P t := by
    intro P hold t ht
    rw [hrows] at ht
    obtain ⟨old, hmem, rfl⟩ := List.mem_map.mp ht
    exact hold old hmem
  refine ⟨⟨?_, hforall ?_, hforall ?_⟩, hforall ?_⟩
  · refine h.presented_next (.of_append hcheckins) ?_ ?_
    · intro t ht
      rw [hrows]
      exact ⟨_, List.mem_map_of_mem ht, QrToken.spendOn_tokenHash, QrToken.spendOn_eventId⟩
    · intro ch hch hash hbears
      rw [List.mem_singleton.mp hch] at hbears ⊢
      exact hcarried hash hbears
  · intro t ht hsingle
    rw [QrToken.spendOn_singleUse] at hsingle
    exact (h.once t ht hsingle).spend hcheckins hsingle fun hbears => (hunspent t ht hbears).1
  · intro t ht hreusable
    rw [QrToken.spendOn_singleUse] at hreusable
    have hsame : t.spendOn new call.clock.utcnow = t := by simp [QrToken.spendOn, hreusable]
    rw [hsame]
    exact h.reusable t ht hreusable
  · intro t ht
    obtain ⟨args, nonce, utcnow, rawToken, p, hprinted, hhash, hevent⟩ := h.stamped t ht
    exact ⟨args, nonce, utcnow, rawToken, p, hprinted, QrToken.spendOn_tokenHash.trans hhash,
      QrToken.spendOn_eventId.trans hevent⟩

end

theorem Balanced.next {env : Env} (hinj : Function.Injective env.crypto.sha256) {s : Service}
    (h : Balanced env.crypto s.db) (op : Operation) : Balanced env.crypto (serve env s op).db := by
  have hother : (∀ call, op ≠ .mint call) → (∀ call, op ≠ .checkin call) →
      Balanced env.crypto (serve env s op).db := by
    intro hmint hcheckin
    refine h.of_qrTokens ?_ ((serve_serves env s op).qrTokens hmint hcheckin)
    obtain ⟨new, hrows, hkeys, -⟩ := serve_checkins env s op
    have hnone : op.attends env s = none := by
      cases op with
      | checkin call => exact absurd rfl (hcheckin call)
      | _ => rfl
    rw [hnone, Option.toList_none, List.map_eq_nil_iff] at hkeys
    rw [hkeys] at hrows
    refine ⟨EventCheckin.step op, ?_, hrows⟩
    intro ch
    rw [EventCheckin.step]
    split <;> rfl
  cases op with
  | checkin call =>
    simp only [serve]
    rcases submitCheckin_cases env call s with hsame | ⟨target, plan, hrec⟩
    · rw [hsame]
      exact h
    · exact h.record hinj hrec
  | mint call =>
    simp only [serve]
    rcases mintQrToken_eq env.crypto call s.db with hsame | ⟨schoolId, rawToken, row, hmint⟩
    · rw [hsame]
      exact h
    · exact h.mint hmint
  | _ => exact hother (fun _ h => by cases h) fun _ h => by cases h

/-- In every state of every run from an empty database, each token that a check-in carries is in
the table and was minted for the event of the check-in.  A single-use token is marked used exactly
when a check-in carries it, by the attendee of the one that does; the others are never marked. -/
theorem accounted_always (env : Env) (hinj : Function.Injective env.crypto.sha256)
    (limiter : RateLimiter) (ops : List Operation) :
    Machine.Always (serve env) (fun s => Accounted s.db) { limiter := limiter } ops := by
  have hstart : Balanced env.crypto {} := by
    refine ⟨⟨?_, ?_, ?_⟩, ?_⟩ <;> intro row hrow <;> cases hrow
  have halways : Machine.Always (serve env) (fun s => Balanced env.crypto s.db)
      { limiter := limiter } ops :=
    Machine.always_invariant (fun _ op h => Balanced.next hinj h op) hstart ops
  exact halways.imp fun _ h => h.toAccounted

def sampleDoor : List Operation :=
  [.create
      { payload := { title := "Door list", checkinMethod := .qr, status := .published }
        actor := sampleSchoolAdmin },
    .mint
      { eventId := 1, payload := .empty, actor := sampleSchoolAdmin, nonce := sampleNonce
        utcnow := 0 },
    .register (sampleRegister sampleFan),
    .checkin (sampleSharing false)]

theorem accounted_always_sample :
    Machine.Always (serve sampleEnv) (fun s => Accounted s.db) {} sampleDoor ∧
      (Machine.run (serve sampleEnv) {} sampleDoor).db.qrTokens.rows.map QrToken.usedByUserId =
        [some "fan-1"] :=
  ⟨accounted_always sampleEnv sampleCrypto_injective {} sampleDoor, by decide +kernel⟩

end CheckinService
