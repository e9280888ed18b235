import CheckinService.Laws.TokenLedger

namespace CheckinService

open Relational

def attendeeDigest (fragment : String) : String :=
  String.ofList (fragment.toList.drop attendeePrefix.length)

def OnRecord (c : Crypto) (rawToken : String) (db : Database) : Prop :=
  (∃ p payload, parseToken rawToken = some p ∧ p.payload = .ok payload ∧
      p.signature = c.hmacSign payload) ∧
    ∃ row ∈ db.qrTokens.rows, row.tokenHash = c.sha256Full rawToken

structure Presentation where
  rawToken : String
  eventId : Int
  eventTable : String := "events"
  redeemingUserId : Option String := none
  consume : Bool := true
  attendeeUserId : Option String := none
  time : ℚ
  utcnow : ℚ

def Presentation.verify (c : Crypto) (x : Presentation) (db : Database) :
    Except Py.Exc (QrTokenVerifyResult × Database) :=
  verifyToken c x.rawToken x.eventId x.eventTable x.redeemingUserId x.consume x.attendeeUserId
    x.time x.utcnow db

def Presentation.peek (c : Crypto) (x : Presentation) (db : Database) :
    Except Py.Exc QrTokenVerifyResult :=
  peekToken c x.rawToken x.eventId x.eventTable x.attendeeUserId x.time x.utcnow db

structure NeverRaises (c : Crypto) (x : Presentation) (db : Database) : Prop where
  verifies : ∃ result db', x.verify c db = .ok (result, db') ∧
    (¬ OnRecord c x.rawToken db → result.status ≠ .ok ∧ db' = db)
  peeks : ∃ result, x.peek c db = .ok result ∧
    (¬ OnRecord c x.rawToken db → result.status ≠ .ok)

/-- A token that is read as one of this event has a signature of ASCII text, and where this is
the right one and an attendee is given, an attendee digest of ASCII text. -/
def Comparable (c : Crypto) (x : Presentation) : Prop :=
  ∀ p payload, parseToken x.rawToken = some p → p.eventId = x.eventId →
    EventTable.ofName? x.eventTable = some p.eventTable → p.payload = .ok payload →
      Py.isAscii p.signature = true ∧
        (p.signature = c.hmacSign payload → Py.orNone x.attendeeUserId ≠ none →
          ∀ fragment, p.attendeeFragment = some fragment →
            Py.isAscii (attendeeDigest fragment) = true)

theorem parseParts_payload {eventTable eventId nonce expiresUnix signature : String}
    {fragment : Option String} {p : TokenParts}
    (h : parseParts eventTable eventId nonce expiresUnix fragment signature = some p) :
    ∃ payload, p.payload = .ok payload := by
  obtain ⟨table, -, h⟩ := Option.bind_eq_some_iff.mp h
  obtain ⟨id, hid, h⟩ := Option.bind_eq_some_iff.mp h
  obtain ⟨expires, hexpires, h⟩ := Option.bind_eq_some_iff.mp h
  cases h
  have hstr : ∀ {s : String} {n : Int}, (Py.int s).toOption = some n → ∃ t, Py.str n = .ok t := by
    intro s n hn
    cases hint : Py.int s with
    | error e =>
      rw [hint] at hn
      cases hn
    | ok m =>
      rw [hint] at hn
      cases hn
      exact Py.str_of_int hint
  obtain ⟨idText, hidText⟩ := hstr hid
  obtain ⟨expiresText, hexpiresText⟩ := hstr hexpires
  exact ⟨_, Except.bind_eq_ok.mpr ⟨idText, hidText,
    Except.bind_eq_ok.mpr ⟨expiresText, hexpiresText, rfl⟩⟩⟩

theorem parseToken_payload {rawToken : String} {p : TokenParts}
    (h : parseToken rawToken = some p) : ∃ payload, p.payload = .ok payload := by
  rw [parseToken] at h
  split at h
  · exact parseParts_payload h
  · split at h
    · exact parseParts_payload h
    · cases h
  · cases h

section

variable {c : Crypto} {x : Presentation} {p : TokenParts} {payload : String}

theorem hmacVerify_eq_ok {signature : String} {same : Bool} :
    c.hmacVerify payload signature = .ok same ↔
      Py.isAscii signature = true ∧ same = decide (c.hmacSign payload = signature) := by
  have hsign : Py.isAscii (c.hmacSign payload) = true := (c.hmacQr_hex payload).ascii
  rw [Crypto.hmacVerify, Py.compareDigest, hsign, Bool.true_and]
  split <;> simp [*, eq_comm (a := same)]

theorem attendeeMatches_isOk {fragment attendee : Option String} :
    (∃ same, c.attendeeMatches fragment attendee = .ok same) ↔
      (Py.orNone attendee ≠ none → ∀ text, fragment = some text →
        Py.isAscii (attendeeDigest text) = true) := by
  cases fragment with
  | none => simp [Crypto.attendeeMatches]
  | some text =>
    cases hattendee : Py.orNone attendee with
    | none => simp [Crypto.attendeeMatches, hattendee]
    | some user =>
      have hdigest : Py.isAscii (c.hashAttendee user) = true := (c.hashAttendee_hex user).ascii
      simp only [Crypto.attendeeMatches, hattendee, ne_eq, reduceCtorEq, not_false_eq_true,
        Option.some.injEq, forall_eq', forall_const, Py.compareDigest, hdigest, Bool.and_true,
        attendeeDigest]
      split <;> simp [*]

theorem comparable_iff (hparse : parseToken x.rawToken = some p) (hid : p.eventId = x.eventId)
    (htable : EventTable.ofName? x.eventTable = some p.eventTable)
    (hpayload : p.payload = .ok payload) :
    Comparable c x ↔ Py.isAscii p.signature = true ∧
      (p.signature = c.hmacSign payload →
        ∃ same, c.attendeeMatches p.attendeeFragment x.attendeeUserId = .ok same) := by
  rw [attendeeMatches_isOk]
  constructor
  · intro h
    exact h p payload hparse hid htable hpayload
  · intro h q text hq _ _ htext
    rw [hparse] at hq
    cases hq
    rw [hpayload] at htext
    cases htext
    exact h

def verdict (c : Crypto) (rawToken : String) (p : TokenParts) (time : ℚ) (db : Database) :
    QrTokenVerifyResult :=
  if p.expiresUnix < Py.trunc time then ⟨.expired, none⟩
  else lookupResult (findToken c rawToken db)

theorem checkToken_of_parsed (hparse : parseToken x.rawToken = some p) (hid : p.eventId = x.eventId)
    (htable : EventTable.ofName? x.eventTable = some p.eventTable)
    (hpayload : p.payload = .ok payload) (db : Database) :
    checkToken c x.rawToken x.eventId x.eventTable x.attendeeUserId x.time db = (do
      if !(← c.hmacVerify payload p.signature) then return ⟨.signatureMismatch, none⟩
      if !(← c.attendeeMatches p.attendeeFragment x.attendeeUserId) then
        return ⟨.attendeeMismatch, none⟩
      return verdict c x.rawToken p x.time db) := by
  simp only [checkToken, htable, hparse, hid, hpayload, ne_eq, not_true_eq_false, decide_false,
    Bool.or_self, Bool.false_eq_true, ↓reduceIte, Except.bind_of_ok rfl]
  refine bind_congr fun verified => ?_
  split
  · rfl
  refine bind_congr fun bound => ?_
  split
  · rfl
  rw [verdict, findToken]
  split
  · rfl
  cases db.qrTokens.first fun t => t.tokenHash = c.sha256Full x.rawToken with
  | none => rfl
  | some row => exact (apply_ite Except.ok _ _ _).symm

theorem checkToken_of_other
    (h : ¬ ∃ p, parseToken x.rawToken = some p ∧ p.eventId = x.eventId ∧
      EventTable.ofName? x.eventTable = some p.eventTable) (db : Database) :
    ∃ result, checkToken c x.rawToken x.eventId x.eventTable x.attendeeUserId x.time db =
      .ok result := by
  rw [checkToken]
  split
  · rename_i table p htable hparse
    have hother : (p.eventId ≠ x.eventId || p.eventTable ≠ table) = true := by
      by_contra hmine
      simp only [ne_eq, Bool.or_eq_true, decide_eq_true_eq, not_or, not_not] at hmine
      exact h ⟨p, hparse, hmine.1, htable.trans (congrArg some hmine.2.symm)⟩
    rw [if_pos hother]
    exact ⟨_, rfl⟩
  · exact ⟨_, rfl⟩

theorem compared_isOk {α : Type} {verified bound : Except Py.Exc Bool} {a b r : α} :
    (∃ result, (do
      if !(← verified) then return a
      if !(← bound) then return b
      return r) = Except.ok result) ↔
      ∃ same, verified = .ok same ∧ (same = true → ∃ same, bound = .ok same) := by
  cases verified with
  | error e => simp [bind, Except.bind]
  | ok same =>
    cases same with
    | false => simp [bind, Except.bind, pure, Except.pure]
    | true =>
      cases bound with
      | error e => simp [bind, Except.bind]
      | ok same => cases same <;> simp [bind, Except.bind, pure, Except.pure]

theorem checkToken_isOk (c : Crypto) (x : Presentation) (db : Database) :
    (∃ result, checkToken c x.rawToken x.eventId x.eventTable x.attendeeUserId x.time db =
      .ok result) ↔ Comparable c x := by
  by_cases hmine : ∃ p, parseToken x.rawToken = some p ∧ p.eventId = x.eventId ∧
      EventTable.ofName? x.eventTable = some p.eventTable
  · obtain ⟨p, hparse, hid, htable⟩ := hmine
    obtain ⟨payload, hpayload⟩ := parseToken_payload hparse
    rw [checkToken_of_parsed hparse hid htable hpayload, compared_isOk,
      comparable_iff hparse hid htable hpayload]
    simp only [hmacVerify_eq_ok]
    constructor
    · rintro ⟨same, ⟨hascii, hsame⟩, hbound⟩
      refine ⟨hascii, fun hsigned => hbound ?_⟩
      rw [hsame, hsigned, decide_eq_true_eq]
    · rintro ⟨hascii, hbound⟩
      refine ⟨_, ⟨hascii, rfl⟩, fun hsigned => hbound ?_⟩
      exact (of_decide_eq_true hsigned).symm
  · refine iff_of_true (checkToken_of_other hmine db) ?_
    intro p payload hparse hid htable
    exact absurd ⟨p, hparse, hid, htable⟩ hmine

theorem onRecord_of_ok {db : Database} {row : Option QrToken}
    (h : checkToken c x.rawToken x.eventId x.eventTable x.attendeeUserId x.time db =
      .ok ⟨.ok, row⟩) : OnRecord c x.rawToken db := by
  obtain ⟨⟨p, payload, hparse, -, -, hpayload, hverified, -⟩, t, hfound, -⟩ := checkToken_eq_ok.mp h
  obtain ⟨hmem, hhash⟩ := findToken_eq_some.mp hfound
  refine ⟨⟨p, payload, hparse, hpayload, ?_⟩, t, hmem, hhash⟩
  exact (of_decide_eq_true (hmacVerify_eq_ok.mp hverified).2.symm).symm

theorem verifyToken_of_check {db : Database} {result : QrTokenVerifyResult}
    (h : checkToken c x.rawToken x.eventId x.eventTable x.attendeeUserId x.time db = .ok result) :
    ∃ db', x.verify c db = .ok (result, db') ∧ (result.status ≠ .ok → db' = db) := by
  by_cases hok : result.status = .ok
  · obtain ⟨status, row⟩ := result
    cases hok
    obtain ⟨-, t, -, rfl, -⟩ := checkToken_eq_ok.mp h
    exact ⟨_, verifyToken_eq_ok.mpr ⟨h, Or.inl ⟨t, rfl, rfl⟩⟩, fun hne => absurd rfl hne⟩
  · exact ⟨db, verifyToken_eq_ok.mpr ⟨h, Or.inr ⟨hok, rfl⟩⟩, fun _ => rfl⟩

end

/-- `verify_token` and `peek_token` raise exactly on the texts they cannot compare. -/
theorem neverRaises_iff (c : Crypto) (x : Presentation) (db : Database) :
    NeverRaises c x db ↔ Comparable c x := by
  rw [← checkToken_isOk c x db]
  constructor
  · rintro ⟨⟨result, db', hverify, -⟩, -⟩
    exact ⟨result, (verifyToken_eq_ok.mp hverify).1⟩
  · rintro ⟨result, hcheck⟩
    have hrefused : ¬ OnRecord c x.rawToken db → result.status ≠ .ok := by
      intro hforged hok
      obtain ⟨status, row⟩ := result
      cases hok
      exact hforged (onRecord_of_ok hcheck)
    refine ⟨?_, result, (peekToken_eq ..).trans hcheck, hrefused⟩
    obtain ⟨db', hverify, hunchanged⟩ := verifyToken_of_check hcheck
    exact ⟨result, db', hverify, fun hforged => ⟨hrefused hforged, hunchanged (hrefused hforged)⟩⟩

def samplePresentation (rawToken : String) : Presentation where
  rawToken := rawToken
  eventId := 1
  time := 100
  utcnow := 100

/-- A single letter outside ASCII in place of the signature. -/
theorem neverRaises_fails_accent :
    ¬ ∀ (c : Crypto) (x : Presentation) (db : Database),
      x.rawToken.length ≤ 512 → NeverRaises c x db := by
  intro h
  obtain ⟨result, hpeek, -⟩ := (h sampleCrypto
    (samplePresentation "events:1:0123456789abcdef0123456789abcdef:3600:\u00e9") {} (by decide)).peeks
  have hraises : (samplePresentation "events:1:0123456789abcdef0123456789abcdef:3600:\u00e9").peek sampleCrypto {} =
      .error .typeError := by
    decide +kernel
  rw [hraises] at hpeek
  cases hpeek

end CheckinService
