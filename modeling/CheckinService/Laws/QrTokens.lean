import CheckinService.Lib.Except
import CheckinService.Services.QrToken

namespace CheckinService

open Relational

def Genuine (c : Crypto) (rawToken : String) (eventId : Int) (eventTable : String)
    (attendeeUserId : Option String) (time : ℚ) : Prop :=
  ∃ p payload,
    parseToken rawToken = some p ∧
      EventTable.ofName? eventTable = some p.eventTable ∧
      p.eventId = eventId ∧
      p.payload = .ok payload ∧
      c.hmacVerify payload p.signature = .ok true ∧
      c.attendeeMatches p.attendeeFragment attendeeUserId = .ok true ∧
      Py.trunc time ≤ p.expiresUnix

theorem Genuine.later {c : Crypto} {rawToken : String} {eventId : Int} {eventTable : String}
    {attendeeUserId : Option String} {time time' : ℚ}
    (h : Genuine c rawToken eventId eventTable attendeeUserId time)
    (hlive : ∀ p, parseToken rawToken = some p → Py.trunc time' ≤ p.expiresUnix) :
    Genuine c rawToken eventId eventTable attendeeUserId time' := by
  obtain ⟨p, payload, hparse, htable, hid, hpayload, hsig, hatt, -⟩ := h
  exact ⟨p, payload, hparse, htable, hid, hpayload, hsig, hatt, hlive p hparse⟩

def findToken (c : Crypto) (rawToken : String) (db : Database) : Option QrToken :=
  db.qrTokens.first fun t => t.tokenHash = c.sha256Full rawToken

def QrToken.spent (t : QrToken) : Bool := t.singleUse && t.usedAt.isSome

def lookupResult : Option QrToken → QrTokenVerifyResult
  | none => ⟨.notFound, none⟩
  | some row => if row.spent then ⟨.alreadyUsed, some row⟩ else ⟨.ok, some row⟩

theorem lookupResult_eq_ok {found : Option QrToken} {row : Option QrToken} :
    lookupResult found = ⟨.ok, row⟩ ↔ ∃ t, found = some t ∧ row = some t ∧ t.spent = false := by
  cases found with
  | none => simp [lookupResult]
  | some t =>
    cases h : t.spent with
    | true => simp [lookupResult, h]
    | false =>
      simp only [lookupResult, h, Bool.false_eq_true, ↓reduceIte, QrTokenVerifyResult.mk.injEq,
        true_and, Option.some.injEq]
      constructor
      · intro hrow
        exact ⟨t, rfl, hrow.symm, h⟩
      · rintro ⟨u, hu, hrow, _⟩
        rw [hrow, hu]

theorem findToken_eq_some {c : Crypto} {rawToken : String} {db : Database} {row : QrToken} :
    findToken c rawToken db = some row ↔
      row ∈ db.qrTokens.rows ∧ row.tokenHash = c.sha256Full rawToken := by
  rw [findToken, Table.first_eq_some_iff]
  · simp
  · intro t hrow ht
    simp only [decide_eq_true_eq] at hrow ht
    exact Or.inr ⟨c.sha256Full rawToken, by simp [Row.keys, ht], by simp [Row.keys, hrow]⟩

theorem checkToken_of_genuine {c : Crypto} {rawToken : String} {eventId : Int}
    {eventTable : String} {attendeeUserId : Option String} {time : ℚ}
    (h : Genuine c rawToken eventId eventTable attendeeUserId time) (db : Database) :
    checkToken c rawToken eventId eventTable attendeeUserId time db =
      .ok (lookupResult (findToken c rawToken db)) := by
  obtain ⟨p, payload, hparse, htable, hid, hpayload, hsig, hatt, htime⟩ := h
  have hlive : ¬ p.expiresUnix < Py.trunc time := not_lt.mpr htime
  simp only [checkToken, htable, hparse, hid, hpayload, hsig, hatt, hlive, bind, Except.bind,
    pure, Except.pure, ne_eq, not_true_eq_false, decide_false, Bool.or_self, Bool.false_eq_true,
    Bool.not_true, ↓reduceIte, findToken]
  cases db.qrTokens.first fun t => decide (t.tokenHash = c.sha256Full rawToken) with
  | none => rfl
  | some row =>
    exact (apply_ite Except.ok _ _ _).symm

theorem genuine_of_checkToken {c : Crypto} {rawToken : String} {eventId : Int}
    {eventTable : String} {attendeeUserId : Option String} {time : ℚ} {db : Database}
    {row : Option QrToken}
    (h : checkToken c rawToken eventId eventTable attendeeUserId time db = .ok ⟨.ok, row⟩) :
    Genuine c rawToken eventId eventTable attendeeUserId time := by
  rw [checkToken] at h
  split at h
  · rename_i table p htable hparse
    split at h
    · cases h
    · rename_i hevent
      simp only [ne_eq, Bool.or_eq_true, decide_eq_true_eq, not_or, not_not] at hevent
      obtain ⟨payload, hpayload, h⟩ := Except.bind_eq_ok.mp h
      obtain ⟨signed, hsigned, h⟩ := Except.bind_eq_ok.mp h
      cases signed with
      | false => cases h
      | true =>
        simp only [Bool.not_true, Bool.false_eq_true, ↓reduceIte] at h
        obtain ⟨bound, hbound, h⟩ := Except.bind_eq_ok.mp h
        cases bound with
        | false => cases h
        | true =>
          simp only [Bool.not_true, Bool.false_eq_true, ↓reduceIte] at h
          split at h
          · cases h
          · rename_i hlive
            refine ⟨p, payload, hparse, ?_, hevent.1, hpayload, hsigned, hbound,
              not_lt.mp hlive⟩
            rw [hevent.2]
            exact htable
  · cases h

theorem checkToken_eq_ok {c : Crypto} {rawToken : String} {eventId : Int}
    {eventTable : String} {attendeeUserId : Option String} {time : ℚ} {db : Database}
    {row : Option QrToken} :
    checkToken c rawToken eventId eventTable attendeeUserId time db = .ok ⟨.ok, row⟩ ↔
      Genuine c rawToken eventId eventTable attendeeUserId time ∧
        ∃ t, findToken c rawToken db = some t ∧ row = some t ∧ t.spent = false := by
  constructor
  · intro h
    have hgenuine := genuine_of_checkToken h
    rw [checkToken_of_genuine hgenuine, Except.ok.injEq, lookupResult_eq_ok] at h
    exact ⟨hgenuine, h⟩
  · intro h
    rw [checkToken_of_genuine h.1, Except.ok.injEq, lookupResult_eq_ok]
    exact h.2

theorem verifyToken_eq_ok {c : Crypto} {rawToken : String} {eventId : Int}
    {eventTable : String} {user attendeeUserId : Option String} {consume : Bool}
    {time utcnow : ℚ} {db db' : Database} {result : QrTokenVerifyResult} :
    verifyToken c rawToken eventId eventTable user consume attendeeUserId time utcnow db =
        .ok (result, db') ↔
      checkToken c rawToken eventId eventTable attendeeUserId time db = .ok result ∧
        ((∃ row, result = ⟨.ok, some row⟩ ∧
            db' = if consume then consumeToken row.id user utcnow db else db) ∨
          (result.status ≠ .ok ∧ db' = db)) := by
  rw [verifyToken]
  cases hcheck : checkToken c rawToken eventId eventTable attendeeUserId time db with
  | error e => simp [bind, Except.bind]
  | ok found =>
    simp only [bind, Except.bind, pure, Except.pure]
    obtain ⟨status, row⟩ := found
    cases status with
    | ok =>
      obtain ⟨-, t, -, rfl, -⟩ := checkToken_eq_ok.mp hcheck
      simp only [Except.ok.injEq, Prod.mk.injEq]
      constructor
      · rintro ⟨hresult, hdb⟩
        subst hresult
        exact ⟨rfl, Or.inl ⟨t, rfl, hdb.symm⟩⟩
      · rintro ⟨hresult, h⟩
        subst hresult
        rcases h with ⟨row, hrow, hdb⟩ | ⟨hstatus, -⟩
        · cases hrow
          exact ⟨rfl, hdb.symm⟩
        · exact absurd rfl hstatus
    | _ =>
      simp only [Except.ok.injEq, Prod.mk.injEq]
      constructor
      · rintro ⟨hresult, hdb⟩
        subst hresult
        exact ⟨rfl, Or.inr ⟨by simp, hdb.symm⟩⟩
      · rintro ⟨hresult, h⟩
        subst hresult
        rcases h with ⟨row, hrow, -⟩ | ⟨-, hdb⟩
        · cases hrow
        · exact ⟨rfl, hdb.symm⟩

theorem consumeToken_rows (rowId : Int) (user : Option String) (now : ℚ) (db : Database) :
    (consumeToken rowId user now db).qrTokens.rows = db.qrTokens.rows.map fun t =>
      if t.id = rowId ∧ t.unburnt = true then t.burn now user else t := by
  rw [consumeToken]
  have hid : ∀ t ∈ db.qrTokens.rows, t.id = rowId → db.qrTokens.byId rowId = some t :=
    fun t ht h => Table.byId_eq_some.mpr ⟨ht, h⟩
  have hunchanged : (∀ t ∈ db.qrTokens.rows, ¬ (t.id = rowId ∧ t.unburnt = true)) →
      db.qrTokens.rows = db.qrTokens.rows.map fun t =>
        if t.id = rowId ∧ t.unburnt = true then t.burn now user else t := by
    intro h
    symm
    apply (List.map_congr_left _).trans (List.map_id _)
    intro t ht
    exact if_neg (h t ht)
  cases hrow : db.qrTokens.byId rowId with
  | none =>
    apply hunchanged
    intro t ht h
    rw [hid t ht h.1] at hrow
    cases hrow
  | some row =>
    cases hunburnt : row.unburnt with
    | false =>
      simp only [Bool.false_eq_true, ↓reduceIte, hunburnt]
      apply hunchanged
      intro t ht h
      have := hid t ht h.1
      rw [hrow, Option.some.injEq] at this
      rw [← this, hunburnt] at h
      cases h.2
    | true =>
      obtain ⟨hmem, hrowId⟩ := Table.byId_eq_some.mp hrow
      simp only [hunburnt, ↓reduceIte, burnToken]
      apply Table.update_rows_eq (QrToken.burn_keepsKeys _ _) hmem hrowId ⟨hrowId, hunburnt⟩
      · intro t ht h
        exact db.qrTokens.eq_of_id ht hmem (h.1.trans hrowId.symm)
      · rfl

theorem EventTable.ofName?_eq_some {s : String} {t : EventTable} :
    EventTable.ofName? s = some t ↔ s = t.name := by
  constructor
  · intro h
    rw [ofName?.eq_def] at h
    split at h <;> cases h <;> rfl
  · intro h
    subst h
    cases t <;> rfl

theorem tokenPayload_eq (table eventId nonce expires signature : String)
    (fragment : Option String) :
    tokenPayload table eventId nonce expires fragment ++ ":" ++ signature =
      String.intercalate (String.singleton ':')
        ([table, eventId, nonce, expires] ++ fragment.toList ++ [signature]) := by
  apply String.toList_inj.mp
  cases fragment <;> simp [tokenPayload]

structure Printed (c : Crypto) (args : MintArgs) (nonce : Nonce) (utcnow : ℚ)
    (rawToken : String) (p : TokenParts) : Prop where
  eventTable : args.eventTable = p.eventTable.name
  eventId : args.eventId = p.eventId
  nonce : nonce.text = p.nonce
  expiresUnix : Py.trunc (utcnow + args.ttlMinutes * 60) = p.expiresUnix
  fragment : c.attendeeFragment args.attendeeUserId = p.attendeeFragment
  signed : ∃ payload, p.payload = .ok payload ∧ p.signature = c.hmacSign payload ∧
    rawToken = payload ++ ":" ++ p.signature

structure Inserted (c : Crypto) (args : MintArgs) (utcnow : ℚ) (rawToken : String)
    (row : QrToken) (db db' : Database) : Prop where
  rows : db'.qrTokens.rows = db.qrTokens.rows ++ [row]
  fresh : ∀ t ∈ db.qrTokens.rows, t.id ≠ row.id ∧ t.tokenHash ≠ row.tokenHash
  tokenHash : row.tokenHash = c.sha256Full rawToken
  singleUse : row.singleUse = args.singleUse
  unused : row.usedAt = none

theorem mintToken_eq_ok {c : Crypto} {args : MintArgs} {nonce : Nonce} {utcnow : ℚ}
    {db db' : Database} {rawToken : String} {row : QrToken}
    (h : mintToken c args nonce utcnow db = .ok (rawToken, row, db')) :
    (∃ p, Printed c args nonce utcnow rawToken p) ∧
      Inserted c args utcnow rawToken row db db' := by
  rw [mintToken] at h
  split at h
  · cases h
  · rename_i eventTable htable
    split at h
    · cases h
    · obtain ⟨eventId, heventId, h⟩ := Except.bind_eq_ok.mp h
      obtain ⟨expiresUnix, hexpires, h⟩ := Except.bind_eq_ok.mp h
      simp only at h
      split at h
      · cases h
      · rename_i qrTokens hinsert
        obtain ⟨hfresh, hrows⟩ := Table.insert?_eq_some.mp hinsert
        cases h
        constructor
        · refine ⟨⟨eventTable, args.eventId, nonce.text,
            Py.trunc (utcnow + args.ttlMinutes * 60), c.attendeeFragment args.attendeeUserId,
            c.hmacSign _⟩, EventTable.ofName?_eq_some.mp htable, rfl, rfl, rfl, rfl,
            _, ?_, rfl, rfl⟩
          simp only [TokenParts.payload, heventId, hexpires, bind, Except.bind, pure,
            Except.pure]
        · refine ⟨hrows, ?_, rfl, rfl, rfl⟩
          intro t ht
          constructor
          · intro hid
            exact hfresh t ht (Or.inl hid)
          · intro hhash
            exact hfresh t ht (Or.inr ⟨t.tokenHash, by simp [Row.keys], by
              rw [hhash]
              simp [Row.keys]⟩)

theorem mintToken_refers {c : Crypto} {args : MintArgs} {nonce : Nonce} {utcnow : ℚ}
    {db db' : Database} {rawToken : String} {row : QrToken}
    (h : mintToken c args nonce utcnow db = .ok (rawToken, row, db')) :
    row.eventId = args.eventId ∧ row.schoolId = args.schoolId ∧
      db' = { db with qrTokens := db'.qrTokens } := by
  rw [mintToken] at h
  split at h
  · cases h
  · split at h
    · cases h
    · obtain ⟨eventId, -, h⟩ := Except.bind_eq_ok.mp h
      obtain ⟨expiresUnix, -, h⟩ := Except.bind_eq_ok.mp h
      simp only at h
      split at h
      · cases h
      · cases h
        exact ⟨rfl, rfl, rfl⟩

theorem EventTable.name_no_colon (t : EventTable) : ':' ∉ t.name.toList := by
  cases t <;> decide

theorem Py.str_no_colon {n : Int} {s : String} (h : Py.str n = .ok s) : ':' ∉ s.toList := by
  intro hmem
  rcases Py.str_chars h ':' hmem with h | h <;> cases h

theorem Crypto.hashAttendee_hex (c : Crypto) (a : String) : Py.IsHex (c.hashAttendee a) :=
  (c.sha256_hex a).take _

theorem parseParts_of_str {eventTable : EventTable} {eventId expiresUnix : Int}
    {eventIdText expiresText : String} (hid : Py.str eventId = .ok eventIdText)
    (hexp : Py.str expiresUnix = .ok expiresText) (nonce : String) (fragment : Option String)
    (signature : String) :
    parseParts eventTable.name eventIdText nonce expiresText fragment signature =
      some ⟨eventTable, eventId, nonce, expiresUnix, fragment, signature⟩ := by
  simp [parseParts, EventTable.ofName?_eq_some.mpr rfl, Py.int_str hid, Py.int_str hexp,
    Except.toOption]

theorem Printed.parse {c : Crypto} {args : MintArgs} {nonce : Nonce} {utcnow : ℚ}
    {rawToken : String} {p : TokenParts} (h : Printed c args nonce utcnow rawToken p) :
    parseToken rawToken = some p := by
  obtain ⟨payload, hpayload, hsig, hraw⟩ := h.signed
  obtain ⟨eventId, heventId, hpayload⟩ := Except.bind_eq_ok.mp hpayload
  obtain ⟨expires, hexpires, hpayload⟩ := Except.bind_eq_ok.mp hpayload
  cases hpayload
  have hnonce : ':' ∉ p.nonce.toList := h.nonce ▸ nonce.hex.not_mem (by decide)
  have hsigned : ':' ∉ p.signature.toList := hsig ▸ (c.hmacQr_hex _).not_mem (by decide)
  rw [hraw, tokenPayload_eq, parseToken, Py.split_intercalate]
  · cases hfragment : p.attendeeFragment with
    | none =>
      simp only [Option.toList, List.append_nil, List.cons_append, List.nil_append]
      rw [parseParts_of_str heventId hexpires, ← hfragment]
    | some fragment =>
      have hprefix : Py.startsWith attendeePrefix fragment = true := by
        have hf := h.fragment.trans hfragment
        obtain ⟨a, -, rfl⟩ := Option.map_eq_some_iff.mp hf
        simp [Py.startsWith]
      simp only [Option.toList, List.cons_append, List.nil_append, hprefix, ↓reduceIte]
      rw [parseParts_of_str heventId hexpires, ← hfragment]
  · simp
  · intro part hpart
    simp only [List.cons_append, List.nil_append, List.mem_cons, List.mem_append,
      Option.mem_toList, List.not_mem_nil, or_false] at hpart
    rcases hpart with rfl | rfl | rfl | rfl | hpart | rfl
    · exact p.eventTable.name_no_colon
    · exact Py.str_no_colon heventId
    · exact hnonce
    · exact Py.str_no_colon hexpires
    · have hf := h.fragment.trans hpart
      obtain ⟨a, -, rfl⟩ := Option.map_eq_some_iff.mp hf
      have hhash := (c.hashAttendee_hex a).not_mem (d := ':') (by decide)
      simpa [attendeePrefix] using hhash
    · exact hsigned

theorem attendeeMatches_printed {c : Crypto} {bound presented : Option String} :
    c.attendeeMatches (c.attendeeFragment bound) presented = .ok true ↔
      ∀ a, Py.orNone bound = some a →
        ∃ b, Py.orNone presented = some b ∧ c.hashAttendee a = c.hashAttendee b := by
  cases hb : Py.orNone bound with
  | none => simp [Crypto.attendeeFragment, Crypto.attendeeMatches, hb]
  | some a =>
    have hdrop : String.ofList ((attendeePrefix ++ c.hashAttendee a).toList.drop
        attendeePrefix.length) = c.hashAttendee a := by
      apply String.toList_inj.mp
      rw [String.toList_ofList, String.toList_append]
      exact List.drop_left
    simp only [Crypto.attendeeFragment, hb, Option.map_some, Crypto.attendeeMatches, hdrop]
    cases hp : Py.orNone presented with
    | none => simp
    | some b =>
      simp only [Py.compareDigest_of_ascii (c.hashAttendee_hex a).ascii
        (c.hashAttendee_hex b).ascii, Except.ok.injEq, decide_eq_true_eq, Option.some.injEq,
        forall_eq', exists_eq_left']

theorem Crypto.hmacVerify_sign (c : Crypto) (payload : String) :
    c.hmacVerify payload (c.hmacSign payload) = .ok true := by
  rw [hmacVerify, hmacSign,
    Py.compareDigest_of_ascii (c.hmacQr_hex _).ascii (c.hmacQr_hex _).ascii]
  simp

/-- A minted token passes the checks on its text exactly for its own event, its own attendee
and until it expires. -/
theorem Printed.genuine {c : Crypto} {args : MintArgs} {nonce : Nonce} {utcnow : ℚ}
    {rawToken : String} {p : TokenParts} (h : Printed c args nonce utcnow rawToken p)
    {eventId : Int} {eventTable : String} {presented : Option String} {time : ℚ} :
    Genuine c rawToken eventId eventTable presented time ↔
      args.eventTable = eventTable ∧ args.eventId = eventId ∧
        Py.trunc time ≤ Py.trunc (utcnow + args.ttlMinutes * 60) ∧
        ∀ a, Py.orNone args.attendeeUserId = some a →
          ∃ b, Py.orNone presented = some b ∧ c.hashAttendee a = c.hashAttendee b := by
  obtain ⟨payload, hpayload, hsig, -⟩ := h.signed
  rw [← attendeeMatches_printed, h.fragment, h.expiresUnix, h.eventId, h.eventTable]
  constructor
  · rintro ⟨q, _, hparse, htable, hid, _, _, hatt, htime⟩
    rw [h.parse] at hparse
    cases hparse
    exact ⟨(EventTable.ofName?_eq_some.mp htable).symm, hid, htime, hatt⟩
  · rintro ⟨htable, hid, htime, hatt⟩
    exact ⟨p, payload, h.parse, EventTable.ofName?_eq_some.mpr htable.symm, hid, hpayload,
      hsig ▸ c.hmacVerify_sign payload, hatt, htime⟩

end CheckinService
