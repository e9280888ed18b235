import CheckinService.Laws.QrTokens
import CheckinService.Lib.Machine
import Mathlib.Logic.Equiv.List

/-! The tokens of a whole run.  Beside the database the state keeps what the calls so far
returned: every minted token, the texts redeemed by a consuming `verify_token`, and the rows
handed to `consume_token`.  Verification is explained by this record alone. -/

namespace CheckinService

open Relational

structure Mint where
  args : MintArgs
  nonce : Nonce
  utcnow : ℚ
  rawToken : String
  row : QrToken

def Mint.expiresUnix (m : Mint) : Int := Py.trunc (m.utcnow + m.args.ttlMinutes * 60)

structure TokenLog where
  db : Database
  minted : List Mint := []
  redeemed : List String := []
  consumed : List Int := []

inductive TokenCall where
  | mint (args : MintArgs) (nonce : Nonce) (utcnow : ℚ)
  | verify (rawToken : String) (eventId : Int) (eventTable : String)
      (redeemingUserId : Option String) (consume : Bool) (attendeeUserId : Option String)
      (clock : Clock)
  | consume (rowId : Int) (redeemingUserId : Option String) (utcnow : ℚ)

def tokenStep (c : Crypto) (s : TokenLog) : TokenCall → TokenLog
  | .mint args nonce utcnow =>
    match mintToken c args nonce utcnow s.db with
    | .error _ => s
    | .ok (rawToken, row, db) =>
      { s with db := db, minted := ⟨args, nonce, utcnow, rawToken, row⟩ :: s.minted }
  | .verify rawToken eventId eventTable redeemingUserId consume attendeeUserId clock =>
    match verifyToken c rawToken eventId eventTable redeemingUserId consume attendeeUserId
        clock.time clock.utcnow s.db with
    | .ok (⟨.ok, _⟩, db) =>
      { s with db := db, redeemed := if consume then rawToken :: s.redeemed else s.redeemed }
    | .ok (_, db) => { s with db := db }
    | .error _ => s
  | .consume rowId redeemingUserId utcnow =>
    match s.db.qrTokens.byId rowId with
    | none => s
    | some row =>
      { s with
        db := consumeToken row.id redeemingUserId utcnow s.db
        consumed := row.id :: s.consumed }

def TokenLog.Consumed (s : TokenLog) (m : Mint) : Prop :=
  m.rawToken ∈ s.redeemed ∨ m.row.id ∈ s.consumed

def TokenLog.Accepts (s : TokenLog) (c : Crypto) (rawToken : String) (eventId : Int)
    (eventTable : String) (presented : Option String) (time : ℚ) : Prop :=
  ∃ m ∈ s.minted, m.rawToken = rawToken ∧ m.args.eventTable = eventTable ∧
    m.args.eventId = eventId ∧ ⌊time⌋ ≤ m.expiresUnix ∧
    (∀ a, Py.orNone m.args.attendeeUserId = some a →
      ∃ b, Py.orNone presented = some b ∧ c.hashAttendee a = c.hashAttendee b) ∧
    ¬ (m.args.singleUse = true ∧ s.Consumed m)

structure Tracks (c : Crypto) (s : TokenLog) (m : Mint) (t : QrToken) : Prop where
  id : t.id = m.row.id
  tokenHash : t.tokenHash = c.sha256Full m.rawToken
  singleUse : t.singleUse = m.args.singleUse
  used : t.singleUse = true → (t.usedAt.isSome = true ↔ s.Consumed m)

structure Coupled (c : Crypto) (s : TokenLog) : Prop where
  printed : ∀ m ∈ s.minted, ∃ p, Printed c m.args m.nonce m.utcnow m.rawToken p
  recorded : ∀ m ∈ s.minted, ∃ t ∈ s.db.qrTokens.rows, Tracks c s m t
  issued : ∀ t ∈ s.db.qrTokens.rows, ∃ m ∈ s.minted, Tracks c s m t
  redeemed : ∀ raw ∈ s.redeemed, ∃ t ∈ s.db.qrTokens.rows, t.tokenHash = c.sha256Full raw
  consumed : ∀ i ∈ s.consumed, ∃ t ∈ s.db.qrTokens.rows, t.id = i

variable {c : Crypto} {s : TokenLog}

theorem Coupled.start {db : Database} (h : db.qrTokens = .empty) : Coupled c { db } := by
  constructor <;> simp [h]

theorem Coupled.mint (h : Coupled c s) {args : MintArgs} {nonce : Nonce} {utcnow : ℚ}
    {rawToken : String} {row : QrToken} {db : Database}
    (hmint : mintToken c args nonce utcnow s.db = .ok (rawToken, row, db)) :
    Coupled c { s with db := db, minted := ⟨args, nonce, utcnow, rawToken, row⟩ :: s.minted } := by
  obtain ⟨hprinted, hins⟩ := mintToken_eq_ok hmint
  have hold : ∀ t ∈ s.db.qrTokens.rows, t ∈ db.qrTokens.rows := by
    intro t ht
    rw [hins.rows]
    exact List.mem_append_left _ ht
  have hnew : Tracks c
      { s with db := db, minted := ⟨args, nonce, utcnow, rawToken, row⟩ :: s.minted }
      ⟨args, nonce, utcnow, rawToken, row⟩ row := by
    refine ⟨rfl, hins.tokenHash, hins.singleUse, fun _ => ?_⟩
    rw [hins.unused]
    constructor
    · intro h
      cases h
    · intro hconsumed
      -- whatever was consumed before had a row, and this hash and this id are new
      rcases hconsumed with hraw | hid
      · obtain ⟨t, ht, hhash⟩ := h.redeemed rawToken hraw
        exact absurd (hhash.trans hins.tokenHash.symm) (hins.fresh t ht).2
      · obtain ⟨t, ht, hid⟩ := h.consumed row.id hid
        exact absurd hid (hins.fresh t ht).1
  have hkeep : ∀ {m t}, Tracks c s m t → Tracks c
      { s with db := db, minted := ⟨args, nonce, utcnow, rawToken, row⟩ :: s.minted } m t :=
    fun ht => ⟨ht.id, ht.tokenHash, ht.singleUse, ht.used⟩
  constructor
  · intro m hm
    rcases List.mem_cons.mp hm with rfl | hm
    · exact hprinted
    · exact h.printed m hm
  · intro m hm
    rcases List.mem_cons.mp hm with rfl | hm
    · exact ⟨row, by simp [hins.rows], hnew⟩
    · obtain ⟨t, ht, htracks⟩ := h.recorded m hm
      exact ⟨t, hold t ht, hkeep htracks⟩
  · intro t ht
    simp only [hins.rows, List.mem_append, List.mem_singleton] at ht
    rcases ht with ht | rfl
    · obtain ⟨m, hm, htracks⟩ := h.issued t ht
      exact ⟨m, List.mem_cons_of_mem _ hm, hkeep htracks⟩
    · exact ⟨_, List.mem_cons_self, hnew⟩
  · intro raw hraw
    obtain ⟨t, ht, hhash⟩ := h.redeemed raw hraw
    exact ⟨t, hold t ht, hhash⟩
  · intro i hi
    obtain ⟨t, ht, hid⟩ := h.consumed i hi
    exact ⟨t, hold t ht, hid⟩

/-- The rule for both ways to consume: the record must come to say of exactly the tokens of
the given row that they are consumed. -/
theorem Coupled.consume (h : Coupled c s) {row : QrToken} (hrow : row ∈ s.db.qrTokens.rows)
    (user : Option String) (now : ℚ) {s' : TokenLog}
    (hdb : s'.db = consumeToken row.id user now s.db) (hminted : s'.minted = s.minted)
    (hconsumed : ∀ m ∈ s.minted, (s'.Consumed m ↔ s.Consumed m ∨ m.row.id = row.id))
    (hredeemed : ∀ raw ∈ s'.redeemed, raw ∈ s.redeemed ∨ row.tokenHash = c.sha256Full raw)
    (hids : ∀ i ∈ s'.consumed, i ∈ s.consumed ∨ i = row.id) : Coupled c s' := by
  let burn (t : QrToken) : QrToken :=
    if t.id = row.id ∧ t.unburnt = true then t.burn now user else t
  have hrows : s'.db.qrTokens.rows = s.db.qrTokens.rows.map burn := by
    rw [hdb, consumeToken_rows]
  have hburn : ∀ t, (burn t).id = t.id ∧ (burn t).tokenHash = t.tokenHash ∧
      (burn t).singleUse = t.singleUse := by
    intro t
    simp only [burn]
    split <;> exact ⟨rfl, rfl, rfl⟩
  have htracks : ∀ {m t}, m ∈ s.minted → Tracks c s m t → Tracks c s' m (burn t) := by
    intro m t hm ht
    obtain ⟨hid, hhash, hsingle⟩ := hburn t
    refine ⟨hid.trans ht.id, hhash.trans ht.tokenHash, hsingle.trans ht.singleUse, ?_⟩
    intro hs
    rw [hsingle] at hs
    rw [hconsumed m hm, ← ht.used hs, ← ht.id]
    by_cases hrowId : t.id = row.id
    · cases hused : t.usedAt with
      | none => simp [burn, hrowId, QrToken.unburnt, hs, hused, QrToken.burn]
      | some _ => simp [burn, QrToken.unburnt, hused]
    · simp [burn, hrowId]
  have hmem : ∀ t ∈ s.db.qrTokens.rows, burn t ∈ s'.db.qrTokens.rows := by
    intro t ht
    rw [hrows]
    exact List.mem_map_of_mem ht
  constructor
  · rw [hminted]
    exact h.printed
  · rw [hminted]
    intro m hm
    obtain ⟨t, ht, hmt⟩ := h.recorded m hm
    exact ⟨burn t, hmem t ht, htracks hm hmt⟩
  · rw [hrows, hminted]
    intro t' ht'
    obtain ⟨t, ht, rfl⟩ := List.mem_map.mp ht'
    obtain ⟨m, hm, hmt⟩ := h.issued t ht
    exact ⟨m, hm, htracks hm hmt⟩
  · intro raw hraw
    rcases hredeemed raw hraw with hraw | hhash
    · obtain ⟨t, ht, hhash⟩ := h.redeemed raw hraw
      exact ⟨burn t, hmem t ht, (hburn t).2.1.trans hhash⟩
    · exact ⟨burn row, hmem row hrow, (hburn row).2.1.trans hhash⟩
  · intro i hi
    rcases hids i hi with hi | rfl
    · obtain ⟨t, ht, hid⟩ := h.consumed i hi
      exact ⟨burn t, hmem t ht, (hburn t).1.trans hid⟩
    · exact ⟨burn row, hmem row hrow, (hburn row).1⟩

/-- Collision freedom: a row belongs to the tokens with its text, and to no other. -/
theorem Coupled.row_iff (hinj : Function.Injective c.sha256) (h : Coupled c s) {m : Mint}
    (hm : m ∈ s.minted) {row : QrToken} (hrow : row ∈ s.db.qrTokens.rows) {rawToken : String}
    (hhash : row.tokenHash = c.sha256Full rawToken) :
    m.row.id = row.id ↔ m.rawToken = rawToken := by
  obtain ⟨t, ht, htracks⟩ := h.recorded m hm
  constructor
  · intro hid
    have : t = row := s.db.qrTokens.eq_of_id ht hrow (htracks.id.trans hid)
    subst this
    exact hinj (htracks.tokenHash.symm.trans hhash)
  · intro hraw
    have : t = row := by
      apply s.db.qrTokens.eq_of_key ht hrow (k := c.sha256Full rawToken)
      · simp [Row.keys, htracks.tokenHash, hraw]
      · simp [Row.keys, hhash]
    rw [← this, htracks.id]

theorem tokenStep_coupled (hinj : Function.Injective c.sha256) (h : Coupled c s)
    (call : TokenCall) : Coupled c (tokenStep c s call) := by
  cases call with
  | mint args nonce utcnow =>
    rw [tokenStep]
    split
    · exact h
    · rename_i hmint
      exact h.mint hmint
  | verify rawToken eventId eventTable user consume presented clock =>
    rw [tokenStep]
    split
    · rename_i found db hverify
      obtain ⟨hcheck, hdb⟩ := verifyToken_eq_ok.mp hverify
      obtain ⟨-, row, hfind, rfl, -⟩ := checkToken_eq_ok.mp hcheck
      obtain ⟨hrow, hhash⟩ := findToken_eq_some.mp hfind
      rcases hdb with ⟨_, hrow', rfl⟩ | ⟨hstatus, -⟩
      · cases hrow'
        cases consume with
        | false => exact h
        | true =>
          refine h.consume hrow user clock.utcnow rfl rfl ?_ ?_ ?_
          · intro m hm
            rw [h.row_iff hinj hm hrow hhash]
            simp only [TokenLog.Consumed, ↓reduceIte, List.mem_cons]
            grind
          · intro raw hraw
            rcases List.mem_cons.mp hraw with rfl | hraw
            · exact Or.inr hhash
            · exact Or.inl hraw
          · intro i hi
            exact Or.inl hi
      · exact absurd rfl hstatus
    · rename_i result db hnot hverify
      rcases (verifyToken_eq_ok.mp hverify).2 with ⟨row, rfl, -⟩ | ⟨-, rfl⟩
      · exact absurd rfl (hnot _)
      · exact h
    · exact h
  | consume rowId user utcnow =>
    rw [tokenStep]
    split
    · exact h
    · rename_i row hrow
      obtain ⟨hmem, -⟩ := Table.byId_eq_some.mp hrow
      refine h.consume hmem user utcnow rfl rfl ?_ ?_ ?_
      · intro m _
        simp only [TokenLog.Consumed, List.mem_cons]
        grind
      · intro raw hraw
        exact Or.inl hraw
      · intro i hi
        exact (List.mem_cons.mp hi).symm

theorem Coupled.verify_iff (hinj : Function.Injective c.sha256) (h : Coupled c s)
    {rawToken : String} {eventId : Int} {eventTable : String} {user presented : Option String}
    {clock : Clock} :
    (∃ row, verifyToken c rawToken eventId eventTable user false presented clock.time
        clock.utcnow s.db = .ok (⟨.ok, row⟩, s.db)) ↔
      s.Accepts c rawToken eventId eventTable presented clock.time := by
  have hverify : (∃ row, verifyToken c rawToken eventId eventTable user false presented
        clock.time clock.utcnow s.db = .ok (⟨.ok, row⟩, s.db)) ↔
      Genuine c rawToken eventId eventTable presented clock.time ∧
        ∃ t, findToken c rawToken s.db = some t ∧ t.spent = false := by
    constructor
    · rintro ⟨row, hok⟩
      obtain ⟨hgenuine, t, hfind, -, hspent⟩ :=
        checkToken_eq_ok.mp (verifyToken_eq_ok.mp hok).1
      exact ⟨hgenuine, t, hfind, hspent⟩
    · rintro ⟨hgenuine, t, hfind, hspent⟩
      exact ⟨some t, verifyToken_eq_ok.mpr
        ⟨checkToken_eq_ok.mpr ⟨hgenuine, t, hfind, rfl, hspent⟩, Or.inl ⟨t, rfl, rfl⟩⟩⟩
  rw [hverify]
  constructor
  · rintro ⟨hgenuine, row, hfind, hspent⟩
    obtain ⟨hrow, hhash⟩ := findToken_eq_some.mp hfind
    obtain ⟨m, hm, htracks⟩ := h.issued row hrow
    obtain ⟨p, hprinted⟩ := h.printed m hm
    -- from the row back to the text it was minted for
    have hraw : m.rawToken = rawToken := (h.row_iff hinj hm hrow hhash).mp htracks.id.symm
    rw [← hraw, hprinted.genuine] at hgenuine
    obtain ⟨htable, hid, htime, hatt⟩ := hgenuine
    refine ⟨m, hm, hraw, htable, hid, ?_, hatt, ?_⟩
    · rw [← Py.trunc_of_nonneg clock.time_nonneg]
      exact htime
    · rintro ⟨hsingle, hconsumed⟩
      have hs : row.singleUse = true := htracks.singleUse.trans hsingle
      simp [QrToken.spent, hs, (htracks.used hs).mpr hconsumed] at hspent
  · rintro ⟨m, hm, hraw, htable, hid, htime, hatt, hconsumed⟩
    subst hraw
    obtain ⟨p, hprinted⟩ := h.printed m hm
    obtain ⟨row, hrow, htracks⟩ := h.recorded m hm
    rw [← Py.trunc_of_nonneg clock.time_nonneg] at htime
    refine ⟨hprinted.genuine.mpr ⟨htable, hid, htime, hatt⟩, row,
      findToken_eq_some.mpr ⟨hrow, htracks.tokenHash⟩, ?_⟩
    cases hs : row.singleUse with
    | false => simp [QrToken.spent, hs]
    | true =>
      have hunused : ¬ row.usedAt.isSome = true := by
        rw [htracks.used hs]
        exact fun hc => hconsumed ⟨htracks.singleUse.symm.trans hs, hc⟩
      simpa [QrToken.spent, hs] using hunused

theorem run_coupled (hinj : Function.Injective c.sha256) (db : Database)
    (calls : List TokenCall) :
    Coupled c (Machine.run (tokenStep c) { db := { db with qrTokens := .empty } } calls) := by
  apply Machine.run_invariant (I := Coupled c)
  · intro s call h
    exact tokenStep_coupled hinj h call
  · exact Coupled.start rfl

/-- Verification over whole runs: a text is accepted exactly when it was minted for this event,
is in date, is presented by the attendee it is bound to, and has not been consumed. -/
theorem verifyToken_iff_accepts (c : Crypto) (hinj : Function.Injective c.sha256)
    (db : Database) (calls : List TokenCall) (rawToken : String) (eventId : Int)
    (eventTable : String) (user presented : Option String) (clock : Clock) :
    let s := Machine.run (tokenStep c) { db := { db with qrTokens := .empty } } calls
    (∃ row, verifyToken c rawToken eventId eventTable user false presented clock.time
        clock.utcnow s.db = .ok (⟨.ok, row⟩, s.db)) ↔
      s.Accepts c rawToken eventId eventTable presented clock.time :=
  (run_coupled hinj db calls).verify_iff hinj

/-- A digest that is the real one on the listed texts, and injective elsewhere. -/
def sampleDigest (known : List (String × String)) (s : String) : String :=
  match known.lookup s with
  | some digest => digest
  | none => String.ofList (List.replicate (65 + Encodable.encode (s.toList.map Char.toNat)) '0')

theorem sampleDigest_hex {known : List (String × String)} (h : ∀ e ∈ known, Py.IsHex e.2)
    (s : String) : Py.IsHex (sampleDigest known s) := by
  rw [sampleDigest]
  split
  · rename_i digest hlookup
    obtain ⟨l, r, hknown, -⟩ := List.lookup_eq_some_iff.mp hlookup
    exact h (s, digest) (by simp [hknown])
  · intro c hc
    rw [String.toList_ofList] at hc
    rw [List.eq_of_mem_replicate hc]
    decide

theorem sampleDigest_injective {known : List (String × String)}
    (hdistinct : (known.map Prod.snd).Nodup) (hlength : ∀ e ∈ known, e.2.length = 64) :
    Function.Injective (sampleDigest known) := by
  have hmem : ∀ {s d}, known.lookup s = some d → (s, d) ∈ known := by
    intro s d h
    obtain ⟨l, r, hknown, -⟩ := List.lookup_eq_some_iff.mp h
    simp [hknown]
  intro s t h
  rw [sampleDigest, sampleDigest] at h
  cases hs : known.lookup s with
  | some d =>
    have hd := hlength _ (hmem hs)
    cases ht : known.lookup t with
    | some e =>
      simp only [hs, ht] at h
      subst h
      have := List.inj_on_of_nodup_map hdistinct (hmem hs) (hmem ht) rfl
      exact congrArg Prod.fst this
    | none =>
      simp only [hs, ht] at h
      simp [h] at hd
      omega
  | none =>
    cases ht : known.lookup t with
    | some e =>
      have he := hlength _ (hmem ht)
      simp only [hs, ht] at h
      simp [← h] at he
      omega
    | none =>
      simp only [hs, ht] at h
      have hlen := congrArg String.length h
      simp only [String.length_ofList, List.length_replicate, Nat.add_left_cancel_iff] at hlen
      have hchars := Encodable.encode_injective hlen
      apply String.toList_inj.mp
      apply List.map_injective_iff.mpr _ hchars
      intro a b hab
      exact Char.ext (UInt32.toNat_inj.mp hab)

def sampleHashes : List (String × String) :=
  [("fan-1", "d410359e511719da7d5a970ff6ecf1a79a55db7d93e2c20a9d29ce8596a022be"),
   ("fan-2", "e82757d58cceba5c33883b87b7dddf569e1a7f6397ed2406e35f342129155c21"),
   ("events:1:0123456789abcdef0123456789abcdef:3600:c32505e0cdc3232c20d60e423dcecb850b290402efbb82a3038bab966731a888",
    "709e493e810ed479f26cd0ccedd954e533322638ffcb7cff0c65d53838fa51c9"),
   ("events:1:0123456789abcdef0123456789abcdef:3600:a=d410359e511719da:80a8747039e381f0a81af33f0bfe623c81d3bab0c75a1adb1e770a7f80f9255c",
    "d4e14db227122b9bb5abdf2a6b7595340bfe8a54b427892ddf3bebe93243d502")]

def sampleSignatures : List (String × String) :=
  [("events:1:0123456789abcdef0123456789abcdef:3600",
    "c32505e0cdc3232c20d60e423dcecb850b290402efbb82a3038bab966731a888"),
   ("events:1:0123456789abcdef0123456789abcdef:3600:a=d410359e511719da",
    "80a8747039e381f0a81af33f0bfe623c81d3bab0c75a1adb1e770a7f80f9255c")]

def sampleCrypto : Crypto where
  sha256 := sampleDigest sampleHashes
  hmacQr := sampleDigest sampleSignatures
  hmacPii := sampleDigest []
  strFloat x := if x.negative then "-0.0" else "0.0"
  sha256_hex := sampleDigest_hex (by decide +kernel)
  hmacQr_hex := sampleDigest_hex (by decide +kernel)
  hmacPii_hex := sampleDigest_hex (by decide)

theorem sampleCrypto_injective : Function.Injective sampleCrypto.sha256 :=
  sampleDigest_injective (by decide +kernel) (by decide +kernel)

def sampleNonce : Nonce := ⟨"0123456789abcdef0123456789abcdef", by decide +kernel⟩

def sampleBinding : MintArgs :=
  { eventId := 1, schoolId := "school-1", issuedByUserId := "coach-1",
    attendeeUserId := some "fan-1" }

def sampleToken : String := "events:1:0123456789abcdef0123456789abcdef:3600:a=d410359e511719da:80a8747039e381f0a81af33f0bfe623c81d3bab0c75a1adb1e770a7f80f9255c"

def sampleClock : Clock := ⟨100, 100, 100, 100, by decide +kernel⟩

theorem verifyToken_iff_accepts_sample :
    let s := Machine.run (tokenStep sampleCrypto) { db := {} } [.mint sampleBinding sampleNonce 0]
    ∃ row, verifyToken sampleCrypto sampleToken 1 "events" none false (some "fan-1")
      sampleClock.time sampleClock.utcnow s.db = .ok (⟨.ok, row⟩, s.db) := by
  intro s
  apply (verifyToken_iff_accepts sampleCrypto sampleCrypto_injective {}
    [.mint sampleBinding sampleNonce 0] sampleToken 1 "events" none (some "fan-1")
    sampleClock).mpr
  have hminted : (s.minted.map fun m => (m.rawToken, m.args, m.expiresUnix)) =
      [(sampleToken, sampleBinding, 3600)] := by decide +kernel
  obtain ⟨m, hm, hfields⟩ := List.map_eq_singleton_iff.mp hminted
  obtain ⟨hraw, hargs, hexpires⟩ : m.rawToken = sampleToken ∧ m.args = sampleBinding ∧
      m.expiresUnix = 3600 := by simpa using hfields
  refine ⟨m, ?_, hraw, by rw [hargs]; rfl, by rw [hargs]; rfl, ?_, ?_, ?_⟩
  · rw [hm]
    exact List.mem_singleton.mpr rfl
  · rw [hexpires]
    decide +kernel
  · rw [hargs]
    intro a ha
    cases ha
    exact ⟨"fan-1", rfl, rfl⟩
  · rintro ⟨_, hconsumed⟩
    rcases hconsumed with h | h
    · have hnone : s.redeemed = [] := by decide +kernel
      rw [hnone] at h
      cases h
    · have hnone : s.consumed = [] := by decide +kernel
      rw [hnone] at h
      cases h

end CheckinService
