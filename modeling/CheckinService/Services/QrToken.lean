import CheckinService.Models
import CheckinService.Services.Hashing

/-! `services/qr_token_service.py`.  A token reads
`table:event_id:nonce:expires_unix[:a=attendee_hash]:signature`. -/

namespace CheckinService

def maxTtlMinutes : Int := 12 * 60

def attendeePrefix : String := "a="

def attendeeHashLen : Nat := 16

def EventTable.ofName? : String → Option EventTable
  | "events" => some .events
  | "greek_rush_events" => some .greekRushEvents
  | _ => none

def Crypto.hashAttendee (c : Crypto) (attendeeUserId : String) : String :=
  Py.take attendeeHashLen (c.sha256 attendeeUserId)

def tokenPayload (eventTable eventId nonce expiresUnix : String)
    (attendeeFragment : Option String) : String :=
  let payload := eventTable ++ ":" ++ eventId ++ ":" ++ nonce ++ ":" ++ expiresUnix
  match attendeeFragment with
  | none => payload
  | some fragment => payload ++ ":" ++ fragment

structure MintArgs where
  eventId : Int
  schoolId : String
  issuedByUserId : String
  eventTable : String := "events"
  ttlMinutes : Int := 60
  singleUse : Bool := true
  attendeeUserId : Option String := none
  deriving DecidableEq

def Crypto.attendeeFragment (c : Crypto) (attendeeUserId : Option String) : Option String :=
  (Py.orNone attendeeUserId).map fun a => attendeePrefix ++ c.hashAttendee a

def mintToken (c : Crypto) (args : MintArgs) (nonce : Nonce) (utcnow : ℚ) (db : Database) :
    Except Py.Exc (String × QrToken × Database) :=
  match EventTable.ofName? args.eventTable with
  | none => .error .valueError
  | some eventTable =>
    if args.ttlMinutes ≤ 0 || maxTtlMinutes < args.ttlMinutes then .error .valueError
    else do
      let expiresAt := utcnow + args.ttlMinutes * 60
      let eventId ← Py.str args.eventId
      let expiresUnix ← Py.str (Py.trunc expiresAt)
      let payload := tokenPayload eventTable.name eventId nonce.text expiresUnix
        (c.attendeeFragment args.attendeeUserId)
      let rawToken := payload ++ ":" ++ c.hmacSign payload
      let row : QrToken := {
        id := db.qrTokens.nextId
        schoolId := args.schoolId
        eventTable := eventTable
        eventId := args.eventId
        tokenHash := c.sha256Full rawToken
        nonce := nonce.text
        expiresAt := expiresAt
        singleUse := args.singleUse
        issuedByUserId := args.issuedByUserId }
      match db.qrTokens.insert? row with
      | none => .error .integrityError
      | some qrTokens => .ok (rawToken, row, { db with qrTokens := qrTokens })

inductive VerifyStatus where
  | ok | invalidFormat | signatureMismatch | expired | notFound | eventMismatch | alreadyUsed
  | attendeeMismatch
  deriving DecidableEq

structure QrTokenVerifyResult where
  status : VerifyStatus
  qrRow : Option QrToken := none
  deriving DecidableEq

structure TokenParts where
  eventTable : EventTable
  eventId : Int
  nonce : String
  expiresUnix : Int
  attendeeFragment : Option String
  signature : String
  deriving DecidableEq

/-- The part of `verify_token` whose failures all read `INVALID_FORMAT`. -/
def parseParts (eventTable eventId nonce expiresUnix : String) (attendeeFragment : Option String)
    (signature : String) : Option TokenParts := do
  let eventTable ← EventTable.ofName? eventTable
  let eventId ← (Py.int eventId).toOption
  let expiresUnix ← (Py.int expiresUnix).toOption
  return { eventTable, eventId, nonce, expiresUnix, attendeeFragment, signature }

def parseToken (rawToken : String) : Option TokenParts :=
  match Py.split ':' rawToken with
  | [eventTable, eventId, nonce, expiresUnix, signature] =>
    parseParts eventTable eventId nonce expiresUnix none signature
  | [eventTable, eventId, nonce, expiresUnix, fragment, signature] =>
    if Py.startsWith attendeePrefix fragment then
      parseParts eventTable eventId nonce expiresUnix (some fragment) signature
    else none
  | _ => none

/-- The payload is rebuilt from the parsed numbers, not taken from the presented text. -/
def TokenParts.payload (p : TokenParts) : Except Py.Exc String := do
  return tokenPayload p.eventTable.name (← Py.str p.eventId) p.nonce (← Py.str p.expiresUnix)
    p.attendeeFragment

def Crypto.attendeeMatches (c : Crypto) (attendeeFragment attendeeUserId : Option String) :
    Except Py.Exc Bool :=
  match attendeeFragment with
  | none => .ok true
  | some fragment =>
    match Py.orNone attendeeUserId with
    | none => .ok false
    | some attendee =>
      Py.compareDigest (String.ofList (fragment.toList.drop attendeePrefix.length))
        (c.hashAttendee attendee)

def checkToken (c : Crypto) (rawToken : String) (eventId : Int) (eventTable : String)
    (attendeeUserId : Option String) (time : ℚ) (db : Database) :
    Except Py.Exc QrTokenVerifyResult :=
  match EventTable.ofName? eventTable, parseToken rawToken with
  | some eventTable, some p =>
    if p.eventId ≠ eventId || p.eventTable ≠ eventTable then .ok ⟨.eventMismatch, none⟩
    else do
      let payload ← p.payload
      if !(← c.hmacVerify payload p.signature) then return ⟨.signatureMismatch, none⟩
      if !(← c.attendeeMatches p.attendeeFragment attendeeUserId) then
        return ⟨.attendeeMismatch, none⟩
      if p.expiresUnix < Py.trunc time then return ⟨.expired, none⟩
      match db.qrTokens.first fun t => t.tokenHash = c.sha256Full rawToken with
      | none => return ⟨.notFound, none⟩
      | some row =>
        if row.singleUse && row.usedAt.isSome then return ⟨.alreadyUsed, some row⟩
        else return ⟨.ok, some row⟩
  | _, _ => .ok ⟨.invalidFormat, none⟩

def QrToken.burn (utcnow : ℚ) (redeemingUserId : Option String) (t : QrToken) : QrToken :=
  { t with
    usedAt := some utcnow
    usedByUserId := (Py.orNone redeemingUserId).orElse fun _ => t.usedByUserId }

theorem QrToken.burn_keepsKeys (utcnow : ℚ) (redeemingUserId : Option String) :
    Relational.Table.KeepsKeys (QrToken.burn utcnow redeemingUserId) := fun _ => ⟨rfl, rfl⟩

def burnToken (rowId : Int) (redeemingUserId : Option String) (utcnow : ℚ) (db : Database) :
    Database :=
  { db with
    qrTokens := db.qrTokens.update rowId (QrToken.burn utcnow redeemingUserId)
      (QrToken.burn_keepsKeys utcnow redeemingUserId) }

def QrToken.unburnt (t : QrToken) : Bool := t.singleUse && t.usedAt.isNone

/-- The row is read afresh, since a commit has expired the loaded one. -/
def consumeToken (rowId : Int) (redeemingUserId : Option String) (utcnow : ℚ) (db : Database) :
    Database :=
  match db.qrTokens.byId rowId with
  | none => db
  | some row => if row.unburnt then burnToken rowId redeemingUserId utcnow db else db

def verifyToken (c : Crypto) (rawToken : String) (eventId : Int) (eventTable : String)
    (redeemingUserId : Option String) (consume : Bool) (attendeeUserId : Option String)
    (time utcnow : ℚ) (db : Database) : Except Py.Exc (QrTokenVerifyResult × Database) := do
  let result ← checkToken c rawToken eventId eventTable attendeeUserId time db
  match result with
  | ⟨.ok, some row⟩ =>
    return (result, if consume then consumeToken row.id redeemingUserId utcnow db else db)
  | _ => return (result, db)

def peekToken (c : Crypto) (rawToken : String) (eventId : Int) (eventTable : String)
    (attendeeUserId : Option String) (time utcnow : ℚ) (db : Database) :
    Except Py.Exc QrTokenVerifyResult :=
  (verifyToken c rawToken eventId eventTable none false attendeeUserId time utcnow db).map
    Prod.fst

theorem verifyToken_of_not_consume {c : Crypto} {rawToken : String} {eventId : Int}
    {eventTable : String} {redeemingUserId attendeeUserId : Option String} {time utcnow : ℚ}
    {db : Database} :
    verifyToken c rawToken eventId eventTable redeemingUserId false attendeeUserId time utcnow db =
      (checkToken c rawToken eventId eventTable attendeeUserId time db).map (·, db) := by
  rw [verifyToken]
  cases checkToken c rawToken eventId eventTable attendeeUserId time db with
  | error e => rfl
  | ok result =>
    change (match result with
      | ⟨.ok, some row⟩ => Except.ok (result, if false = true then _ else db)
      | _ => Except.ok (result, db)) = Except.ok (result, db)
    split <;> rfl

@[simp] theorem peekToken_eq (c : Crypto) (rawToken : String) (eventId : Int)
    (eventTable : String) (attendeeUserId : Option String) (time utcnow : ℚ) (db : Database) :
    peekToken c rawToken eventId eventTable attendeeUserId time utcnow db =
      checkToken c rawToken eventId eventTable attendeeUserId time db := by
  rw [peekToken, verifyToken_of_not_consume]
  cases checkToken c rawToken eventId eventTable attendeeUserId time db <;> rfl

end CheckinService
