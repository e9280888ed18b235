import CheckinService.Lib.Python.Float

/-! `services/hashing.py`.  The digests are parameters: of `hashlib` and `hmac` the model
keeps that `hexdigest()` is hexadecimal text. -/

namespace CheckinService

structure Crypto where
  sha256 : String → String
  hmacQr : String → String
  hmacPii : String → String
  strFloat : Py.Float → String
  sha256_hex : ∀ s, Py.IsHex (sha256 s)
  hmacQr_hex : ∀ s, Py.IsHex (hmacQr s)
  hmacPii_hex : ∀ s, Py.IsHex (hmacPii s)

def Crypto.hashPii (c : Crypto) (value : String) : String := Py.take 16 (c.hmacPii value)

def Crypto.sha256Full (c : Crypto) (value : String) : String := c.sha256 value

def Crypto.hmacSign (c : Crypto) (payload : String) : String := c.hmacQr payload

def Crypto.hmacVerify (c : Crypto) (payload signature : String) : Except Py.Exc Bool :=
  Py.compareDigest (c.hmacSign payload) signature

/-- `secrets.token_hex(16)` -/
structure Nonce where
  text : String
  hex : Py.IsHex text

def isControlChar (c : Char) : Bool :=
  let n := c.toNat
  n ≤ 8 || n == 0xb || n == 0xc || (0xe ≤ n && n ≤ 0x1f) || n == 0x7f

def htmlEscapeChar : Char → List Char
  | '&' => "&amp;".toList
  | '<' => "&lt;".toList
  | '>' => "&gt;".toList
  | '"' => "&quot;".toList
  | '\'' => "&#x27;".toList
  | c => [c]

def htmlEscape (s : String) : String := String.ofList (s.toList.flatMap htmlEscapeChar)

def sanitizeText (value : Option String) (maxLen : Nat := 200) : Option String :=
  match value with
  | none => none
  | some value =>
    let cleaned := Py.strip (String.ofList (value.toList.filter fun c => !isControlChar c))
    if cleaned = "" then none else some (Py.take maxLen (htmlEscape cleaned))

end CheckinService
