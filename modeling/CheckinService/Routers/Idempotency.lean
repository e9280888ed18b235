import CheckinService.Http

/-! `_validate_idem_key`, which `routers/events.py` and `routers/registrations.py` share word
for word.  The pattern is `^[A-Za-z0-9_\-:.]{8,128}$`, and `$` also matches before a final
newline. -/

namespace CheckinService

def isIdemChar (c : Char) : Bool :=
  ('A' ≤ c && c ≤ 'Z') || ('a' ≤ c && c ≤ 'z') || ('0' ≤ c && c ≤ '9') || c == '_' || c == '-' ||
    c == ':' || c == '.'

def idemRe (key : String) : Bool :=
  let chars := key.toList
  let body := if chars.getLast? = some '\n' then chars.dropLast else chars
  8 ≤ body.length && body.length ≤ 128 && body.all isIdemChar

def validateIdemKey (key : Option String) : Handler (Option String) :=
  match Py.orNone key with
  | none => .ok none
  | some key =>
    if idemRe key then .ok (some key)
    else httpError 400 (.text "Idempotency-Key must match [A-Za-z0-9_\\-:.] (8-128 chars)")

end CheckinService
