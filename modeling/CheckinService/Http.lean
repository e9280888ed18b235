import CheckinService.Lib.Python.Str

namespace CheckinService

inductive Detail where
  | text (s : String)
  | dict (entries : List (String × String))
  deriving DecidableEq

structure HTTPException where
  statusCode : Nat
  detail : Detail
  headers : List (String × String) := []
  deriving DecidableEq

/-- How a handler ends other than by returning: an `HTTPException`, or an exception nobody
catches, which the framework turns into a 500. -/
inductive Failure where
  | http (e : HTTPException)
  | unhandled (e : Py.Exc)
  deriving DecidableEq

abbrev Handler (α : Type) := Except Failure α

def httpError (statusCode : Nat) (detail : Detail) : Handler α :=
  .error (.http ⟨statusCode, detail, []⟩)

def catchNothing : Except Py.Exc α → Handler α := Except.mapError Failure.unhandled

def eventNotFound : HTTPException := ⟨404, .text "Event not found", []⟩

end CheckinService
