import Mathlib

/-!
# Errors of the gRPC services

Every OIM service is a gRPC service, so an error that leaves it is a code and a
message (`google.golang.org/grpc/status`).  Errors made with
`github.com/pkg/errors` have no code of their own and arrive as `unknown`.
-/

namespace Oim

/-- The codes of `google.golang.org/grpc/codes` that OIM returns. -/
inductive Code where
  | unknown
  | invalidArgument
  | notFound
  | alreadyExists
  | permissionDenied
  | failedPrecondition
  | outOfRange
  | unimplemented
  | internal
  | unavailable
  deriving DecidableEq, Repr

/-- `Code.String`. -/
def Code.text : Code → String
  | .unknown => "Unknown"
  | .invalidArgument => "InvalidArgument"
  | .notFound => "NotFound"
  | .alreadyExists => "AlreadyExists"
  | .permissionDenied => "PermissionDenied"
  | .failedPrecondition => "FailedPrecondition"
  | .outOfRange => "OutOfRange"
  | .unimplemented => "Unimplemented"
  | .internal => "Internal"
  | .unavailable => "Unavailable"

/-- An error as the client of a service sees it. -/
structure Status where
  code : Code
  message : String
  deriving DecidableEq, Repr

/-- `errors.New` and `errors.Errorf`. -/
def Status.new (message : String) : Status := ⟨.unknown, message⟩

/-- The text of an error that a gRPC call has returned. -/
def Status.text (e : Status) : String :=
  "rpc error: code = " ++ e.code.text ++ " desc = " ++ e.message

/-- `errors.Wrap`. -/
def Status.wrap (err message : String) : Status := ⟨.unknown, message ++ ": " ++ err⟩

/-- One character under `%q`: the escapes of `strconv.Quote` for ASCII.  All other
characters are taken to be printable. -/
def quoteChar (c : Char) : String :=
  let hex (n : ℕ) : Char := (Nat.toDigits 16 n).headD '0'
  if c = '"' then "\\\"" else if c = '\\' then "\\\\"
  else if c = '\n' then "\\n" else if c = '\r' then "\\r" else if c = '\t' then "\\t"
  else if c.toNat = 7 then "\\a" else if c.toNat = 8 then "\\b"
  else if c.toNat = 11 then "\\v" else if c.toNat = 12 then "\\f"
  else if c.toNat < 32 ∨ c.toNat = 127 then
    "\\x" ++ String.ofList [hex (c.toNat / 16), hex (c.toNat % 16)]
  else c.toString

/-- The verb `%q` on a string. -/
def quote (s : String) : String := "\"" ++ String.join (s.toList.map quoteChar) ++ "\""

end Oim
