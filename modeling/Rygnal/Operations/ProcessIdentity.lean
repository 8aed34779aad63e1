import Rygnal.Operations.Store

/-! # Process start identities

`process_identity_token` reads the start identity of a pid from the operating system. What
the system shows for a pid at the moment of the call is an argument.
-/

namespace Rygnal.Operations
open Rygnal.Core Rygnal.Library Rygnal.Library.PyText

/-- What the operating system shows for a pid: the text of `/proc/<pid>/stat`, or without
that file the outcome of `ps -p <pid> -o lstart= -o command=`. -/
inductive ProcessView where
  | stat (text : String)
  | statUnreadable
  | ps (stdout : String)
  | psFailed
  | psMissing
deriving DecidableEq, Repr

variable [Digest]

def processIdentityToken (pid : ℤ) (view : ProcessView) : Except OperationError String :=
  if pid ≤ 0 then .error (.store "Process identity requires a positive PID.")
  else match view with
    | .stat text =>
      match (split text.toList)[21]? with
      | some field => .ok (Digest.sha256 ("proc:" ++ toString pid ++ ":" ++ String.ofList field))
      | none => .error (.store "Linux process identity is incomplete.")
    | .statUnreadable => .error (.store "Could not inspect process identity.")
    | .psMissing => .error (.store "Process start identity cannot be verified.")
    | .psFailed => .error (.store "Process start identity cannot be read.")
    | .ps stdout =>
      let normalized := String.ofList (joinWith ' ' (split stdout.toList))
      if normalized = "" then .error (.store "Process start identity is empty.")
      else .ok (Digest.sha256 ("ps:" ++ toString pid ++ ":" ++ normalized))

/-- `process_identity_matches`, with what the system shows for each pid. -/
def processIdentityMatches (os : ℤ → ProcessView) (pid : ℤ) (expectedToken : String) : Bool :=
  match processIdentityToken pid (os pid) with
  | .ok actual => actual = expectedToken
  | .error _ => false

/-- `owner_record_is_active`. -/
def ownerRecordIsActive (os : ℤ → ProcessView) (record : OperationRecord) : Bool :=
  processIdentityMatches os record.ownerPid record.ownerStartToken

/-- The same reading of the system gives the same answer for a token read before. -/
theorem processIdentityMatches_of_token {os : ℤ → ProcessView} {pid : ℤ} {token : String}
    (h : processIdentityToken pid (os pid) = .ok token) :
    processIdentityMatches os pid token = true := by
  simp [processIdentityMatches, h]

end Rygnal.Operations
