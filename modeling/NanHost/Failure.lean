import NanHost.Identifier

/-!
# Failures

Why a command that was accepted did not succeed: the firmware said so, it said nothing in time, the
engine gave the command up, or the firmware's answer could not be used.
-/

namespace NanHost

/-- What makes a positive answer of the firmware unusable. -/
inductive AnswerFault where
  | sessionIdZero
  | duplicateSessionId
  | pathIdZero
  | duplicatePathId
  | expectedCapabilities
  | expectedSessionId
  | expectedPathId
  | contextMismatch
  | stated (text : String)
  deriving DecidableEq

/-- The words for what is wrong with an answer. -/
def AnswerFault.text : AnswerFault → String
  | sessionIdZero => "session id 0"
  | duplicateSessionId => "duplicate session id"
  | pathIdZero => "ndp id 0"
  | duplicatePathId => "duplicate ndp id"
  | expectedCapabilities => "expected capabilities"
  | expectedSessionId => "expected session id"
  | expectedPathId => "expected ndp id"
  | contextMismatch => "context mismatch"
  | stated text => text

/-- Why an accepted command failed. -/
inductive Failure where
  | timeout
  | firmware (status : FirmwareStatus)
  | aborted
  | invalidAnswer (fault : AnswerFault)
  deriving DecidableEq

namespace Failure

/-- The label under which failures of one cause are counted. -/
def label : Failure → String
  | timeout => "timeout"
  | firmware _ => "firmware_error"
  | aborted => "aborted"
  | invalidAnswer _ => "invalid_completion"

/-- The failure in words. -/
def message : Failure → String
  | timeout => "timed out"
  | firmware status => status.text
  | aborted => "aborted"
  | invalidAnswer fault => "invalid completion: " ++ fault.text

end Failure

/-- A completion that answers no command on file: its number was never issued, or its command was
resolved before. -/
structure StaleTransaction where
  id : TransactionId
  deriving DecidableEq

/-- A stale completion in words. -/
def StaleTransaction.message (stale : StaleTransaction) : String :=
  s!"stale or unknown transaction {stale.id}"

end NanHost
