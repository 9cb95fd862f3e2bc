import NanHost.Command

/-!
# The way to the firmware

A transport takes a command to the firmware or refuses it; it may change either way. The engine
knows nothing else of it, so what holds of the engine holds whatever transport it runs on. The
plainest transport is the recorder: it accepts and remembers every command until it is told to
refuse.
-/

namespace NanHost

/-- Why a command did not reach the firmware. -/
inductive TransportError where
  | rejected (reason : String)
  | unavailable
  deriving DecidableEq

/-- The refusal of a transport in words. -/
def TransportError.message : TransportError → String
  | rejected reason => "command rejected: " ++ reason
  | unavailable => "transport unavailable"

/-- A way to the firmware, in its current state. -/
class Transport (σ : Type) where
  /-- Hands a command over under its number: the verdict, and the transport after it. -/
  send : σ → TransactionId → Command → Except TransportError Unit × σ

/-- A transport that remembers what was handed over. -/
structure Recorder where
  issued : Array (TransactionId × Command)
  /-- What every command is refused with, if commands are refused. -/
  refusal : Option TransportError
  deriving DecidableEq

namespace Recorder

/-- A recorder that accepts, and has seen nothing. -/
def new : Recorder := ⟨#[], none⟩

/-- The command accepted last. -/
def last? (recorder : Recorder) : Option (TransactionId × Command) := recorder.issued.back?

/-- How many commands of a kind were accepted. -/
def countOf (recorder : Recorder) (kind : CommandKind) : Nat :=
  recorder.issued.countP fun entry => entry.2.kind = kind

instance : Transport Recorder where
  send recorder id command :=
    match recorder.refusal with
    | some error => (.error error, recorder)
    | none => (.ok (), { recorder with issued := recorder.issued.push (id, command) })

end Recorder

end NanHost
