import NanHost.Bytes
import NanHost.Capabilities
import NanHost.Rejection

/-!
# Security of data paths

A data path is open, or secured by a key or a passphrase under one of the cipher suites. A request
is checked twice: that its settings make sense by themselves (`validate`), and that this firmware
can honour them (`checkSupported`). Key material is never shown; diagnostics say only whether it is
there.
-/

namespace NanHost

/-- How a data path is to be secured. With neither key nor passphrase the path is open. -/
structure DataPathSecurity where
  cipherSuite : CipherSuite
  pmk : Option ByteArray
  passphrase : Option String
  pmkid : Option ByteArray
  deriving DecidableEq

namespace DataPathSecurity

/-- The length of a pairwise master key, in bytes. -/
def pmkSize : Nat := 32

/-- The length of the identifier of a key, in bytes. -/
def pmkidSize : Nat := 16

/-- No security at all. -/
def unsecured : DataPathSecurity := ⟨.sharedKey128, none, none, none⟩

instance : Inhabited DataPathSecurity := ⟨unsecured⟩

/-- Secured by a key. -/
def ofPmk (suite : CipherSuite) (pmk : ByteArray) : DataPathSecurity :=
  { unsecured with cipherSuite := suite, pmk := some pmk }

/-- Secured by a passphrase. -/
def ofPassphrase (suite : CipherSuite) (passphrase : String) : DataPathSecurity :=
  { unsecured with cipherSuite := suite, passphrase := some passphrase }

/-- Whether the path is open: it has neither key nor passphrase. -/
def isOpen (security : DataPathSecurity) : Bool :=
  security.pmk.isNone && security.passphrase.isNone

/-- Whether a passphrase has the length and the characters that the standard allows. -/
def passphraseOk (passphrase : String) : Bool :=
  passphrase.toList.all (fun c => c.toNat < 128) &&
    8 ≤ passphrase.length && passphrase.length ≤ 63

/-- Whether the settings make sense by themselves; the first fault found is named. -/
def validate (security : DataPathSecurity) : Verdict := do
  require (security.pmk.isNone ∨ security.passphrase.isNone) (.invalidSecurity .pmkAndPassphrase)
  security.pmk.forM fun pmk =>
    require (pmk.size = pmkSize) (.invalidSecurity (.pmkLength pmk.size))
  security.passphrase.forM fun passphrase =>
    require (passphraseOk passphrase) (.invalidSecurity .passphraseForm)
  security.pmkid.forM fun pmkid => do
    require (!security.isOpen) (.invalidSecurity .pmkidOnOpenPath)
    require (pmkid.size = pmkidSize) (.invalidSecurity (.pmkidLength pmkid.size))

/-- Whether the firmware can honour the settings. An open path needs nothing of it; a secured one
needs a report of the firmware's capabilities that lists the suite. -/
def checkSupported (security : DataPathSecurity) (capabilities : Option Capabilities) : Verdict :=
  if security.isOpen then .ok ()
  else match capabilities with
    | none => .error (.unsupportedSecurity .capabilitiesUnknown)
    | some known =>
      require (known.supportedCipherSuites.contains security.cipherSuite)
        (.unsupportedSecurity (.suiteMissing security.cipherSuite))

/-- Whether a secret is there, without showing it. -/
def redacted {α : Type} : Option α → String
  | some _ => "Some(\"<redacted>\")"
  | none => "None"

/-- The settings as diagnostics show them, all secrets left out. -/
def debugText (security : DataPathSecurity) : String :=
  "DataPathSecurityConfig \x7b cipher_suite: " ++ security.cipherSuite.name ++
    ", pmk: " ++ redacted security.pmk ++
    ", passphrase: " ++ redacted security.passphrase ++
    ", pmkid: " ++ redacted security.pmkid ++ " \x7d"

end DataPathSecurity

end NanHost
