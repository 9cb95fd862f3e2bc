import NanHost.Command

/-!
# Masks — settings of security without their secrets

A key, its identifier and a passphrase are secrets. What they say besides, an observer may learn: the
cipher suite, which of the three there are, how long they are, and whether a passphrase is all ASCII.
To mask them is to put zeroes in the place of bytes, and one letter in the place of all characters.

Two settings that differ in secrets alone are masked alike, and a decision that is the same for settings
and for their mask cannot tell the two apart.

## What is proved

- `alike_iff`: settings are alike if and only if they are masked alike.
- `validate_masked`, `checkSupported_masked`: no check tells settings from their mask, not even by the
  words of its refusal; `debugText_masked`: neither does what diagnostics show.
- `Request.Alike.masked`: requests that are the same but for secrets are masked alike.
-/

namespace NanHost

/-! ## Secrets -/

/-- Zeroes in the place of bytes. -/
def maskBytes (bytes : ByteArray) : ByteArray := ⟨Array.replicate bytes.size 0⟩

@[simp] theorem size_maskBytes (bytes : ByteArray) : (maskBytes bytes).size = bytes.size :=
  Array.size_replicate

/-- Bytes are masked alike if they are as many. -/
theorem maskBytes_eq_iff {first second : ByteArray} :
    maskBytes first = maskBytes second ↔ first.size = second.size := by
  constructor
  · intro masked
    rw [← size_maskBytes first, masked, size_maskBytes]
  · intro same
    rw [maskBytes, maskBytes, same]

/-- Whether all characters of a passphrase are ASCII. -/
def isAscii (passphrase : String) : Bool := passphrase.toList.all fun c => c.toNat < 128

/-- One letter in the place of all characters, an ASCII letter if they were ASCII. -/
def maskPassphrase (passphrase : String) : String :=
  String.ofList (List.replicate passphrase.length (if isAscii passphrase then 'x' else 'é'))

@[simp] theorem length_maskPassphrase (passphrase : String) :
    (maskPassphrase passphrase).length = passphrase.length := by
  rw [maskPassphrase, String.length_ofList, List.length_replicate]

@[simp] theorem isAscii_maskPassphrase (passphrase : String) :
    isAscii (maskPassphrase passphrase) = isAscii passphrase := by
  cases ascii : isAscii passphrase with
  | true =>
    rw [isAscii, maskPassphrase, ascii, String.toList_ofList, List.all_replicate]
    split <;> rfl
  | false =>
    -- A passphrase that is not all ASCII has a character.
    have some : passphrase.length ≠ 0 := by
      intro none
      rw [← String.length_toList, List.length_eq_zero_iff] at none
      rw [isAscii, none] at ascii
      cases ascii
    rw [isAscii, maskPassphrase, ascii, String.toList_ofList, List.all_replicate, if_neg some]
    rfl

/-- Passphrases are masked alike if they have as many characters, and are both ASCII or neither. -/
theorem maskPassphrase_eq_iff {first second : String} :
    maskPassphrase first = maskPassphrase second ↔
      first.length = second.length ∧ isAscii first = isAscii second := by
  constructor
  · intro masked
    rw [← length_maskPassphrase first, ← isAscii_maskPassphrase first, masked,
      length_maskPassphrase, isAscii_maskPassphrase]
    exact ⟨rfl, rfl⟩
  · rintro ⟨length, ascii⟩
    rw [maskPassphrase, maskPassphrase, length, ascii]

namespace DataPathSecurity

/-! ## Settings -/

/-- The settings with all secrets masked. -/
def masked (security : DataPathSecurity) : DataPathSecurity where
  cipherSuite := security.cipherSuite
  pmk := security.pmk.map maskBytes
  passphrase := security.passphrase.map maskPassphrase
  pmkid := security.pmkid.map maskBytes

/-- Settings that differ in the bytes of the key and of its identifier and in the characters of the
passphrase alone. -/
structure Alike (first second : DataPathSecurity) : Prop where
  cipherSuite : first.cipherSuite = second.cipherSuite
  pmk : first.pmk.map (·.size) = second.pmk.map (·.size)
  passphrase : first.passphrase.map (·.length) = second.passphrase.map (·.length)
  ascii : first.passphrase.map isAscii = second.passphrase.map isAscii
  pmkid : first.pmkid.map (·.size) = second.pmkid.map (·.size)

variable {first second : DataPathSecurity}

/-- **Settings that differ in secrets alone** are those that are masked alike. -/
theorem alike_iff : first.Alike second ↔ first.masked = second.masked := by
  have bytes (first second : Option ByteArray) :
      first.map maskBytes = second.map maskBytes ↔ first.map (·.size) = second.map (·.size) := by
    cases first <;> cases second <;> simp [maskBytes_eq_iff]
  have characters (first second : Option String) :
      first.map maskPassphrase = second.map maskPassphrase ↔
        first.map (·.length) = second.map (·.length) ∧
          first.map isAscii = second.map isAscii := by
    cases first <;> cases second <;> simp [maskPassphrase_eq_iff]
  rw [masked, masked, mk.injEq, bytes, characters, bytes]
  constructor
  · rintro ⟨suite, pmk, length, ascii, pmkid⟩
    exact ⟨suite, pmk, ⟨length, ascii⟩, pmkid⟩
  · rintro ⟨suite, pmk, ⟨length, ascii⟩, pmkid⟩
    exact ⟨suite, pmk, length, ascii, pmkid⟩

variable (security : DataPathSecurity)

@[simp] theorem isOpen_masked : security.masked.isOpen = security.isOpen := by
  simp [isOpen, masked]

theorem passphraseOk_eq (passphrase : String) : passphraseOk passphrase =
    (isAscii passphrase && 8 ≤ passphrase.length && passphrase.length ≤ 63) := rfl

@[simp] theorem passphraseOk_mask (passphrase : String) :
    passphraseOk (maskPassphrase passphrase) = passphraseOk passphrase := by
  rw [passphraseOk_eq, isAscii_maskPassphrase, length_maskPassphrase, passphraseOk_eq]

/-- **No fault of settings is about their secrets.** -/
@[simp] theorem validate_masked : security.masked.validate = security.validate := by
  unfold validate
  rw [isOpen_masked]
  simp [masked]

/-- Nor does it depend on them whether the firmware can honour settings. -/
@[simp] theorem checkSupported_masked (capabilities : Option Capabilities) :
    security.masked.checkSupported capabilities = security.checkSupported capabilities := by
  unfold checkSupported
  rw [isOpen_masked]
  rfl

/-- **Diagnostics show no secrets.** -/
@[simp] theorem debugText_masked : security.masked.debugText = security.debugText := by
  have hidden {α : Type} (mask : α → α) (secret : Option α) :
      redacted (secret.map mask) = redacted secret := by
    cases secret <;> rfl
  have suite : security.masked.cipherSuite = security.cipherSuite := rfl
  have pmk : redacted security.masked.pmk = redacted security.pmk := hidden _ _
  have passphrase : redacted security.masked.passphrase = redacted security.passphrase := hidden _ _
  have pmkid : redacted security.masked.pmkid = redacted security.pmkid := hidden _ _
  unfold debugText
  rw [suite, pmk, passphrase, pmkid]

/-- So settings that differ in secrets alone look the same. -/
theorem Alike.debugText (alike : first.Alike second) : first.debugText = second.debugText := by
  rw [← debugText_masked, alike_iff.mp alike, debugText_masked]

end DataPathSecurity

/-! ## Requests and commands -/

namespace InitiateRequest

/-- The request with all secrets masked. -/
def masked (request : InitiateRequest) : InitiateRequest :=
  { request with security := request.security.masked }

@[simp] theorem validate_masked (request : InitiateRequest) :
    request.masked.validate = request.validate := by
  rw [validate, masked, DataPathSecurity.validate_masked]
  rfl

end InitiateRequest

namespace RespondRequest

/-- The answer with all secrets masked. -/
def masked (request : RespondRequest) : RespondRequest :=
  { request with security := request.security.masked }

@[simp] theorem validate_masked (request : RespondRequest) :
    request.masked.validate = request.validate := by
  rw [validate, masked, DataPathSecurity.validate_masked]
  rfl

end RespondRequest

namespace Request

/-- The request with all secrets masked. -/
def masked : Request → Request
  | initiateDataPath request => .initiateDataPath request.masked
  | respondDataPath request => .respondDataPath request.masked
  | request => request

/-- Requests that are one and the same but for the secrets in their settings of security. -/
inductive Alike : Request → Request → Prop
  | same (request : Request) : Alike request request
  | initiate (request : InitiateRequest) (security : DataPathSecurity)
    (alike : request.security.Alike security) :
    Alike (.initiateDataPath request) (.initiateDataPath { request with security := security })
  | respond (request : RespondRequest) (security : DataPathSecurity)
    (alike : request.security.Alike security) :
    Alike (.respondDataPath request) (.respondDataPath { request with security := security })

variable {first second : Request}

theorem Alike.masked (alike : first.Alike second) : first.masked = second.masked := by
  cases alike with
  | same => rfl
  | initiate request security alike =>
    rw [Request.masked, Request.masked, InitiateRequest.masked, InitiateRequest.masked,
      DataPathSecurity.alike_iff.mp alike]
  | respond request security alike =>
    rw [Request.masked, Request.masked, RespondRequest.masked, RespondRequest.masked,
      DataPathSecurity.alike_iff.mp alike]

end Request

namespace Command

/-- The command with all secrets masked. -/
def masked : Command → Command
  | initiateDataPath request capabilities => .initiateDataPath request.masked capabilities
  | respondDataPath request capabilities => .respondDataPath request.masked capabilities
  | command => command

@[simp] theorem kind_masked (command : Command) : command.masked.kind = command.kind := by
  cases command <;> rfl

end Command

end NanHost
