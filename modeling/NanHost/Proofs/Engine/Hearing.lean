import NanHost.Proofs.Host.Steps

/-!
# Hearing — an engine never answers that it has stopped

That the engine has stopped is the answer of its owner, to requests that the engine did not get to
hear. What the engine itself answers is one of the other rejections, whatever it is asked.

## What is proved

`Host.heard_submit`, from the same of every check (`Engine.heard_vet`). The rules for `require`, for
sequences and for alternatives are simp lemmas, so that a check that is put together from these
needs no proof of its own.
-/

namespace NanHost

/-- A verdict that was given on a hearing. -/
def Heard {α : Type} (verdict : Except Rejection α) : Prop := verdict ≠ .error .engineStopped

section

variable {α β : Type}

@[simp] theorem heard_ok (value : α) : Heard (.ok value) := nofun

@[simp] theorem heard_pure (value : α) : Heard (pure value) := nofun

@[simp] theorem heard_error {rejection : Rejection} :
    Heard (.error rejection : Except Rejection α) ↔ rejection ≠ .engineStopped := by
  simp [Heard]

@[simp] theorem heard_require {condition : Prop} [Decidable condition] {rejection : Rejection} :
    Heard (require condition rejection) ↔ condition ∨ rejection ≠ .engineStopped := by
  unfold require
  split <;> simp_all

@[simp] theorem heard_bind {first : Except Rejection α} {rest : α → Except Rejection β} :
    Heard (first >>= rest) ↔ Heard first ∧ ∀ value, first = .ok value → Heard (rest value) := by
  cases first <;> simp [bind, Except.bind]

@[simp] theorem heard_map {first : Except Rejection α} {f : α → β} :
    Heard (f <$> first) ↔ Heard first := by
  cases first <;> simp [Functor.map, Except.map]

@[simp] theorem heard_forM {maybe : Option α} {check : α → Verdict} :
    Heard (forM maybe check) ↔ ∀ value, maybe = some value → Heard (check value) := by
  cases maybe <;> simp

@[simp] theorem heard_ite {condition : Prop} [Decidable condition]
    {first second : Except Rejection α} : Heard (if condition then first else second) ↔
      (condition → Heard first) ∧ (¬condition → Heard second) := by
  split <;> simp_all

end

/-! ## Checks -/

@[simp] theorem heard_checkInterfaceName (name : String) : Heard (checkInterfaceName name) := by
  simp [checkInterfaceName]

@[simp] theorem DataPathSecurity.heard_validate (security : DataPathSecurity) :
    Heard security.validate := by
  simp [validate]

@[simp] theorem DataPathSecurity.heard_checkSupported (security : DataPathSecurity)
    (known : Option Capabilities) : Heard (security.checkSupported known) := by
  unfold checkSupported
  cases known <;> simp

@[simp] theorem DiscoveryConfig.heard_validate (config : DiscoveryConfig)
    (known : Option Capabilities) : Heard (config.validate known) := by
  cases config with
  | publish config => simp [validate, PublishConfig.validate, checkDiscoveryFields]
  | subscribe config =>
    have distances : Heard config.checkDistances := by
      unfold SubscribeConfig.checkDistances
      split <;> simp
    simp [validate, SubscribeConfig.validate, checkDiscoveryFields, distances]

@[simp] theorem EnableRequest.heard_validate (request : EnableRequest)
    (known : Option Capabilities) : Heard (request.validate known) := by
  simp [validate, ClusterConfig.validate]

@[simp] theorem SessionRegistry.heard_live (registry : SessionRegistry) (id : SessionId) :
    Heard (registry.live id) := by
  unfold live
  split <;> simp

@[simp] theorem SessionRegistry.heard_checkCapacity (registry : SessionRegistry)
    (role : SessionRole) (known : Option Capabilities) :
    Heard (registry.checkCapacity role known) := by
  cases role <;> simp [checkCapacity]

@[simp] theorem SessionRegistry.heard_checkMessage (registry : SessionRegistry) (id : SessionId)
    (peer : PeerId) (size : UInt64) (known : Option Capabilities) :
    Heard (registry.checkMessage id peer size known) := by
  unfold checkMessage
  split
  · simp
  · split
    · split <;> simp
    · simp

@[simp] theorem DataPathTable.heard_live (table : DataPathTable) (id : DataPathId) :
    Heard (table.live id) := by
  unfold live
  split <;> simp

@[simp] theorem DataInterfaceTable.heard_checkDelete (table : DataInterfaceTable) (name : String) :
    Heard (table.checkDelete name) := by
  unfold checkDelete
  split <;> simp

@[simp] theorem Interface.heard_checkEnable (interface : Interface) :
    Heard interface.checkEnable := by
  unfold checkEnable
  split <;> simp [invalid]

@[simp] theorem Interface.heard_requireEnabled (interface : Interface) (operation : CommandKind) :
    Heard (interface.requireEnabled operation) := by
  simp [requireEnabled, invalid]

/-! ## Requests -/

/-- What is wrong with a request is never that the engine has stopped. -/
theorem Engine.heard_vet (engine : Engine) (request : Request) : Heard (engine.vet request) := by
  cases request with
  | getCapabilities | enable | sendMessage => simp [vet, vetMessage]
  | disable => simp [vet, Interface.checkDisable]
  | publish | subscribe =>
    simp [vet, vetDiscovery, SessionRegistry.checkUpdate, SessionRegistry.checkRole]
  | stopPublish | stopSubscribe =>
    simp [vet, vetStop, SessionRegistry.checkStop, SessionRegistry.checkRole]
  | createInterface name =>
    simp [vet, vetCreate, Interface.requireQuiescent, Interface.invalid,
      DataInterfaceTable.checkCreate]
  | deleteInterface name => simp [vet, vetDelete, Interface.requireQuiescent, Interface.invalid]
  | initiateDataPath request =>
    simp [vet, vetInitiate, InitiateRequest.validate, DataInterfaceTable.requireReady,
      DataPathTable.checkInitiate, checkAppInfo]
  | respondDataPath request =>
    simp [vet, vetRespond, checkAcceptance, RespondRequest.validate,
      DataInterfaceTable.requireReady, DataPathTable.checkRespond, checkAppInfo]
  | endDataPath id => simp [vet, DataPathTable.checkEnd]

/-- **An engine never answers that it has stopped.** -/
theorem Host.heard_submit {σ : Type} [Transport σ] {host : Host σ}
    (filed : host.engine.ledger.WellFiled) (request : Request) : Heard (host.submit request).1 := by
  have fate := submit_submission filed request
  generalize host.submit request = outcome at fate
  cases fate with
  | unfit rejection vetted =>
    have heard := host.engine.heard_vet request
    rw [vetted] at heard
    simpa using heard
  | full | refused => simp
  | taken => exact heard_ok _

end NanHost
