import NanHost.Proofs.Engine.Recession
import NanHost.Proofs.Engine.Staging

/-!
# Admissible commands — what holds when a request goes ahead

A request is looked at before its command is handed over, by checks that are spread over five tables
and the capabilities of the firmware. Here it is said, for each kind of command and without
reference to the checks, what has to hold for the command to be in order.

## What is proved

`admits_of_vet`: if a request can go ahead, what it hands to the firmware is in order. Every check
is first put as what it finds (`*_eq_ok`), and each `vet…` is the conjunction of its checks.

Limits that the firmware has not reported bind nobody. Only the security of a path asks for a
report.
-/

namespace NanHost

/-! ## Checks of one value -/

/-- A check of what may be absent passes if what is there passes. -/
theorem forM_eq_ok {α : Type} {value : Option α} {check : α → Verdict} :
    value.forM check = .ok () ↔ ∀ given, value = some given → check given = .ok () := by
  cases value with
  | none => exact ⟨fun _ _ => nofun, fun _ => rfl⟩
  | some given => exact ⟨fun passed _ same => Option.some.inj same ▸ passed, fun all => all _ rfl⟩

/-- The bytes are no more than the limit, if they fit into memory at all. -/
def Within (bytes : ByteArray) (limit : UInt64) : Prop :=
  bytes.size < UInt64.size → bytes.size ≤ limit.toNat

/-- Lengths are compared as words. -/
theorem within_of_le {bytes : ByteArray} {limit : UInt64} (le : bytes.size.toUInt64 ≤ limit) :
    Within bytes limit := by
  intro fits
  have same : bytes.size.toUInt64.toNat = bytes.size := UInt64.toNat_ofNat_of_lt' fits
  rw [← same]
  exact UInt64.le_iff_toNat_le.mp le

theorem checkAppInfo_eq_ok {size : UInt64} {known : Capabilities} :
    checkAppInfo size known = .ok () ↔ size ≤ known.maxAppInfoLen := require_eq_ok_iff

namespace EnableRequest

/-- The request leaves a cluster to join, and asks for no instant communication that the firmware is
known not to offer. -/
structure InOrder (request : EnableRequest) (snapshot : Option Capabilities) : Prop where
  clusters : request.config.clusterLow ≤ request.config.clusterHigh
  channel : ∀ channel, request.instantChannelMHz = some channel → channel ≠ 0
  instant : ∀ channel known, request.instantChannelMHz = some channel → snapshot = some known →
    known.instantCommunicationSupported = true

theorem validate_eq_ok {request : EnableRequest} {snapshot : Option Capabilities} :
    request.validate snapshot = .ok () ↔ request.InOrder snapshot := by
  unfold validate ClusterConfig.validate
  simp only [check_bind_eq_ok, forM_eq_ok, require_eq_ok_iff]
  constructor
  · rintro ⟨clusters, passed⟩
    exact ⟨clusters, fun channel given => (passed channel given).1,
      fun channel known given reported => (passed channel given).2 known reported⟩
  · rintro ⟨clusters, nonzero, instant⟩
    exact ⟨clusters, fun channel given =>
      ⟨nonzero channel given, fun known reported => instant channel known given reported⟩⟩

end EnableRequest

/-- A service has a name, and no field of it is longer than the firmware is known to take. -/
structure ServiceInOrder (name : String) (serviceSpecificInfo matchFilter : ByteArray)
    (snapshot : Option Capabilities) : Prop where
  named : name ≠ ""
  name : ∀ known, snapshot = some known → name.utf8ByteSize ≤ known.maxServiceNameLen.toNat
  info : ∀ known, snapshot = some known →
    serviceSpecificInfo.size ≤ known.maxServiceSpecificInfoLen.toNat
  filter : ∀ known, snapshot = some known → matchFilter.size ≤ known.maxMatchFilterLen.toNat

theorem checkDiscoveryFields_eq_ok {name : String} {info filter : ByteArray}
    {snapshot : Option Capabilities} :
    checkDiscoveryFields name info filter snapshot = .ok () ↔
      ServiceInOrder name info filter snapshot := by
  unfold checkDiscoveryFields
  simp only [check_bind_eq_ok, forM_eq_ok, require_eq_ok_iff]
  constructor
  · rintro ⟨named, passed⟩
    exact ⟨named, fun known reported => (passed known reported).1,
      fun known reported => (passed known reported).2.1,
      fun known reported => (passed known reported).2.2⟩
  · rintro ⟨named, name, info, filter⟩
    exact ⟨named, fun known reported =>
      ⟨name known reported, info known reported, filter known reported⟩⟩

namespace DiscoveryConfig

/-- The service is in order, and the distances that it is sought within are not crossed. -/
def InOrder (snapshot : Option Capabilities) : DiscoveryConfig → Prop
  | publish config =>
    ServiceInOrder config.serviceName config.serviceSpecificInfo config.matchFilter snapshot
  | subscribe config =>
    ServiceInOrder config.serviceName config.serviceSpecificInfo config.matchFilter snapshot ∧
      ∀ least most, config.minDistanceMm = some least → config.maxDistanceMm = some most →
        least ≤ most

theorem validate_eq_ok {config : DiscoveryConfig} {snapshot : Option Capabilities} :
    config.validate snapshot = .ok () ↔ config.InOrder snapshot := by
  cases config with
  | publish config => exact checkDiscoveryFields_eq_ok
  | subscribe config =>
    have distances : config.checkDistances = .ok () ↔
        ∀ least most, config.minDistanceMm = some least → config.maxDistanceMm = some most →
          least ≤ most := by
      unfold SubscribeConfig.checkDistances
      cases config.minDistanceMm <;> cases config.maxDistanceMm <;> simp
    show SubscribeConfig.validate config snapshot = .ok () ↔ _
    unfold SubscribeConfig.validate
    rw [check_bind_eq_ok, checkDiscoveryFields_eq_ok, distances]
    rfl

end DiscoveryConfig

namespace DataPathSecurity

variable {security : DataPathSecurity} {snapshot : Option Capabilities}

/-- The path is to be secured, by a key or by a passphrase. -/
def Secured (security : DataPathSecurity) : Prop :=
  security.pmk.isSome = true ∨ security.passphrase.isSome = true

theorem not_isOpen_iff : security.isOpen = false ↔ security.Secured := by
  unfold isOpen Secured
  cases security.pmk <;> cases security.passphrase <;> simp

/-- The settings make sense: at most one secret, of the right form, and no name for a key that there
is not. -/
structure Sound (security : DataPathSecurity) : Prop where
  one : security.pmk = none ∨ security.passphrase = none
  pmk : ∀ pmk, security.pmk = some pmk → pmk.size = 32
  ascii : ∀ text, security.passphrase = some text → ∀ c ∈ text.toList, c.toNat < 128
  length : ∀ text, security.passphrase = some text → 8 ≤ text.length ∧ text.length ≤ 63
  pmkid : ∀ pmkid, security.pmkid = some pmkid → security.Secured ∧ pmkid.size = 16

theorem validate_eq_ok : security.validate = .ok () ↔ security.Sound := by
  unfold validate passphraseOk
  simp only [check_bind_eq_ok, forM_eq_ok, require_eq_ok_iff, Option.isNone_iff_eq_none,
    Bool.and_eq_true, List.all_eq_true, decide_eq_true_eq, Bool.not_eq_true', not_isOpen_iff]
  constructor
  · rintro ⟨one, pmk, phrase, pmkid⟩
    exact ⟨one, pmk, fun text given => (phrase text given).1.1,
      fun text given => ⟨(phrase text given).1.2, (phrase text given).2⟩, pmkid⟩
  · rintro ⟨one, pmk, ascii, length, pmkid⟩
    exact ⟨one, pmk, fun text given =>
      ⟨⟨ascii text given, (length text given).1⟩, (length text given).2⟩, pmkid⟩

/-- If the path is to be secured, the firmware has reported that it knows the suite. -/
def Supported (security : DataPathSecurity) (snapshot : Option Capabilities) : Prop :=
  security.Secured → ∃ known, snapshot = some known ∧
    known.supportedCipherSuites.contains security.cipherSuite = true

theorem checkSupported_eq_ok :
    security.checkSupported snapshot = .ok () ↔ security.Supported snapshot := by
  unfold checkSupported Supported
  rw [← not_isOpen_iff]
  cases security.isOpen <;> cases snapshot <;> simp

end DataPathSecurity

/-- A data interface may be called so: one to fifteen bytes, of visible ASCII characters other than
the slash. -/
structure IsInterfaceName (name : String) : Prop where
  nonempty : name ≠ ""
  size : name.utf8ByteSize ≤ 15
  visible : ∀ c ∈ name.toList, 0x21 ≤ c.toNat ∧ c.toNat ≤ 0x7e ∧ c ≠ '/'

theorem checkInterfaceName_eq_ok {name : String} :
    checkInterfaceName name = .ok () ↔ IsInterfaceName name := by
  unfold checkInterfaceName isInterfaceNameChar
  simp only [check_bind_eq_ok, require_eq_ok_iff, List.all_eq_true, Bool.and_eq_true,
    decide_eq_true_eq, and_assoc]
  constructor
  · rintro ⟨nonempty, size, visible⟩
    exact ⟨nonempty, size, visible⟩
  · rintro ⟨nonempty, size, visible⟩
    exact ⟨nonempty, size, visible⟩

theorem InitiateRequest.validate_eq_ok {request : InitiateRequest} :
    request.validate = .ok () ↔ request.security.Sound ∧ IsInterfaceName request.interfaceName ∧
      (request.channelRequestType = .forced → request.channelMHz.isSome = true) := by
  unfold validate
  rw [check_bind_eq_ok, check_bind_eq_ok, DataPathSecurity.validate_eq_ok, checkInterfaceName_eq_ok,
    require_eq_ok_iff, ne_eq, ← Decidable.imp_iff_not_or]

/-! ## Checks of the tables -/

namespace Interface

variable {interface : Interface} {operation : CommandKind}

theorem requireEnabled_eq_ok :
    interface.requireEnabled operation = .ok () ↔ interface.phase = .enabled := by
  unfold requireEnabled isEnabled
  rw [require_eq_ok_iff, decide_eq_true_iff]

theorem requireQuiescent_eq_ok :
    interface.requireQuiescent operation = .ok () ↔
      interface.phase = .enabled ∨ interface.phase = .disabled := by
  unfold requireQuiescent isQuiescent
  rw [require_eq_ok_iff, decide_eq_true_iff]

/-- A configuration is the first one if the interface is down, and a change if it is up. -/
theorem checkEnable_eq_ok {initial : Bool} :
    interface.checkEnable = .ok initial ↔
      interface.phase = if initial then .disabled else .enabled := by
  unfold checkEnable
  cases phase : interface.phase <;> cases initial <;> simp

end Interface

/-- The most sessions of a role that the firmware carries. -/
def Capabilities.maxSessions (known : Capabilities) : SessionRole → UInt32
  | .publisher => known.maxPublishes
  | .subscriber => known.maxSubscribes

namespace SessionRegistry

variable {registry : SessionRegistry} {id : SessionId} {role : SessionRole} {peer : PeerId}
  {snapshot : Option Capabilities}

theorem checkCapacity_eq_ok :
    registry.checkCapacity role snapshot = .ok () ↔
      ∀ known, snapshot = some known →
        registry.liveCount role < (known.maxSessions role).toNat := by
  unfold checkCapacity
  rw [forM_eq_ok]
  cases role <;> simp only [require_eq_ok_iff, Capabilities.maxSessions]

/-- A message goes to an active session that has met the peer, at the address that the session
knows. -/
theorem checkMessage_eq_ok {size : UInt64} {address : MacAddress} :
    registry.checkMessage id peer size snapshot = .ok address ↔
      ∃ session known, registry.get? id = some session ∧ session.state = .active ∧
        session.peers[peer]? = some known ∧ known.address = address ∧
        ∀ limits, snapshot = some limits → size ≤ limits.maxServiceSpecificInfoLen := by
  unfold checkMessage Session.isActive
  cases registry.get? id with
  | none => simp
  | some session =>
    by_cases active : session.state = .active
    · cases found : session.peers[peer]? with
      | none => simp [active, found]
      | some known =>
        simp only [active, decide_true, if_true, found, check_bind_eq_ok, forM_eq_ok,
          require_eq_ok_iff, pure_eq_ok]
        constructor
        · rintro ⟨within, rfl⟩
          exact ⟨session, known, rfl, active, found, rfl, within⟩
        · rintro ⟨_, other, same, _, found', rfl, within⟩
          obtain rfl := Option.some.inj same
          obtain rfl := Option.some.inj (found.symm.trans found')
          exact ⟨within, rfl⟩
    · simp [active]

/-- Some active session has met the peer. -/
theorem knowsPeer_iff :
    registry.knowsPeer peer = true ↔
      ∃ id session, registry.get? id = some session ∧ session.state = .active ∧
        (session.peers[peer]?).isSome = true := by
  simp only [knowsPeer, List.any_eq_true, mem_toList, Session.isActive, Bool.and_eq_true,
    decide_eq_true_eq, Std.ExtTreeMap.contains_eq_isSome_getElem?]
  constructor
  · rintro ⟨session, ⟨id, found⟩, rest⟩
    exact ⟨id, session, found, rest⟩
  · rintro ⟨id, session, found, rest⟩
    exact ⟨session, ⟨id, found⟩, rest⟩

end SessionRegistry

namespace DataInterfaceTable

variable {table : DataInterfaceTable} {name : String}

theorem requireReady_eq_ok :
    table.requireReady name = .ok () ↔ table.state? name = some .ready := require_eq_ok_iff

theorem checkCreate_eq_ok {snapshot : Option Capabilities} :
    table.checkCreate name snapshot = .ok () ↔
      table.state? name = none ∧
        ∀ known, snapshot = some known → table.size < known.maxDataInterfaces.toNat := by
  unfold checkCreate state?
  simp only [check_bind_eq_ok, forM_eq_ok, require_eq_ok_iff, ← Std.ExtTreeMap.contains_iff_mem,
    Std.ExtTreeMap.contains_eq_isSome_getElem?, Option.not_isSome_iff_eq_none]

end DataInterfaceTable

namespace DataPathTable

variable {table : DataPathTable} {snapshot : Option Capabilities}

theorem checkInitiate_eq_ok {size : UInt64} :
    table.checkInitiate size snapshot = .ok () ↔
      ∀ known, snapshot = some known → size ≤ known.maxAppInfoLen ∧
        table.toList.countP (·.isLive) + table.initiatingCount < known.maxDataPaths.toNat := by
  unfold checkInitiate
  simp only [forM_eq_ok, check_bind_eq_ok, checkAppInfo_eq_ok, require_eq_ok_iff]

theorem checkRespond_eq_ok {request : RespondRequest} :
    table.checkRespond request snapshot = .ok () ↔
      (∃ path, table.get? request.pathId = some path ∧ path.state = .awaitingLocalResponse ∧
        path.response = none ∧ path.endPending = false) ∧
      (request.accept = true → ∀ known, snapshot = some known →
        request.appInfo.size.toUInt64 ≤ known.maxAppInfoLen) := by
  have limits : (if request.accept = true then
        snapshot.forM fun known => checkAppInfo request.appInfo.size.toUInt64 known
      else pure ()) = .ok () ↔ (request.accept = true → ∀ known, snapshot = some known →
        request.appInfo.size.toUInt64 ≤ known.maxAppInfoLen) := by
    split
    next accepts => simp only [accepts, true_imp_iff, forM_eq_ok, checkAppInfo_eq_ok]
    next refuses => exact ⟨fun _ accepts => absurd accepts refuses, fun _ => rfl⟩
  unfold checkRespond
  rw [bind_eq_ok]
  simp only [live_eq_ok, check_bind_eq_ok, require_eq_ok_iff, limits, DataPath.awaitsAnswer,
    Bool.and_eq_true, decide_eq_true_eq, Option.isNone_iff_eq_none, Bool.not_eq_true', and_assoc]
  constructor
  · rintro ⟨path, found, _, waits, unanswered, notEnding, limit⟩
    exact ⟨⟨path, found, waits, unanswered, notEnding⟩, limit⟩
  · rintro ⟨⟨path, found, waits, unanswered, notEnding⟩, limit⟩
    exact ⟨path, found, by simp [DataPath.isLive, waits], waits, unanswered, notEnding, limit⟩

end DataPathTable

/-! ## Commands in order -/

namespace Engine

variable {engine : Engine} {dispatch : Dispatch}

/-- A service may be started under the number zero, or the session of another number updated. -/
structure AdmitsDiscovery (engine : Engine) (id : SessionId) (config : DiscoveryConfig) : Prop where
  up : engine.interface.phase = .enabled
  service : config.InOrder engine.capabilities.snapshot
  update : id.raw ≠ 0 → ∃ session, engine.sessions.get? id = some session ∧
    session.state = .active ∧ session.role = config.role ∧ session.pendingUpdate = none
  room : id.raw = 0 → ∀ known, engine.capabilities.snapshot = some known →
    engine.sessions.liveCount config.role < (known.maxSessions config.role).toNat

/-- A message may be sent to a peer at an address. -/
structure AdmitsMessage (engine : Engine) (id : SessionId) (peer : PeerId) (address : MacAddress)
    (payload : ByteArray) : Prop where
  up : engine.interface.phase = .enabled
  met : ∃ session known, engine.sessions.get? id = some session ∧ session.state = .active ∧
    session.peers[peer]? = some known ∧ known.address = address
  payload : ∀ known, engine.capabilities.snapshot = some known →
    Within payload known.maxServiceSpecificInfoLen

/-- A session of the role may be stopped. -/
structure AdmitsStop (engine : Engine) (id : SessionId) (role : SessionRole) : Prop where
  up : engine.interface.phase = .enabled
  session : ∃ session, engine.sessions.get? id = some session ∧ session.state = .active ∧
    session.role = role

/-- A data interface may be created. -/
structure AdmitsCreate (engine : Engine) (name : String) : Prop where
  resting : engine.interface.phase = .enabled ∨ engine.interface.phase = .disabled
  named : IsInterfaceName name
  free : engine.dataInterfaces.state? name = none
  room : ∀ known, engine.capabilities.snapshot = some known →
    engine.dataInterfaces.size < known.maxDataInterfaces.toNat

/-- A data interface may be deleted. -/
structure AdmitsDelete (engine : Engine) (name : String) : Prop where
  resting : engine.interface.phase = .enabled ∨ engine.interface.phase = .disabled
  ready : engine.dataInterfaces.state? name = some .ready
  unused : ¬engine.paths.Carries name

/-- A path that is to run over the interface, secured as said, may be set up. -/
structure AdmitsSetUp (engine : Engine) (name : String) (security : DataPathSecurity)
    (appInfo : ByteArray) : Prop where
  sound : security.Sound
  named : IsInterfaceName name
  ready : engine.dataInterfaces.state? name = some .ready
  supported : security.Supported engine.capabilities.snapshot
  appInfo : ∀ known, engine.capabilities.snapshot = some known → Within appInfo known.maxAppInfoLen

/-- A peer may be asked for a data path. -/
structure AdmitsInitiate (engine : Engine) (request : InitiateRequest) : Prop where
  up : engine.interface.phase = .enabled
  met : request.peerId.raw = 0 ∨ ∃ id session, engine.sessions.get? id = some session ∧
    session.state = .active ∧ (session.peers[request.peerId]?).isSome = true
  channel : request.channelRequestType = .forced → request.channelMHz.isSome = true
  setUp : engine.AdmitsSetUp request.interfaceName request.security request.appInfo
  room : ∀ known, engine.capabilities.snapshot = some known →
    engine.paths.toList.countP (·.isLive) + engine.paths.initiatingCount < known.maxDataPaths.toNat

/-- A peer that asks for a data path may be answered by the caller. -/
structure AdmitsRespond (engine : Engine) (request : RespondRequest) : Prop where
  up : engine.interface.phase = .enabled
  waits : ∃ path, engine.paths.get? request.pathId = some path ∧
    path.state = .awaitingLocalResponse ∧ path.response = none ∧ path.endPending = false
  setUp : request.accept = true →
    engine.AdmitsSetUp request.interfaceName request.security request.appInfo

/-- A path may be ended. -/
structure AdmitsEnd (engine : Engine) (id : DataPathId) : Prop where
  up : engine.interface.phase = .enabled
  path : ∃ path, engine.paths.get? id = some path ∧
    (path.state = .confirmed ∨ path.state = .awaitingLocalResponse) ∧ path.endPending = false

/-- A peer that has waited too long may be refused by the engine itself: its path is down and waits
for nothing else, and the interface is not. -/
structure AdmitsRefusal (engine : Engine) (id : DataPathId) : Prop where
  up : engine.interface.phase = .enabled ∨ engine.interface.phase = .reconfiguring ∨
    engine.interface.phase = .disabling
  path : ∃ path, engine.paths.get? id = some path ∧ path.origin = .peer ∧
    path.state = .terminated ∧ path.response = none ∧ path.endPending = false ∧ path.inFlight = ∅

/-- **The command is in order** when a caller has it handed over. A command about a data path
carries the capabilities that are known. -/
def Admits (engine : Engine) : Command → Prop
  | .getCapabilities => True
  | .enable request initial =>
    engine.interface.phase = (if initial then .disabled else .enabled) ∧
      request.InOrder engine.capabilities.snapshot
  | .disable => engine.interface.phase = .enabled
  | .publish id config => engine.AdmitsDiscovery id (.publish config)
  | .subscribe id config => engine.AdmitsDiscovery id (.subscribe config)
  | .sendMessage id peer address payload => engine.AdmitsMessage id peer address payload
  | .stopPublish id => engine.AdmitsStop id .publisher
  | .stopSubscribe id => engine.AdmitsStop id .subscriber
  | .createInterface name => engine.AdmitsCreate name
  | .deleteInterface name => engine.AdmitsDelete name
  | .initiateDataPath request known =>
    known = engine.capabilities.snapshot ∧ engine.AdmitsInitiate request
  | .respondDataPath request known =>
    known = engine.capabilities.snapshot ∧ engine.AdmitsRespond request
  | .endDataPath id => engine.AdmitsEnd id

/-- **The command is in order**, on whoever's behalf it is handed over. All that the engine hands
over by itself is the refusal of a peer. -/
def AdmitsFor (engine : Engine) : Origin → Command → Prop
  | .caller, command => engine.Admits command
  | .engine, command => ∃ id,
    command = .respondDataPath (.refusal id) engine.capabilities.snapshot ∧ engine.AdmitsRefusal id

/-! ## Requests that go ahead -/

theorem admits_of_vetDiscovery {id : SessionId} {config : DiscoveryConfig}
    (admitted : engine.vetDiscovery id config = .ok dispatch) :
    engine.AdmitsDiscovery id config := by
  simp only [vetDiscovery, check_bind_eq_ok, Interface.requireEnabled_eq_ok,
    DiscoveryConfig.validate_eq_ok] at admitted
  obtain ⟨up, service, rest⟩ := admitted
  refine ⟨up, service, fun numbered => ?_, fun new => ?_⟩
  · have assigned : id.isAssigned = true := by simpa [SessionId.isAssigned] using numbered
    simp only [assigned, if_true, check_bind_eq_ok, SessionRegistry.checkUpdate_eq_ok] at rest
    obtain ⟨⟨session, found, live, role, notStopping, notUpdating⟩, _⟩ := rest
    exact ⟨session, found, Session.active_of_live live notStopping, role,
      by simpa [Session.hasPendingUpdate] using notUpdating⟩
  · have unassigned : id.isAssigned = false := by simpa [SessionId.isAssigned] using new
    simp only [unassigned, Bool.false_eq_true, if_false, check_bind_eq_ok,
      SessionRegistry.checkCapacity_eq_ok] at rest
    exact rest.1

theorem admits_of_vetMessage {id : SessionId} {peer : PeerId} {payload : ByteArray}
    (admitted : engine.vetMessage id peer payload = .ok dispatch) :
    ∃ address, dispatch.command = .sendMessage id peer address payload ∧
      engine.AdmitsMessage id peer address payload := by
  rw [vetMessage, check_bind_eq_ok, Interface.requireEnabled_eq_ok, bind_eq_ok] at admitted
  obtain ⟨up, address, passed, handed⟩ := admitted
  obtain ⟨session, known, found, active, met, here, limit⟩ :=
    SessionRegistry.checkMessage_eq_ok.mp passed
  obtain rfl := pure_eq_ok.mp handed
  exact ⟨address, rfl, up, ⟨session, known, found, active, met, here⟩,
    fun limits reported => within_of_le (limit limits reported)⟩

theorem admits_of_vetStop {id : SessionId} {role : SessionRole} {command : Command}
    (admitted : engine.vetStop id role command = .ok dispatch) : engine.AdmitsStop id role := by
  simp only [vetStop, check_bind_eq_ok, Interface.requireEnabled_eq_ok,
    SessionRegistry.checkStop_eq_ok] at admitted
  obtain ⟨up, ⟨session, found, live, role, notStopping⟩, _⟩ := admitted
  exact ⟨up, session, found, Session.active_of_live live notStopping, role⟩

theorem admits_of_vetCreate {name : String} (admitted : engine.vetCreate name = .ok dispatch) :
    engine.AdmitsCreate name := by
  simp only [vetCreate, check_bind_eq_ok, checkInterfaceName_eq_ok,
    Interface.requireQuiescent_eq_ok, DataInterfaceTable.checkCreate_eq_ok] at admitted
  obtain ⟨name, resting, ⟨free, room⟩, _⟩ := admitted
  exact ⟨resting, name, free, room⟩

theorem admits_of_vetDelete {name : String} (admitted : engine.vetDelete name = .ok dispatch) :
    engine.AdmitsDelete name := by
  simp only [vetDelete, check_bind_eq_ok, Interface.requireQuiescent_eq_ok,
    DataInterfaceTable.checkDelete_eq_ok, require_eq_ok_iff, Bool.not_eq_true'] at admitted
  obtain ⟨resting, ready, unused, _⟩ := admitted
  refine ⟨resting, ready, fun carries => ?_⟩
  simp [DataPathTable.usesInterface_iff.mpr carries] at unused

theorem admits_of_vetInitiate {request : InitiateRequest}
    (admitted : engine.vetInitiate request = .ok dispatch) : engine.AdmitsInitiate request := by
  simp only [vetInitiate, check_bind_eq_ok, InitiateRequest.validate_eq_ok,
    Interface.requireEnabled_eq_ok, require_eq_ok_iff, DataInterfaceTable.requireReady_eq_ok,
    DataPathSecurity.checkSupported_eq_ok, DataPathTable.checkInitiate_eq_ok] at admitted
  obtain ⟨⟨sound, name, channel⟩, up, met, ready, supported, limits, _⟩ := admitted
  refine ⟨up, ?_, channel, ⟨sound, name, ready, supported, fun known reported => ?_⟩,
    fun known reported => (limits known reported).2⟩
  · rw [SessionRegistry.knowsPeer_iff] at met
    refine met.imp_left fun outOfBand => ?_
    simpa [InitiateRequest.isOutOfBand, PeerId.isAssociated] using outOfBand
  · exact within_of_le (limits known reported).1

theorem admits_of_vetRespond {request : RespondRequest}
    (admitted : engine.vetRespond request = .ok dispatch) : engine.AdmitsRespond request := by
  simp only [vetRespond, check_bind_eq_ok, Interface.requireEnabled_eq_ok,
    DataPathTable.checkRespond_eq_ok] at admitted
  obtain ⟨valid, up, ⟨waits, limit⟩, rest⟩ := admitted
  refine ⟨up, waits, fun accepts => ?_⟩
  simp only [RespondRequest.validate, accepts, if_true, check_bind_eq_ok,
    DataPathSecurity.validate_eq_ok, checkInterfaceName_eq_ok] at valid
  simp only [accepts, if_true, checkAcceptance, check_bind_eq_ok,
    DataInterfaceTable.requireReady_eq_ok, DataPathSecurity.checkSupported_eq_ok] at rest
  obtain ⟨⟨ready, supported⟩, _⟩ := rest
  exact ⟨valid.1, valid.2, ready, supported,
    fun known reported => within_of_le (limit accepts known reported)⟩

/-- **If a request can go ahead, what it hands to the firmware is in order.** -/
theorem admits_of_vet {request : Request} (admitted : engine.vet request = .ok dispatch) :
    engine.Admits dispatch.command := by
  cases request with
  | getCapabilities =>
    obtain rfl := pure_eq_ok.mp admitted
    trivial
  | enable request =>
    obtain ⟨initial, passed, rest⟩ := bind_eq_ok.mp admitted
    rw [check_bind_eq_ok, pure_eq_ok] at rest
    obtain ⟨valid, rfl⟩ := rest
    exact ⟨Interface.checkEnable_eq_ok.mp passed, EnableRequest.validate_eq_ok.mp valid⟩
  | disable =>
    obtain ⟨passed, handed⟩ := check_bind_eq_ok.mp admitted
    obtain rfl := pure_eq_ok.mp handed
    exact Interface.requireEnabled_eq_ok.mp passed
  | publish id config =>
    rw [(vetDiscovery_ok admitted).1]
    exact admits_of_vetDiscovery admitted
  | subscribe id config =>
    rw [(vetDiscovery_ok admitted).1]
    exact admits_of_vetDiscovery admitted
  | sendMessage id peer payload =>
    obtain ⟨address, command, admits⟩ := admits_of_vetMessage admitted
    rw [command]
    exact admits
  | stopPublish id =>
    rw [(vetStop_ok admitted).1]
    exact admits_of_vetStop admitted
  | stopSubscribe id =>
    rw [(vetStop_ok admitted).1]
    exact admits_of_vetStop admitted
  | createInterface name =>
    rw [(vetCreate_ok admitted).1]
    exact admits_of_vetCreate admitted
  | deleteInterface name =>
    rw [(vetDelete_ok admitted).1]
    exact admits_of_vetDelete admitted
  | initiateDataPath request =>
    rw [vetInitiate_ok admitted]
    exact ⟨rfl, admits_of_vetInitiate admitted⟩
  | respondDataPath request =>
    rw [(vetRespond_ok admitted).1]
    exact ⟨rfl, admits_of_vetRespond admitted⟩
  | endDataPath id =>
    obtain ⟨up, _⟩ := check_bind_eq_ok.mp admitted
    obtain ⟨rfl, path⟩ := vetEnd_ok admitted
    exact ⟨Interface.requireEnabled_eq_ok.mp up, path⟩

end Engine

end NanHost
