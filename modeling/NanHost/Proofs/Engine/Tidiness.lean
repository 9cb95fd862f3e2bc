import NanHost.Proofs.Agreement.Steadiness
import NanHost.Proofs.Engine.Admission
import NanHost.Proofs.Engine.Teardown

/-!
# Tidiness — nothing is left behind, and nothing lives while the interface is down

Sessions, paths, starts, initiations and events that were held back are removed in many places, each
of which takes care of its own. An engine is *tidy* if no place has forgotten something: there is
nothing in the tables of sessions and paths unless the interface is up, and no event is held back
unless an initiation is under way.

## What is proved

Every reaction, every admitted request and every refusal of a peer leaves a coherent, tidy engine tidy
(`Tidy.handle`, `Tidy.giveUpAll`, `Tidy.stage`). Two observations carry it. While the interface is
down, no command about a session or a path is on file (`Tidy.up`), so no such command can end then.
And all that happens to paths, apart from their arrivals, leaves what is to come alone
(`DataPathTable.Steady`).
-/

namespace NanHost

/-- Whether the interface is not up yet, or not up any more. -/
def InterfacePhase.isDown : InterfacePhase → Bool
  | disabled | enabling => true
  | enabled | reconfiguring | disabling => false

namespace Interface

variable (interface : Interface)

/-- No answer to a configuration takes the interface down. -/
theorem isDown_completeEnable (success : Bool)
    (down : (interface.completeEnable success).2.phase.isDown = true) :
    interface.phase.isDown = true := by
  unfold completeEnable at down
  cases phase : interface.phase <;> cases success <;>
    simp_all [InterfacePhase.isDown]

/-- Nor does a disabling that failed. -/
theorem isDown_completeDisable (down : (interface.completeDisable false).2.phase.isDown = true) :
    interface.phase.isDown = true := by
  unfold completeDisable at down
  cases phase : interface.phase <;> simp_all [InterfacePhase.isDown]

/-- Nor does a configuration that was sent. -/
theorem isDown_beginEnable (request : EnableRequest)
    (down : (interface.beginEnable request).phase.isDown = true) :
    interface.phase.isDown = true := by
  unfold beginEnable at down
  cases phase : interface.phase <;> simp_all [InterfacePhase.isDown]

end Interface

namespace Engine

variable {engine : Engine} {record : TransactionRecord} {id : TransactionId}

/-- Nothing is left behind. -/
structure Tidy (engine : Engine) : Prop where
  /-- While the interface is down the tables are those of a fresh engine. -/
  down : engine.interface.phase.isDown = true →
    engine.sessions = .empty ∧ engine.paths = .new engine.paths.graceMs
  /-- Events are held back at most while an initiation is under way. -/
  held : engine.paths.initiating = ∅ → engine.paths.held = ∅

namespace Tidy

theorem new (config : EngineConfig) : (Engine.new config).Tidy where
  down _ := ⟨rfl, rfl⟩
  held _ := rfl

/-- An engine whose interface is down and whose tables are empty. -/
theorem fallen (engine : Engine) (condition : TransactionRecord → Bool) :
    (engine.fallen condition).Tidy where
  down _ := ⟨rfl, rfl⟩
  held _ := rfl

/-- The ledger plays no part. -/
theorem upon (tidy : engine.Tidy) (ledger : Ledger) : (engine.upon ledger).Tidy :=
  ⟨tidy.down, tidy.held⟩

/-- Nor does what changes of the interface, unless it goes down. -/
theorem reinterface (tidy : engine.Tidy) {interface : Interface}
    (down : interface.phase.isDown = true → engine.interface.phase.isDown = true) :
    { engine with interface := interface }.Tidy :=
  ⟨fun gone => tidy.down (down gone), tidy.held⟩

/-- While the interface is up, sessions come and go. -/
theorem resession (tidy : engine.Tidy) (up : engine.interface.phase.isDown = false)
    (sessions : SessionRegistry) : { engine with sessions := sessions }.Tidy where
  down gone := by
    have gone : engine.interface.phase.isDown = true := gone
    rw [up] at gone
    cases gone
  held := tidy.held

/-- Nothing has come into being. -/
theorem steady (tidy : engine.Tidy) {paths : DataPathTable} (steady : engine.paths.Steady paths) :
    { engine with paths := paths }.Tidy where
  down gone := by
    obtain ⟨sessions, before⟩ := tidy.down gone
    refine ⟨sessions, ?_⟩
    show paths = .new paths.graceMs
    rw [before] at steady
    rw [steady.graceMs]
    exact steady.eq_new
  held idle := by
    have idle : engine.paths.initiating = ∅ := steady.initiating.symm.trans idle
    exact (steady.held idle).trans (tidy.held idle)

/-- **A command about a session or a path is on file only while the interface is up.** -/
theorem up (tidy : engine.Tidy) (coherent : engine.Coherent)
    (onFile : engine.ledger.get? id = some record)
    (about : record.context.isSessionOrPath = true) :
    engine.interface.phase.isDown = false := by
  refine Bool.eq_false_iff.mpr fun gone => ?_
  obtain ⟨noSessions, noPaths⟩ := tidy.down gone
  have sessions : engine.sessions.Agrees _ := coherent.agrees .sessions
  have paths : engine.paths.Agrees _ := coherent.agrees .paths
  have out {subject : Subject} (own : record.context.subject = subject) :
      engine.ledger.docket subject id = some record :=
    Ledger.docket_eq_some.mpr ⟨onFile, own⟩
  rw [noSessions] at sessions
  rw [noPaths] at paths
  cases context : record.context with
  | interface | dataInterface => rw [context] at about; cases about
  | newSession role =>
    obtain ⟨config, there, _⟩ := sessions.starting_of_out (out (by rw [context]; rfl)) context
    simp [SessionRegistry.empty] at there
  | session number =>
    obtain ⟨session, there⟩ := sessions.present (out (by rw [context]; rfl)) context
    simp [SessionRegistry.empty, SessionRegistry.get?] at there
  | newDataPath =>
    obtain ⟨request, there⟩ := paths.initiating_of_out (out (by rw [context]; rfl)) context
    simp [DataPathTable.new] at there
  | dataPath number =>
    obtain ⟨path, there⟩ := paths.present (out (by rw [context]; rfl)) context
    simp [DataPathTable.new, DataPathTable.get?] at there

/-! ## Conclusions -/

theorem replayHeld (path : DataPathId)
    (tidy : { engine with paths := (engine.paths.takeHeld path).2 }.Tidy) :
    (engine.replayHeld path).1.Tidy := by
  refine sweep_keeps (fun engine _ => engine.Tidy) ?_ _ _ [] tidy
  intro engine _ event tidy
  cases event with
  | confirmed accepted peerInterface appInfo status =>
    exact tidy.steady (.onConfirmed _ path accepted peerInterface appInfo status)
  | terminated status => exact tidy.steady (.onTerminated _ path status)

/-- Taking events that were held back leaves none where there were none. -/
theorem takeHeld (tidy : engine.Tidy) (path : DataPathId) :
    { engine with paths := (engine.paths.takeHeld path).2 }.Tidy where
  down gone := by
    obtain ⟨sessions, paths⟩ := tidy.down gone
    refine ⟨sessions, ?_⟩
    show (engine.paths.takeHeld path).2 = .new engine.paths.graceMs
    rw [paths]
    simp [DataPathTable.takeHeld, DataPathTable.new]
  held idle := by
    show engine.paths.held.erase path = ∅
    rw [tidy.held idle]
    simp

theorem announce {settlement : Settlement} (tidy : settlement.engine.Tidy)
    (record : TransactionRecord) : (Engine.announce record settlement).1.Tidy := by
  unfold Engine.announce
  split
  · exact replayHeld _ (tidy.takeHeld _)
  · exact tidy

/-- When an initiation ends, the events for its path are replayed; if it was the last, no other event
is held back any more. -/
theorem announce_initiate (tidy : engine.Tidy) (up : engine.interface.phase.isDown = false)
    (txn : TransactionId) (outcome : Outcome) (record : TransactionRecord) :
    (Engine.announce record (engine.settleInitiate txn outcome)).1.Tidy := by
  have notDown {paths : DataPathTable} (held : paths.initiating = ∅ → paths.held = ∅) :
      { engine with paths := paths }.Tidy :=
    ⟨fun gone => absurd (up.symm.trans gone) (by simp), held⟩
  cases found : engine.paths.initiating[txn]? with
  | none =>
    have nothing : engine.settleInitiate txn outcome = ⟨.error .aborted, engine, []⟩ := by
      simp only [settleInitiate, DataPathTable.resolveInitiate, found]
      rfl
    rw [nothing]
    exact tidy
  | some request =>
    unfold settleInitiate
    rw [DataPathTable.resolveInitiate_of_found found]
    rcases DataPathTable.enterInitiated_cases
      { engine.paths with initiating := engine.paths.initiating.erase txn } request
      outcome.pathId with ⟨failure, entered⟩ | ⟨path, _, _, entered⟩
    · rw [entered]
      refine notDown fun idle => ?_
      dsimp only at idle ⊢
      rw [DataPathTable.initiating_closing] at idle
      rw [DataPathTable.closing, idle]
      rfl
    · rw [entered]
      refine replayHeld path (notDown fun idle => ?_)
      refine DataPathTable.held_takeHeld_closing _ ?_
      rw [← DataPathTable.initiating_closing]
      exact idle

/-- **A command that leaves the interface up leaves a tidy engine when it ends.** -/
theorem concludeByItself (tidy : engine.Tidy) (coherent : engine.Coherent)
    (onFile : engine.ledger.get? record.id = some record) (notDisable : record.kind ≠ .disable)
    (outcome : Outcome) :
    (Engine.announce record
      ((engine.upon (engine.ledger.rollback record.id)).settleByItself record outcome)).1.Tidy := by
  have commission : Commission record.kind record.context record.origin :=
    coherent.commissioned onFile
  have up := tidy.up coherent onFile
  have tidy := tidy.upon (engine.ledger.rollback record.id)
  generalize kind : record.kind = kind', context : record.context = context',
    origin : record.origin = origin' at commission
  rw [context] at up
  cases commission with
  | capabilities =>
    rw [settleByItself_capabilities kind]
    apply announce
    unfold settleCapabilities
    split
    · exact ⟨tidy.down, tidy.held⟩
    · exact tidy
    · exact tidy
  | configure =>
    rw [settleByItself_configure kind]
    apply announce
    rw [engine_settleConfigure]
    exact tidy.reinterface (Interface.isDown_completeEnable _ _)
  | disable => exact absurd kind notDisable
  | start role =>
    rw [settleByItself_start kind context]
    exact announce (tidy.resession (up rfl) _) record
  | update role session =>
    rw [settleByItself_update kind context]
    exact announce (tidy.resession (up rfl) _) record
  | message session =>
    rw [settleByItself_message kind context]
    exact announce (tidy.resession (up rfl) _) record
  | stop role session =>
    rw [settleByItself_stop kind context]
    exact announce (tidy.resession (up rfl) _) record
  | create name =>
    rw [settleByItself_create kind context]
    exact announce ⟨tidy.down, tidy.held⟩ record
  | delete name =>
    rw [settleByItself_delete kind context]
    exact announce ⟨tidy.down, tidy.held⟩ record
  | initiate =>
    rw [settleByItself_initiate kind context]
    exact tidy.announce_initiate (up rfl) record.id outcome record
  | respond path origin =>
    rw [settleByItself_respond kind context]
    exact announce (tidy.steady (.resolveRespond _ path record.id outcome.plain)) record
  | close path =>
    rw [settleByItself_close kind context]
    exact announce (tidy.steady (.update_purge _ path _)) record

/-- A command of the engine's own is struck off its path. -/
theorem strikeOff (tidy : engine.Tidy) (record : TransactionRecord) :
    (engine.strikeOff record).1.Tidy := by
  unfold Engine.strikeOff
  split
  next path _ => exact tidy.steady (.update_purge _ path _)
  next => exact tidy

/-- A command that ends leaves a tidy engine, provided that it does so if it disables the
interface. -/
theorem conclude_of_settleDisable (tidy : engine.Tidy) (coherent : engine.Coherent)
    (onFile : engine.ledger.get? record.id = some record) (outcome : Outcome)
    (disabled : record.kind = .disable →
      ((engine.upon (engine.ledger.rollback record.id)).settleDisable outcome).engine.Tidy) :
    ((engine.upon (engine.ledger.rollback record.id)).conclude record outcome).1.Tidy := by
  cases origin : record.origin with
  | engine =>
    rw [conclude_engine origin]
    exact (tidy.upon _).strikeOff record
  | caller =>
    rw [conclude_caller origin]
    by_cases disable : record.kind = .disable
    · rw [settle_disable disable]
      exact announce (disabled disable) record
    · rw [settle_eq_settleByItself disable]
      exact tidy.concludeByItself coherent onFile disable outcome

theorem settleDisable_failed (tidy : engine.Tidy) (failure : Failure) :
    (engine.settleDisable (.error failure)).engine.Tidy := by
  rw [Engine.settleDisable_failed]
  exact tidy.reinterface (Interface.isDown_completeDisable _)

/-- **Commands that are given up leave a tidy engine.** -/
theorem giveUpAll {records : List TransactionRecord} (tidy : engine.Tidy)
    (coherent : engine.Coherent) (onFile : engine.ledger.OnFile records) (failure : Failure) :
    (engine.giveUpAll records failure).1.Tidy := by
  refine (kept_giveUpAll (fun next _ => next.Coherent ∧ next.Tidy) [] onFile
    ⟨coherent, tidy⟩ ?_).2
  rintro _ _ record _ onFile ⟨coherent, tidy⟩
  refine ⟨coherent.giveUp onFile failure, tidy.conclude_of_settleDisable coherent onFile _ ?_⟩
  exact fun _ => (tidy.upon _).settleDisable_failed failure

theorem expireTransactions (tidy : engine.Tidy) (coherent : engine.Coherent) (now : Timestamp) :
    (engine.expireTransactions now).2.1.Tidy := by
  rw [expireTransactions_eq coherent.filed]
  exact tidy.giveUpAll coherent (coherent.filed.onFile_filter _) .timeout

theorem shutdown (tidy : engine.Tidy) (coherent : engine.Coherent) : engine.shutdown.1.Tidy := by
  rw [shutdown_eq coherent.filed]
  exact tidy.giveUpAll coherent coherent.filed.onFile_records .aborted

/-! ## Reports -/

theorem onCompleted (tidy : engine.Tidy) (coherent : engine.Coherent) (txn : TransactionId)
    (outcome : Except FirmwareStatus AnswerPayload) : (engine.onCompleted txn outcome).1.Tidy := by
  cases onFile : engine.ledger.get? txn with
  | none =>
    rw [onCompleted_of_absent onFile]
    exact tidy
  | some record =>
    obtain rfl : record.id = txn := coherent.filed.own onFile
    rw [onCompleted_of_onFile onFile]
    refine tidy.conclude_of_settleDisable coherent onFile _ fun disable => ?_
    cases outcome with
    | ok payload =>
      show ((engine.upon _).settleDisable (.ok payload)).engine.Tidy
      rw [coherent.settleDisable_exact onFile disable payload]
      exact fallen engine _
    | error status => exact (tidy.upon _).settleDisable_failed (.firmware status)

/-- **A report of the firmware leaves a tidy engine.** -/
theorem handle (tidy : engine.Tidy) (coherent : engine.Coherent) (now : Timestamp)
    (event : FirmwareEvent) : (engine.handle now event).1.Tidy := by
  -- A report on a session changes the session of its number alone, so none where there is none.
  have ofSessions {sessions : SessionRegistry}
      (same : engine.sessions = .empty → sessions = .empty) :
      { engine with sessions := sessions }.Tidy :=
    ⟨fun gone => ⟨same (tidy.down gone).1, (tidy.down gone).2⟩, tidy.held⟩
  cases event with
  | commandCompleted txn outcome => exact tidy.onCompleted coherent txn outcome
  | sessionMatched session peer address serviceSpecificInfo matchFilter =>
    refine ofSessions fun none => ?_
    rw [none]
    rfl
  | messageReceived session peer address payload =>
    refine ofSessions fun none => ?_
    rw [none]
    rfl
  | sessionTerminated session status =>
    refine ofSessions fun none => ?_
    rw [none]
    rfl
  | dataPathRequested path peer address appInfo =>
    show (engine.onPathRequested path peer address appInfo now).1.Tidy
    unfold Engine.onPathRequested
    split
    next enabled =>
      have enabled : engine.interface.phase = .enabled := by simpa [Interface.isEnabled] using enabled
      constructor
      case down =>
        intro gone
        rw [show engine.interface.phase = .enabled from enabled] at gone
        cases gone
      case held =>
        rcases engine.paths.onRequest_cases path peer address appInfo now with same | ⟨_, entered⟩
        · rw [same]
          exact tidy.held
        · rw [entered]
          exact tidy.held
    next => exact tidy
  | dataPathConfirmed path accepted peerInterface appInfo status =>
    exact tidy.steady (.onConfirmed _ path accepted peerInterface appInfo status)
  | dataPathTerminated path status => exact tidy.steady (.onTerminated _ path status)
  | identityChanged address => exact tidy
  | interfaceDown status =>
    by_cases down : engine.interface.phase = .disabled
    · show (engine.onInterfaceDown status).1.Tidy
      rw [coherent.onInterfaceDown_of_down down]
      exact tidy
    · show (engine.onInterfaceDown status).1.Tidy
      rw [coherent.onInterfaceDown_exact down]
      exact fallen engine _

end Tidy

/-! ## Requests -/

/-- A request about sessions or paths is admitted only while the interface is enabled. -/
theorem enabled_of_vet {request : Request} {dispatch : Dispatch}
    (admitted : engine.vet request = .ok dispatch)
    (about : dispatch.context.isSessionOrPath = true) : engine.interface.phase = .enabled := by
  have required {operation : CommandKind}
      (passed : engine.interface.requireEnabled operation = .ok ()) :
      engine.interface.phase = .enabled := by
    simpa [Interface.requireEnabled, Interface.isEnabled] using passed
  cases request with
  | getCapabilities =>
    obtain rfl := pure_eq_ok.mp admitted
    cases about
  | enable request =>
    obtain ⟨initial, _, rest⟩ := bind_eq_ok.mp admitted
    rw [check_bind_eq_ok, pure_eq_ok] at rest
    obtain ⟨_, rfl⟩ := rest
    cases about
  | disable =>
    obtain ⟨_, handed⟩ := check_bind_eq_ok.mp admitted
    obtain rfl := pure_eq_ok.mp handed
    cases about
  | publish | subscribe | sendMessage | stopPublish | stopSubscribe | endDataPath =>
    exact required (check_bind_eq_ok.mp admitted).1
  | createInterface name =>
    obtain ⟨rfl, _⟩ := vetCreate_ok admitted
    cases about
  | deleteInterface name =>
    obtain ⟨rfl, _⟩ := vetDelete_ok admitted
    cases about
  | initiateDataPath | respondDataPath =>
    obtain ⟨_, rest⟩ := check_bind_eq_ok.mp admitted
    exact required (check_bind_eq_ok.mp rest).1

/-- **An admitted request leaves a tidy engine.** -/
theorem Tidy.stage (tidy : engine.Tidy) {request : Request} {dispatch : Dispatch}
    (admitted : engine.vet request = .ok dispatch) (txn : TransactionId) (ledger : Ledger) :
    ((engine.upon ledger).stage txn request).Tidy := by
  have up (about : dispatch.context.isSessionOrPath = true) :
      (engine.upon ledger).interface.phase.isDown = false := by
    show engine.interface.phase.isDown = false
    rw [enabled_of_vet admitted about]
    rfl
  have tidy := tidy.upon ledger
  have discovery {id : SessionId} {config : DiscoveryConfig}
      (admitted : engine.vetDiscovery id config = .ok dispatch) :
      ((engine.upon ledger).stageDiscovery txn id config).Tidy := by
    refine tidy.resession (up ?_) _
    rcases (vetDiscovery_ok admitted).2 with ⟨_, context⟩ | ⟨_, context, _⟩ <;>
      · rw [context]
        rfl
  cases request with
  | getCapabilities => exact tidy
  | enable request => exact tidy.reinterface (Interface.isDown_beginEnable _ request)
  | disable => exact tidy.reinterface fun gone => by cases gone
  | publish | subscribe => exact discovery admitted
  | sendMessage id peer payload =>
    obtain ⟨⟨address, rfl⟩, _⟩ := vetMessage_ok admitted
    exact tidy.resession (up rfl) _
  | stopPublish | stopSubscribe =>
    obtain ⟨rfl, _⟩ := vetStop_ok admitted
    exact tidy.resession (up rfl) _
  | createInterface | deleteInterface => exact ⟨tidy.down, tidy.held⟩
  | initiateDataPath request =>
    obtain rfl := vetInitiate_ok admitted
    constructor
    case down =>
      intro gone
      exact absurd ((up rfl).symm.trans gone) (by simp)
    case held =>
      -- An initiation is under way from now on.
      intro idle
      have idle : engine.paths.initiating.insert txn request = ∅ := idle
      have there := congrArg (·[txn]?) idle
      simp at there
  | respondDataPath request => exact tidy.steady (.update _ request.pathId _)
  | endDataPath id => exact tidy.steady (.update _ id _)

end Engine

end NanHost
