import NanHost.Proofs.Engine.Retention
import NanHost.Proofs.Host.Closings
import NanHost.Proofs.Host.Progress
import NanHost.Proofs.Host.SessionReports

/-!
# Updates — what a session is about

A session is started with a configuration, and it can be given others later. The request is one
thing and the agreement of the firmware another: in between the session may be stopped, the
interface may go down, the deadline may come. The caller is told when a configuration has been
agreed on, by a completion, and the completion bears the number of the request.

Three facts about a run tie the two together (`Engine.Traces`). A start that is under way carries
what was asked for under its number, and so does an update; and an update that is on file is the one
that its session waits for. The last is why an agreement is never lost: the session drops what it
waits for only as the end of the command is reported, and then the command has left the ledger.

## What is proved

`run_updates`: in every run, what a session is about is what was asked for by the request that was
agreed on last; nothing else that is asked, answered or given up has any effect on it, and only a
start that is agreed on brings a session into being.
-/

namespace NanHost

/-! ## Updates on file, and agreements -/

/-- The session that a command on file is to update. -/
def TransactionRecord.updates? (record : TransactionRecord) : Option SessionId :=
  match record.kind, record.context with
  | .publish, .session id | .subscribe, .session id => some id
  | _, _ => none

theorem TransactionRecord.updates?_iff {record : TransactionRecord} {id : SessionId} :
    record.updates? = some id ↔
      (∃ role : SessionRole, record.kind = role.startKind) ∧ record.context = .session id := by
  have kinds : (∃ role : SessionRole, record.kind = role.startKind) ↔
      record.kind = .publish ∨ record.kind = .subscribe :=
    ⟨fun ⟨role, kind⟩ => by cases role <;> simp [kind, SessionRole.startKind],
      fun kind => kind.elim (⟨.publisher, ·⟩) (⟨.subscriber, ·⟩)⟩
  rw [kinds]
  grind [updates?]

/-- The number of the command by which, as the caller is told, the configuration of a session was
agreed on. -/
def Notification.agreed? (id : SessionId) : Notification → Option TransactionId
  | completed completion =>
    match completion.result with
    | .ok (.sessionStarted other _) | .ok (.sessionUpdated other) =>
      if other = id then some completion.id else none
    | _ => none
  | _ => none

/-- The numbers of the commands by which the configuration of a session was agreed on. -/
def agreements (id : SessionId) (notices : List Notification) : List TransactionId :=
  notices.filterMap (·.agreed? id)

theorem agreements_append (id : SessionId) (first second : List Notification) :
    agreements id (first ++ second) = agreements id first ++ agreements id second :=
  List.filterMap_append

/-- Where nothing is granted, nothing is agreed on. -/
theorem agreements_of_plain {id : SessionId} {notices : List Notification}
    (plain : ∀ notice ∈ notices, notice.grants = false) : agreements id notices = [] := by
  refine List.filterMap_eq_nil_iff.mpr fun notice member => ?_
  have plain := plain notice member
  cases notice with
  | completed completion =>
    obtain ⟨txn, kind, result⟩ := completion
    cases result with
    | error failure => rfl
    | ok detail =>
      cases detail with
      | sessionStarted | sessionUpdated => cases plain
      | _ => rfl
  | _ => rfl

/-! ## What is under way, and what was asked for -/

namespace Engine

/-- What is under way is what was asked for, by the numbers of the commands. -/
structure Traces (engine : Engine)
    (asked : TransactionId → Option (SessionId × DiscoveryConfig)) : Prop where
  starting : ∀ {txn : TransactionId} {config}, engine.sessions.starting[txn]? = some config →
    ∃ id : SessionId, asked txn = some (id, config) ∧ id.raw = 0
  updating : ∀ {id session txn config}, engine.sessions.get? id = some session →
    session.pendingUpdate = some (txn, config) → asked txn = some (id, config)
  /-- A session waits for the update about it that is on file. -/
  pending : ∀ {txn record id}, engine.ledger.get? txn = some record → record.updates? = some id →
    ∃ session config, engine.sessions.get? id = some session ∧
      session.pendingUpdate = some (txn, config)

namespace Traces

variable {engine next : Engine} {asked : TransactionId → Option (SessionId × DiscoveryConfig)}

/-- Nothing is under way. -/
theorem new (config : EngineConfig) : (Engine.new config).Traces asked where
  starting found := by simp [Engine.new, SessionRegistry.empty] at found
  updating found := by simp [Engine.new, SessionRegistry.empty, SessionRegistry.get?] at found
  pending onFile := by simp [Engine.new] at onFile

/-- A session goes on waiting for an update until its end is reported. -/
theorem pending_of_retains {ended : List TransactionId} {txn : TransactionId}
    {record : TransactionRecord} {id : SessionId} (traces : engine.Traces asked)
    (retains : engine.sessions.Retains ended next.sessions) (coherent : next.Coherent)
    (out : next.ledger.get? txn = some record) (before : engine.ledger.get? txn = some record)
    (unreported : txn ∉ ended) (updates : record.updates? = some id) :
    ∃ session config, next.sessions.get? id = some session ∧
      session.pendingUpdate = some (txn, config) := by
  have sessions : next.sessions.Agrees _ := coherent.agrees .sessions
  have about := (TransactionRecord.updates?_iff.mp updates).2
  obtain ⟨session, found⟩ := sessions.present
    (Ledger.docket_eq_some.mpr ⟨out, by rw [about]; rfl⟩) about
  obtain ⟨earlier, there, retained⟩ := retains.session found
  obtain ⟨waiting, config, there', pending⟩ := traces.pending before updates
  obtain rfl := Option.some.inj (there.symm.trans there')
  exact ⟨session, config, found, (retained.dropped pending).resolve_right unreported⟩

/-- Updates leave the ledger as their ends are reported. -/
theorem retained {ended : List TransactionId} (traces : engine.Traces asked)
    (retains : engine.sessions.Retains ended next.sessions) (coherent : next.Coherent)
    (onFile : ∀ txn record id, next.ledger.get? txn = some record → record.updates? = some id →
      engine.ledger.get? txn = some record ∧ txn ∉ ended) : next.Traces asked where
  starting found := traces.starting (retains.starting found)
  updating found pending := by
    obtain ⟨earlier, there, retained⟩ := retains.session found
    exact traces.updating there (retained.update pending)
  pending {txn record id} out updates := by
    obtain ⟨before, unreported⟩ := onFile txn record id out updates
    exact traces.pending_of_retains retains coherent out before unreported updates

/-- A session enters, or takes the place of another. -/
theorem put {id : SessionId} {entry : Session} (traces : engine.Traces asked)
    (starting : ∀ {txn : TransactionId} {config}, next.sessions.starting[txn]? = some config →
      engine.sessions.starting[txn]? = some config)
    (entered : ∀ other, next.sessions.get? other =
      if other = id then some entry else engine.sessions.get? other)
    (carries : ∀ {txn config}, entry.pendingUpdate = some (txn, config) →
      asked txn = some (id, config))
    (awaits : ∀ {txn record}, next.ledger.get? txn = some record → record.updates? = some id →
      ∃ config, entry.pendingUpdate = some (txn, config))
    (onFile : ∀ {txn record other}, next.ledger.get? txn = some record →
      record.updates? = some other → other ≠ id → engine.ledger.get? txn = some record) :
    next.Traces asked where
  starting found := traces.starting (starting found)
  updating {other session} _ _ found pending := by
    rw [entered] at found
    split at found
    next here =>
      obtain rfl := Option.some.inj found
      exact here ▸ carries pending
    next => exact traces.updating found pending
  pending {txn record other} out updates := by
    simp only [entered]
    by_cases here : other = id
    · subst here
      obtain ⟨config, pending⟩ := awaits out updates
      exact ⟨entry, config, if_pos rfl, pending⟩
    · obtain ⟨session, config, found, pending⟩ := traces.pending (onFile out updates here) updates
      exact ⟨session, config, (if_neg here).trans found, pending⟩

/-- Whatever is granted, what else is under way stays so. -/
theorem granted {txn : TransactionId} {outcome : Except FirmwareStatus AnswerPayload}
    {reaction : Reaction} (traces : engine.Traces asked)
    (granted : engine.Granted txn outcome reaction) : reaction.1.Traces asked := by
  have kept {other : TransactionId} {record : TransactionRecord}
      (onFile : (engine.ledger.rollback txn).get? other = some record) :
      other ≠ txn ∧ engine.ledger.get? other = some record := by
    rw [Ledger.get?_rollback] at onFile
    split at onFile
    next => cases onFile
    next differs => exact ⟨differs, onFile⟩
  cases granted with
  | surveyed report =>
    exact ⟨traces.starting, traces.updating, fun out => traces.pending (kept out).2⟩
  | started id config record onFile about underWay assigned free =>
    refine traces.put (fun {other _} found => ?_) (fun other => SessionRegistry.get?_put _ id other _)
      (nomatch ·) (fun out updates => ?_) fun out _ _ => (kept out).2
    · have found : (engine.sessions.starting.erase txn)[other]? = some _ := found
      rw [Tables.getElem?_erase] at found
      split at found
      next => cases found
      next => exact found
    · -- No update can be about a session that is not there.
      obtain ⟨session, config, found, _⟩ := traces.pending (kept out).2 updates
      cases free.symm.trans found
  | updated id session record payload onFile about kind found active =>
    refine traces.put (fun found => found) (fun other => SessionRegistry.get?_put _ id other _)
      (fun pending => traces.updating found (Session.pendingUpdate_dropUpdate pending).2)
      (fun {other _} out updates => ?_) fun out _ _ => (kept out).2
    obtain ⟨differs, out⟩ := kept out
    obtain ⟨waiting, config, there, pending⟩ := traces.pending out updates
    obtain rfl := Option.some.inj (found.symm.trans there)
    have carrier : ¬other = txn := differs
    exact ⟨config, by simp [Session.dropUpdate, Session.detach, pending, carrier]⟩

/-- A number that is given out anew stands for nothing that is under way. -/
theorem later (traces : engine.Traces asked) (coherent : engine.Coherent) {fresh : TransactionId}
    (free : engine.ledger.get? fresh = none) (what : Option (SessionId × DiscoveryConfig)) :
    engine.Traces fun txn => if txn = fresh then what else asked txn where
  starting found := by
    rw [if_neg (coherent.apart_of_starting free found)]
    exact traces.starting found
  updating found pending := by
    rw [if_neg (coherent.apart_of_updating free found pending)]
    exact traces.updating found pending
  pending := traces.pending

section Filing

variable {record : TransactionRecord} {id : SessionId} {config : DiscoveryConfig}
  (traces : engine.Traces asked) (filed : next.ledger = engine.ledger.file record)

include traces filed

/-- A start is entered. -/
theorem beginStart (entered : next.sessions = engine.sessions.beginNew record.id config)
    (asks : asked record.id = some (id, config)) (unnumbered : id.raw = 0)
    (about : record.context = .newSession config.role) : next.Traces asked where
  starting {txn other} found := by
    rw [entered, SessionRegistry.beginNew, Tables.getElem?_insert] at found
    split at found
    next here =>
      obtain rfl := Option.some.inj found
      exact ⟨id, here ▸ asks, unnumbered⟩
    next => exact traces.starting found
  updating found pending := by
    rw [entered] at found
    exact traces.updating found pending
  pending out updates := by
    rw [filed] at out
    rw [entered]
    rcases Ledger.cases_file out with ⟨_, rfl⟩ | before
    · rw [(TransactionRecord.updates?_iff.mp updates).2] at about
      cases about
    · exact traces.pending before updates

/-- An update is entered with a session that waits for none. -/
theorem beginUpdate {session : Session}
    (entered : next.sessions = engine.sessions.put id
      { session.attach record.id with pendingUpdate := some (record.id, config) })
    (found : engine.sessions.get? id = some session) (idle : session.pendingUpdate = none)
    (asks : asked record.id = some (id, config)) (about : record.context = .session id) :
    next.Traces asked := by
  have there (other : SessionId) : next.sessions.get? other =
      if other = id then
        some { session.attach record.id with pendingUpdate := some (record.id, config) }
      else engine.sessions.get? other := by
    rw [entered]
    exact SessionRegistry.get?_put _ id other _
  refine traces.put (fun found => ?_) there (fun pending => ?_) (fun out updates => ?_)
    fun out updates apart => ?_
  · rw [entered] at found
    exact found
  · obtain ⟨rfl, rfl⟩ := Prod.mk.inj (Option.some.inj pending)
    exact asks
  · rw [filed] at out
    rcases Ledger.cases_file out with ⟨rfl, _⟩ | before
    · exact ⟨config, rfl⟩
    · obtain ⟨waiting, _, there, pending⟩ := traces.pending before updates
      obtain rfl := Option.some.inj (found.symm.trans there)
      rw [idle] at pending
      cases pending
  · rw [filed] at out
    refine (Ledger.cases_file out).resolve_left ?_
    rintro ⟨_, rfl⟩
    have context := (TransactionRecord.updates?_iff.mp updates).2
    rw [about] at context
    exact apart (PendingContext.session.inj context).symm

/-- A command that updates no session is filed. -/
theorem fileOther (retains : engine.sessions.Retains [] next.sessions) (coherent : next.Coherent)
    (plain : record.updates? = none) : next.Traces asked := by
  refine traces.retained retains coherent fun txn other id out updates => ⟨?_, List.not_mem_nil⟩
  rw [filed] at out
  refine (Ledger.cases_file out).resolve_left ?_
  rintro ⟨_, rfl⟩
  rw [plain] at updates
  cases updates

end Filing

/-- **A request that is taken is asked for under its number.** -/
theorem staged {request : Request} {dispatch : Dispatch} {record : TransactionRecord}
    (traces : engine.Traces asked) (coherent : engine.Coherent)
    (admitted : engine.vet request = .ok dispatch)
    (opens : engine.ledger.Opens record dispatch .caller) :
    ((engine.upon (engine.ledger.file record)).stage record.id request).Traces fun txn =>
      if txn = record.id then request.discovery? else asked txn := by
  have traces := traces.later coherent opens.fresh request.discovery?
  have coherent' := coherent.stage admitted opens
  have filed := Host.ledger_stage (engine.upon (engine.ledger.file record)) record.id request
  have staged := Engine.staged admitted (engine.ledger.file record) record.id
  generalize Engine.stage _ record.id request = next at coherent' filed staged
  generalize entered : next.sessions = sessions at staged
  cases staged with
  | started id config asks unnumbered about room =>
    exact traces.beginStart filed entered ((if_pos rfl).trans asks) unnumbered
      (opens.context.trans about)
  | updated id config session asks about found idle =>
    exact traces.beginUpdate filed entered found idle ((if_pos rfl).trans asks)
      (opens.context.trans about)
  | other nothing retains =>
    refine traces.fileOther filed (entered ▸ retains) coherent' ?_
    refine Option.eq_none_iff_forall_ne_some.mpr fun id updates => ?_
    obtain ⟨⟨role, kind⟩, _⟩ := TransactionRecord.updates?_iff.mp updates
    rw [opens.kind, Engine.kind_of_vet admitted] at kind
    cases request with
    | publish | subscribe => cases nothing
    | _ => cases role <;> cases kind

end Traces

end Engine

/-! ## Runs -/

namespace Host

variable {σ : Type} [Transport σ] {host : Host σ}
  {known : TransactionId → Option (SessionId × DiscoveryConfig)}

/-- The request that a run accepted last under a number. -/
def requestOf (host : Host σ) (acts : List (Act σ)) (txn : TransactionId) : Option Request :=
  (((host.accepted acts).filter (·.2 = txn)).getLast?).map (·.1)

theorem requestOf_append (host : Host σ) (first second : List (Act σ)) (txn : TransactionId) :
    host.requestOf (first ++ second) txn =
      ((host.run first).requestOf second txn).or (host.requestOf first txn) := by
  rw [requestOf, accepted_append, List.filter_append, List.getLast?_append, Option.map_or]
  rfl

theorem requestOf_of_nobody {act : Act σ} (nobody : host.acceptedAt act = [])
    (txn : TransactionId) : host.requestOf [act] txn = none := by
  simp [requestOf, accepted, nobody]

theorem requestOf_of_accepted {act : Act σ} {request : Request} {id : TransactionId}
    (taken : host.acceptedAt act = [(request, id)]) (txn : TransactionId) :
    host.requestOf [act] txn = if txn = id then some request else none := by
  by_cases same : txn = id
  · simp [requestOf, accepted, taken, same]
  · simp [requestOf, accepted, taken, same, Ne.symm same]

/-- What was asked for under a number: in a run, or else before it. -/
def asked (host : Host σ) (known : TransactionId → Option (SessionId × DiscoveryConfig))
    (acts : List (Act σ)) (txn : TransactionId) : Option (SessionId × DiscoveryConfig) :=
  match host.requestOf acts txn with
  | some request => request.discovery?
  | none => known txn

/-- It was asked for in the run, or was known before. -/
theorem cases_asked {acts : List (Act σ)} {txn : TransactionId} {what : SessionId × DiscoveryConfig}
    (asks : host.asked known acts txn = some what) :
    (∃ request, host.requestOf acts txn = some request ∧ request.discovery? = some what) ∨
      known txn = some what := by
  unfold asked at asks
  split at asks
  next request accepted => exact .inl ⟨request, accepted, asks⟩
  next => exact .inr asks

theorem asked_append (host : Host σ) (first second : List (Act σ)) :
    host.asked known (first ++ second) = (host.run first).asked (host.asked known first) second := by
  funext txn
  unfold asked
  rw [requestOf_append]
  cases (host.run first).requestOf second txn <;> rfl

theorem asked_of_nobody {act : Act σ} (nobody : host.acceptedAt act = []) :
    host.asked known [act] = known := by
  funext txn
  rw [asked, requestOf_of_nobody nobody]

theorem asked_of_accepted {act : Act σ} {request : Request} {id : TransactionId}
    (taken : host.acceptedAt act = [(request, id)]) :
    host.asked known [act] = fun txn => if txn = id then request.discovery? else known txn := by
  funext txn
  rw [asked, requestOf_of_accepted taken]
  by_cases same : txn = id
  · rw [if_pos same, if_pos same]
  · rw [if_neg same, if_neg same]

/-- A command that a caller has on file after a step that accepts nothing was on file before, and no
end of it was reported. -/
theorem Reachable.unreported (reachable : Reachable host) {act : Act σ}
    (nobody : host.acceptedAt act = []) {txn : TransactionId} {record : TransactionRecord}
    (onFile : (host.step act).engine.ledger.get? txn = some record)
    (caller : record.origin = .caller) :
    host.engine.ledger.get? txn = some record ∧ txn ∉ ended (host.told [act]) := by
  have before := nothingNew_step reachable.coherent act nobody txn record onFile caller
  refine ⟨before, fun reported => ?_⟩
  obtain ⟨reports, told, paid⟩ := balanced_step reachable.coherent act
  have same : NanHost.completions (host.told [act]) = reports :=
    List.append_cancel_left ((reachable.completions_step act).symm.trans told)
  have paid := congrArg List.length (paid txn)
  rw [nobody, acceptedFor, List.filter_nil, List.map_nil, List.append_nil, List.length_append,
    length_owed, length_owed, length_reportedFor, onFile, before] at paid
  simp only [Option.any_some, caller, decide_true, if_true, Nat.add_eq_right,
    List.countP_eq_zero, decide_eq_true_eq] at paid
  obtain ⟨completion, member, rfl⟩ := List.mem_map.mp reported
  exact paid completion (same ▸ member) rfl

/-- **What is under way is what was asked for**: every step keeps it so. -/
theorem Reachable.traces_step (reachable : Reachable host) (traces : host.engine.Traces known)
    (act : Act σ) : (host.step act).engine.Traces (host.asked known [act]) := by
  have coherent := (reachable.step act).coherent
  have progress := reachable.progress act
  -- Where nobody is accepted, updates leave the ledger only as their ends are reported.
  have retained (nobody : host.acceptedAt act = [])
      (retains : host.engine.sessions.Retains (ended (host.told [act]))
        (host.step act).engine.sessions) :
      (host.step act).engine.Traces (host.asked known [act]) := by
    rw [asked_of_nobody nobody]
    refine traces.retained retains coherent fun txn record id onFile updates => ?_
    have about := (TransactionRecord.updates?_iff.mp updates).2
    have commission : Commission record.kind record.context record.origin :=
      coherent.commissioned onFile
    exact reachable.unreported nobody onFile (commission.caller_of_ne (by simp [about]))
  generalize host.told [act] = notices at progress retained
  generalize (host.step act).engine = next at progress retained
  cases progress with
  | taken request dispatch record admitted opens taken =>
    rw [asked_of_accepted taken]
    exact traces.staged reachable.coherent admitted opens
  | granted txn outcome reaction granted =>
    rw [asked_of_nobody rfl]
    exact traces.granted granted
  | sighted event id learn notice plain reaction =>
    exact retained rfl (SessionRegistry.sight_retains _ id learn)
  | reported event id report about =>
    refine retained rfl ?_
    cases report <;> exact .refl _
  | changed act nobody changes => exact retained nobody changes.retains

theorem Reachable.traces_run (reachable : Reachable host) (traces : host.engine.Traces known)
    (acts : List (Act σ)) : (host.run acts).engine.Traces (host.asked known acts) := by
  induction acts using List.reverseRecOn with
  | nil => exact traces
  | append_singleton acts act ih =>
    rw [run_append, asked_append]
    exact (reachable.run acts).traces_step ih act

/-! ## One step of a session -/

/-- What a step makes of a session, by what was asked for and what the caller is told. -/
inductive SessionStep (known : TransactionId → Option (SessionId × DiscoveryConfig))
    (id : SessionId) (act : Act σ) (notices : List Notification) :
    Option Session → Option Session → Prop
  /-- A start is agreed on. -/
  | entered (txn : TransactionId) (number : SessionId) (config : DiscoveryConfig)
    (answer : act = .handle (.commandCompleted txn (.ok (.sessionId id))))
    (asks : known txn = some (number, config)) (unnumbered : number.raw = 0)
    (told : agreements id notices = [txn]) :
    SessionStep known id act notices none (some (.started id config))
  /-- Nothing is agreed on, and the session is about the same. -/
  | kept (earlier later : Session) (silent : agreements id notices = [])
    (role : later.role = earlier.role) (config : later.config = earlier.config) :
    SessionStep known id act notices (some earlier) (some later)
  /-- An update is agreed on. -/
  | adopted (txn : TransactionId) (earlier later : Session)
    (asks : known txn = some (id, later.config)) (told : agreements id notices = [txn])
    (role : later.role = earlier.role) :
    SessionStep known id act notices (some earlier) (some later)
  /-- There is no session. -/
  | gone (before : Option Session) : SessionStep known id act notices before none

namespace SessionStep

variable {registry next : SessionRegistry} {id other : SessionId} {act : Act σ}
  {notices : List Notification} {session later : Session}

omit [Transport σ] in
/-- Where nothing is agreed on, the session is about the same. -/
theorem of_retains {ended : List TransactionId} (retains : registry.Retains ended next)
    (silent : agreements id notices = []) :
    SessionStep known id act notices (registry.get? id) (next.get? id) := by
  cases after : next.get? id with
  | none => exact .gone _
  | some later =>
    obtain ⟨earlier, found, retained⟩ := retains.session after
    rw [found]
    exact .kept earlier later silent retained.role retained.config

omit [Transport σ] in
theorem of_same (same : next.get? id = registry.get? id) (silent : agreements id notices = []) :
    SessionStep known id act notices (registry.get? id) (next.get? id) := by
  rw [same]
  cases registry.get? id with
  | none => exact .gone _
  | some session => exact .kept session session silent rfl rfl

omit [Transport σ] in
/-- Nothing is agreed on for the other sessions. -/
theorem of_put (apart : id ≠ other) (silent : agreements id notices = []) :
    SessionStep known id act notices (registry.get? id) ((registry.put other later).get? id) :=
  of_same (by rw [SessionRegistry.get?_put, if_neg apart]) silent

end SessionStep

/-- **A session comes into being with what was asked for, and takes on what was asked for**, as it
is agreed on. -/
theorem Reachable.sessionStep (reachable : Reachable host) (traces : host.engine.Traces known)
    (act : Act σ) (id : SessionId) :
    SessionStep known id act (host.told [act]) (host.engine.sessions.get? id)
      ((host.step act).engine.sessions.get? id) := by
  have progress := reachable.progress act
  generalize host.told [act] = notices at progress
  generalize (host.step act).engine = next at progress
  cases progress with
  | taken request dispatch record admitted opens taken =>
    have staged := Engine.staged admitted (host.engine.ledger.file record) record.id
    generalize (Engine.stage _ record.id request).sessions = sessions at staged
    cases staged with
    | started => exact .of_same rfl rfl
    | updated other config session _ _ found =>
      by_cases here : id = other
      · rw [here, SessionRegistry.get?_put, if_pos rfl, found]
        exact .kept _ _ rfl rfl rfl
      · exact .of_put here rfl
    | other nothing retains => exact .of_retains retains rfl
  | granted txn outcome reaction granted =>
    cases granted with
    | surveyed report => exact .of_same rfl rfl
    | started other config record onFile about underWay assigned free =>
      by_cases here : id = other
      · obtain ⟨number, asks, unnumbered⟩ := traces.starting underWay
        subst here
        rw [SessionRegistry.get?_put, if_pos rfl, free]
        exact .entered txn number config rfl asks unnumbered
          (by simp [agreements, Notification.agreed?])
      · exact .of_put here (by simp [agreements, Notification.agreed?, Ne.symm here])
    | updated other session record payload onFile about kind found active =>
      by_cases here : id = other
      · subst here
        obtain ⟨waiting, config, there, pending⟩ :=
          traces.pending onFile (TransactionRecord.updates?_iff.mpr ⟨kind, about⟩)
        obtain rfl := Option.some.inj (found.symm.trans there)
        have adopts : (session.adoptUpdate txn).config = config := by
          simp [Session.adoptUpdate, pending]
        simp only [SessionRegistry.get?_put, if_true, found, adopts]
        refine .adopted txn session _ (traces.updating found pending)
          (by simp [agreements, Notification.agreed?]) ?_
        rw [Session.dropUpdate_eq]
        rfl
      · exact .of_put here (by simp [agreements, Notification.agreed?, Ne.symm here])
  | sighted event other learn notice plain reaction =>
    have retains : host.engine.sessions.Retains [] _ :=
      host.engine.sessions.sight_retains other learn
    exact .of_retains retains (agreements_of_plain (host.engine.sight_plain plain other learn))
  | reported event path report about =>
    refine .of_same ?_ (agreements_of_plain (Engine.replay_silent _ _ _).plain)
    cases report <;> rfl
  | changed act nobody changes =>
    exact .of_retains changes.retains (agreements_of_plain changes.plain)

/-! ## The last agreement -/

/-- In a span of a run, the configuration is the one that was asked for by the request that was
agreed on last: by the start of the session, or by an update since. -/
inductive AgreedLast (host : Host σ) (before : List (Act σ)) (id : SessionId)
    (config : DiscoveryConfig) : List (Act σ) → Prop
  | start (act : Act σ) (rest : List (Act σ)) (txn : TransactionId) (request : Request)
    (number : SessionId) (accepted : host.requestOf before txn = some request)
    (asks : request.discovery? = some (number, config)) (unnumbered : number.raw = 0)
    (told : agreements id ((host.run before).told [act]) = [txn])
    (since : agreements id ((host.run (before ++ [act])).told rest) = []) :
    AgreedLast host before id config (act :: rest)
  | update (within : List (Act σ)) (act : Act σ) (rest : List (Act σ)) (txn : TransactionId)
    (request : Request) (accepted : (host.run before).requestOf within txn = some request)
    (asks : request.discovery? = some (id, config))
    (told : agreements id ((host.run (before ++ within)).told [act]) = [txn])
    (since : agreements id ((host.run (before ++ within ++ [act])).told rest) = []) :
    AgreedLast host before id config (within ++ act :: rest)

/-- It stays the last as long as nothing is agreed on. -/
theorem AgreedLast.extend (reachable : Reachable host) {before span : List (Act σ)}
    {id : SessionId} {config : DiscoveryConfig} (last : host.AgreedLast before id config span)
    {act : Act σ} (silent : agreements id ((host.run (before ++ span)).told [act]) = []) :
    host.AgreedLast before id config (span ++ [act]) := by
  have later {first rest : List (Act σ)} (same : host.run (before ++ span) = (host.run first).run rest)
      (since : agreements id ((host.run first).told rest) = []) :
      agreements id ((host.run first).told (rest ++ [act])) = [] := by
    rw [(reachable.run first).told_append, agreements_append, since, ← same, silent]
    rfl
  cases last with
  | start first rest txn request number accepted asks unnumbered told since =>
    refine .start first (rest ++ [act]) txn request number accepted asks unnumbered told
      (later ?_ since)
    rw [← run_append, List.append_assoc]
    rfl
  | update within first rest txn request accepted asks told since =>
    rw [List.append_assoc, List.cons_append]
    refine .update within first (rest ++ [act]) txn request accepted asks told (later ?_ since)
    rw [← run_append, List.append_assoc, List.append_assoc]
    rfl

omit [Transport σ] in
/-- What is known before a session comes into being has nothing to do with updates of it. -/
theorem traces_vacant (traces : host.engine.Traces known) {id : SessionId}
    (vacant : host.engine.holds (.session id) = false) (assigned : id.raw ≠ 0) :
    host.engine.Traces fun txn => (known txn).filter (·.1 ≠ id) := by
  have absent : host.engine.sessions.get? id = none :=
    Option.not_isSome_iff_eq_none.mp (Bool.eq_false_iff.mp vacant)
  refine ⟨fun found => ?_, fun {other session txn config} found pending => ?_, traces.pending⟩
  · obtain ⟨number, asks, unnumbered⟩ := traces.starting found
    have apart : number ≠ id := by
      rintro rfl
      exact assigned unnumbered
    exact ⟨number, by simp [asks, apart], unnumbered⟩
  · have apart : other ≠ id := by
      rintro rfl
      rw [absent] at found
      cases found
    simp [traces.updating found pending, apart]

theorem told_nil (host : Host σ) : host.told [] = [] := by
  rw [told, emitted_of_out (List.append_nil _).symm]
  rfl

/-- A session that comes into being is about what was asked for before. -/
theorem Reachable.agreedLast_entered (reachable : Reachable host)
    (traces : host.engine.Traces fun _ => none) {before : List (Act σ)} {act : Act σ} {id : SessionId}
    {session : Session} (vacant : (host.run before).engine.holds (.session id) = false)
    (found : ((host.run before).step act).engine.sessions.get? id = some session) :
    host.AgreedLast before id session.config [act] := by
  have step := (reachable.run before).sessionStep (reachable.traces_run traces before) act id
  rw [Option.not_isSome_iff_eq_none.mp (Bool.eq_false_iff.mp vacant), found] at step
  cases step with
  | entered txn number config answer asks unnumbered told =>
    obtain ⟨request, accepted, what⟩ := (cases_asked asks).resolve_right nofun
    refine .start _ [] txn request number accepted what unnumbered told ?_
    rw [told_nil]
    rfl

/-- Later it is about the same, or takes on what was asked for since it came into being. -/
theorem Reachable.agreedLast_step (reachable : Reachable host)
    (traces : host.engine.Traces fun _ => none) {before span : List (Act σ)} {act : Act σ}
    {id : SessionId} {earlier later : Session} (assigned : id.raw ≠ 0)
    (vacant : (host.run before).engine.holds (.session id) = false)
    (last : host.AgreedLast before id earlier.config span)
    (was : (host.run (before ++ span)).engine.sessions.get? id = some earlier)
    (found : ((host.run (before ++ span)).step act).engine.sessions.get? id = some later) :
    host.AgreedLast before id later.config (span ++ [act]) := by
  -- What was asked for before the lifetime was not asked of this session.
  have traces := (reachable.run before).traces_run
    (traces_vacant (reachable.traces_run traces before) vacant assigned) span
  rw [← run_append] at traces
  have step := (reachable.run (before ++ span)).sessionStep traces act id
  rw [was, found] at step
  cases step with
  | kept _ _ silent role config => exact config ▸ last.extend reachable silent
  | adopted txn _ _ asks told role =>
    rcases cases_asked asks with ⟨request, accepted, what⟩ | before
    · refine .update span act [] txn request accepted what told ?_
      rw [told_nil]
      rfl
    · simp [Option.filter_eq_some_iff] at before

/-- **In its lifetime a session is about what was agreed on last.** -/
theorem Reachable.agreedLast (reachable : Reachable host) (traces : host.engine.Traces fun _ => none)
    {before span : List (Act σ)} {id : SessionId}
    (lifetime : (host.run before).Lifetime (.session id) span) {session : Session}
    (found : (host.run (before ++ span)).engine.sessions.get? id = some session) :
    host.AgreedLast before id session.config span := by
  have assigned : id.raw ≠ 0 := by
    have sessions : (host.run (before ++ span)).engine.sessions.Agrees _ :=
      (reachable.run _).coherent.agrees .sessions
    simpa [SessionId.isAssigned] using sessions.assigned found
  induction span using List.reverseRecOn generalizing session with
  | nil => exact absurd rfl lifetime.ne_nil
  | append_singleton span act ih =>
    rw [← List.append_assoc, run_append] at found
    by_cases first : span = []
    · subst first
      rw [List.append_nil] at found
      exact reachable.agreedLast_entered traces lifetime.vacant found
    · obtain ⟨before', there⟩ := lifetime.init first
      obtain ⟨earlier, was⟩ := Option.isSome_iff_exists.mp there
      have was : (host.run (before ++ span)).engine.sessions.get? id = some earlier :=
        (run_append host before span) ▸ was
      exact reachable.agreedLast_step traces assigned lifetime.vacant (ih before' was) was found

/-- In its lifetime a session keeps its role, and as long as nothing is agreed on its
configuration. -/
theorem Reachable.persists (reachable : Reachable host) (traces : host.engine.Traces fun _ => none)
    {before life more : List (Act σ)} {id : SessionId}
    (lifetime : (host.run before).Lifetime (.session id) (life ++ more)) {earlier later : Session}
    (was : (host.run (before ++ life)).engine.sessions.get? id = some earlier)
    (found : (host.run (before ++ life ++ more)).engine.sessions.get? id = some later) :
    later.role = earlier.role ∧
      (agreements id ((host.run (before ++ life)).told more) = [] →
        later.config = earlier.config) := by
  have begun : life ≠ [] := by
    rintro rfl
    have there : (host.run before).engine.holds (.session id) = true := by
      rw [List.append_nil] at was
      exact Option.isSome_of_eq_some was
    rw [lifetime.vacant] at there
    cases there
  induction more using List.reverseRecOn generalizing later with
  | nil =>
    rw [List.append_nil, was] at found
    obtain rfl := Option.some.inj found
    exact ⟨rfl, fun _ => rfl⟩
  | append_singleton more act ih =>
    rw [← List.append_assoc] at lifetime
    obtain ⟨lifetime, there⟩ := lifetime.init (by simp [begun])
    have between : (host.run (before ++ life ++ more)).engine.holds (.session id) = true := by
      rw [List.append_assoc, run_append]
      exact there
    obtain ⟨middle, between⟩ := Option.isSome_iff_exists.mp between
    obtain ⟨role, config⟩ := ih lifetime between
    have traces := reachable.traces_run traces (before ++ life ++ more)
    have step := (reachable.run (before ++ life ++ more)).sessionStep traces act id
    have found : ((host.run (before ++ life ++ more)).step act).engine.sessions.get? id =
        some later := by
      rw [← List.append_assoc, run_append] at found
      exact found
    rw [between, found] at step
    rw [(reachable.run _).told_append, agreements_append, ← run_append, List.append_eq_nil_iff]
    cases step with
    | kept _ _ silent role' config' =>
      exact ⟨role'.trans role, fun nothing => config'.trans (config nothing.1)⟩
    | adopted txn _ _ asks told role' =>
      refine ⟨role'.trans role, fun nothing => ?_⟩
      rw [told] at nothing
      cases nothing.2

/-- How sessions are updated in every run. -/
structure Updates (start : Host σ) : Prop where
  /-- A session bears its own number, and its role is that of its configuration. -/
  own : ∀ acts id session, (start.run acts).engine.sessions.get? id = some session →
    session.id = id ∧ session.role = session.config.role
  /-- The role stays as it is for all its lifetime. -/
  role : ∀ before life more id earlier later,
    (start.run before).Lifetime (.session id) (life ++ more) →
    (start.run (before ++ life)).engine.sessions.get? id = some earlier →
    (start.run (before ++ life ++ more)).engine.sessions.get? id = some later →
    later.role = earlier.role
  /-- The configuration is the one that was agreed on last. -/
  latest : ∀ before span id session, (start.run before).Lifetime (.session id) span →
    (start.run (before ++ span)).engine.sessions.get? id = some session →
    start.AgreedLast before id session.config span
  /-- So an update that has failed, was given up or is unanswered has no effect. -/
  steady : ∀ before life more id earlier later,
    (start.run before).Lifetime (.session id) (life ++ more) →
    (start.run (before ++ life)).engine.sessions.get? id = some earlier →
    (start.run (before ++ life ++ more)).engine.sessions.get? id = some later →
    agreements id ((start.run (before ++ life)).told more) = [] → later.config = earlier.config
  /-- One update of a session at most is on file. -/
  single : ∀ acts first second record other id,
    (start.run acts).engine.ledger.get? first = some record → record.updates? = some id →
    (start.run acts).engine.ledger.get? second = some other → other.updates? = some id →
    first = second
  /-- A request adds no session, and removes none. -/
  requests : ∀ acts request id, ((start.run acts).submit request).2.engine.holds (.session id) =
    (start.run acts).engine.holds (.session id)
  /-- Neither does the answer to an update add one, whatever it is. -/
  answers : ∀ acts txn request number config outcome id,
    start.requestOf acts txn = some request → request.discovery? = some (number, config) →
    number.raw ≠ 0 →
    ((start.run acts).handle (.commandCompleted txn outcome)).engine.holds (.session id) = true →
    (start.run acts).engine.holds (.session id) = true
  /-- A session comes into being by the answer to a start. -/
  added : ∀ acts act id, (start.run acts).engine.holds (.session id) = false →
    ((start.run acts).step act).engine.holds (.session id) = true →
    ∃ txn request number config, act = .handle (.commandCompleted txn (.ok (.sessionId id))) ∧
      start.requestOf acts txn = some request ∧ request.discovery? = some (number, config) ∧
      number.raw = 0

/-- **Updates change what a session is about, as they are agreed on, and nothing else**, in every run
from a fresh host. -/
theorem run_updates (config : EngineConfig) (transport : σ) (now : Timestamp) :
    (Host.new config transport now).Updates := by
  have fresh : Reachable (Host.new config transport now) := .new config transport now
  have traces : (Host.new config transport now).engine.Traces fun _ => none := .new config
  generalize Host.new config transport now = start at fresh traces
  have asks {acts : List (Act σ)} {txn : TransactionId} {what : SessionId × DiscoveryConfig}
      (known : start.asked (fun _ => none) acts txn = some what) :
      ∃ request, start.requestOf acts txn = some request ∧ request.discovery? = some what :=
    (cases_asked known).resolve_right nofun
  have added (acts : List (Act σ)) (act : Act σ) (id : SessionId)
      (vacant : (start.run acts).engine.holds (.session id) = false)
      (there : ((start.run acts).step act).engine.holds (.session id) = true) :
      ∃ txn request number config, act = .handle (.commandCompleted txn (.ok (.sessionId id))) ∧
        start.requestOf acts txn = some request ∧ request.discovery? = some (number, config) ∧
        number.raw = 0 := by
    obtain ⟨session, found⟩ := Option.isSome_iff_exists.mp there
    have step := (fresh.run acts).sessionStep (fresh.traces_run traces acts) act id
    rw [Option.not_isSome_iff_eq_none.mp (Bool.eq_false_iff.mp vacant), found] at step
    cases step with
    | entered txn number config answer known unnumbered told =>
      obtain ⟨request, accepted, what⟩ := asks known
      exact ⟨txn, request, number, config, answer, accepted, what, unnumbered⟩
  refine ⟨?own, ?role, ?latest, ?steady, ?single, ?requests, ?answers, added⟩
  case own =>
    intro acts id session found
    have sessions : (start.run acts).engine.sessions.Agrees _ :=
      (fresh.run acts).coherent.agrees .sessions
    have agrees := sessions.session found
    exact ⟨agrees.own, agrees.role.symm⟩
  case role =>
    intro before life more id earlier later lifetime was found
    exact (fresh.persists traces lifetime was found).1
  case latest =>
    intro before span id session lifetime found
    exact fresh.agreedLast traces lifetime found
  case steady =>
    intro before life more id earlier later lifetime was found nothing
    exact (fresh.persists traces lifetime was found).2 nothing
  case single =>
    intro acts first second record other id onFile updates onFile' updates'
    have traces := fresh.traces_run traces acts
    obtain ⟨session, config, found, pending⟩ := traces.pending onFile updates
    obtain ⟨session', config', found', pending'⟩ := traces.pending onFile' updates'
    obtain rfl := Option.some.inj (found.symm.trans found')
    exact congrArg Prod.fst (Option.some.inj (pending.symm.trans pending'))
  case requests =>
    intro acts request id
    exact isSome_submit (fresh.run acts).coherent.filed request id
  case answers =>
    intro acts txn request number config outcome id accepted what numbered there
    by_contra vacant
    rw [Bool.not_eq_true] at vacant
    obtain ⟨txn', request', number', config', answer, accepted', what', unnumbered⟩ :=
      added acts (.handle (.commandCompleted txn outcome)) id vacant there
    cases answer
    obtain rfl := Option.some.inj (accepted.symm.trans accepted')
    obtain ⟨rfl, _⟩ := Prod.mk.inj (Option.some.inj (what.symm.trans what'))
    exact numbered unnumbered

end Host

end NanHost
