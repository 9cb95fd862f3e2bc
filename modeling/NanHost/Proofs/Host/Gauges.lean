import NanHost.Proofs.Host.Endings
import NanHost.Proofs.Host.Metering
import NanHost.Proofs.Host.Voices

/-!
# Gauges — what a meter counts as up is what is up

A meter that watches a host from the start has a session among those that are up until its stop is
reported, and so knows the active sessions with those that are being stopped. Of the paths it has all
that are confirmed; another that it has is one whose end was asked for, for a path may go down
unheard until the report of that end. What carries this is that one end of an entry is under way at a
time: as it is reported no other is left, and the entry is down.

## What is proved

- `Reachable.awaitsClosing_unique`: one end of an entry is under way at a time.
- `Reachable.voiced_step`: what is said of an entry in a step tells whether it is up.
- `Reachable.down_of_settled`: an entry that is reported gone is down.
- `Reachable.watched`: so the meter knows as much after any run as at the start.
- `run_gauges` puts this in terms of the meter's sets and gauges.
-/

namespace NanHost

/-! ## Paths on their way down -/

namespace DataPath

variable {id : DataPathId} {now : Timestamp} {path : DataPath} {effects : List Effect}

/-- No end is handed over of a path that is on its way down. -/
theorem Ending.closingsIn_move {entry : Option DataPath} (ending : path.Ending)
    (move : Move id now path effects entry) : closingsIn (.path id) effects = [] := by
  cases move with
  | endAsked txn stage notAsked =>
    have live : path.state ≠ .terminated := by rcases stage with stage | stage <;> simp [stage]
    simp [(ending.asked live).1] at notAsked
  | answered | confirmed | rejected | struck | endSettled | lapsed | refused => rfl
  | ended | failed | fell => split <;> rfl

/-- What becomes of a path that is on its way down: it stays so, and no end is handed over. -/
theorem Ending.closingsIn_course {entry : Option DataPath} (ending : path.Ending)
    (course : Course (.path id) (Move id now) (some path) effects entry) :
    (∀ next, entry = some next → next.Ending) ∧ closingsIn (.path id) effects = [] := by
  refine course.keeps
    (fun entry log => (∀ next, entry = some next → next.Ending) ∧ closingsIn (.path id) log = [])
    ?_ ?_ [] ⟨fun next same => Option.some.inj same ▸ ending, rfl⟩
  · rintro entry log effects quiet ⟨ending, before⟩
    exact ⟨ending, by rw [closingsIn_append, before, closingsIn_of_quiet quiet]; rfl⟩
  · rintro path log effects entry moved ⟨ending, before⟩
    have ending := ending path rfl
    refine ⟨(ending.move moved).1, ?_⟩
    rw [closingsIn_append, before, ending.closingsIn_move moved]
    rfl

end DataPath

/-! ## Entries whose end is under way -/

namespace Host

variable {σ : Type} [Transport σ] {host : Host σ} {place : Place} {txn other : TransactionId}

/-- While the stop of a session is under way, the session is there and not active. -/
theorem Reachable.stopping (reachable : Reachable host) {id : SessionId}
    (awaits : host.engine.ledger.awaitsClosing (.session id) txn = true) :
    ∃ session, host.engine.sessions.get? id = some session ∧ session.state ≠ .active := by
  obtain ⟨record, onFile, closes⟩ := Ledger.awaitsClosing_iff.mp awaits
  obtain ⟨kind, context⟩ := TransactionRecord.closes?_session.mp closes
  have out : host.engine.ledger.docket .sessions txn = some record :=
    Ledger.docket_eq_some.mpr ⟨onFile, by rw [context]; rfl⟩
  have sessions : host.engine.sessions.Agrees _ := reachable.coherent.agrees .sessions
  obtain ⟨session, found, agrees, _⟩ := sessions.session_of_out out context
  have ofRole : ∃ role, record.kind = SessionRole.stopKind role := by
    rcases kind with kind | kind
    · exact ⟨.publisher, kind⟩
    · exact ⟨.subscriber, kind⟩
  obtain ⟨role, kind⟩ := ofRole
  exact ⟨session, found, agrees.stopping out context kind⟩

/-- While the end of an entry is under way, no other end of it is taken. -/
theorem Reachable.closings_of_awaits (reachable : Reachable host)
    (awaits : host.engine.ledger.awaitsClosing place txn = true) (act : Act σ) :
    host.closings place [act] = [] := by
  rw [reachable.closings_eq]
  cases place with
  | session id =>
    obtain ⟨session, found, down⟩ := reachable.stopping awaits
    have passage := (reachable.passages_emitted act).session id
    rw [found] at passage
    exact closingsIn_of_quiet (Session.quiet_of_course down passage.of_some)
  | path id =>
    obtain ⟨path, found, ending⟩ := reachable.ending awaits
    have passage := (reachable.passages_emitted act).path id
    rw [found] at passage
    exact (ending.closingsIn_course passage.of_some).2

/-- A step takes one end of an entry at most. -/
theorem length_closings_le_one (host : Host σ) (place : Place) (act : Act σ) :
    (host.closings place [act]).length ≤ 1 := by
  have taken : (host.acceptedAt act).length ≤ 1 := by
    cases act with
    | submit request =>
      show (acceptedBy request (host.submit request).1).length ≤ 1
      unfold acceptedBy
      split <;> simp
    | _ => exact Nat.zero_le _
  have accepted : host.accepted [act] = host.acceptedAt act := List.append_nil _
  unfold closings
  rw [List.length_map, accepted]
  exact Nat.le_trans (List.length_filter_le _ _) taken

/-- An end that is under way after a step was so before, or is taken in it. -/
theorem Reachable.awaits_before (reachable : Reachable host) {act : Act σ}
    (awaits : (host.step act).engine.ledger.awaitsClosing place txn = true) :
    host.engine.ledger.awaitsClosing place txn = true ∨ txn ∈ host.closings place [act] := by
  have balance := reachable.closed_balance_step place act txn
  unfold owing at balance
  rw [awaits, Bool.toNat_true] at balance
  cases before : host.engine.ledger.awaitsClosing place txn with
  | true => exact .inl rfl
  | false =>
    rw [before, Bool.toNat_false] at balance
    refine .inr (List.count_pos_iff.mp ?_)
    omega

/-- An end that was so, or is taken, is under way after the step if it is not reported in it. -/
theorem Reachable.awaits_after (reachable : Reachable host) {act : Act σ}
    (awaits : host.engine.ledger.awaitsClosing place txn = true ∨
      txn ∈ host.closings place [act]) (unreported : txn ∉ host.closedAt place act) :
    (host.step act).engine.ledger.awaitsClosing place txn = true := by
  have balance := reachable.closed_balance_step place act txn
  unfold owing at balance
  rw [List.count_eq_zero_of_not_mem unreported, Nat.zero_add] at balance
  have some' : 0 < ((host.step act).engine.ledger.awaitsClosing place txn).toNat := by
    rcases awaits with before | taken
    · rw [before, Bool.toNat_true] at balance
      omega
    · have taken := List.count_pos_iff.mpr taken
      omega
  cases after : (host.step act).engine.ledger.awaitsClosing place txn with
  | true => rfl
  | false => simp [after] at some'

/-- **One end of an entry is under way at a time.** -/
theorem Reachable.awaitsClosing_unique (reachable : Reachable host)
    (awaits : host.engine.ledger.awaitsClosing place txn = true)
    (awaits' : host.engine.ledger.awaitsClosing place other = true) : txn = other := by
  induction reachable generalizing txn other with
  | new config transport now =>
    obtain ⟨record, onFile, _⟩ := Ledger.awaitsClosing_iff.mp awaits
    have absent := Ledger.get?_new config.maxPendingTransactions config.transactionTimeoutMs txn
    rw [show (Host.new config transport now).engine.ledger.get? txn = none from absent] at onFile
    cases onFile
  | @step host act reachable ih =>
    -- An end is taken only if none was under way.
    have apart {txn other : TransactionId}
        (before : host.engine.ledger.awaitsClosing place txn = true)
        (taken : other ∈ host.closings place [act]) : False := by
      rw [reachable.closings_of_awaits before act] at taken
      cases taken
    rcases reachable.awaits_before awaits with before | taken <;>
      rcases reachable.awaits_before awaits' with before' | taken'
    · exact ih before before'
    · exact (apart before taken').elim
    · exact (apart before' taken).elim
    · have one := host.length_closings_le_one place act
      generalize host.closings place [act] = taking at one taken taken'
      match taking with
      | [] => cases taken
      | [only] => rw [List.mem_singleton.mp taken, List.mem_singleton.mp taken']

/-! ## Steps -/

/-- **What is said in a step tells whether an entry is up after it**, unless its end is under way or
is taken. -/
theorem Reachable.voiced_step (reachable : Reachable host) {shown : Bool}
    (told : host.engine.isUp place = true → shown = true)
    (rest : shown = true → host.engine.isUp place = true ∨
      ∃ txn, host.engine.ledger.awaitsClosing place txn = true) (act : Act σ) :
    Voiced place shown (∃ txn, host.engine.ledger.awaitsClosing place txn = true)
      ((host.step act).engine.isUp place) (host.emitted [act]) := by
  have start : Voiced place shown (∃ txn, host.engine.ledger.awaitsClosing place txn = true)
      (host.engine.isUp place) [] := ⟨told, fun word => (rest word).imp_right .inl⟩
  generalize asking : (∃ txn, host.engine.ledger.awaitsClosing place txn = true) = asked at start ⊢
  cases place with
  | session id =>
    refine ((reachable.passages_emitted act).session id).keeps
      (fun entry log => Voiced (.session id) shown asked (entry.any Session.isActive) log)
      ?_ ?_ (fun moved voiced => moved.voiced voiced) [] start
    · rintro session log effects ⟨event, _, entered⟩ _
      cases entered
      exact .raised (by simp [Notification.says?, Notification.raises?])
    · exact fun quiet voiced => voiced.still (lastWord_of_quiet quiet)
  | path id =>
    have noted : ∀ path, host.engine.paths.get? id = some path → path.Noted asked id [] := by
      intro path found live pending
      have paths : host.engine.paths.Agrees _ := reachable.coherent.agrees .paths
      obtain ⟨txn, record, out, context, kind⟩ := (paths.path found).end_out live pending
      have onFile := (Ledger.docket_eq_some.mp out).1
      have closes := TransactionRecord.closes?_path.mpr ⟨kind, context⟩
      exact .inl (asking ▸ ⟨txn, Ledger.awaitsClosing_iff.mpr ⟨record, onFile, closes⟩⟩)
    refine (((reachable.passages_emitted act).path id).keeps
      (fun entry log => Voiced (.path id) shown asked (entry.any DataPath.isConfirmed) log ∧
        ∀ next, entry = some next → next.Noted asked id log)
      ?_ ?_ ?_ [] ⟨start, noted⟩).1
    · rintro path log effects ⟨event, _, entered⟩ ⟨voiced, _⟩
      cases entered with
      | numbered | requested =>
        refine ⟨voiced.still (by simp [Notification.says?, Notification.raises?,
          Notification.lowers?]), fun next same _ pending => ?_⟩
        obtain rfl := Option.some.inj same
        cases pending
    · rintro entry log effects quiet ⟨voiced, noted⟩
      refine ⟨voiced.still (lastWord_of_quiet quiet), fun next same live pending => ?_⟩
      rw [closingsIn_append]
      exact (noted next same live pending).imp_right fun some' => by simp [some']
    · exact fun moved before => moved.voiced before.1 (before.2 _ rfl)

/-- Once it is told that the interface was disabled, everything has fallen. -/
theorem Reachable.fallen_of_disabled (reachable : Reachable host) {act : Act σ}
    (whole : act ≠ .tick) {completion : Completion}
    (reported : completion ∈ NanHost.completions (host.told [act]))
    (disables : completion.disables = true) :
    ∃ condition, (host.step act).engine = host.engine.fallen condition := by
  have disabled := Completion.disables_iff.mp disables
  rcases reachable.reacts whole with silent | ⟨reaction, same, tells⟩
  · rw [silent.completions_eq] at reported
    cases reported
  · rw [told_react same] at reported
    cases tells with
    | silently silent =>
      rw [silent.completions_eq] at reported
      cases reported
    | bleakly bleak =>
      have failed := Notification.not_success_of_bleak bleak reported
      rw [Completion.isSuccess, disabled] at failed
      cases failed
    | answered record result onFile suits only rises =>
      rw [only] at reported
      obtain rfl := List.mem_singleton.mp reported
      exact absurd rfl (suits _ disabled).1
    | disabled falls fallen =>
      rw [same, engine_react]
      exact fallen

/-- An end that is under way after a step that accepts nothing was under way before. -/
theorem Reachable.awaits_of_nobody (reachable : Reachable host) {act : Act σ}
    (nobody : host.acceptedAt act = [])
    (awaits : (host.step act).engine.ledger.awaitsClosing place txn = true) :
    host.engine.ledger.awaitsClosing place txn = true := by
  refine (reachable.awaits_before awaits).resolve_right fun taken => ?_
  have accepted : host.accepted [act] = host.acceptedAt act := List.append_nil _
  rw [closings, accepted, nobody] at taken
  cases taken

/-- As the end of an entry is reported, no end of it is left. -/
theorem Reachable.none_awaits_of_closed (reachable : Reachable host) {act : Act σ}
    {completion : Completion} (reported : completion ∈ NanHost.completions (host.told [act]))
    (awaits : host.engine.ledger.awaitsClosing place completion.id = true) :
    ∀ txn, (host.step act).engine.ledger.awaitsClosing place txn = false := by
  have nobody : host.acceptedAt act = [] := by
    cases act with
    | submit request =>
      rw [Host.told, told_submit reachable.coherent.filed] at reported
      cases reported
    | _ => rfl
  have off : (host.step act).engine.ledger.awaitsClosing place completion.id = false :=
    (reachable.awaitsClosing_step awaits act).mpr
      ⟨completion, mem_told.mpr (mem_completionsIn.mp reported), rfl⟩
  refine fun txn => Bool.eq_false_iff.mpr fun still => ?_
  have before := reachable.awaits_of_nobody nobody still
  rw [reachable.awaitsClosing_unique before awaits, off] at still
  cases still

/-- An entry whose end was under way is down once no end of it is. -/
theorem Reachable.down_of_none_awaits (reachable : Reachable host) {act : Act σ}
    (awaits : host.engine.ledger.awaitsClosing place txn = true)
    (ended : ∀ txn, (host.step act).engine.ledger.awaitsClosing place txn = false) :
    (host.step act).engine.isUp place = false := by
  refine Bool.eq_false_iff.mpr fun up => ?_
  cases place with
  -- A session that is being stopped does not become active again.
  | session id =>
    obtain ⟨session, found, down⟩ := reachable.stopping awaits
    obtain ⟨next, here, active⟩ := (Option.any_eq_true _ _).mp up
    have passage := (reachable.passages_emitted act).session id
    rw [found, here] at passage
    have becomes := Session.mayBecome_of_course passage.of_some
    have active : next.state = .active := of_decide_eq_true active
    rw [active] at becomes
    rcases becomes with same | gone | ⟨_, stopping⟩
    · exact down same.symm
    · cases gone
    · cases stopping
  -- A path whose end was asked for is marked so, and the mark stands for an end under way.
  | path id =>
    obtain ⟨path, found, ending⟩ := reachable.ending awaits
    obtain ⟨next, here, confirmed⟩ := (Option.any_eq_true _ _).mp up
    have passage := (reachable.passages_emitted act).path id
    rw [found, here] at passage
    have live : next.state ≠ .terminated := by simp_all [DataPath.isConfirmed]
    have asked := (((ending.closingsIn_course passage.of_some).1 next rfl).asked live).1
    have paths : (host.step act).engine.paths.Agrees _ :=
      (reachable.step act).coherent.agrees .paths
    obtain ⟨txn, record, out, context, kind⟩ := (paths.path here).end_out live asked
    have awaits := Ledger.awaitsClosing_iff.mpr ⟨record, (Ledger.docket_eq_some.mp out).1,
      TransactionRecord.closes?_path.mpr ⟨kind, context⟩⟩
    rw [ended txn] at awaits
    cases awaits

/-- **An entry that is reported gone is down, and no end of it is under way.** -/
theorem Reachable.down_of_settled (reachable : Reachable host) {act : Act σ} (whole : act ≠ .tick)
    {completion : Completion} (reported : completion ∈ NanHost.completions (host.told [act]))
    (settles : completion.settles place host.engine.ledger.closing? = true) :
    (host.step act).engine.isUp place = false ∧
      ∀ txn, (host.step act).engine.ledger.awaitsClosing place txn = false := by
  rcases Bool.or_eq_true_iff.mp settles with disables | closes
  · obtain ⟨condition, fallen⟩ := reachable.fallen_of_disabled whole reported disables
    have nothing : (host.step act).engine.holds place = false ∧
        (host.step act).engine.isUp place = false := by
      rw [fallen]
      cases place <;> exact ⟨rfl, rfl⟩
    refine ⟨nothing.2, fun txn => Bool.eq_false_iff.mpr fun awaits => ?_⟩
    obtain ⟨record, onFile, closes⟩ := Ledger.awaitsClosing_iff.mp awaits
    have there := ((reachable.step act).coherent.closes onFile closes).2
    rw [nothing.1] at there
    cases there
  · have awaits : host.engine.ledger.awaitsClosing place completion.id = true := by
      rw [Ledger.awaitsClosing_eq]
      exact closes
    have ended := reachable.none_awaits_of_closed reported awaits
    exact ⟨reachable.down_of_none_awaits awaits ended, ended⟩

/-- Where no end is reported, those that were under way or are taken are under way afterwards. -/
theorem Reachable.awaits_of_unsettled (reachable : Reachable host) {act : Act σ}
    (unsettled : ∀ completion ∈ NanHost.completions (host.told [act]),
      completion.settles place host.engine.ledger.closing? = false)
    (awaits : host.engine.ledger.awaitsClosing place txn = true ∨
      txn ∈ host.closings place [act]) :
    (host.step act).engine.ledger.awaitsClosing place txn = true := by
  refine reachable.awaits_after awaits fun reported => ?_
  obtain ⟨listed, awaits⟩ := List.mem_filter.mp reported
  obtain ⟨completion, told, rfl⟩ := List.mem_map.mp listed
  rw [Ledger.awaitsClosing_eq] at awaits
  have stays := unsettled completion told
  rw [Completion.settles, awaits, Bool.or_true] at stays
  cases stays

/-! ## Runs -/

/-- What a meter knows of a host that it has watched from the start. -/
structure Watched (metrics : Metrics) (host : Host σ) : Prop where
  remembers : metrics.Remembers host.engine.ledger
  /-- What is up is shown. -/
  told : ∀ place, host.engine.isUp place = true → metrics.shows place = true
  /-- What is shown is up, or its end is under way. -/
  rest : ∀ place, metrics.shows place = true → host.engine.isUp place = true ∨
    ∃ txn, host.engine.ledger.awaitsClosing place txn = true
  /-- A session is shown as long as its stop is under way. -/
  stopping : ∀ id txn, host.engine.ledger.awaitsClosing (.session id) txn = true →
    metrics.shows (.session id) = true

variable {metrics : Metrics}

/-- A session of which a stop is taken is active, and nothing is said of it. -/
theorem Reachable.active_of_closings (reachable : Reachable host) {id : SessionId} {act : Act σ}
    (taken : txn ∈ host.closings (.session id) [act]) :
    host.engine.isUp (.session id) = true ∧ lastWord (.session id) (host.emitted [act]) = none := by
  have handed : closingsIn (.session id) (host.emitted [act]) ≠ [] := by
    rw [← reachable.closings_eq]
    exact List.ne_nil_of_mem taken
  cases act with
  | submit request =>
    refine ⟨?_, ?_⟩
    · have passage := (reachable.passages_emitted (.submit request)).session id
      cases found : host.engine.sessions.get? id with
      | none =>
        rw [found] at passage
        generalize host.emitted [.submit request] = effects at passage handed
        cases passage with
        | course course => exact absurd (closingsIn_of_quiet (course.of_none rfl).2) handed
        | enter entered => cases entered.choose_spec.1
      | some session =>
        rw [found] at passage
        refine (congrArg (Option.any _) found).trans ?_
        by_contra down
        have down : session.state ≠ .active := by simpa [Session.isActive] using down
        exact handed (closingsIn_of_quiet (Session.quiet_of_course down passage.of_some))
    · rw [lastWord, told_submit reachable.coherent.filed]
      rfl
  | _ => cases taken

/-- **Whatever happens, the meter knows as much as before.** -/
theorem Watched.step (watched : Watched metrics host) (reachable : Reachable host) {act : Act σ}
    (whole : act ≠ .tick) : Watched (metrics.reads (host.emitted [act])) (host.step act) := by
  have voiced (place : Place) := reachable.voiced_step (watched.told place) (watched.rest place) act
  have shown (place : Place) := reachable.shows_step watched.remembers whole place
  constructor
  case remembers => exact reachable.remembers_step watched.remembers act
  case told =>
    intro place up
    rcases shown place with ⟨_, same⟩ | ⟨⟨completion, reported, settles⟩, _⟩
    · rw [same]
      exact (voiced place).told up
    · rw [(reachable.down_of_settled whole reported settles).1] at up
      cases up
  case rest =>
    intro place shows
    rcases shown place with ⟨unsettled, same⟩ | ⟨_, same⟩
    · rw [same] at shows
      refine ((voiced place).rest shows).imp_right fun marked => ?_
      rcases marked with ⟨txn, awaits⟩ | taken
      · exact ⟨txn, reachable.awaits_of_unsettled unsettled (.inl awaits)⟩
      · rw [← reachable.closings_eq] at taken
        obtain ⟨txn, taken⟩ := List.exists_mem_of_ne_nil _ taken
        exact ⟨txn, reachable.awaits_of_unsettled unsettled (.inr taken)⟩
    · rw [same] at shows
      cases shows
  case stopping =>
    intro id txn awaits
    rcases shown (.session id) with ⟨_, same⟩ | ⟨⟨completion, reported, settles⟩, _⟩
    · rw [same]
      -- Nothing is said of a session whose stop is under way, and none when it is taken.
      have silent : lastWord (.session id) (host.emitted [act]) = none ∧
          metrics.shows (.session id) = true := by
        rcases reachable.awaits_before awaits with before | taken
        · obtain ⟨session, found, down⟩ := reachable.stopping before
          have passage := (reachable.passages_emitted act).session id
          rw [found] at passage
          exact ⟨lastWord_of_quiet (Session.quiet_of_course down passage.of_some),
            watched.stopping id txn before⟩
        · obtain ⟨active, silent⟩ := reachable.active_of_closings taken
          exact ⟨silent, watched.told _ active⟩
      have nothing : lastSaid (·.says? (.session id)) (host.told [act]) = none := silent.1
      rw [nothing]
      exact silent.2
    · rw [(reachable.down_of_settled whole reported settles).2] at awaits
      cases awaits

/-- **A fresh meter that watches a run knows what is up at the end of it.** -/
theorem Reachable.watched (reachable : Reachable host) (watched : Watched metrics host)
    (acts : List (Act σ)) : Watched (metrics.reads (host.emitted acts)) (host.run acts) := by
  induction acts using List.reverseRecOn with
  | nil =>
    rw [emitted_of_out (List.append_nil _).symm]
    exact watched
  | append_singleton acts act ih =>
    have reachable' := reachable.run acts
    rw [run_append, reachable.emitted_append, Metrics.reads_append]
    by_cases whole : act = .tick
    -- A tick is two things, one after the other.
    · subst whole
      rw [reachable'.emitted_tick, Metrics.reads_append]
      have first : Watched _ ((host.run acts).step .expireTransactions) := ih.step reachable' nofun
      have second : Watched _ (((host.run acts).step .expireTransactions).step .expireResponses) :=
        first.step (reachable'.step .expireTransactions) nofun
      exact second
    · exact ih.step reachable' whole

end Host

/-- A fresh meter that goes on counting where others have stopped. -/
def Metrics.fresh (counters : Metrics) : Metrics :=
  { counters with inFlight := ∅, sessions := ∅, paths := ∅ }

namespace Host

variable {σ : Type} [Transport σ]

/-- What a fresh meter makes of a run. -/
def metered (start : Host σ) (counters : Metrics) (acts : List (Act σ)) : Metrics :=
  counters.fresh.observeAll (start.run acts).effects

/-- What a meter counts as up is what is up, but for what is on its way down. -/
structure Gauges (start : Host σ) (counters : Metrics) : Prop where
  /-- The sessions of the meter are those that are active, and those of which a stop is under way. -/
  sessions : ∀ acts id, id ∈ (start.metered counters acts).sessions ↔
    (∃ session, (start.run acts).engine.sessions.get? id = some session ∧
      session.state = .active) ∨
    ∃ txn record, (start.run acts).engine.ledger.get? txn = some record ∧
      record.closes? = some (.session id)
  /-- The paths of the meter are all that are confirmed. -/
  confirmed : ∀ acts id path, (start.run acts).engine.paths.get? id = some path →
    path.state = .confirmed → id ∈ (start.metered counters acts).paths
  /-- Each of them is confirmed, or an end of it is under way. -/
  paths : ∀ acts id, id ∈ (start.metered counters acts).paths →
    (∃ path, (start.run acts).engine.paths.get? id = some path ∧ path.state = .confirmed) ∨
    ∃ txn record, (start.run acts).engine.ledger.get? txn = some record ∧
      record.closes? = some (.path id)
  /-- The gauges are the sizes of the two, once anything was told or if they were zero. -/
  sizes : ∀ acts,
    start.told acts ≠ [] ∨ counters.sessionGauge = 0 ∧ counters.pathGauge = 0 →
      (start.metered counters acts).Gauged
  /-- With nothing under way, the sizes are the counts of the engine. -/
  idle : ∀ acts, (start.run acts).engine.ledger.isEmpty = true →
    (start.metered counters acts).sessions.size = (start.run acts).engine.sessions.activeCount ∧
      (start.metered counters acts).paths.size = (start.run acts).engine.paths.activeCount

theorem isUp_session {engine : Engine} {id : SessionId} : engine.isUp (.session id) = true ↔
    ∃ session, engine.sessions.get? id = some session ∧ session.state = .active := by
  rw [Engine.isUp, Option.any_eq_true]
  simp only [Session.isActive, decide_eq_true_eq]

theorem isUp_path {engine : Engine} {id : DataPathId} : engine.isUp (.path id) = true ↔
    ∃ path, engine.paths.get? id = some path ∧ path.state = .confirmed := by
  rw [Engine.isUp, Option.any_eq_true]
  simp only [DataPath.isConfirmed, decide_eq_true_eq]

theorem exists_awaitsClosing {ledger : Ledger} {place : Place} :
    (∃ txn, ledger.awaitsClosing place txn = true) ↔
      ∃ txn record, ledger.get? txn = some record ∧ record.closes? = some place :=
  exists_congr fun _ => Ledger.awaitsClosing_iff

omit [Transport σ] in
/-- A fresh host has nothing to show, and a fresh meter shows nothing. -/
theorem Watched.new (config : EngineConfig) (transport : σ) (now : Timestamp) (counters : Metrics) :
    Watched counters.fresh (Host.new config transport now) := by
  have nothing (txn : TransactionId) : (Host.new config transport now).engine.ledger.get? txn =
    none := Ledger.get?_new config.maxPendingTransactions config.transactionTimeoutMs txn
  have hidden (place : Place) : counters.fresh.shows place = false := by
    cases place <;> rfl
  constructor
  case remembers =>
    intro txn record onFile
    rw [nothing] at onFile
    cases onFile
  case told =>
    intro place up
    cases place <;> cases up
  case rest =>
    intro place shown
    rw [hidden] at shown
    cases shown
  case stopping =>
    intro id txn awaits
    obtain ⟨record, onFile, _⟩ := Ledger.awaitsClosing_iff.mp awaits
    rw [nothing] at onFile
    cases onFile

/-- From a fresh host on, the meter reads what comes out. -/
theorem metered_new (config : EngineConfig) (transport : σ) (now : Timestamp) (counters : Metrics)
    (acts : List (Act σ)) : (Host.new config transport now).metered counters acts =
      counters.fresh.reads ((Host.new config transport now).emitted acts) := by
  rw [metered, Metrics.observeAll_eq, (Reachable.new config transport now).effects_run]
  rfl

/-- **The gauges agree with the engine**, after any run. -/
theorem run_gauges (config : EngineConfig) (transport : σ) (now : Timestamp) (counters : Metrics) :
    (Host.new config transport now).Gauges counters := by
  have reachable := Reachable.new config transport now
  have fresh := Watched.new config transport now counters
  have read := metered_new config transport now counters
  generalize Host.new config transport now = start at reachable fresh read
  have watched (acts : List (Act σ)) : Watched (start.metered counters acts) (start.run acts) := by
    rw [read]
    exact reachable.watched fresh acts
  have inSessions (metrics : Metrics) (id : SessionId) :
      id ∈ metrics.sessions ↔ metrics.shows (.session id) = true :=
    Std.ExtTreeSet.mem_iff_contains
  have inPaths (metrics : Metrics) (id : DataPathId) :
      id ∈ metrics.paths ↔ metrics.shows (.path id) = true :=
    Std.ExtTreeSet.mem_iff_contains
  have sessions (acts : List (Act σ)) (id : SessionId) :
      id ∈ (start.metered counters acts).sessions ↔
        (start.run acts).engine.isUp (.session id) = true ∨
          ∃ txn, (start.run acts).engine.ledger.awaitsClosing (.session id) txn = true := by
    rw [inSessions]
    refine ⟨(watched acts).rest _, ?_⟩
    rintro (up | ⟨txn, awaits⟩)
    · exact (watched acts).told _ up
    · exact (watched acts).stopping id txn awaits
  constructor
  case sessions =>
    intro acts id
    rw [sessions, isUp_session, exists_awaitsClosing]
  case confirmed =>
    intro acts id path found confirmed
    rw [inPaths]
    exact (watched acts).told _ (isUp_path.mpr ⟨path, found, confirmed⟩)
  case paths =>
    intro acts id shown
    rw [← isUp_path, ← exists_awaitsClosing]
    exact (watched acts).rest _ ((inPaths _ _).mp shown)
  case sizes =>
    intro acts told
    rw [read]
    refine Metrics.gauged_reads (told.imp_right fun zero => ⟨?_, ?_⟩)
    · exact zero.1
    · exact zero.2
  case idle =>
    intro acts idle
    have nothing (place : Place) :
        ¬∃ txn, (start.run acts).engine.ledger.awaitsClosing place txn = true := by
      rintro ⟨txn, awaits⟩
      obtain ⟨record, onFile, _⟩ := Ledger.awaitsClosing_iff.mp awaits
      rw [Ledger.get?, Std.ExtTreeMap.isEmpty_iff.mp idle] at onFile
      simp at onFile
    constructor
    · rw [SessionRegistry.activeCount, SessionRegistry.toList, List.countP_map]
      refine Tables.size_eq_countP Session.isActive fun id => ?_
      rw [sessions, or_iff_left (nothing _), Engine.isUp, Option.any_eq_true]
      rfl
    · rw [DataPathTable.activeCount, DataPathTable.toList, List.countP_map]
      refine Tables.size_eq_countP DataPath.isConfirmed fun id => ?_
      rw [inPaths]
      refine ⟨fun shown => ?_, fun up => (watched acts).told _ ?_⟩
      · exact (Option.any_eq_true _ _).mp (((watched acts).rest _ shown).resolve_right (nothing _))
      · exact (Option.any_eq_true _ _).mpr up

/-- A path that goes down while a caller is ending it goes down unheard. The meter counts it until the
completion of that end, and not afterwards. -/
example :
    let start := Host.new .standard Recorder.new ⟨0⟩
    let acts : List (Act Recorder) :=
      [.submit (.enable .standard), .handle (.commandCompleted ⟨1⟩ (.ok .empty)),
        .submit (.createInterface "nan0"), .handle (.commandCompleted ⟨2⟩ (.ok .empty)),
        .handle (.dataPathRequested ⟨5⟩ ⟨0⟩ .zero .empty),
        .submit (.respondDataPath ⟨⟨5⟩, true, "nan0", .empty, .unsecured⟩),
        .handle (.commandCompleted ⟨3⟩ (.ok .empty)),
        .handle (.dataPathConfirmed ⟨5⟩ true .zero .empty ⟨0⟩), .submit (.endDataPath ⟨5⟩),
        .handle (.dataPathTerminated ⟨5⟩ ⟨0⟩)]
    let ended := acts ++ [.handle (.commandCompleted ⟨4⟩ (.ok .empty))]
    (start.run acts).engine.paths.activeCount = 0 ∧
      (start.metered .empty acts).pathGauge = 1 ∧ (start.metered .empty ended).pathGauge = 0 := by
  decide +kernel

end Host

end NanHost
