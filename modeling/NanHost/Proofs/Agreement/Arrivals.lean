import NanHost.Proofs.Agreement.Paths
import NanHost.Proofs.Agreement.Sessions

/-!
# Arrivals — how a session or a path comes into its table

A session comes into being when the firmware answers a start, a path when it answers an initiation
or passes on the request of a peer.

## What is proved

Each of the three enters one new entry, under a number that was free, or leaves all entries as they
are; which of the two is told by the result (`SessionRegistry.resolveNew_cases`,
`DataPathTable.resolveInitiate_cases`, `DataPathTable.onRequest_cases`).
-/

namespace NanHost

/-- A start that ends enters a session under the number that the firmware gave, if it can. -/
theorem SessionRegistry.resolveNew_cases (registry : SessionRegistry) (txn : TransactionId)
    (assigned : Except Failure SessionId) :
    (∃ failure, (registry.resolveNew txn assigned).1 = .error failure ∧
      (registry.resolveNew txn assigned).2.sessions = registry.sessions) ∨
    ∃ id config, assigned = .ok id ∧ registry.starting[txn]? = some config ∧
      id.isAssigned = true ∧ registry.get? id = none ∧
      registry.resolveNew txn assigned = (.ok (id, config.role),
        { registry with starting := registry.starting.erase txn }.put id (.started id config)) := by
  unfold resolveNew
  cases registry.starting[txn]? with
  | none => exact .inl ⟨_, rfl, rfl⟩
  | some config =>
    cases assigned with
    | error failure => exact .inl ⟨_, rfl, rfl⟩
    | ok id =>
      dsimp only
      cases assigned : id.isAssigned with
      | false => exact .inl ⟨_, rfl, rfl⟩
      | true =>
        cases taken : registry.sessions.contains id with
        | true => exact .inl ⟨_, rfl, rfl⟩
        | false =>
          have free : registry.get? id = none := by
            rw [Std.ExtTreeMap.contains_eq_isSome_getElem?] at taken
            exact Option.isSome_eq_false_iff.mp taken |> Option.isNone_iff_eq_none.mp
          exact .inr ⟨id, config, rfl, rfl, assigned, free, rfl⟩

namespace DataPathTable

variable {table : DataPathTable} {txn : TransactionId}

/-- The table after the end of an initiation. When no initiation is left, nothing is held back any
more but for the number that was given. -/
def closing (table : DataPathTable) (given : Option DataPathId) : DataPathTable :=
  if table.initiating.isEmpty then table.onlyHeld given else table

/-- Closing forgets events at most. -/
theorem closing_eq (table : DataPathTable) (given : Option DataPathId) :
    table.closing given = { table with held := (table.closing given).held } := by
  unfold closing
  split <;> rfl

theorem initiating_closing (table : DataPathTable) (given : Option DataPathId) :
    (table.closing given).initiating = table.initiating := by
  rw [closing_eq]

theorem resolveInitiate_of_found {request : InitiateRequest}
    (found : table.initiating[txn]? = some request) (assigned : Except Failure DataPathId) :
    table.resolveInitiate txn assigned =
      let entered := { table with initiating := table.initiating.erase txn }.enterInitiated request
        assigned
      (entered.1, entered.2.closing entered.1.toOption) := by
  unfold resolveInitiate
  rw [found]
  rfl

/-- A path is entered if the firmware gave it a number that is neither zero nor taken. -/
theorem enterInitiated_cases (table : DataPathTable) (request : InitiateRequest)
    (assigned : Except Failure DataPathId) :
    (∃ failure, table.enterInitiated request assigned = (.error failure, table)) ∨
    ∃ id, assigned = .ok id ∧ table.get? id = none ∧
      table.enterInitiated request assigned = (.ok id, table.put id (.initiated id request)) := by
  unfold enterInitiated
  cases assigned with
  | error failure => exact .inl ⟨_, rfl⟩
  | ok id =>
    dsimp only
    split
    next => exact .inl ⟨_, rfl⟩
    next =>
      split
      next => exact .inl ⟨_, rfl⟩
      next taken =>
        have free : table.get? id = none := by simpa [contains_paths] using taken
        exact .inr ⟨id, rfl, free, rfl⟩

/-- An initiation that ends enters a path under the number that the firmware gave, if it can. -/
theorem resolveInitiate_cases (table : DataPathTable) (txn : TransactionId)
    (assigned : Except Failure DataPathId) :
    (∃ failure, (table.resolveInitiate txn assigned).1 = .error failure ∧
      (table.resolveInitiate txn assigned).2.paths = table.paths) ∨
    ∃ id request, assigned = .ok id ∧ table.get? id = none ∧
      (table.resolveInitiate txn assigned).1 = .ok id ∧
      ∀ other, (table.resolveInitiate txn assigned).2.get? other =
        if other = id then some (.initiated id request) else table.get? other := by
  cases found : table.initiating[txn]? with
  | none =>
    refine .inl ⟨.aborted, ?_⟩
    unfold resolveInitiate
    rw [found]
    exact ⟨rfl, rfl⟩
  | some request =>
    rw [resolveInitiate_of_found found]
    rcases enterInitiated_cases { table with initiating := table.initiating.erase txn } request
      assigned with ⟨failure, entered⟩ | ⟨id, given, free, entered⟩
    · rw [entered]
      dsimp only
      rw [closing_eq]
      exact .inl ⟨failure, rfl, rfl⟩
    · rw [entered]
      dsimp only
      rw [closing_eq]
      exact .inr ⟨id, request, given, free, rfl, fun other => get?_put _ id other _⟩

theorem graceMs_resolveInitiate (table : DataPathTable) (txn : TransactionId)
    (assigned : Except Failure DataPathId) :
    (table.resolveInitiate txn assigned).2.graceMs = table.graceMs := by
  cases found : table.initiating[txn]? with
  | none =>
    unfold resolveInitiate
    rw [found]
  | some request =>
    rw [resolveInitiate_of_found found]
    dsimp only
    rw [closing_eq]
    rcases enterInitiated_cases { table with initiating := table.initiating.erase txn } request
      assigned with ⟨_, entered⟩ | ⟨_, _, _, entered⟩
    · rw [entered]
    · rw [entered]
      rfl

/-- The request of a peer enters a path under its number, if it can. -/
theorem onRequest_cases (table : DataPathTable) (id : DataPathId) (peerId : PeerId)
    (peerAddress : MacAddress) (appInfo : ByteArray) (now : Timestamp) :
    table.onRequest id peerId peerAddress appInfo now = (false, table) ∨
    table.get? id = none ∧ table.onRequest id peerId peerAddress appInfo now =
      (true, table.put id
        (.requestedByPeer id peerId peerAddress appInfo (now.addMillis table.graceMs))) := by
  unfold onRequest
  split
  next => exact .inl rfl
  next accepted =>
    simp only [Bool.or_eq_true, Bool.not_eq_true', not_or, Bool.not_eq_false, contains_paths,
      Option.not_isSome_iff_eq_none] at accepted
    exact .inr ⟨accepted.2, rfl⟩

end DataPathTable

end NanHost
