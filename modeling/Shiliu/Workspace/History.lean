/-
Module: Shiliu.Workspace.History
Purpose: What the commands make of the history of a record. A revision that is written either comes
  from a `create` that was admitted or from a decision that passed its checks; from that the
  revisions of a record are one chain, a terminal record changes in the listed ways only, and a
  record speaks for the user only when a user made it so. A decision takes the expiry over and
  hashes it in another text form: on records without expiry, hashes are those of the contents and
  corrections and confirmations take effect.
Trusted boundary: none
Main exports: Written, runCommand_cases, Chained, workspace_history, corrected_record_stays_expired
-/
import Shiliu.Library.Chain
import Shiliu.Workspace.Service

set_option linter.all false

namespace Shiliu.Workspace

open Shiliu.Library

variable {Hash : Type} {rules : WorkspaceRules Hash}
  {around : Surroundings Hash} {store after : WorkspaceStore Hash}
  {command : WorkspaceCommand Hash} {response : WorkspaceResponse Hash}

/-! ## The chain of a record -/

/-- The revisions of every record are numbered from one, each with the one before as its parent. -/
def Chained (store : WorkspaceStore Hash) : Prop :=
  ∀ recordId, Chain Revision.version Revision.parentRevisionId
    (fun revision => some revision.recordRevisionId) 1 none (store.history recordId)

theorem latest_recordId {recordId : RecordId} {latest : Revision Hash}
    (found : store.latest recordId = some latest) : latest.recordId = recordId := by
  have member := List.argmax_mem found
  exact of_decide_eq_true (List.mem_filter.mp member).2

theorem Chained.latest (chained : Chained store) (recordId : RecordId) :
    store.latest recordId = (store.history recordId).getLast? :=
  (chained recordId).argmax

theorem history_append (revisions : List (Revision Hash)) (revision : Revision Hash)
    (receipts : Table (@Receipt.key Hash)) (recordId : RecordId) :
    (WorkspaceStore.mk (revisions ++ [revision]) receipts).history recordId =
      (WorkspaceStore.mk revisions receipts).history recordId ++
        if revision.recordId = recordId then [revision] else [] := by
  simp only [WorkspaceStore.history, List.filter_append, List.filter_cons, List.filter_nil,
    decide_eq_true_eq]

theorem Chained.congr (chained : Chained store) (same : after.revisions = store.revisions) :
    Chained after := by
  intro recordId
  rw [WorkspaceStore.history, same]
  exact chained recordId

/-! ## Who a record speaks for -/

/-- The revision was written by the user: authored with the record, corrected or confirmed. -/
def UserMade (revision : Revision Hash) : Prop :=
  (revision.decisionAction = .create ∧
      (revision.recordKind = .explicitMemory ∨
        (revision.recordKind = .focusState ∧ revision.sourceRefs = []) ∨
        (revision.recordKind = .progressObservation ∧ userAsserted revision.payload = true))) ∨
    revision.decisionAction = .decided .correct ∨ revision.decisionAction = .decided .confirm

/-- Every revision with the authority of the user that is in force was made by the user. -/
def SpokenFor (store : WorkspaceStore Hash) : Prop :=
  ∀ revision ∈ store.revisions,
    revision.authorityClass ∈ [AuthorityClass.userAuthored, .userConfirmed] →
    revision.status ∈ [RecordStatus.current, .confirmed] → UserMade revision

theorem userAsserted_stored {payload : Payload} (asserted : userAsserted payload = true) :
    userAsserted (rules.stored payload) = true := by
  unfold userAsserted at asserted ⊢
  rw [decide_eq_true_eq] at asserted ⊢
  have mapped : ∀ payload : Payload, Payload.get (rules.stored payload) "user_asserted" =
      (payload.get "user_asserted").map rules.jsonb := by
    intro payload
    induction payload with
    | nil => rfl
    | cons field rest inductionHypothesis =>
        obtain ⟨key, value⟩ := field
        simp only [Payload.get, WorkspaceRules.stored, List.map_cons, List.lookup_cons]
          at inductionHypothesis ⊢
        split
        · rfl
        · exact inductionHypothesis
  rw [mapped, asserted, Option.map_some, rules.jsonb_bool]

variable {sourceRefs : List (SourceRef Hash)} {principalId : String}
  {request : CreateWorkspaceRecordRequest Hash} {revision : Revision Hash}

theorem createSemantics_user {recordKind : RecordKind} {payload : Payload}
    {semantics : AuthorityClass × RecordStatus}
    (done : createSemantics rules recordKind payload sourceRefs = .ok semantics)
    (user : semantics.1 ∈ [AuthorityClass.userAuthored, .userConfirmed]) :
    recordKind = .explicitMemory ∨ (recordKind = .focusState ∧ sourceRefs = []) ∨
      (recordKind = .progressObservation ∧ userAsserted payload = true) := by
  cases recordKind with
  | explicitMemory => exact .inl rfl
  | inferredCandidate =>
      simp only [createSemantics] at done
      split at done
      · cases done
      · split at done
        · cases done
        · cases done
          simp at user
  | focusState =>
      simp only [createSemantics] at done
      split at done
      · cases done
      · split at done
        · split at done
          · cases done
          · cases done
            simp at user
        · rename_i noSources
          exact .inr (.inl ⟨rfl, not_not.mp noSources⟩)
  | progressObservation =>
      refine .inr (.inr ⟨rfl, ?_⟩)
      by_contra notAsserted
      simp only [createSemantics] at done
      split at done
      · cases done
      · split at done
        · cases done
        · split at done
          · cases done
          · split at done
            · cases done
            · split at done
              · cases done
              · cases done
                simp at user
  | corpusObservation =>
      simp only [createSemantics] at done
      split at done
      · cases done
      · split at done
        · cases done
        · split at done
          · cases done
          · cases done
            simp at user
  | systemExperience =>
      simp only [createSemantics] at done
      split at done
      · cases done
      · split at done
        · cases done
        · split at done
          · cases done
          · cases done
            simp at user

theorem decisionSemantics_live {latest : Revision Hash} {action : DecisionAction}
    {replacementPayload : Option Payload} {decision : Decision}
    (done : decisionSemantics rules latest action replacementPayload = .ok decision) :
    decision.status ∈ [RecordStatus.current, .confirmed] ↔
      action ∈ [DecisionAction.correct, .confirm] := by
  cases action with
  | correct =>
      simp only [decisionSemantics] at done
      split at done <;> cases done <;> simp
  | confirm =>
      simp only [decisionSemantics] at done
      split at done
      · cases done
      · cases done
        simp
  | reject =>
      simp only [decisionSemantics] at done
      split at done
      · cases done
      · cases done
        simp
  | expire =>
      simp only [decisionSemantics] at done
      split at done
      · cases done
      · cases done
        simp
  | tombstone =>
      cases done
      simp
  | diagnose =>
      simp only [decisionSemantics] at done
      split at done
      · cases done
      · cases done
        simp
  | candidateSource =>
      simp only [decisionSemantics] at done
      split at done
      · cases done
      · cases done
        simp
  | invalidate =>
      simp only [decisionSemantics] at done
      split at done
      · cases done
      · cases done
        simp

/-! ## Hashes of contents -/

/-- The content of a stored revision, as it was first hashed. -/
def Revision.content (revision : Revision Hash) : ContentText Hash where
  recordKind := revision.recordKind
  authorityClass := revision.authorityClass
  status := revision.status
  semanticKey := revision.semanticKey
  payload := revision.payload
  sourceRefs := revision.sourceRefs
  confidence := revision.confidence
  expiresAt := revision.expiresAt.map expiresValue

/-- Every revision has the hash of its content. -/
def HashedExactly (rules : WorkspaceRules Hash) (store : WorkspaceStore Hash) : Prop :=
  ∀ revision ∈ store.revisions, revision.contentHash = rules.contentHash revision.content

/-! ## What a command writes -/

variable [DecidableEq Hash]

/-- A `create` passes its checks and may write a revision. -/
structure Creates (rules : WorkspaceRules Hash) (around : Surroundings Hash)
    (store : WorkspaceStore Hash) (request : CreateWorkspaceRecordRequest Hash)
    (principalId : String) (sourceRefs : List (SourceRef Hash))
    (semantics : AuthorityClass × RecordStatus) (expiresAt : Option Int) : Prop where
  checked : checkCreate rules around request = .ok (sourceRefs, semantics, expiresAt)
  admitted : ∀ latest ∈ store.latest (recordIdOf rules store request),
    checkLatest rules around request principalId sourceRefs expiresAt latest = .ok none

/-- A decision passes its checks on the latest revision. -/
structure Decides (rules : WorkspaceRules Hash) (around : Surroundings Hash)
    (store : WorkspaceStore Hash) (recordId : RecordId) (request : DecideWorkspaceRecordRequest)
    (latest : Revision Hash) (decision : Decision) : Prop where
  found : store.latest recordId = some latest
  version : latest.version = request.expectedVersion
  allowed : request.action ∈
    allowedActions latest.recordKind (effectiveStatus latest around.checked)
  semantics : decisionSemantics rules latest request.action request.replacementPayload =
    .ok decision
  passed : checkDecision rules around request.action latest decision = .ok ()

/-- The revision a command writes. -/
inductive Written (rules : WorkspaceRules Hash) (around : Surroundings Hash)
    (store : WorkspaceStore Hash) : WorkspaceCommand Hash → Revision Hash → Prop where
  | created {commandTaskId request principalId sourceRefs semantics expiresAt}
      (creates : Creates rules around store request principalId sourceRefs semantics expiresAt) :
      Written rules around store (.create commandTaskId request principalId)
        (createdRevision rules around store commandTaskId request principalId sourceRefs semantics
          expiresAt)
  | decided {commandTaskId recordId request principalId latest decision}
      (decides : Decides rules around store recordId request latest decision) :
      Written rules around store (.decide commandTaskId recordId request principalId)
        (decidedRevision rules around commandTaskId request principalId latest decision)

theorem create_cases {commandTaskId : String}
    (done : create rules around store commandTaskId request principalId = .ok (response, after)) :
    after.revisions = store.revisions ∨
      ∃ revision, Written rules around store (.create commandTaskId request principalId) revision ∧
        response.record = project revision around.answered ∧
        after.revisions = store.revisions ++ [revision] := by
  unfold create at done
  simp only at done
  split at done
  · cases done
  · rename_i sourceRefs semantics expiresAt checked
    split at done
    · rename_i absent
      cases done
      refine .inr ⟨_, .created ⟨checked, ?_⟩, rfl, rfl⟩
      intro latest isLatest
      rw [absent] at isLatest
      cases isLatest
    · rename_i latest found
      split at done
      · cases done
      · cases done
        exact .inl (List.append_nil _)
      · rename_i admitted
        cases done
        refine .inr ⟨_, .created ⟨checked, ?_⟩, rfl, rfl⟩
        intro other isOther
        rw [found] at isOther
        cases isOther
        exact admitted

theorem decide_cases {commandTaskId : String} {recordId : RecordId}
    {request : DecideWorkspaceRecordRequest}
    (done : decide rules around store commandTaskId recordId request principalId =
      .ok (response, after)) :
    ∃ revision,
      Written rules around store (.decide commandTaskId recordId request principalId) revision ∧
        response.record = project revision around.answered ∧
        after.revisions = store.revisions ++ [revision] := by
  unfold decide at done
  split at done
  · cases done
  · rename_i latest found
    split at done
    · cases done
    · split at done
      · cases done
      · rename_i version
        split at done
        · cases done
        · rename_i allowed
          split at done
          · cases done
          · rename_i decision semantics
            split at done
            · cases done
            · rename_i passed
              cases done
              exact ⟨_, .decided ⟨found, not_not.mp version, not_not.mp allowed, semantics,
                passed⟩, rfl, rfl⟩

/-- The ways a command goes well: it is answered from its receipt, it is a `create` with nothing to
write, or it writes one revision. -/
theorem runCommand_cases (done : runCommand rules around store command = .ok (response, after)) :
    (store.receipts.lookup (command.taskId, command.commandId) ≠ none ∧ after = store) ∨
      (store.receipts.lookup (command.taskId, command.commandId) = none ∧
        ((after.revisions = store.revisions ∧
            ∃ commandTaskId request principalId,
              command = .create commandTaskId request principalId) ∨
          ∃ revision, Written rules around store command revision ∧
            response.record = project revision around.answered ∧
            after.revisions = store.revisions ++ [revision])) := by
  unfold runCommand at done
  split at done
  · cases done
  · split at done
    · cases done
    · split at done
      · rename_i receipt found
        split at done
        · cases done
        · cases done
          refine .inl ⟨?_, rfl⟩
          rw [found]
          exact Option.some_ne_none receipt
      · rename_i absent
        refine .inr ⟨absent, ?_⟩
        cases command with
        | create commandTaskId request principalId =>
            exact (create_cases done).imp_left fun same =>
              ⟨same, commandTaskId, request, principalId, rfl⟩
        | decide commandTaskId recordId request principalId =>
            simp only [perform] at done
            split at done
            · cases done
            · exact .inr (decide_cases done)

/-! ## What a command keeps -/

theorem Written.continues (written : Written rules around store command revision) :
    revision.version = ((store.latest revision.recordId).map Revision.version).getD 0 + 1 ∧
      revision.parentRevisionId =
        (store.latest revision.recordId).map Revision.recordRevisionId := by
  cases written with
  | created creates => exact ⟨rfl, rfl⟩
  | @decided commandTaskId recordId request principalId latest decision decides =>
      have isLatest : store.latest (decidedRevision rules around commandTaskId request principalId
          latest decision).recordId = some latest := by
        rw [decidedRevision, latest_recordId decides.found]
        exact decides.found
      rw [isLatest]
      exact ⟨rfl, rfl⟩

theorem Written.chained (written : Written rules around store command revision)
    (chained : Chained store) (appended : after.revisions = store.revisions ++ [revision]) :
    Chained after := by
  obtain ⟨version, parent⟩ := written.continues
  intro recordId
  have isHistory : after.history recordId =
      store.history recordId ++ if revision.recordId = recordId then [revision] else [] := by
    rw [WorkspaceStore.history, appended]
    exact history_append store.revisions revision store.receipts recordId
  rw [isHistory]
  split
  · rename_i isRecord
    subst isRecord
    rw [chained.latest] at version parent
    apply Chain.concat.mpr
    refine ⟨chained revision.recordId, ?_, ?_⟩
    · have fromOne : Chain Revision.version Revision.parentRevisionId
          (fun earlier => some earlier.recordRevisionId) (0 + 1) none
          (store.history revision.recordId) := chained revision.recordId
      rw [version, fromOne.last_number]
      omega
    · rw [parent, endOf]
      cases (store.history revision.recordId).getLast? <;> rfl
  · rw [List.append_nil]
    exact chained recordId

theorem afterCommand_cases (rules : WorkspaceRules Hash) (store : WorkspaceStore Hash)
    (call : Surroundings Hash × WorkspaceCommand Hash) :
    (afterCommand rules store call).revisions = store.revisions ∨
      ∃ revision, store.receipts.lookup (call.2.taskId, call.2.commandId) = none ∧
        Written rules call.1 store call.2 revision ∧
        (afterCommand rules store call).revisions = store.revisions ++ [revision] := by
  unfold afterCommand
  split
  · rename_i response after done
    rcases runCommand_cases done with ⟨_, rfl⟩ | ⟨isNew, ⟨same, _⟩ | ⟨revision, written, _, appended⟩⟩
    · exact .inl rfl
    · exact .inl same
    · exact .inr ⟨revision, isNew, written, appended⟩
  · exact .inl rfl

theorem Chained.afterCommand (chained : Chained store)
    (call : Surroundings Hash × WorkspaceCommand Hash) :
    Chained (afterCommand rules store call) := by
  rcases afterCommand_cases rules store call with same | ⟨revision, _, written, appended⟩
  · exact chained.congr same
  · exact written.chained chained appended

theorem checkCreate_semantics {semantics : AuthorityClass × RecordStatus} {expiresAt : Option Int}
    (checked : checkCreate rules around request = .ok (sourceRefs, semantics, expiresAt)) :
    validateSourceRefs around request.sourceRefs = .ok sourceRefs ∧
      createSemantics rules request.recordKind request.payload sourceRefs = .ok semantics := by
  unfold checkCreate at checked
  simp only at checked
  split at checked
  · cases checked
  · split at checked
    · cases checked
    · rename_i refs isRefs
      split at checked
      · cases checked
      · split at checked
        · cases checked
        · split at checked
          · cases checked
          · rename_i found isFound
            split at checked
            · cases checked
            · cases checked
              exact ⟨isRefs, isFound⟩

theorem Written.userMade (written : Written rules around store command revision)
    (user : revision.authorityClass ∈ [AuthorityClass.userAuthored, .userConfirmed])
    (live : revision.status ∈ [RecordStatus.current, .confirmed]) : UserMade revision := by
  cases written with
  | created creates =>
      refine .inl ⟨rfl, ?_⟩
      rcases createSemantics_user (checkCreate_semantics creates.checked).2 user with
        isKind | ⟨isKind, noSources⟩ | ⟨isKind, asserted⟩
      · exact .inl isKind
      · exact .inr (.inl ⟨isKind, noSources⟩)
      · exact .inr (.inr ⟨isKind, userAsserted_stored asserted⟩)
  | decided decides =>
      have isAction := (decisionSemantics_live decides.semantics).mp live
      simp only [List.mem_cons, List.not_mem_nil, or_false] at isAction
      rcases isAction with isCorrect | isConfirm
      · exact .inr (.inl (congrArg RecordedAction.decided isCorrect))
      · exact .inr (.inr (congrArg RecordedAction.decided isConfirm))

theorem SpokenFor.afterCommand (spoken : SpokenFor store)
    (call : Surroundings Hash × WorkspaceCommand Hash) :
    SpokenFor (afterCommand rules store call) := by
  intro revision isRevision user live
  rcases afterCommand_cases rules store call with same | ⟨new, _, written, appended⟩
  · rw [same] at isRevision
    exact spoken revision isRevision user live
  · rw [appended] at isRevision
    rcases List.mem_append.mp isRevision with isOld | isNew
    · exact spoken revision isOld user live
    · rw [List.mem_singleton.mp isNew] at user live ⊢
      exact written.userMade user live

/-! ## Terminal records -/

/-- A record whose latest revision is terminal changes by a decision that is listed, or by a
`create` with other sources and a reason to reopen it. -/
def ReopenedOnly (rules : WorkspaceRules Hash) (store : WorkspaceStore Hash)
    (call : Surroundings Hash × WorkspaceCommand Hash) : Prop :=
  ∀ recordId latest, store.latest recordId = some latest →
    effectiveStatus latest call.1.checked ∈ terminalStatuses →
    (afterCommand rules store call).history recordId ≠ store.history recordId →
    (∃ commandTaskId request principalId,
        call.2 = .decide commandTaskId recordId request principalId ∧
          request.action ∈ (project latest call.1.checked).allowedActions) ∨
      ∃ commandTaskId request principalId sourceRefs,
        call.2 = .create commandTaskId request principalId ∧
          validateSourceRefs call.1 request.sourceRefs = .ok sourceRefs ∧
          rules.refsHash sourceRefs ≠ latest.sourceBoundaryHash ∧ request.reopened ≠ none

theorem checkLatest_admits {expiresAt : Option Int} {latest : Revision Hash}
    (admitted : checkLatest rules around request principalId sourceRefs expiresAt latest =
      .ok none) :
    latest.sourceBoundaryHash ≠ rules.refsHash sourceRefs ∧
      (effectiveStatus latest around.checked ∈ terminalStatuses → request.reopened ≠ none) := by
  unfold checkLatest at admitted
  split at admitted
  · cases admitted
  · split at admitted
    · split at admitted
      · cases admitted
      · cases admitted
    · rename_i otherBoundary
      split at admitted
      · cases admitted
      · rename_i reopened
        refine ⟨otherBoundary, ?_⟩
        intro terminal noReason
        exact reopened ⟨terminal, noReason⟩

theorem reopenedOnly (rules : WorkspaceRules Hash) (store : WorkspaceStore Hash)
    (call : Surroundings Hash × WorkspaceCommand Hash) : ReopenedOnly rules store call := by
  intro recordId latest isLatest terminal changed
  rcases afterCommand_cases rules store call with same | ⟨revision, _, written, appended⟩
  · rw [WorkspaceStore.history, same] at changed
    exact absurd rfl changed
  · have isRecord : revision.recordId = recordId := by
      by_contra other
      apply changed
      rw [WorkspaceStore.history, appended]
      have unchanged := history_append store.revisions revision store.receipts recordId
      rw [if_neg other, List.append_nil] at unchanged
      exact unchanged
    obtain ⟨around, command⟩ := call
    cases written with
    | @created commandTaskId request principalId sourceRefs semantics expiresAt creates =>
        have isRecord : recordIdOf rules store request = recordId := isRecord
        have admitted := creates.admitted latest (by rw [isRecord, isLatest]; rfl)
        obtain ⟨otherBoundary, reopened⟩ := checkLatest_admits admitted
        exact .inr ⟨commandTaskId, request, principalId, sourceRefs, rfl,
          (checkCreate_semantics creates.checked).1, otherBoundary.symm, reopened terminal⟩
    | @decided commandTaskId reached request principalId found decision decides =>
        have isReached : reached = recordId := (latest_recordId decides.found).symm.trans isRecord
        subst isReached
        have sameLatest : found = latest := Option.some.inj (decides.found.symm.trans isLatest)
        subst sameLatest
        exact .inl ⟨commandTaskId, request, principalId, rfl, decides.allowed⟩

/-! ## Decisions on records that expire -/

/-- No decision is made on a record with an expiry, and what is written is read back unchanged. -/
def Unhindered (rules : WorkspaceRules Hash) (store : WorkspaceStore Hash)
    (call : Surroundings Hash × WorkspaceCommand Hash) : Prop :=
  store.receipts.lookup (call.2.taskId, call.2.commandId) = none →
    match call.2 with
    | .create _ request principalId =>
        ∀ sourceRefs semantics expiresAt,
          Creates rules call.1 store request principalId sourceRefs semantics expiresAt →
          rules.stored request.payload = request.payload
    | .decide _ recordId request _ =>
        ∀ latest decision, Decides rules call.1 store recordId request latest decision →
          latest.expiresAt = none ∧ rules.stored decision.payload = decision.payload

/-- A correction or a confirmation that is accepted leaves the record current or confirmed. -/
def TakesEffect (rules : WorkspaceRules Hash) (store : WorkspaceStore Hash)
    (call : Surroundings Hash × WorkspaceCommand Hash) : Prop :=
  ∀ commandTaskId recordId request principalId response after,
    call.2 = .decide commandTaskId recordId request principalId →
    request.action ∈ [DecisionAction.correct, .confirm] →
    store.receipts.lookup (commandTaskId, request.commandId) = none →
    runCommand rules call.1 store call.2 = .ok (response, after) →
    ∃ latest, after.latest recordId = some latest ∧
      effectiveStatus latest call.1.answered ∈ [RecordStatus.current, .confirmed]

theorem HashedExactly.afterCommand (hashed : HashedExactly rules store)
    {call : Surroundings Hash × WorkspaceCommand Hash}
    (unhindered : Unhindered rules store call) :
    HashedExactly rules (afterCommand rules store call) := by
  intro revision isRevision
  rcases afterCommand_cases rules store call with same | ⟨new, isNew, written, appended⟩
  · rw [same] at isRevision
    exact hashed revision isRevision
  · rw [appended] at isRevision
    rcases List.mem_append.mp isRevision with isOld | isLast
    · exact hashed revision isOld
    · rw [List.mem_singleton.mp isLast]
      have unhindered := unhindered isNew
      obtain ⟨around, command⟩ := call
      cases written with
      | created creates =>
          have kept := unhindered _ _ _ creates
          simp only [createdRevision, Revision.content, kept]
      | decided decides =>
          obtain ⟨noExpiry, kept⟩ := unhindered _ _ decides
          simp only [decidedRevision, Revision.content, kept, noExpiry, Option.map_none]

theorem latest_of_written (chained : Chained store)
    (written : Written rules around store command revision)
    (appended : after.revisions = store.revisions ++ [revision]) :
    after.latest revision.recordId = some revision := by
  rw [(written.chained chained appended).latest, WorkspaceStore.history, appended]
  have isHistory := history_append store.revisions revision store.receipts revision.recordId
  rw [if_pos rfl] at isHistory
  rw [WorkspaceStore.history] at isHistory
  rw [isHistory, List.getLast?_concat]

theorem Chained.takesEffect (chained : Chained store)
    {call : Surroundings Hash × WorkspaceCommand Hash}
    (unhindered : Unhindered rules store call) : TakesEffect rules store call := by
  obtain ⟨around, command⟩ := call
  rintro commandTaskId recordId request principalId response after rfl isAction isNew done
  rcases runCommand_cases done with
    ⟨isKnown, _⟩ | ⟨_, ⟨_, absurdity⟩ | ⟨revision, written, _, appended⟩⟩
  · exact absurd isNew isKnown
  · obtain ⟨_, _, _, absurdity⟩ := absurdity
    cases absurdity
  · have isLatest := latest_of_written chained written appended
    cases written with
    | @decided _ _ _ _ latest decision decides =>
        obtain ⟨noExpiry, _⟩ := unhindered isNew latest decision decides
        refine ⟨decidedRevision rules around commandTaskId request principalId latest decision,
          ?_, ?_⟩
        · rw [← latest_recordId decides.found]
          exact isLatest
        · rw [effectiveStatus_of_no_expiry (by exact noExpiry)]
          exact (decisionSemantics_live decides.semantics).mpr isAction

/-! ## All runs -/

/-- Every command of a run is unhindered in the store it finds. -/
def UnhinderedRun (rules : WorkspaceRules Hash)
    (calls : List (Surroundings Hash × WorkspaceCommand Hash)) : Prop :=
  ∀ before call rest, calls = before ++ call :: rest →
    Unhindered rules (runWorkspace rules before) call

theorem runWorkspace_concat (calls : List (Surroundings Hash × WorkspaceCommand Hash))
    (call : Surroundings Hash × WorkspaceCommand Hash) :
    runWorkspace rules (calls ++ [call]) = afterCommand rules (runWorkspace rules calls) call := by
  rw [runWorkspace, List.foldl_append]
  rfl

theorem runWorkspace_chained (calls : List (Surroundings Hash × WorkspaceCommand Hash)) :
    Chained (runWorkspace rules calls) := by
  induction calls using List.reverseRecOn with
  | nil => exact fun _ => trivial
  | append_singleton before call inductionHypothesis =>
      rw [runWorkspace_concat]
      exact inductionHypothesis.afterCommand call

theorem runWorkspace_spokenFor (calls : List (Surroundings Hash × WorkspaceCommand Hash)) :
    SpokenFor (runWorkspace rules calls) := by
  induction calls using List.reverseRecOn with
  | nil =>
      intro revision absurdity
      cases absurdity
  | append_singleton before call inductionHypothesis =>
      rw [runWorkspace_concat]
      exact inductionHypothesis.afterCommand call

theorem UnhinderedRun.hashed {calls : List (Surroundings Hash × WorkspaceCommand Hash)}
    (unhindered : UnhinderedRun rules calls) : HashedExactly rules (runWorkspace rules calls) := by
  induction calls using List.reverseRecOn with
  | nil =>
      intro revision absurdity
      cases absurdity
  | append_singleton before call inductionHypothesis =>
      rw [runWorkspace_concat]
      apply HashedExactly.afterCommand
      · apply inductionHypothesis
        intro earlier other rest isBefore
        apply unhindered earlier other (rest ++ [call])
        rw [isBefore, List.append_assoc, List.cons_append]
      · exact unhindered before call [] rfl

/-- In every run the revisions of a record are one chain, a command that raises or is answered from
its receipt adds none, a terminal record changes in the listed ways only, and a record speaks for
the user only while it is not expired and when the user made it so. In a run without decisions on
records that expire, equal contents have equal hashes, namely those of the contents, and what is
corrected or confirmed is current or confirmed. -/
theorem workspace_history (rules : WorkspaceRules Hash)
    (calls : List (Surroundings Hash × WorkspaceCommand Hash)) :
    Chained (runWorkspace rules calls) ∧
      (∀ call : Surroundings Hash × WorkspaceCommand Hash,
        (∃ rejection, runCommand rules call.1 (runWorkspace rules calls) call.2 =
            .error rejection) ∨
          (runWorkspace rules calls).receipts.lookup (call.2.taskId, call.2.commandId) ≠ none →
        (runWorkspace rules (calls ++ [call])).revisions = (runWorkspace rules calls).revisions) ∧
      (∀ call, ReopenedOnly rules (runWorkspace rules calls) call) ∧
      (∀ revision ∈ (runWorkspace rules calls).revisions, ∀ now,
        (project revision now).userStateAuthority = true →
          UserMade revision ∧ ∀ expiry ∈ revision.expiresAt, now < expiry) ∧
      (UnhinderedRun rules calls →
        HashedExactly rules (runWorkspace rules calls) ∧
          (∀ one ∈ (runWorkspace rules calls).revisions,
            ∀ other ∈ (runWorkspace rules calls).revisions,
              one.content = other.content → one.contentHash = other.contentHash) ∧
          ∀ call, Unhindered rules (runWorkspace rules calls) call →
            TakesEffect rules (runWorkspace rules calls) call) := by
  refine ⟨runWorkspace_chained calls, ?_, fun call => reopenedOnly rules _ call, ?_, ?_⟩
  · intro call raisesOrKnown
    rw [runWorkspace_concat, afterCommand]
    split
    · rename_i response after done
      rcases runCommand_cases done with ⟨_, rfl⟩ | ⟨isNew, _⟩
      · rfl
      · rcases raisesOrKnown with ⟨rejection, raised⟩ | isKnown
        · rw [raised] at done
          cases done
        · exact absurd isNew isKnown
    · rfl
  · intro revision isRevision now speaks
    obtain ⟨user, live⟩ := of_decide_eq_true speaks
    obtain ⟨isLive, notExpired⟩ := not_expired_of_effective live
    exact ⟨runWorkspace_spokenFor calls revision isRevision user isLive, notExpired⟩
  · intro unhindered
    have hashed := unhindered.hashed
    refine ⟨hashed, ?_, fun call => (runWorkspace_chained calls).takesEffect⟩
    intro one isOne other isOther sameContent
    rw [hashed one isOne, hashed other isOther, sameContent]

/-! ### A memory with an expiry -/

theorem bool_stays (value : Bool) : PayloadValue.bool value = .bool value := rfl

/-- Rules under which hashes are readable texts. -/
def plainRules : WorkspaceRules String where
  contentHash content :=
    content.semanticKey ++ "|" ++ content.expiresAt.getD "null" ++ "|" ++
      "|".intercalate (content.payload.map fun field => field.1 ++ "=" ++ field.2.str)
  refsHash refs := "|".intercalate (refs.map SourceRef.refId)
  casefold text := text
  split text := [text]
  strip text := text
  jsonb value := value
  jsonb_bool := bool_stays
  nested payload := .composite "{...}" (payload.map Prod.fst)
  encodedSize payload := payload.length

/-- A second of the clock, with nothing else to read. -/
def atSecond (second : Int) : Surroundings String where
  userId := "owner"
  hasTask _ := true
  sourceRow _ := none
  feedbackEvents _ := false
  checked := second * 1000000
  answered := second * 1000000
  ordered := le_rfl

/-- A memory, for ten seconds or for good. -/
def rememberCity (expiresAt : Option Int) : WorkspaceCommand String :=
  .create "task" {
    commandId := "remember"
    recordKind := .explicitMemory
    semanticKey := "home"
    payload := [("key", .string "city"), ("value", .string "Bern")]
    sourceRefs := []
    confidence := none
    expiresAt := expiresAt.map fun (second : Int) => ⟨second * 1000000, true⟩
    reason := ""
    reopenReason := none } "owner"

/-- The memory is given again, as a correction. -/
def correctCity : WorkspaceCommand String :=
  .decide "task" (.scoped .explicitMemory "home") {
    commandId := "correct"
    action := .correct
    expectedVersion := 1
    replacementPayload := some [("key", .string "city"), ("value", .string "Bern")]
    reason := "" } "owner"

theorem plainRules_stored (payload : Payload) : plainRules.stored payload = payload :=
  List.map_id payload

/-- A memory for good and its correction have the hashes of their contents. -/
theorem workspace_history_memory :
    HashedExactly plainRules
      (runWorkspace plainRules [(atSecond 0, rememberCity none), (atSecond 20, correctCity)]) := by
  refine ((workspace_history plainRules
    [(atSecond 0, rememberCity none), (atSecond 20, correctCity)]).2.2.2.2 ?_).1
  rintro before call rest isRun _
  rcases before with _ | ⟨first, _ | ⟨second, others⟩⟩
  · cases isRun
    exact fun _ _ _ _ => plainRules_stored _
  · cases isRun
    intro latest decision decides
    refine ⟨?_, plainRules_stored _⟩
    have noExpiry : ((runWorkspace plainRules [(atSecond 0, rememberCity none)]).latest
        (.scoped .explicitMemory "home")).map Revision.expiresAt = some none := by
      decide +kernel
    rw [decides.found] at noExpiry
    exact Option.some.inj noExpiry
  · simp at isRun

/-- The correction of a memory that has expired is accepted, and the memory stays expired; the two
revisions have one content and two hashes. -/
theorem corrected_record_stays_expired :
    ¬ TakesEffect plainRules (runWorkspace plainRules [(atSecond 0, rememberCity (some 10))])
        (atSecond 20, correctCity) ∧
      ∃ one ∈ (runWorkspace plainRules
          [(atSecond 0, rememberCity (some 10)), (atSecond 20, correctCity)]).revisions,
        ∃ other ∈ (runWorkspace plainRules
            [(atSecond 0, rememberCity (some 10)), (atSecond 20, correctCity)]).revisions,
          one.content = other.content ∧ one.contentHash ≠ other.contentHash := by
  constructor
  · intro takesEffect
    have accepted : (runCommand plainRules (atSecond 20)
        (runWorkspace plainRules [(atSecond 0, rememberCity (some 10))]) correctCity).isOk = true := by
      decide +kernel
    have expired : ((afterCommand plainRules
        (runWorkspace plainRules [(atSecond 0, rememberCity (some 10))])
          (atSecond 20, correctCity)).latest (.scoped .explicitMemory "home")).map
            (fun revision => effectiveStatus revision (atSecond 20).answered) = some .expired := by
      decide +kernel
    rcases done : runCommand plainRules (atSecond 20)
      (runWorkspace plainRules [(atSecond 0, rememberCity (some 10))]) correctCity with
        rejection | ⟨response, after⟩
    · rw [done] at accepted
      cases accepted
    · rw [afterCommand, done] at expired
      obtain ⟨latest, isLatest, live⟩ := takesEffect _ _ _ _ response after rfl (by decide)
        (by decide +kernel) done
      rw [isLatest, Option.map_some, Option.some.injEq] at expired
      rw [expired] at live
      simp at live
  · decide +kernel

end Shiliu.Workspace
