/-
Module: Shiliu.Workspace.Service
Purpose: The two commands on workspace records. `create` writes the first revision of a record or,
  with other sources, a further one; `decide` writes what an action makes of the latest revision.
  Both run in one transaction with their receipt, so a command that raises writes nothing and a
  command that is sent again is answered from its receipt.
Trusted boundary: what a command reads in other tables (its task, the rows its sources name, the
  feedback events of a preference) is given with it
Main exports: createSemantics, decisionSemantics, create, decide, runCommand, runWorkspace
-/
import Mathlib.Data.List.Lex
import Mathlib.Data.String.Basic
import Shiliu.Workspace.Records

set_option linter.all false

namespace Shiliu.Workspace

open Shiliu.Library

variable {Hash : Type} [DecidableEq Hash]

/-! ## Requests -/

inductive WorkspaceRejection where
  | principalMismatch
  | taskNotFound
  | payloadMismatch
  | payloadTooLarge
  | credentialField
  | sourceMissing
  | sourceBoundaryMismatch
  | assistanceControl
  | feedbackPreference
  | payloadKeys
  | explicitMemorySources
  | eventRefs
  | progressState
  | corpusObservation
  | experienceLineage
  | expiryWithoutTimezone
  | differentPrincipal
  | sameBoundary
  | reopenReason
  | recordNotFound
  | staleVersion
  | actionNotAllowed
  | replacementPayload
  | unsupportedDecision

/-- `WorkspaceSourceRef`. -/
structure WorkspaceSourceRef (Hash : Type) where
  refType : RefType
  refId : String
  taskId : Option String
  boundaryHash : Option Hash
deriving DecidableEq

/-- A `datetime`: a moment, and whether it says its timezone. -/
structure Datetime where
  moment : Int
  aware : Bool
deriving DecidableEq

structure CreateWorkspaceRecordRequest (Hash : Type) where
  commandId : String
  recordKind : RecordKind
  semanticKey : String
  payload : Payload
  sourceRefs : List (WorkspaceSourceRef Hash)
  confidence : Option String
  expiresAt : Option Datetime
  reason : String
  reopenReason : Option String
deriving DecidableEq

/-- The reopen reason; an empty one counts for none. -/
def CreateWorkspaceRecordRequest.reopened (request : CreateWorkspaceRecordRequest Hash) :
    Option String :=
  request.reopenReason.filter (· ≠ "")

structure DecideWorkspaceRecordRequest where
  commandId : String
  action : DecisionAction
  expectedVersion : Nat
  replacementPayload : Option Payload
  reason : String
deriving DecidableEq

/-- A command with the task it is sent for and the principal who sends it. -/
inductive WorkspaceCommand (Hash : Type) where
  | create (commandTaskId : String) (request : CreateWorkspaceRecordRequest Hash)
      (principalId : String)
  | decide (commandTaskId : String) (recordId : RecordId) (request : DecideWorkspaceRecordRequest)
      (principalId : String)
deriving DecidableEq

/-- What a command finds around the records: other tables, and the clock when the latest revision
is read and when the response is built. -/
structure Surroundings (Hash : Type) where
  /-- The principal of the resource context. -/
  userId : String
  hasTask : String → Bool
  /-- The hash of the row a source names, when there is one in its task. -/
  sourceRow : WorkspaceSourceRef Hash → Option Hash
  /-- The feedback events a preference rests on are what they must be. -/
  feedbackEvents : List (SourceRef Hash) → Bool
  checked : Int
  answered : Int
  ordered : checked ≤ answered

/-! ## Checks -/

/-- `SECRET_KEYS`. -/
def secretKeys : List String :=
  ["api_key", "password", "secret", "credential", "access_token", "refresh_token", "private_key"]

/-- The keys of a value and of what is in it. -/
def PayloadValue.keys : PayloadValue → List String
  | .composite _ keys => keys
  | _ => []

/-- `_assert_safe_payload`. -/
def assertSafePayload (rules : WorkspaceRules Hash) (payload : Payload) :
    Except WorkspaceRejection Unit :=
  if 32768 < rules.encodedSize payload then .error .payloadTooLarge
  else if payload.any fun field =>
      (field.1 :: field.2.keys).any fun key => rules.casefold key ∈ secretKeys then
    .error .credentialField
  else .ok ()

/-- `_require_keys`. -/
def requireKeys (rules : WorkspaceRules Hash) (payload : Payload) (keys : List String) : Bool :=
  keys.all fun key => (payload.get key).any fun value => rules.strip value.str ≠ ""

/-- `_require_multiple_event_refs`. -/
def multipleEventRefs (sourceRefs : List (SourceRef Hash)) : Bool :=
  2 ≤ (sourceRefs.filter fun ref => ref.refType = .researchEvent).length

/-- `SELF_ASSESSMENT_STATES`. -/
def selfAssessmentStates : List String := ["learned", "understood", "familiar", "mastered"]

/-- `PROGRESS_STATES`. -/
def progressStates : List String :=
  ["discovered", "reviewed", "researched", "supported", "unresolved", "conflicted", "stale"] ++
    selfAssessmentStates

/-- `CORPUS_OBSERVATION_TYPES`. -/
def corpusObservationTypes : List String :=
  ["folder", "topic", "uploader", "series", "source_availability", "search_term", "limitation"]

/-- `payload.get("user_asserted") is True`. -/
def userAsserted (payload : Payload) : Bool := payload.get "user_asserted" = some (.bool true)

/-- `_create_semantics`. -/
def createSemantics (rules : WorkspaceRules Hash) (recordKind : RecordKind) (payload : Payload)
    (sourceRefs : List (SourceRef Hash)) :
    Except WorkspaceRejection (AuthorityClass × RecordStatus) :=
  match recordKind with
  | .explicitMemory =>
      if !requireKeys rules payload ["key", "value"] then .error .payloadKeys
      else if sourceRefs ≠ [] then .error .explicitMemorySources
      else .ok (.userAuthored, .current)
  | .inferredCandidate =>
      if !requireKeys rules payload ["statement"] then .error .payloadKeys
      else if !multipleEventRefs sourceRefs then .error .eventRefs
      else .ok (.behavioralCandidate, .candidate)
  | .focusState =>
      if !requireKeys rules payload ["topic", "state"] then .error .payloadKeys
      else if sourceRefs ≠ [] then
        if !multipleEventRefs sourceRefs then .error .eventRefs
        else .ok (.behavioralCandidate, .candidate)
      else .ok (.userAuthored, .confirmed)
  | .progressObservation =>
      if !requireKeys rules payload ["topic", "state"] then .error .payloadKeys
      else
        let state := ((payload.get "state").map PayloadValue.str).getD ""
        if state ∉ progressStates then .error .progressState
        else if state ∈ selfAssessmentStates ∧ !userAsserted payload then .error .progressState
        else if state ∈ selfAssessmentStates ∧
            !payload.hasKeys ["topic", "state", "user_asserted"] then .error .progressState
        else if userAsserted payload then .ok (.userAuthored, .current)
        else if sourceRefs = [] then .error .progressState
        else .ok (.evidenceBackedObservation, .current)
  | .corpusObservation =>
      if !requireKeys rules payload ["observation_type", "value"] then .error .payloadKeys
      else if !(payload.get "observation_type").any fun value =>
          corpusObservationTypes.any fun name => value = .string name then
        .error .corpusObservation
      else if sourceRefs.map SourceRef.refType ≠ [.taxonomySnapshot] then
        .error .corpusObservation
      else .ok (.corpusSoftPrior, .current)
  | .systemExperience =>
      if !requireKeys rules payload ["observed_pattern", "outcome", "environment_fingerprint"] then
        .error .payloadKeys
      else if !([.researchTrace, .researchResult] : List RefType).all fun refType =>
          sourceRefs.any fun ref => ref.refType = refType then .error .experienceLineage
      else if (sourceRefs.filterMap fun ref => ref.taskId.filter (· ≠ "")).dedup.length ≠ 1 then
        .error .experienceLineage
      else .ok (.experienceCandidate, .observed)

/-- `ASSISTANCE_CONTROL_PREFIX`. -/
def assistanceControlPrefix : String := "assistance.control."

/-- `_validate_assistance_control`. -/
def validateAssistanceControl (rules : WorkspaceRules Hash) (semanticKey : String)
    (payload : Payload) (sourceRefs : List (SourceRef Hash)) : Bool :=
  if !semanticKey.startsWith assistanceControlPrefix then true
  else
    payload.hasKeys ["topic", "state", "user_asserted", "control", "dismissed", "candidate_id",
      "candidate_kind", "boundary_hash"] &&
    semanticKey = assistanceControlPrefix ++ payload.text "candidate_id" &&
    rules.strip (payload.text "topic") ≠ "" &&
    payload.get "state" = some (.string "reviewed") &&
    userAsserted payload &&
    payload.get "control" = some (.string "dismiss") &&
    payload.get "dismissed" ∈ [some (.bool true), some (.bool false)] &&
    payload.get "candidate_kind" ∈ [some (.string "staleness"), some (.string "collection_delta"),
      some (.string "early_project_radar")] &&
    (payload.text "boundary_hash").length = 64 &&
    sourceRefs ≠ [] &&
    sourceRefs.all fun ref =>
      ref.refType ∈ [.factRevision, .artifactRevision, .taxonomySnapshot]

/-- `ANSWER_PRESENTATION_KEYS` with the values each of them supports. -/
def answerPresentation : List (String × List String) :=
  [("answer.presentation.limitations_position", ["before_answer", "after_answer"]),
    ("answer.presentation.detail_level", ["standard", "compact"])]

/-- `_validate_feedback_preference_sources`. -/
def validateFeedbackPreference (rules : WorkspaceRules Hash) (around : Surroundings Hash)
    (sourceRefs : List (SourceRef Hash)) (semanticKey : String) (payload : Payload) : Bool :=
  payload.hasKeys ["statement"] &&
    rules.normalizedKey (((payload.get "statement").map PayloadValue.str).getD "") ∈
      (answerPresentation.lookup semanticKey).getD [] &&
    2 ≤ sourceRefs.length && sourceRefs.all (·.refType = .researchEvent) &&
    around.feedbackEvents sourceRefs

/-- `_source_href`. -/
def sourceHref (ref : WorkspaceSourceRef Hash) : String :=
  if ref.refType = .taxonomySnapshot then "/taxonomy?snapshot_id=" ++ ref.refId
  else "/research/" ++ ref.taskId.getD "None"

/-- The loop of `_validate_source_refs`. -/
def canonicalRefs (around : Surroundings Hash) :
    List (WorkspaceSourceRef Hash) → Except WorkspaceRejection (List (SourceRef Hash))
  | [] => .ok []
  | ref :: rest =>
      match around.sourceRow ref with
      | none => .error .sourceMissing
      | some boundaryHash =>
          if ref.boundaryHash.any (· ≠ boundaryHash) then .error .sourceBoundaryMismatch
          else
            (canonicalRefs around rest).map fun others =>
              ⟨ref.refType, ref.refId, ref.taskId, boundaryHash, sourceHref ref⟩ :: others

/-- `_validate_source_refs`. -/
def validateSourceRefs (around : Surroundings Hash) (refs : List (WorkspaceSourceRef Hash)) :
    Except WorkspaceRejection (List (SourceRef Hash)) :=
  let key (ref : SourceRef Hash) : List String :=
    [ref.refType.name, ref.taskId.getD "", ref.refId]
  (canonicalRefs around refs).map fun canonical =>
    canonical.mergeSort fun one other => key one ≤ key other

/-! ## Decisions -/

/-- What `_decision_semantics` returns. -/
structure Decision where
  authorityClass : AuthorityClass
  status : RecordStatus
  payload : Payload

/-- `_decision_semantics`. -/
def decisionSemantics (rules : WorkspaceRules Hash) (latest : Revision Hash)
    (action : DecisionAction) (replacementPayload : Option Payload) :
    Except WorkspaceRejection Decision :=
  let authority := latest.authorityClass
  let payload := latest.payload
  match action with
  | .correct =>
      let replacement := replacementPayload.getD []
      match latest.recordKind with
      | .systemExperience => .error .unsupportedDecision
      | .inferredCandidate | .focusState => .ok ⟨.userConfirmed, .confirmed, replacement⟩
      | .progressObservation => .ok ⟨.userConfirmed, .current, replacement⟩
      | .corpusObservation => .ok ⟨.corpusSoftPrior, .current, replacement⟩
      | .explicitMemory => .ok ⟨authority, .current, replacement⟩
  | .confirm =>
      if latest.recordKind ∉ [.inferredCandidate, .focusState] then .error .unsupportedDecision
      else .ok ⟨.userConfirmed, .confirmed, payload⟩
  | .reject =>
      if latest.recordKind ∉ [.inferredCandidate, .focusState] then .error .unsupportedDecision
      else .ok ⟨.behavioralCandidate, .rejected, payload⟩
  | .expire =>
      if latest.recordKind ∉
          [.explicitMemory, .inferredCandidate, .focusState, .progressObservation] then
        .error .unsupportedDecision
      else .ok ⟨authority, .expired, payload⟩
  | .tombstone => .ok ⟨authority, .tombstoned, payload⟩
  | .invalidate =>
      if latest.recordKind ∉ [.corpusObservation, .systemExperience] then
        .error .unsupportedDecision
      else .ok ⟨authority, .invalidated, payload⟩
  | .diagnose =>
      if latest.recordKind ≠ .systemExperience ∨ latest.status ∉ [.observed, .diagnosed] then
        .error .unsupportedDecision
      else
        .ok ⟨.experienceCandidate, .diagnosed,
          payload.set "diagnosis" (rules.nested (replacementPayload.getD []))⟩
  | .candidateSource =>
      if latest.recordKind ≠ .systemExperience ∨ latest.status ≠ .diagnosed then
        .error .unsupportedDecision
      else .ok ⟨.experienceCandidate, .candidateSource, payload⟩

/-- `validate_replacement`. -/
def replacementFits (request : DecideWorkspaceRecordRequest) : Bool :=
  request.replacementPayload.isSome = decide (request.action ∈ [.correct, .diagnose])

/-! ## The store -/

/-- What a command answers: the record, and for `create` whether nothing had to be written. -/
structure WorkspaceResponse (Hash : Type) where
  record : Projected Hash
  semanticallyDeduplicated : Bool
  suppressedNoResurrection : Bool
  deduplicated : Bool

/-- A row of `research_command_receipts`. The payload hash is taken as the command. -/
structure Receipt (Hash : Type) where
  taskId : String
  commandId : String
  command : WorkspaceCommand Hash
  response : WorkspaceResponse Hash

def Receipt.key (receipt : Receipt Hash) : String × String := (receipt.taskId, receipt.commandId)

structure WorkspaceStore (Hash : Type) where
  /-- In the order of insertion. -/
  revisions : List (Revision Hash)
  receipts : Table (@Receipt.key Hash)

/-- The revisions of a record. -/
def WorkspaceStore.history (store : WorkspaceStore Hash) (recordId : RecordId) :
    List (Revision Hash) :=
  store.revisions.filter fun revision => revision.recordId = recordId

/-- `_latest`. -/
def WorkspaceStore.latest (store : WorkspaceStore Hash) (recordId : RecordId) :
    Option (Revision Hash) :=
  (store.history recordId).argmax Revision.version

/-- `_commit_audit`: the receipt of a command with what it has written. -/
def WorkspaceStore.commit (store : WorkspaceStore Hash) (revisions : List (Revision Hash))
    (receipt : Receipt Hash) : WorkspaceStore Hash where
  revisions := store.revisions ++ revisions
  receipts := store.receipts.insert receipt

/-! ## Commands -/

/-- The checks of `create` on the request alone: the canonical sources, the semantics and the
expiry. -/
def checkCreate (rules : WorkspaceRules Hash) (around : Surroundings Hash)
    (request : CreateWorkspaceRecordRequest Hash) :
    Except WorkspaceRejection
      (List (SourceRef Hash) × (AuthorityClass × RecordStatus) × Option Int) :=
  let semanticKey := rules.normalizedKey request.semanticKey
  match assertSafePayload rules request.payload with
  | .error rejection => .error rejection
  | .ok () =>
      match validateSourceRefs around request.sourceRefs with
      | .error rejection => .error rejection
      | .ok sourceRefs =>
          if !validateAssistanceControl rules semanticKey request.payload sourceRefs then
            .error .assistanceControl
          else if request.recordKind = .inferredCandidate ∧
              (answerPresentation.lookup semanticKey).isSome ∧
              !validateFeedbackPreference rules around sourceRefs semanticKey request.payload then
            .error .feedbackPreference
          else
            match createSemantics rules request.recordKind request.payload sourceRefs with
            | .error rejection => .error rejection
            | .ok semantics =>
                if request.expiresAt.any fun expiry => !expiry.aware then
                  .error .expiryWithoutTimezone
                else .ok (sourceRefs, semantics, request.expiresAt.map Datetime.moment)

/-- The record a `create` is about. -/
def recordIdOf (rules : WorkspaceRules Hash) (store : WorkspaceStore Hash)
    (request : CreateWorkspaceRecordRequest Hash) : RecordId :=
  let semanticKey := rules.normalizedKey request.semanticKey
  if (store.latest (.legacy request.recordKind semanticKey)).isSome then
    .legacy request.recordKind semanticKey
  else .scoped request.recordKind semanticKey

/-- The row `create` inserts: the next version of its record. -/
def createdRevision (rules : WorkspaceRules Hash) (around : Surroundings Hash)
    (store : WorkspaceStore Hash) (commandTaskId : String)
    (request : CreateWorkspaceRecordRequest Hash) (principalId : String)
    (sourceRefs : List (SourceRef Hash)) (semantics : AuthorityClass × RecordStatus)
    (expiresAt : Option Int) : Revision Hash :=
  let recordId := recordIdOf rules store request
  let latest := store.latest recordId
  let version := (latest.map Revision.version).getD 0 + 1
  { recordRevisionId := ⟨recordId, version⟩
    recordId := recordId
    version := version
    parentRevisionId := latest.map Revision.recordRevisionId
    commandTaskId := commandTaskId
    recordKind := request.recordKind
    authorityClass := semantics.1
    status := semantics.2
    semanticKey := rules.normalizedKey request.semanticKey
    payload := rules.stored request.payload
    sourceRefs := sourceRefs
    sourceBoundaryHash := rules.refsHash sourceRefs
    confidence := request.confidence
    expiresAt := expiresAt
    decisionAction := .create
    reason := request.reopened.getD request.reason
    principalId := principalId
    contentHash := rules.contentHash {
      recordKind := request.recordKind
      authorityClass := semantics.1
      status := semantics.2
      semanticKey := rules.normalizedKey request.semanticKey
      payload := request.payload
      sourceRefs := sourceRefs
      confidence := request.confidence
      expiresAt := expiresAt.map expiresValue }
    commandId := request.commandId
    createdAt := around.answered }

/-- What `create` finds out about an earlier revision: the content is there already (`some`), or a
further revision may be written (`none`). -/
def checkLatest (rules : WorkspaceRules Hash) (around : Surroundings Hash)
    (request : CreateWorkspaceRecordRequest Hash) (principalId : String)
    (sourceRefs : List (SourceRef Hash)) (expiresAt : Option Int) (latest : Revision Hash) :
    Except WorkspaceRejection (Option (Projected Hash)) :=
  if (rules.normalizedKey request.semanticKey).startsWith assistanceControlPrefix ∧
      latest.principalId ≠ principalId then .error .differentPrincipal
  else if latest.sourceBoundaryHash = rules.refsHash sourceRefs then
    if latest.payload = request.payload ∧ latest.confidence = request.confidence ∧
        latest.expiresAt = expiresAt then
      .ok (some (project latest around.checked))
    else .error .sameBoundary
  else if effectiveStatus latest around.checked ∈ terminalStatuses ∧
      request.reopened = none then .error .reopenReason
  else .ok none

/-- The commit of `create`, with the revision it is about. -/
def createResponse (projected : Projected Hash) (written : Bool) : WorkspaceResponse Hash where
  record := projected
  semanticallyDeduplicated := !written
  suppressedNoResurrection := !written && projected.effectiveStatus ∈ terminalStatuses
  deduplicated := false

/-- `create`, after its receipt was looked for. -/
def create (rules : WorkspaceRules Hash) (around : Surroundings Hash)
    (store : WorkspaceStore Hash) (commandTaskId : String)
    (request : CreateWorkspaceRecordRequest Hash) (principalId : String) :
    Except WorkspaceRejection (WorkspaceResponse Hash × WorkspaceStore Hash) :=
  let receipt (response : WorkspaceResponse Hash) : Receipt Hash :=
    ⟨commandTaskId, request.commandId, .create commandTaskId request principalId, response⟩
  match checkCreate rules around request with
  | .error rejection => .error rejection
  | .ok (sourceRefs, semantics, expiresAt) =>
      let revision := createdRevision rules around store commandTaskId request principalId
        sourceRefs semantics expiresAt
      let response := createResponse (project revision around.answered) true
      match store.latest (recordIdOf rules store request) with
      | none => .ok (response, store.commit [revision] (receipt response))
      | some latest =>
          match checkLatest rules around request principalId sourceRefs expiresAt latest with
          | .error rejection => .error rejection
          | .ok (some projected) =>
              .ok (createResponse projected false,
                store.commit [] (receipt (createResponse projected false)))
          | .ok none => .ok (response, store.commit [revision] (receipt response))

/-- The row `decide` inserts. The expiry is taken over, and so is the boundary. -/
def decidedRevision (rules : WorkspaceRules Hash) (around : Surroundings Hash)
    (commandTaskId : String) (request : DecideWorkspaceRecordRequest) (principalId : String)
    (latest : Revision Hash) (decision : Decision) : Revision Hash :=
  { recordRevisionId := ⟨latest.recordId, latest.version + 1⟩
    recordId := latest.recordId
    version := latest.version + 1
    parentRevisionId := some latest.recordRevisionId
    commandTaskId := commandTaskId
    recordKind := latest.recordKind
    authorityClass := decision.authorityClass
    status := decision.status
    semanticKey := latest.semanticKey
    payload := rules.stored decision.payload
    sourceRefs := latest.sourceRefs
    sourceBoundaryHash := latest.sourceBoundaryHash
    confidence := latest.confidence
    expiresAt := latest.expiresAt
    decisionAction := .decided request.action
    reason := request.reason
    principalId := principalId
    contentHash := rules.contentHash {
      recordKind := latest.recordKind
      authorityClass := decision.authorityClass
      status := decision.status
      semanticKey := latest.semanticKey
      payload := decision.payload
      sourceRefs := latest.sourceRefs
      confidence := latest.confidence
      expiresAt := latest.expiresAt.map timestampText }
    commandId := request.commandId
    createdAt := around.answered }

/-- The checks of `decide` on what a decision makes of the latest revision. -/
def checkDecision (rules : WorkspaceRules Hash) (around : Surroundings Hash)
    (action : DecisionAction) (latest : Revision Hash) (decision : Decision) :
    Except WorkspaceRejection Unit :=
  match assertSafePayload rules decision.payload with
  | .error rejection => .error rejection
  | .ok () =>
      if !validateAssistanceControl rules latest.semanticKey decision.payload
          latest.sourceRefs then .error .assistanceControl
      else if latest.recordKind = .inferredCandidate ∧
          (answerPresentation.lookup latest.semanticKey).isSome ∧ action = .confirm ∧
          !validateFeedbackPreference rules around latest.sourceRefs latest.semanticKey
            decision.payload then .error .feedbackPreference
      else (createSemantics rules latest.recordKind decision.payload latest.sourceRefs).map
        fun _ => ()

/-- `decide`, after its receipt was looked for. -/
def decide (rules : WorkspaceRules Hash) (around : Surroundings Hash)
    (store : WorkspaceStore Hash) (commandTaskId : String) (recordId : RecordId)
    (request : DecideWorkspaceRecordRequest) (principalId : String) :
    Except WorkspaceRejection (WorkspaceResponse Hash × WorkspaceStore Hash) :=
  match store.latest recordId with
  | none => .error .recordNotFound
  | some latest =>
      if latest.semanticKey.startsWith assistanceControlPrefix ∧
          latest.principalId ≠ principalId then .error .differentPrincipal
      else if latest.version ≠ request.expectedVersion then .error .staleVersion
      else if request.action ∉ (project latest around.checked).allowedActions then
        .error .actionNotAllowed
      else
        match decisionSemantics rules latest request.action request.replacementPayload with
        | .error rejection => .error rejection
        | .ok decision =>
            match checkDecision rules around request.action latest decision with
            | .error rejection => .error rejection
            | .ok () =>
                let revision := decidedRevision rules around commandTaskId request principalId
                  latest decision
                let response : WorkspaceResponse Hash :=
                  ⟨project revision around.answered, false, false, false⟩
                .ok (response, store.commit [revision] ⟨commandTaskId, request.commandId,
                  .decide commandTaskId recordId request principalId, response⟩)

def WorkspaceCommand.taskId : WorkspaceCommand Hash → String
  | .create commandTaskId _ _ => commandTaskId
  | .decide commandTaskId _ _ _ => commandTaskId

def WorkspaceCommand.commandId : WorkspaceCommand Hash → String
  | .create _ request _ => request.commandId
  | .decide _ _ request _ => request.commandId

def WorkspaceCommand.principalId : WorkspaceCommand Hash → String
  | .create _ _ principalId => principalId
  | .decide _ _ _ principalId => principalId

/-- The work of a command. -/
def perform (rules : WorkspaceRules Hash) (around : Surroundings Hash)
    (store : WorkspaceStore Hash) :
    WorkspaceCommand Hash →
      Except WorkspaceRejection (WorkspaceResponse Hash × WorkspaceStore Hash)
  | .create commandTaskId request principalId =>
      create rules around store commandTaskId request principalId
  | .decide commandTaskId recordId request principalId =>
      if !replacementFits request then .error .replacementPayload
      else decide rules around store commandTaskId recordId request principalId

/-- A command: a principal of the workspace, a task, a receipt that answers it, or its work. -/
def runCommand (rules : WorkspaceRules Hash) (around : Surroundings Hash)
    (store : WorkspaceStore Hash) (command : WorkspaceCommand Hash) :
    Except WorkspaceRejection (WorkspaceResponse Hash × WorkspaceStore Hash) :=
  if command.principalId ≠ around.userId then .error .principalMismatch
  else if !around.hasTask command.taskId then .error .taskNotFound
  else
    match store.receipts.lookup (command.taskId, command.commandId) with
    | some receipt =>
        if receipt.command ≠ command then .error .payloadMismatch
        else .ok ({ receipt.response with deduplicated := true }, store)
    | none => perform rules around store command

/-- The store after a command: a command that raises has written nothing. -/
def afterCommand (rules : WorkspaceRules Hash) (store : WorkspaceStore Hash)
    (call : Surroundings Hash × WorkspaceCommand Hash) : WorkspaceStore Hash :=
  match runCommand rules call.1 store call.2 with
  | .ok (_, after) => after
  | .error _ => store

def emptyStore : WorkspaceStore Hash := ⟨[], Table.empty _⟩

/-- Commands one after the other. -/
def runWorkspace (rules : WorkspaceRules Hash)
    (calls : List (Surroundings Hash × WorkspaceCommand Hash)) : WorkspaceStore Hash :=
  calls.foldl (afterCommand rules) emptyStore

end Shiliu.Workspace
