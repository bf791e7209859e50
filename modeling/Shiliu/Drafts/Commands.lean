/-
Module: Shiliu.Drafts.Commands
Purpose: `save`, `prepare_promotion`, `confirm_promotion` and `cancel` as the programs they are: every
  read and every append is a transaction of its own. What the answer sources and the research product
  say is data of the step that asks them; the publication is the program of the knowledge service.
Trusted boundary: `_assert_source_current`, the reconstruction of evidence and the provider-free
  materialization are answered from outside
Main exports: DraftCall, DraftPc, DraftNext, Answer, stepDraft
-/
import Shiliu.Drafts.Rows

namespace Shiliu.Drafts

open Shiliu.Library Shiliu.Research Shiliu.Knowledge

/-! ## Calls -/

/-- `DraftCommandRequest`. -/
structure DraftCommand where
  commandId : String
  expectedVersion : Nat

/-- `ConfirmDraftPromotionRequest` with the principal it comes from. -/
structure ConfirmCommand extends DraftCommand where
  candidateIds : List Ident
  principalId : String

/-- `SaveKnowledgeDraftRequest` with what its source says: the answer and whether it is current. -/
structure SaveCommand where
  sourceKind : SourceKind
  sourceId : String
  expectedSourceHash : Option String
  commandId : String
  source : DraftSource
  isCurrent : Bool

inductive DraftCall where
  | save (command : SaveCommand)
  | prepare (command : DraftCommand)
  | confirm (command : ConfirmCommand)
  | cancel (command : DraftCommand)

def DraftCall.commandId : DraftCall → String
  | .save command => command.commandId
  | .prepare command => command.commandId
  | .confirm command => command.commandId
  | .cancel command => command.commandId

/-- `request.model_dump(mode="json")`. The dumps of `prepare_promotion` and of `cancel` look alike. -/
def DraftCall.payload : DraftCall → DraftPayload
  | .save command =>
      .save command.sourceKind command.sourceId command.expectedSourceHash command.commandId
  | .prepare command => .command command.commandId command.expectedVersion
  | .confirm command => .confirm command.commandId command.expectedVersion command.candidateIds
  | .cancel command => .command command.commandId command.expectedVersion

/-- What the models of the requests admit. -/
def DraftCall.admitted (call : DraftCall) : Bool :=
  decide (1 ≤ call.commandId.length ∧ call.commandId.length ≤ 160) &&
    match call with
    | .save _ => true
    | .prepare command | .cancel command => decide (1 ≤ command.expectedVersion)
    | .confirm command =>
        decide (1 ≤ command.expectedVersion ∧ 1 ≤ command.candidateIds.length ∧
          command.candidateIds.length ≤ 32)

/-! ## What is asked outside -/

/-- What the provider-free run of a research task leaves behind: its id with the rows of its intake,
or what it raised. -/
inductive Materialized where
  | done (taskId : Ident) (uses : List EvidenceUse) (items : List IntakeItem)
  | raised (failure : DraftFailure)

/-- The answers to one step. -/
structure Answer where
  /-- What `_assert_source_current` and the reconstruction of the evidence raise. -/
  source : Option DraftFailure
  materialized : Materialized
  view : EvidenceView

/-! ## Programs -/

/-- The next transaction of a call, with what the call has read. -/
inductive DraftPc where
  | replaying
  | saving
  | expecting
  | checking (current : DraftRevision)
  | blocking (current : DraftRevision) (error : DraftError)
  | starting (current : DraftRevision)
  | materializing (started : DraftRevision)
  | failing (started : DraftRevision) (failure : DraftFailure)
  | readying (started : DraftRevision) (taskId : Ident) (candidates : List Candidate)
  | previewing (current : DraftRevision)
  | publishing (current : DraftRevision) (taskId : Ident) (request : PublishRequest)
      (pc : PublishPc)
  | confirming (current : DraftRevision) (output : PublishResult)
  | cancelling (current : DraftRevision)

inductive DraftNext where
  | goto (pc : DraftPc)
  | returned (revision : DraftRevision)
  | raised (failure : DraftFailure)

/-- Where a call starts: `save` looks at its command id and at the draft in one transaction. -/
def DraftCall.start : DraftCall → DraftPc
  | .save _ => .saving
  | _ => .replaying

/-- The first revision of a draft. -/
def SaveCommand.row (command : SaveCommand) (draftId : Ident) : DraftRevision where
  revisionId := revisionIdOf draftId 1
  draftId := draftId
  version := 1
  parentRevisionId := none
  source := command.source
  revalidationState := if command.isCurrent then .current else .needsRevalidation
  status := .saved
  materializationTaskId := none
  candidateIds := []
  promotionOutput := none
  eventKind := .saved
  commandId := command.commandId
  payload := (DraftCall.save command).payload
  reason := .draftOnly

/-- `save`. -/
def SaveCommand.step (command : SaveCommand) (store : DraftStore) : DraftStore × DraftNext :=
  if command.expectedSourceHash.any fun hash => hash ≠ "" ∧ hash ≠ command.source.answerHash then
    (store, .raised (.draft sourceHashMismatch))
  else
    match store.commandRow command.commandId with
    | some row =>
        (store, match replayed row (DraftCall.save command).payload with
          | .ok row => .returned row
          | .error failure => .raised failure)
    | none =>
        match store.current with
        | some existing => (store, .returned existing)
        | none =>
            (store.add (command.row store.draftId), .returned (command.row store.draftId))

/-- What a call does with the current revision. -/
def DraftCall.afterExpected (call : DraftCall) (current : DraftRevision) : DraftNext :=
  match call with
  | .save _ => .returned current
  | .prepare _ =>
      if current.status ∈ preparable then .goto (.checking current) else .returned current
  | .confirm _ =>
      if current.status = .confirmed then .returned current
      else if current.status = .promotionReady then .goto (.checking current)
      else .raised (.draft draftNotReady)
  | .cancel _ =>
      if current.status = .confirmed then .raised (.draft draftConfirmed)
      else .goto (.cancelling current)

/-- `confirm_promotion` compares the set that is confirmed with the preview. -/
def ConfirmCommand.afterCheck (command : ConfirmCommand) (current : DraftRevision) : DraftNext :=
  if command.candidateIds = current.candidateIds then .goto (.previewing current)
  else .raised (.draft candidateSetMismatch)

/-- The candidates of a task that wait for review. -/
def pendingCandidates (task : TaskKnowledge) : List Candidate :=
  task.candidates.rows.filter fun candidate => candidate.status = .pendingReview

/-- `set(versions) == set(expected)`. -/
def previewHolds (task : TaskKnowledge) (candidateIds : List Ident) : Bool :=
  (pendingCandidates task).all (fun candidate => candidateIds.contains candidate.candidateId) &&
    candidateIds.all fun candidateId =>
      (pendingCandidates task).any fun candidate => candidate.candidateId = candidateId

/-- The selections of a publication, with the versions that were read. -/
def selections (task : TaskKnowledge) (candidateIds : List Ident) : List Selection :=
  candidateIds.filterMap fun candidateId =>
    (task.candidates.lookup candidateId).map fun candidate =>
      ⟨candidateId, candidate.stateVersion⟩

def publication (task : TaskKnowledge) (commandId : String) (candidateIds : List Ident) :
    PublishRequest :=
  ⟨publicationId commandId, selections task candidateIds⟩

/-! ## What is appended -/

variable (call : DraftCall)

def blocked (error : DraftError) : NewRevision where
  status := .needsRevalidation
  eventKind := .revalidationBlocked
  commandId := derivedId call.commandId .blocked
  payload := call.payload
  revalidationState := some .needsRevalidation
  reason := .error error.code error.message

def materializationStarted : NewRevision where
  status := .materializing
  eventKind := .materializationStarted
  commandId := derivedId call.commandId .started
  payload := call.payload
  revalidationState := some .current

def materializationFailed (failure : DraftFailure) : NewRevision where
  status := .failed
  eventKind := .materializationFailed
  commandId := call.commandId
  payload := call.payload
  reason := .errorCode failure.code

def materializationReady (taskId : Ident) (candidates : List Candidate) : NewRevision where
  status := .promotionReady
  eventKind := .materializationReady
  commandId := call.commandId
  payload := call.payload
  materializationTaskId := some taskId
  candidateIds := some (candidates.map Candidate.candidateId)
  reason := .prepared candidates

def promotionConfirmed (output : PublishResult) (principalId : String) : NewRevision where
  status := .confirmed
  eventKind := .promotionConfirmed
  commandId := call.commandId
  payload := call.payload
  promotionOutput := some output
  reason := .confirmed principalId

def cancelled : NewRevision where
  status := .cancelled
  eventKind := .cancelled
  commandId := call.commandId
  payload := call.payload

/-! ## The steps -/

/-- An append that raises ends the call. -/
def settleAppend (store : DraftStore) (next : DraftRevision → DraftNext) :
    Except DraftFailure (DraftStore × DraftRevision) → DraftStore × DraftNext
  | .ok (after, row) => (after, next row)
  | .error failure => (store, .raised failure)

def settleRead (store : DraftStore) {Value : Type} (next : Value → DraftNext) :
    Except DraftFailure Value → DraftStore × DraftNext
  | .ok value => (store, next value)
  | .error failure => (store, .raised failure)

/-- The end of a materialization: `StorageError` passes, anything else is recorded. -/
def afterMaterialization (started : DraftRevision) (store : DraftStore) :
    Materialized → DraftStore × DraftNext
  | .done taskId uses items =>
      let task := (store.tasks taskId).intake uses items
      (store.setTask taskId task,
        match pendingCandidates task with
        | [] => .goto (.failing started (.draft candidateMissing))
        | first :: rest => .goto (.readying started taskId (first :: rest)))
  | .raised (.research .storageError) => (store, .raised (.research .storageError))
  | .raised failure => (store, .goto (.failing started failure))

/-- Where a transaction of the publication leads. -/
def afterPublication (current : DraftRevision) (taskId : Ident) (request : PublishRequest) :
    PublishNext → DraftNext
  | .goto pc => .goto (.publishing current taskId request pc)
  | .returned output => .goto (.confirming current output)
  | .raised failure => .raised (.research failure)

/-- `get_workspace`, and the comparison with the preview. -/
def preview (store : DraftStore) (current : DraftRevision) : DraftNext :=
  match current.materializationTaskId with
  | none => .raised (.research (.notFound "ResearchTask 不存在"))
  | some taskId =>
      if previewHolds (store.tasks taskId) current.candidateIds then
        let request := publication (store.tasks taskId) call.commandId current.candidateIds
        if request.valid then .goto (.publishing current taskId request (.reviewing 0 []))
        else .raised .invalidRequest
      else .goto (.blocking current previewStale)

/-- The answer of `_command_replay`. -/
def afterReplay : Option DraftRevision → DraftNext
  | some row => .returned row
  | none => .goto .expecting

variable (rules : KnowledgeRules)

/-- The next transaction of a call. -/
def stepDraft (store : DraftStore) (answer : Answer) : DraftPc → DraftStore × DraftNext
  | .replaying =>
      match call with
      | .confirm command =>
          if command.principalId = store.userId then
            settleRead store afterReplay (commandReplay store call.commandId call.payload)
          else (store, .raised (.draft draftForbidden))
      | _ => settleRead store afterReplay (commandReplay store call.commandId call.payload)
  | .saving =>
      match call with
      | .save command => command.step store
      | _ => (store, .raised (.other "AttributeError"))
  | .expecting =>
      match call with
      | .save _ => (store, .raised (.other "AttributeError"))
      | .prepare command | .cancel command =>
          settleRead store call.afterExpected (expected store command.expectedVersion)
      | .confirm command =>
          settleRead store call.afterExpected (expected store command.expectedVersion)
  | .checking current =>
      match answer.source, call with
      | some (.draft error), _ => (store, .goto (.blocking current error))
      | some failure, _ => (store, .raised failure)
      | none, .confirm command => (store, command.afterCheck current)
      | none, _ => (store, .goto (.starting current))
  | .blocking current error =>
      settleAppend store (fun _ => .raised (.draft error)) (append store current (blocked call error))
  | .starting current =>
      settleAppend store (fun started => .goto (.materializing started))
        (append store current (materializationStarted call))
  | .materializing started => afterMaterialization started store answer.materialized
  | .failing started failure =>
      settleAppend store (fun _ => .raised failure)
        (append store started (materializationFailed call failure))
  | .readying started taskId candidates =>
      settleAppend store .returned
        (append store started (materializationReady call taskId candidates))
  | .previewing current => (store, preview call store current)
  | .publishing current taskId request pc =>
      let (task, next) := request.step rules (store.tasks taskId) answer.view pc
      (store.setTask taskId task, afterPublication current taskId request next)
  | .confirming current output =>
      settleAppend store .returned
        (append store current (promotionConfirmed call output store.userId))
  | .cancelling current => settleAppend store .returned (append store current (cancelled call))

end Shiliu.Drafts
