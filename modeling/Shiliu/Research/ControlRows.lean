/-
Module: Shiliu.Research.ControlRows
Purpose: The rows of `ResearchControlService`, for one task: the questions to the user with their
  dispositions and decisions, the control requests with theirs, the resolutions of side effects, and
  the command receipts. Rows that are only ever inserted are lists in the order of insertion.
Trusted boundary: none
Main exports: InputRequest, InputDisposition, HumanDecision, ControlCall, ControlRows, ControlStore
-/
import Shiliu.Research.Kernel

namespace Shiliu.Research

open Shiliu.Library Shiliu.Storage

/-! ## Questions to the user -/

inductive InputKind where
  | clarification
  | constraintChoice
deriving DecidableEq

inductive DecisionKind where
  | clarifyGoal
  | selectConstraintOption
deriving DecidableEq

/-- `additional_properties` is `False` in every schema. -/
structure ResponseSchema where
  schema : String
  required : List String
  optional : List String
deriving DecidableEq

/-- `CANONICAL_RESPONSE_SCHEMAS`. -/
def canonicalResponseSchema : InputKind → ResponseSchema
  | .clarification =>
      { schema := "v5-a-stage4-clarification-response-v1"
        required := ["objective"]
        optional := ["success_constraints", "evidence_policy"] }
  | .constraintChoice =>
      { schema := "v5-a-stage4-constraint-choice-response-v1"
        required := ["selected_option"]
        optional := [] }

inductive InputStatus where
  | opened
  | resolved
  | cancelled
  | superseded
deriving DecidableEq

structure InputRequest where
  inputRequestId : Nat
  goalId : Option Nat
  attemptId : Nat
  sourceCheckpointId : Nat
  commandId : String
  requestKind : InputKind
  prompt : String
  choices : List String
  responseSchema : ResponseSchema
  constraintId : Option String
  ownerEpoch : Nat
  expiresAt : Option Instant

/-- `expires_at` has come. -/
def InputRequest.expired (request : InputRequest) (now : Instant) : Bool :=
  match request.expiresAt with
  | some expiresAt => expiresAt ≤ now
  | none => false

structure InputDisposition where
  insertionSeq : Nat
  inputRequestId : Nat
  status : InputStatus
  controlGeneration : Nat
  reason : String
  resultingReference : Option Nat
deriving DecidableEq

/-- The dictionary of a response, read once: its keys, `str` of the objective, and the values that
have the type their key asks for. -/
structure HumanResponse where
  canonical : String
  keys : List String
  objective : String
  successConstraints : Option (List String)
  evidencePolicy : Option String
  selectedOption : Option String
deriving DecidableEq

inductive AppliedAction where
  | goalRevision (resultId goalId attemptId : Nat)
  | humanConstraintObservation (observationId : Nat)

structure HumanDecision where
  decisionId : Nat
  inputRequestId : Nat
  commandId : String
  principalId : String
  decisionKind : DecisionKind
  response : String
  appliedAction : AppliedAction
  controlGeneration : Nat

structure HumanObservation where
  observationId : Nat
  goalId : Option Nat
  attemptId : Nat
  constraintId : Option String
  decisionId : Nat
  selectedOption : String
  evaluatorPolicyVersion : String
  controlGeneration : Nat

/-- `evaluator_policy_json`, as far as a decision reads it; `allowed_human_options` is missing when
it is no list. -/
structure EvaluatorPolicy where
  authority : Option String
  humanDecidable : Bool
  allowedHumanOptions : Option (List String)

structure ConstraintSpec where
  constraintId : String
  taskId : String
  evaluatorPolicy : EvaluatorPolicy
  evaluatorPolicyVersion : String

/-- The server has registered exactly these choices for a human to decide. -/
def EvaluatorPolicy.registers (policy : EvaluatorPolicy) (choices : List String) : Bool :=
  policy.authority = some "server_registry" ∧ policy.humanDecidable = true ∧
    policy.allowedHumanOptions = some choices

/-! ## Control requests -/

inductive ControlKind where
  | interrupt
  | resume
  | cancel
deriving DecidableEq

def ControlKind.value : ControlKind → String
  | .interrupt => "interrupt"
  | .resume => "resume"
  | .cancel => "cancel"

structure ControlRequest where
  controlRequestId : Nat
  attemptId : Option Nat
  commandId : String
  requestKind : ControlKind
  principalId : String
  expectedStateVersion : Nat
  expectedCheckpointId : Option Nat
  expectedControlGeneration : Nat
  admittedControlGeneration : Nat
  admittedOwnerEpoch : Nat

inductive ControlStatus where
  | applied
  | superseded
deriving DecidableEq

/-- `resulting_references_json`; the ids of a list come in no particular order. -/
structure ControlReferences where
  checkpointId : Option Nat := none
  resultId : Option Nat := none
  unknownSideEffectIds : List Nat := []
  cancelledInputRequestIds : List Nat := []
  resumeControlRequestId : Option Nat := none

structure ControlDisposition where
  controlRequestId : Nat
  status : ControlStatus
  observedControlGeneration : Nat
  ownerEpoch : Nat
  reason : String
  references : ControlReferences

inductive EffectResolution where
  | confirmedSucceeded
  | confirmedFailed
deriving DecidableEq

structure SideEffectResolution where
  resolutionId : Nat
  sideEffectId : Nat
  commandId : String
  principalId : String
  resolution : EffectResolution
  reason : String
  receiptHash : Option String
  resultReference : Option String
  controlGeneration : Nat
  ownerEpoch : Nat

/-! ## Commands -/

/-- The commands with their arguments. `advanceOuter` is the audit of the outer loop: the one place
where an attempt starts to wait for its user. -/
inductive ControlCommand where
  | applyControl (kind : ControlKind) (expectedStateVersion : Nat)
      (expectedCheckpointId : Option Nat) (expectedControlGeneration : Nat) (reason : String)
  | createInput (fence : Fence) (attemptId expectedCheckpointId : Nat) (kind : InputKind)
      (prompt : String) (choices : List String) (responseSchema : Option ResponseSchema)
      (constraintId : Option String) (expiresAt : Option Instant)
  | decideInput (inputRequestId expectedStateVersion expectedControlGeneration : Nat)
      (decisionKind : DecisionKind) (response : HumanResponse)
  | resolveSideEffect (sideEffectId expectedStateVersion expectedControlGeneration : Nat)
      (resolution : EffectResolution) (reason : String)
      (receiptHash resultReference : Option String)
  | advanceOuter (fence : Fence) (attemptId expectedCheckpointId : Nat)
deriving DecidableEq

/-- The rows an audit leaves beside the task: the specs it registers and its checkpoint. -/
structure BlockedAudit where
  specs : List ConstraintSpec
  stateHash : String
  statePayload : String

/-- One call, with what its transaction reads elsewhere. The lease is judged at `leaseClock`; the
service reads its own clock for the call, for the check of an expiry and for the expiry itself, and
that clock does not run back. -/
structure ControlCall where
  commandId : String
  principalId : String
  leaseClock : Instant
  now : Instant
  checkClock : Instant
  expireClock : Instant
  /-- `_latest_answer_status`. -/
  answerStatus : AnswerStatus
  audit : BlockedAudit
  command : ControlCommand
  forward : checkClock ≤ expireClock

/-- A row of `research_results` this service inserts; a cancelled task may have no attempt. -/
structure ControlResult where
  resultId : Nat
  goalId : Option Nat
  attemptId : Option Nat
  checkpointId : Option Nat
  answerStatus : AnswerStatus
  terminationReason : TerminationReason
  reasonDetail : String
  isTaskTerminal : Bool
  ownerEpoch : Nat

inductive ControlOutcome where
  | cancelPending
  | cancelled
  | blockedExternalUnknown
  | interrupted
  | resumed

inductive ControlAnswer where
  | controlled (controlRequestId : Nat) (outcome : ControlOutcome)
      (references : ControlReferences)
  | asked (inputRequestId : Nat)
  | decided (decisionId : Nat) (appliedAction : AppliedAction)
  | resolved (resolutionId sideEffectId : Nat) (status : SideEffectStatus)
      (resultId : Option Nat)
  | waiting (checkpointId : Nat)

structure ControlResponse where
  stateVersion : Nat
  controlGeneration : Nat
  ownerEpoch : Nat
  answer : ControlAnswer

/-- A receipt of one of these commands; its payload is the command with its principal. -/
structure ControlReceipt where
  commandId : String
  principalId : String
  command : ControlCommand
  response : ControlResponse
  ownerEpoch : Nat

/-! ## The rows of the task -/

structure ControlRows where
  controlGeneration : Nat
  constraintSpecs : List ConstraintSpec
  inputRequests : List InputRequest
  inputDispositions : List InputDisposition
  humanDecisions : List HumanDecision
  humanObservations : List HumanObservation
  controlRequests : List ControlRequest
  controlDispositions : List ControlDisposition
  sideEffectResolutions : List SideEffectResolution
  results : List ControlResult
  receipts : List ControlReceipt

/-- The rows of a task that was never controlled. -/
def ControlRows.empty : ControlRows := ⟨0, [], [], [], [], [], [], [], [], [], []⟩

/-- The kernel's store, and the control rows of one of its tasks. -/
structure ControlStore (Digest : Type) where
  kernel : KernelStore Digest
  rows : ControlRows

namespace ControlRows

variable (rows : ControlRows)

def inputRequest (inputRequestId : Nat) : Option InputRequest :=
  rows.inputRequests.find? fun request => request.inputRequestId = inputRequestId

/-- The dispositions of a request, oldest first. -/
def dispositionsOf (inputRequestId : Nat) : List InputDisposition :=
  rows.inputDispositions.filter fun disposition => disposition.inputRequestId = inputRequestId

/-- `_latest_input_disposition`. -/
def latestInputDisposition (inputRequestId : Nat) : Option InputDisposition :=
  (rows.dispositionsOf inputRequestId).getLast?

/-- The latest disposition is `open`. -/
def isOpen (inputRequestId : Nat) : Bool :=
  (rows.latestInputDisposition inputRequestId).map InputDisposition.status = some .opened

/-- A disposition among `resolved`, `cancelled` and `superseded`. -/
def disposed (inputRequestId : Nat) : Bool :=
  (rows.dispositionsOf inputRequestId).any fun disposition => disposition.status ≠ .opened

def latestControlDisposition (controlRequestId : Nat) : Option ControlDisposition :=
  (rows.controlDispositions.filter fun disposition =>
    disposition.controlRequestId = controlRequestId).getLast?

def constraintSpec (constraintId : String) : Option ConstraintSpec :=
  rows.constraintSpecs.find? fun spec => spec.constraintId = constraintId

/-- `_insert_input_disposition`. -/
def insertInputDisposition (inputRequestId : Nat) (status : InputStatus) (reason : String)
    (resultingReference : Option Nat) : ControlRows :=
  { rows with
    inputDispositions := rows.inputDispositions ++
      [{ insertionSeq := rows.inputDispositions.length + 1
         inputRequestId := inputRequestId
         status := status
         controlGeneration := rows.controlGeneration
         reason := reason
         resultingReference := resultingReference }] }

/-- `_insert_disposition`. -/
def insertDisposition (controlRequestId : Nat) (status : ControlStatus) (ownerEpoch : Nat)
    (reason : String) (references : ControlReferences) : ControlRows :=
  { rows with
    controlDispositions := rows.controlDispositions ++
      [{ controlRequestId := controlRequestId
         status := status
         observedControlGeneration := rows.controlGeneration
         ownerEpoch := ownerEpoch
         reason := reason
         references := references }] }

end ControlRows

end Shiliu.Research
