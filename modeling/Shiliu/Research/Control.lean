/-
Module: Shiliu.Research.Control
Purpose: The commands of `ResearchControlService` on one task, each as the transaction it runs, with
  the audit of the outer loop that makes an attempt wait and the reading that expires questions. The
  driver refuses an explicit commit inside a transaction block, which ends the transaction.
Trusted boundary: none
Main exports: ControlPolicy, resumeAuthority, applyControl, getStatus, InputAction, stepInputs
-/
import Shiliu.Research.ControlRows

set_option linter.all false

namespace Shiliu.Research

open Shiliu.Library Shiliu.Storage

variable {Digest : Type}

/-- What the service is configured with: the registry of principals, how a text is quoted in a
message, and whether an evidence policy names `receipt_bound_provider` as its execution. -/
structure ControlPolicy where
  allows : String → String → Bool
  quoted : String → String
  bindsProvider : String → Bool

/-- `require`. -/
def ControlPolicy.require (policy : ControlPolicy) (principalId capability : String) :
    Except ResearchFailure Unit :=
  ensure (policy.allows principalId capability = true)
    (.forbidden ("server principal " ++ policy.quoted principalId ++ " lacks " ++
      policy.quoted capability ++ " capability"))

/-! ## Reading -/

namespace ResearchTask

variable (task : ResearchTask Digest)

/-- `_active_attempt`. -/
def activeAttempt : Option Attempt :=
  (task.attempts.rows.filter Attempt.unfinished).argmax Attempt.ordinal

/-- The status of an attempt. -/
def attemptStatus (attemptId : Nat) : Option AttemptStatus :=
  (task.attempts.lookup attemptId).map Attempt.status

/-- The effects in flight or unknown. -/
def unresolvedIds : List Nat :=
  (task.sideEffects.rows.filter SideEffect.unresolved).map SideEffect.sideEffectId

end ResearchTask

/-- `_assert_control_expected`. -/
def assertControlExpected (task : TaskRow) (rows : ControlRows)
    (expectedStateVersion expectedControlGeneration : Nat) : Except ResearchFailure Unit := do
  ensure (task.stateVersion = expectedStateVersion)
    (.conflict "stale task state for control mutation")
  ensure (rows.controlGeneration = expectedControlGeneration)
    (.conflict "stale control generation")

/-- `_assert_checkpoint`. -/
def assertCheckpoint (latest : Option Checkpoint) (expectedCheckpointId : Option Nat) :
    Except ResearchFailure Unit :=
  ensure (latest.map Checkpoint.checkpointId = expectedCheckpointId)
    (.conflict "stale expected checkpoint for control mutation")

/-! ## Questions that end -/

namespace ControlRows

variable (rows : ControlRows)

/-- One disposition for each request of a list. -/
def disposeAll (requests : List InputRequest) (status : InputStatus) (reason : String)
    (resultingReference : Option Nat) : ControlRows :=
  requests.foldl (fun rows request =>
    rows.insertInputDisposition request.inputRequestId status reason resultingReference) rows

/-- The open requests whose expiry has come. -/
def dueInputs (now : Instant) : List InputRequest :=
  rows.inputRequests.filter fun request =>
    rows.isOpen request.inputRequestId && request.expired now

/-- `_expire_open_inputs`: the rows, and the requests it expired. -/
def expireOpenInputs (now : Instant) : ControlRows × List Nat :=
  (rows.disposeAll (rows.dueInputs now) .superseded "expired" none,
    (rows.dueInputs now).map InputRequest.inputRequestId)

def openInputs : List InputRequest :=
  rows.inputRequests.filter fun request => rows.isOpen request.inputRequestId

/-- `_cancel_open_inputs`. -/
def cancelOpenInputs (controlRequestId : Nat) : ControlRows × List Nat :=
  (rows.disposeAll rows.openInputs .cancelled "task_cancelled" (some controlRequestId),
    rows.openInputs.map InputRequest.inputRequestId)

end ControlRows

/-! ## The right to resume -/

inductive ResumeAuthority where
  | input (inputRequestId decisionId : Nat)
  | interrupt (controlRequestId : Nat)

section Authority

variable (rows : ControlRows) (attemptId checkpointId : Nat)

/-- A request that a decision of this generation has resolved, asked on the checkpoint. -/
def inputAuthority : Option ResumeAuthority :=
  rows.inputDispositions.reverse.findSome? fun disposition =>
    if rows.latestInputDisposition disposition.inputRequestId = some disposition ∧
        disposition.status = .resolved ∧
        disposition.controlGeneration = rows.controlGeneration then
      match rows.inputRequest disposition.inputRequestId with
      | none => none
      | some request =>
          if request.attemptId = attemptId ∧ request.sourceCheckpointId = checkpointId then
            (rows.humanDecisions.find? fun decision =>
              some decision.decisionId = disposition.resultingReference ∧
                decision.inputRequestId = request.inputRequestId ∧
                decision.controlGeneration = rows.controlGeneration).map fun decision =>
                  .input request.inputRequestId decision.decisionId
          else none
    else none

/-- The resolutions of the effects an interrupt left unknown are complete, and the newest control
act is the last of them. -/
def resolvedSince (admittedGeneration : Nat) (unknownIds : List Nat) : Bool :=
  let resolutions := rows.sideEffectResolutions.filter fun resolution =>
    resolution.sideEffectId ∈ unknownIds
  rows.controlRequests.all (fun request =>
      request.admittedControlGeneration ≤ admittedGeneration) &&
    rows.humanDecisions.all (fun decision => decision.controlGeneration ≤ admittedGeneration) &&
    unknownIds.all (fun unknownId =>
      unknownId ∈ resolutions.map SideEffectResolution.sideEffectId) &&
    (resolutions.map SideEffectResolution.controlGeneration).foldr max 0 = rows.controlGeneration

/-- The interrupt of the attempt that a resume may consume. -/
def interruptStands (request : ControlRequest) : Bool :=
  match rows.latestControlDisposition request.controlRequestId with
  | none => false
  | some disposition =>
      let unknownIds := disposition.references.unknownSideEffectIds
      let admittedGeneration := request.admittedControlGeneration
      request.attemptId = some attemptId && request.requestKind = .interrupt &&
        disposition.status = .applied &&
        disposition.references.checkpointId = some checkpointId &&
        if unknownIds = [] then admittedGeneration = rows.controlGeneration
        else
          admittedGeneration < rows.controlGeneration &&
            resolvedSince rows admittedGeneration unknownIds

/-- Generations only grow, so the newest request comes first. -/
def interruptAuthority : Option ResumeAuthority :=
  (rows.controlRequests.reverse.find? (interruptStands rows attemptId checkpointId)).map
    fun request => .interrupt request.controlRequestId

/-- `_resume_authority`. -/
def resumeAuthority (task : ResearchTask Digest) : Option ResumeAuthority :=
  if task.status ≠ .blocked ∧ task.status ≠ .waitingUser then none
  else if task.sideEffects.count SideEffect.unresolved ≠ 0 then none
  else
    match inputAuthority rows attemptId checkpointId with
    | some authority => some authority
    | none => interruptAuthority rows attemptId checkpointId

/-- `_consume_resume_authority`. -/
def consumeResumeAuthority (authority : ResumeAuthority) (resumeRequestId ownerEpoch : Nat) :
    ControlRows :=
  match authority with
  | .interrupt controlRequestId =>
      rows.insertDisposition controlRequestId .superseded ownerEpoch "consumed_by_resume"
        { resumeControlRequestId := some resumeRequestId }
  | .input inputRequestId _ =>
      rows.insertInputDisposition inputRequestId .superseded "consumed_by_resume"
        (some resumeRequestId)

end Authority

/-! ## Writes of the task -/

namespace ResearchTask

variable (task : ResearchTask Digest)

/-- `_fence`; the row is locked, so the update finds it as it was read. -/
def fenced : ResearchTask Digest :=
  let ownerEpoch := max 1 (task.lease.epoch + 1)
  { task.advanced.bindAttempts ownerEpoch with lease := ⟨none, none, ownerEpoch⟩ }

/-- `UPDATE research_attempts SET status=…` and `UPDATE research_tasks SET status=…`. -/
def setStatus (attemptId : Nat) (attemptStatus : AttemptStatus) (status : TaskStatus) :
    ResearchTask Digest :=
  { task.changeAttempt attemptId
      ⟨fun attempt => { attempt with status := attemptStatus }, fun _ => rfl⟩ with
    status := status }

/-- The attempt, when there is one, ends with a result. -/
def endAttempt (attempt : Option Attempt) (resultId : Nat) : ResearchTask Digest :=
  match attempt with
  | none => task
  | some attempt =>
      task.changeAttempt attempt.attemptId
        ⟨fun row => { row with status := .terminal, resultId := some resultId }, fun _ => rfl⟩

theorem unknown_sideEffectId (effect : SideEffect) :
    ({ effect with status := .unknown } : SideEffect).sideEffectId = effect.sideEffectId := rfl

/-- The effects in flight become unknown. -/
def loseEffects : ResearchTask Digest :=
  { task with
    sideEffects := task.sideEffects.updateWhere (fun effect => effect.status = .inFlight)
      ⟨fun effect => { effect with status := .unknown }, unknown_sideEffectId⟩ }

/-- The reserved effects fail. -/
def failReserved : ResearchTask Digest :=
  { task with
    sideEffects := task.sideEffects.updateWhere (fun effect => effect.status = .reserved)
      ⟨fun effect => { effect with status := .failed, ownerEpoch := task.lease.epoch },
        fun _ => rfl⟩ }

/-- `_clone_checkpoint`. -/
def cloneCheckpoint (store : KernelStore Digest) (checkpoint : Checkpoint) : ResearchTask Digest :=
  { task with
    checkpoints := task.checkpoints ++
      [{ checkpoint with
         checkpointId := store.nextId
         parentCheckpointId := some checkpoint.checkpointId
         sequence := checkpoint.sequence + 1
         isComplete := true
         ownerEpoch := task.lease.epoch }] }

def changeExecution (change : ExecutionMetadata → ExecutionMetadata) : ResearchTask Digest :=
  { task with execution := task.execution.map change }

end ResearchTask

/-- What a resume makes of the execution metadata. -/
def resumedExecution (taskId : String) (execution : ExecutionMetadata) : ExecutionMetadata :=
  { execution with
    schedulingIntent := .manual
    schedulingStatus := .queued
    runCommandId := some ("web:provider-research:" ++ taskId ++ ":run")
    resumeReason := some "control_resume_applied"
    manualGeneration := execution.manualGeneration + 1
    automaticFailureCount := 0
    nextRetryAt := none }

/-- What an interrupt and a cancel make of it. -/
def stoppedExecution (schedulingStatus : SchedulingStatus) (resumeReason : String)
    (execution : ExecutionMetadata) : ExecutionMetadata :=
  { execution with
    schedulingIntent := .none
    schedulingStatus := schedulingStatus
    resumeReason := some resumeReason
    nextRetryAt := none }

/-- What a body leaves behind: the task, its control rows, and the answer. -/
structure ControlCommit (Digest : Type) where
  task : ResearchTask Digest
  rows : ControlRows
  response : ControlResponse

section Bodies

variable (store : KernelStore Digest) (rows : ControlRows) (call : ControlCall)
  (task : ResearchTask Digest)

/-- The answer of a command that has fenced the task. -/
def fencedResponse (expectedStateVersion : Nat) (answer : ControlAnswer) : ControlResponse :=
  { stateVersion := expectedStateVersion + 1
    controlGeneration := rows.controlGeneration + 1
    ownerEpoch := task.fenced.lease.epoch
    answer := answer }

/-! ## `apply_control` -/

/-- The control rows after the fence and `_insert_control_records`. -/
def admitControl (kind : ControlKind) (attemptId : Option Nat) (expectedStateVersion : Nat)
    (expectedCheckpointId : Option Nat) (expectedControlGeneration : Nat) : ControlRows :=
  { rows with
    controlGeneration := rows.controlGeneration + 1
    controlRequests := rows.controlRequests ++
      [{ controlRequestId := store.nextId
         attemptId := attemptId
         commandId := call.commandId
         requestKind := kind
         principalId := call.principalId
         expectedStateVersion := expectedStateVersion
         expectedCheckpointId := expectedCheckpointId
         expectedControlGeneration := expectedControlGeneration
         admittedControlGeneration := rows.controlGeneration + 1
         admittedOwnerEpoch := task.fenced.lease.epoch }] }

/-- `_terminal_cancel`: the row it inserts. -/
def cancelResult (attempt : Option Attempt) (checkpointId : Option Nat) (reason : String) :
    ControlResult :=
  { resultId := store.nextId
    goalId := (attempt.map Attempt.goalId).getD task.activeGoalId
    attemptId := attempt.map Attempt.attemptId
    checkpointId := checkpointId
    answerStatus := call.answerStatus
    terminationReason := .cancelled
    reasonDetail := if reason = "" then "cancel requested" else reason
    isTaskTerminal := true
    ownerEpoch := task.fenced.lease.epoch }

/-- `_terminal_cancel`: the task it leaves. -/
def terminalCancel (attempt : Option Attempt) : ResearchTask Digest :=
  { task.endAttempt attempt store.nextId with
    status := .terminal
    terminalResultId := some store.nextId }

/-- `interrupt`. -/
def interruptedTask (attempt : Attempt) (latest : Option Checkpoint) : ResearchTask Digest :=
  let lost := task.fenced.loseEffects
  let kept :=
    match latest with
    | some checkpoint =>
        if task.unresolvedIds = [] then lost.cloneCheckpoint store checkpoint else lost
    | none => lost
  (kept.setStatus attempt.attemptId .blocked .blocked).changeExecution
    (if task.unresolvedIds = [] then
      stoppedExecution .manualRequired "control_interrupt_applied"
    else stoppedExecution .blocked "provider_outcome_unknown")

/-- The checkpoint an interrupt refers to. -/
def interruptedCheckpoint (latest : Option Checkpoint) : Option Nat :=
  if task.unresolvedIds = [] then latest.map fun _ => store.nextId
  else latest.map Checkpoint.checkpointId

/-- `cancel`. -/
def cancelledTask (attempt : Option Attempt) : ResearchTask Digest :=
  let failed := task.fenced.loseEffects.failReserved
  if task.unresolvedIds = [] then
    (terminalCancel store failed attempt).changeExecution
      (stoppedExecution .complete "control_cancel_applied")
  else
    ((match attempt with
      | some attempt => failed.setStatus attempt.attemptId .blocked .blocked
      | none => { failed with status := .blocked })).changeExecution
        (stoppedExecution .blocked "cancel_pending_unknown")

/-- `resume`. -/
def resumedTask (attempt : Attempt) (checkpoint : Checkpoint) : ResearchTask Digest :=
  ((task.fenced.cloneCheckpoint store checkpoint).setStatus attempt.attemptId .running
    .running).changeExecution (resumedExecution task.taskId)

/-- The answer and the `applied` disposition of a control request. -/
def appliedControl (after : ResearchTask Digest) (admitted : ControlRows)
    (expectedStateVersion : Nat) (reason : String) (outcome : ControlOutcome)
    (references : ControlReferences) : ControlCommit Digest :=
  { task := after
    rows := admitted.insertDisposition store.nextId .applied task.fenced.lease.epoch reason
      references
    response := fencedResponse rows task expectedStateVersion
      (.controlled store.nextId outcome references) }

/-- The branch of `apply_control` for an interrupt. -/
def applyInterrupt (attempt : Attempt) (latest : Option Checkpoint) (expectedStateVersion : Nat)
    (admitted : ControlRows) (reason : String) : ControlCommit Digest :=
  appliedControl store rows task (interruptedTask store task attempt latest) admitted
    expectedStateVersion reason
    (if task.unresolvedIds = [] then .interrupted else .blockedExternalUnknown)
    { checkpointId := interruptedCheckpoint store task latest
      unknownSideEffectIds := task.unresolvedIds }

/-- The branch for a cancel. -/
def applyCancel (attempt : Option Attempt) (expectedStateVersion : Nat)
    (expectedCheckpointId : Option Nat) (admitted : ControlRows) (reason : String) :
    ControlCommit Digest :=
  let cancelled := admitted.cancelOpenInputs store.nextId
  let terminated :=
    if task.unresolvedIds = [] then
      { cancelled.1 with
        results := cancelled.1.results ++
          [cancelResult store call task attempt expectedCheckpointId reason] }
    else cancelled.1
  appliedControl store rows task (cancelledTask store task attempt) terminated
    expectedStateVersion reason
    (if task.unresolvedIds = [] then .cancelled else .cancelPending)
    { checkpointId := expectedCheckpointId
      resultId := if task.unresolvedIds = [] then some store.nextId else none
      unknownSideEffectIds := task.unresolvedIds
      cancelledInputRequestIds := cancelled.2 }

/-- The branch for a resume. -/
def applyResume (attempt : Attempt) (checkpoint : Checkpoint) (authority : ResumeAuthority)
    (expectedStateVersion : Nat) (admitted : ControlRows) (reason : String) :
    ControlCommit Digest :=
  appliedControl store rows task (resumedTask store task attempt checkpoint)
    (consumeResumeAuthority admitted authority store.nextId task.fenced.lease.epoch)
    expectedStateVersion reason .resumed { checkpointId := some store.nextId }

/-- The check of the execution metadata before a resume. -/
def assertResumable : Option ExecutionMetadata → Except ResearchFailure Unit
  | none => .ok ()
  | some execution => assertTiming execution

/-- `apply_control`, after its receipt. -/
def applyControl (kind : ControlKind) (expectedStateVersion : Nat)
    (expectedCheckpointId : Option Nat) (expectedControlGeneration : Nat) (reason : String) :
    Except ResearchFailure (ControlCommit Digest) := do
  task.assertNonterminal
  assertControlExpected task.toTaskRow rows expectedStateVersion expectedControlGeneration
  let attempt := task.activeAttempt
  let latest := attempt.bind fun attempt => task.latestCheckpoint attempt.attemptId
  assertCheckpoint latest expectedCheckpointId
  let admitted := admitControl store rows call task kind (attempt.map Attempt.attemptId)
    expectedStateVersion expectedCheckpointId expectedControlGeneration
  match kind, attempt, latest with
  | .cancel, attempt, _ =>
      return applyCancel store rows call task attempt expectedStateVersion expectedCheckpointId
        admitted reason
  | kind, none, _ => .error (.unsafeState (kind.value ++ " requires an active Attempt"))
  | .interrupt, some attempt, latest =>
      return applyInterrupt store rows task attempt latest expectedStateVersion admitted reason
  | .resume, some _, none =>
      .error (.unsafeState "resume requires a complete current checkpoint")
  | .resume, some attempt, some checkpoint => do
      match resumeAuthority rows attempt.attemptId checkpoint.checkpointId task with
      | none => .error (.unsafeState "resume lacks unconsumed current pause lineage")
      | some authority => do
          assertResumable task.execution
          return applyResume store rows task attempt checkpoint authority expectedStateVersion
            admitted reason

/-! ## `create_input` -/

/-- The check of a `constraint_choice` against the server's registry. -/
def assertConstraintChoice (kind : InputKind) (choices : List String)
    (constraintId : Option String) : Except ResearchFailure Unit :=
  match kind with
  | .clarification => .ok ()
  | .constraintChoice =>
      match constraintId with
      | none => .error (.validation "constraint_choice requires constraint_id and choices")
      | some constraintId => do
          ensure (choices ≠ [])
            (.validation "constraint_choice requires constraint_id and choices")
          match rows.constraintSpec constraintId with
          | none => .error (.validation "constraint identity mismatch")
          | some spec => do
              ensure (spec.taskId = task.taskId) (.validation "constraint identity mismatch")
              ensure (spec.evaluatorPolicy.registers choices = true)
                (.forbidden "constraint is not server-registered as exact human_decidable")

/-- The row `create_input` inserts. -/
def newInputRequest (fence : Fence) (attempt : Attempt) (expectedCheckpointId : Nat)
    (kind : InputKind) (prompt : String) (choices : List String) (constraintId : Option String)
    (expiresAt : Option Instant) : InputRequest :=
  { inputRequestId := store.nextId
    goalId := attempt.goalId
    attemptId := attempt.attemptId
    sourceCheckpointId := expectedCheckpointId
    commandId := call.commandId
    requestKind := kind
    prompt := prompt
    choices := choices
    responseSchema := canonicalResponseSchema kind
    constraintId := constraintId
    ownerEpoch := fence.ownerEpoch
    expiresAt := expiresAt }

/-- The control rows with a new request and its `open` disposition. -/
def ControlRows.ask (rows : ControlRows) (request : InputRequest) : ControlRows :=
  ControlRows.insertInputDisposition
    { rows with inputRequests := rows.inputRequests ++ [request] } request.inputRequestId .opened ""
    none

/-- `create_input`, after its receipt. -/
def createInput (fence : Fence) (attemptId expectedCheckpointId : Nat) (kind : InputKind)
    (prompt : String) (choices : List String) (constraintId : Option String)
    (expiresAt : Option Instant) : Except ResearchFailure (ControlCommit Digest) := do
  let found ← store.attempt attemptId
  task.assertFence fence call.leaseClock
  ensure (task.status = .waitingUser ∧ found.2.status = .waitingUser)
    (.unsafeState "InputRequest requires waiting_user state")
  ensure (found.1 = task.taskId)
    (.validation "InputRequest Attempt belongs to another Task")
  assertCheckpoint (task.latestCheckpoint attemptId) (some expectedCheckpointId)
  let expired := (rows.expireOpenInputs call.now).1
  ensure (expired.inputRequests.all fun request => expired.disposed request.inputRequestId)
    (.conflict "Task already has an open InputRequest")
  assertConstraintChoice rows task kind choices constraintId
  let request := newInputRequest store call fence found.2 expectedCheckpointId kind prompt choices
    constraintId expiresAt
  return { task := task.advanced
           rows := expired.ask request
           response :=
             { stateVersion := fence.expectedStateVersion + 1
               controlGeneration := rows.controlGeneration
               ownerEpoch := fence.ownerEpoch
               answer := .asked request.inputRequestId } }

/-! ## `decide_input` -/

/-- `connection.commit()` inside `connection.transaction()`: the driver raises, and the block rolls
back what the transaction has written. -/
def explicitCommit : Except ResearchFailure Unit := .error .storageError

def DecisionKind.answers : DecisionKind → InputKind → Bool
  | .clarifyGoal, .clarification => true
  | .selectConstraintOption, .constraintChoice => true
  | _, _ => false

/-- The checks of the answer against the request, before the attempt is read. -/
def assertResponse (request : InputRequest) (decisionKind : DecisionKind)
    (response : HumanResponse) : Except ResearchFailure Unit := do
  let schema := canonicalResponseSchema request.requestKind
  ensure (request.responseSchema = schema)
    (.unsafeState "stored InputRequest response schema mismatch")
  ensure (decisionKind.answers request.requestKind = true)
    (.validation
      (match request.requestKind with
      | .clarification => "decision kind does not match clarification"
      | .constraintChoice => "decision kind does not match constraint choice"))
  ensure (∀ key ∈ response.keys, key ∈ schema.required ++ schema.optional)
    (.validation "input response contains unsupported fields")
  ensure (∀ key ∈ schema.required, key ∈ response.keys)
    (.validation "input response is missing required fields")

/-- The rows a decision leaves beside what it does to the task. -/
def decidedRows (request : InputRequest) (decisionKind : DecisionKind) (response : HumanResponse)
    (action : AppliedAction) : ControlRows :=
  ControlRows.insertInputDisposition
    { rows with
      controlGeneration := rows.controlGeneration + 1
      humanDecisions := rows.humanDecisions ++
        [{ decisionId := store.nextId
           inputRequestId := request.inputRequestId
           commandId := call.commandId
           principalId := call.principalId
           decisionKind := decisionKind
           response := response.canonical
           appliedAction := action
           controlGeneration := rows.controlGeneration + 1 }] }
    request.inputRequestId .resolved "decision_applied" (some store.nextId)

/-- The result of the attempt a clarification ends. -/
def clarifiedResult (request : InputRequest) (attempt : Attempt) : ControlResult :=
  { resultId := store.nextId
    goalId := attempt.goalId
    attemptId := some attempt.attemptId
    checkpointId := some request.sourceCheckpointId
    answerStatus := call.answerStatus
    terminationReason := .goalRevised
    reasonDetail := "human clarification"
    isTaskTerminal := false
    ownerEpoch := task.fenced.lease.epoch }

/-- The goal a clarification makes. -/
def clarifiedGoal (attempt : Attempt) (objective : String) (constraints : List String)
    (policy : String) : Goal :=
  { goalId := store.nextId
    revision := task.nextRevision
    parentGoalId := attempt.goalId
    objective := objective
    successConstraints := constraints
    evidencePolicy := policy }

/-- The attempt that goes on with the revised goal. -/
def clarifiedAttempt (request : InputRequest) (attempt : Attempt) : Attempt :=
  { attemptId := store.nextId
    goalId := some store.nextId
    ordinal := attempt.ordinal + 1
    cause := .goalRevision
    parentAttemptId := some attempt.attemptId
    sourceCheckpointId := some request.sourceCheckpointId
    status := .running
    ownerEpoch := task.fenced.lease.epoch
    resultId := none }

/-- The task after `clarify_goal`. -/
def clarifiedTask (request : InputRequest) (attempt : Attempt) (goal : Goal) :
    ResearchTask Digest :=
  let ended := task.fenced.endAttempt (some attempt) store.nextId
  { ended with
    goals := ended.goals ++ [goal]
    attempts := ended.attempts.insert (clarifiedAttempt store task request attempt)
    activeGoalId := some store.nextId
    status := .running }

/-- The branch of `decide_input` for `clarify_goal`. -/
def clarifyGoal (policy : ControlPolicy) (request : InputRequest) (attempt : Attempt)
    (response : HumanResponse) (expectedStateVersion : Nat) (decisionKind : DecisionKind) :
    Except ResearchFailure (ControlCommit Digest) := do
  ensure (strip response.objective ≠ "") (.validation "clarification objective is required")
  match response.successConstraints with
  | none => .error (.validation "invalid success_constraints")
  | some constraints =>
      match response.evidencePolicy with
      | none => .error (.validation "invalid evidence_policy")
      | some given =>
          match task.goals.find? fun goal => some goal.goalId = attempt.goalId with
          | none => .error (.unsafeState "clarification source Goal is missing")
          | some source =>
              let evidencePolicy :=
                if policy.bindsProvider source.evidencePolicy then source.evidencePolicy else given
              let goal := clarifiedGoal store task attempt (strip response.objective) constraints
                evidencePolicy
              let action := .goalRevision store.nextId store.nextId store.nextId
              let decided := decidedRows store rows call request decisionKind response action
              return { task := clarifiedTask store task request attempt goal
                       rows :=
                         { decided with
                           results := decided.results ++
                             [clarifiedResult store call task request attempt] }
                       response := fencedResponse rows task expectedStateVersion
                         (.decided store.nextId action) }

/-- The observation of an option that was chosen. -/
def chosenObservation (request : InputRequest) (spec : ConstraintSpec) (selected : String) :
    HumanObservation :=
  { observationId := store.nextId
    goalId := request.goalId
    attemptId := request.attemptId
    constraintId := request.constraintId
    decisionId := store.nextId
    selectedOption := selected
    evaluatorPolicyVersion := spec.evaluatorPolicyVersion
    controlGeneration := rows.controlGeneration + 1 }

/-- The branch for `select_constraint_option`. -/
def selectConstraintOption (request : InputRequest) (attempt : Attempt) (response : HumanResponse)
    (expectedStateVersion : Nat) (decisionKind : DecisionKind) :
    Except ResearchFailure (ControlCommit Digest) := do
  match response.selectedOption with
  | none => .error (.validation "selected_option is not allowed")
  | some selected => do
      ensure (selected ∈ request.choices) (.validation "selected_option is not allowed")
      match request.constraintId.bind rows.constraintSpec with
      | none => .error (.unsafeState "human-decidable constraint disappeared")
      | some spec => do
          ensure (spec.evaluatorPolicy.registers request.choices = true)
            (.forbidden "constraint lacks server human authority")
          let action := .humanConstraintObservation store.nextId
          let decided := decidedRows store rows call request decisionKind response action
          return { task := task.fenced.setStatus attempt.attemptId .blocked .blocked
                   rows :=
                     { decided with
                       humanObservations := decided.humanObservations ++
                         [chosenObservation store rows request spec selected] }
                   response := fencedResponse rows task expectedStateVersion
                     (.decided store.nextId action) }

/-- `decide_input`, after its receipt. -/
def decideInput (policy : ControlPolicy) (inputRequestId expectedStateVersion
    expectedControlGeneration : Nat) (decisionKind : DecisionKind) (response : HumanResponse) :
    Except ResearchFailure (ControlCommit Digest) := do
  task.assertNonterminal
  assertControlExpected task.toTaskRow rows expectedStateVersion expectedControlGeneration
  match rows.inputRequest inputRequestId with
  | none => .error (.notFound "InputRequest not found for Task")
  | some request => do
      ensure (rows.disposed inputRequestId = false) (.conflict "InputRequest already disposed")
      if request.expired call.checkClock then do
        -- The dispositions and the next version are written, and then committed by hand.
        if inputRequestId ∈ (rows.expireOpenInputs call.expireClock).2 then explicitCommit
        .error (.conflict "InputRequest expired")
      else do
        assertResponse request decisionKind response
        let found ← store.attempt request.attemptId
        ensure (found.2.status = .waitingUser)
          (.conflict "InputRequest Attempt is no longer waiting")
        match decisionKind with
        | .clarifyGoal =>
            clarifyGoal store rows call task policy request found.2 response expectedStateVersion
              decisionKind
        | .selectConstraintOption =>
            selectConstraintOption store rows call task request found.2 response
              expectedStateVersion decisionKind

/-! ## `resolve_side_effect` -/

/-- The status a resolution gives. -/
def EffectResolution.status : EffectResolution → SideEffectStatus
  | .confirmedSucceeded => .succeeded
  | .confirmedFailed => .failed

/-- The fenced task with one effect resolved. -/
def resolvedEffect (effect : SideEffect) (resolution : EffectResolution)
    (receiptHash resultReference : Option String) : ResearchTask Digest :=
  task.fenced.changeEffect effect.sideEffectId
    ⟨fun row =>
      { row with
        status := resolution.status
        ownerEpoch := task.fenced.lease.epoch
        receiptHash := receiptHash.or row.receiptHash
        resultReference := resultReference.or row.resultReference }, fun _ => rfl⟩

/-- A cancel was applied and has waited for its effects. -/
def pendingCancel : Bool :=
  rows.controlRequests.any fun request =>
    request.requestKind = .cancel && rows.controlDispositions.any fun disposition =>
      disposition.controlRequestId = request.controlRequestId && disposition.status = .applied

/-- The control rows with the resolution. -/
def resolutionRows (sideEffectId : Nat) (resolution : EffectResolution) (reason : String)
    (receiptHash resultReference : Option String) : ControlRows :=
  { rows with
    controlGeneration := rows.controlGeneration + 1
    sideEffectResolutions := rows.sideEffectResolutions ++
      [{ resolutionId := store.nextId
         sideEffectId := sideEffectId
         commandId := call.commandId
         principalId := call.principalId
         resolution := resolution
         reason := reason
         receiptHash := receiptHash
         resultReference := resultReference
         controlGeneration := rows.controlGeneration + 1
         ownerEpoch := task.fenced.lease.epoch }] }

/-- `resolve_side_effect`, after its receipt. -/
def resolveSideEffect (sideEffectId expectedStateVersion expectedControlGeneration : Nat)
    (resolution : EffectResolution) (reason : String)
    (receiptHash resultReference : Option String) :
    Except ResearchFailure (ControlCommit Digest) := do
  task.assertNonterminal
  assertControlExpected task.toTaskRow rows expectedStateVersion expectedControlGeneration
  let found ← store.sideEffect sideEffectId
  ensure (found.1 = task.taskId ∧ found.2.status = .unknown)
    (.unsafeState "SideEffect is not unresolved for this Task")
  let after := resolvedEffect task found.2 resolution receiptHash resultReference
  let noted := resolutionRows store rows call task sideEffectId resolution reason receiptHash
    resultReference
  let answer := ControlAnswer.resolved store.nextId sideEffectId resolution.status
  if pendingCancel rows = true ∧ after.unresolvedIds = [] then
    let attempt := task.activeAttempt
    let latest := attempt.bind fun attempt => task.latestCheckpoint attempt.attemptId
    let result := cancelResult store call task attempt (latest.map Checkpoint.checkpointId)
      "cancel completed after side-effect resolution"
    return { task := terminalCancel store after attempt
             rows := { noted with results := noted.results ++ [result] }
             response := fencedResponse rows task expectedStateVersion
               (answer (some store.nextId)) }
  else
    return { task := { after with status := .blocked }
             rows := noted
             response := fencedResponse rows task expectedStateVersion (answer none) }

/-! ## The audit that waits for the user -/

/-- The branch of `_advance` for the decision `blocked`, behind the guards of `_guard_source` that
look at the task; its artifact and its constraints are rows of other tables. -/
def advanceOuter (fence : Fence) (attemptId expectedCheckpointId : Nat) :
    Except ResearchFailure (ControlCommit Digest) := do
  let found ← store.attempt attemptId
  task.assertFence fence call.leaseClock
  ensure (found.1 = task.taskId ∧ found.2.status = .running ∧
      found.2.ownerEpoch = fence.ownerEpoch)
    (.conflict "Attempt identity/status/owner fence 不匹配")
  ensure (task.activeGoalId = found.2.goalId) (.conflict "Attempt 不属于 active Goal")
  match task.latestCheckpoint attemptId with
  | none => .error (.conflict "outer audit 要求最新完整 Stage 2 checkpoint")
  | some checkpoint => do
      ensure (checkpoint.checkpointId = expectedCheckpointId)
        (.conflict "outer audit 要求最新完整 Stage 2 checkpoint")
      ensure (task.sideEffects.count SideEffect.unresolved = 0)
        (.unsafeState "存在 unresolved SideEffect，不能提交 outer audit")
      let waiting := newCheckpoint store found.2 (some expectedCheckpointId) (some checkpoint)
        call.audit.stateHash call.audit.statePayload fence.ownerEpoch
      return { task :=
                 { task.advanced with
                   checkpoints := task.checkpoints ++ [waiting] }.setStatus attemptId
                     .waitingUser .waitingUser
               rows := { rows with constraintSpecs := rows.constraintSpecs ++ call.audit.specs }
               response :=
                 { stateVersion := fence.expectedStateVersion + 1
                   controlGeneration := rows.controlGeneration
                   ownerEpoch := fence.ownerEpoch
                   answer := .waiting waiting.checkpointId } }

end Bodies

/-! ## Transactions -/

/-- The capability a command needs. -/
def ControlCommand.capability : ControlCommand → Option String
  | .applyControl kind .. => some ("control:" ++ kind.value)
  | .createInput .. => some "input:create"
  | .decideInput .. => some "input:decide"
  | .resolveSideEffect .. => some "side_effect:resolve"
  | .advanceOuter .. => none

/-- The owner a receipt is fenced by. -/
def ControlCommand.receiptFence : ControlCommand → Option Fence
  | .createInput fence .. | .advanceOuter fence .. => some fence
  | _ => none

/-- `MAX_RESPONSE_CHARACTERS`. -/
def maxResponseCharacters : Nat := 4000

/-- What a command refuses before it opens its transaction. -/
def precheckControl (policy : ControlPolicy) (call : ControlCall) :
    Except ResearchFailure Unit := do
  match call.command.capability with
  | none => .ok ()
  | some capability => policy.require call.principalId capability
  match call.command with
  | .createInput _ _ _ kind _ _ responseSchema _ _ =>
      ensure (responseSchema.all fun schema => schema = canonicalResponseSchema kind)
        (.validation "response_schema must match the server canonical schema for input kind")
  | .decideInput _ _ _ _ response =>
      ensure (response.canonical.length ≤ maxResponseCharacters)
        (.validation "input response exceeds 4000 characters")
  | .resolveSideEffect _ _ _ resolution _ receiptHash resultReference =>
      ensure (resolution = .confirmedFailed ∨ receiptHash.getD "" ≠ "" ∧
          resultReference.getD "" ≠ "")
        (.validation "confirmed_succeeded requires receipt_hash and result_reference")
  | _ => .ok ()

/-- The body of a command. -/
def performControl (policy : ControlPolicy) (store : KernelStore Digest) (rows : ControlRows)
    (call : ControlCall) (task : ResearchTask Digest) :
    Except ResearchFailure (ControlCommit Digest) :=
  match call.command with
  | .applyControl kind version checkpointId generation reason =>
      applyControl store rows call task kind version checkpointId generation reason
  | .createInput fence attemptId checkpointId kind prompt choices _ constraintId expiresAt =>
      createInput store rows call task fence attemptId checkpointId kind prompt choices
        constraintId expiresAt
  | .decideInput inputRequestId version generation decisionKind response =>
      decideInput store rows call task policy inputRequestId version generation decisionKind
        response
  | .resolveSideEffect sideEffectId version generation resolution reason receiptHash reference =>
      resolveSideEffect store rows call task sideEffectId version generation resolution reason
        receiptHash reference
  | .advanceOuter fence attemptId checkpointId =>
      advanceOuter store rows call task fence attemptId checkpointId

/-- The owner check of `_existing_receipt`. -/
def assertControlOwner (call : ControlCall) (task : TaskRow) : Except ResearchFailure Unit :=
  match call.command.receiptFence with
  | none => .ok ()
  | some fence => task.assertOwner fence.ownerId fence.ownerEpoch call.leaseClock

/-- The payload of an audit names no principal. -/
def ControlCall.payloadPrincipal (call : ControlCall) : String :=
  match call.command with
  | .advanceOuter .. => ""
  | _ => call.principalId

def commandMismatch : ResearchFailure :=
  .conflict "同一 command_id 的 payload hash 不一致，已 fail closed"

/-- `_existing_receipt`. A receipt of the kernel has another payload; the event of a mismatch is
left out. -/
def priorResponse (call : ControlCall) (rows : ControlRows) (task : ResearchTask Digest) :
    Except ResearchFailure (Option ControlResponse) :=
  match rows.receipts.find? fun receipt => receipt.commandId = call.commandId with
  | some receipt => do
      assertControlOwner call task.toTaskRow
      ensure (receipt.command = call.command ∧ receipt.principalId = call.payloadPrincipal)
        commandMismatch
      return some receipt.response
  | none =>
      match task.receipt call.commandId with
      | some _ => do
          assertControlOwner call task.toTaskRow
          .error commandMismatch
      | none => .ok none

/-- The receipt of a command. -/
def controlReceipt (call : ControlCall) (response : ControlResponse) : ControlReceipt :=
  { commandId := call.commandId
    principalId := call.payloadPrincipal
    command := call.command
    response := response
    ownerEpoch := response.ownerEpoch }

/-- The store after a commit. -/
def ControlStore.write (store : ControlStore Digest) (call : ControlCall)
    (commit : ControlCommit Digest) : ControlStore Digest :=
  { kernel := store.kernel.write commit.task
    rows :=
      { commit.rows with
        receipts := commit.rows.receipts ++ [controlReceipt call commit.response] } }

/-- One command: its answer and the store it leaves, or the failure it raises with nothing
written. -/
def transactControl (policy : ControlPolicy) (taskId : String) (store : ControlStore Digest)
    (call : ControlCall) : Except ResearchFailure (ControlResponse × ControlStore Digest) := do
  precheckControl policy call
  let task ← store.kernel.task taskId
  match ← priorResponse call store.rows task with
  | some response => return (response, store)
  | none => do
      let commit ← performControl policy store.kernel store.rows call task
      return (commit.response, store.write call commit)

/-! ## `get_status` -/

/-- What a reader is shown of the task and its questions. -/
structure StatusView where
  status : TaskStatus
  stateVersion : Nat
  controlGeneration : Nat
  allowedOperations : List String
  openInputRequests : List Nat

/-- `allowed_operations`, sorted. -/
def allowedOperations (rows : ControlRows) (task : ResearchTask Digest) : List String :=
  if task.status = .terminal then []
  else
    let mayResume :=
      match task.activeAttempt with
      | none => false
      | some attempt =>
          match task.latestCheckpoint attempt.attemptId with
          | none => false
          | some checkpoint =>
              (resumeAuthority rows attempt.attemptId checkpoint.checkpointId task).isSome
    ["cancel", "derive"] ++ (if task.status = .running then ["interrupt"] else []) ++
      if mayResume = true then ["resume"] else []

def statusView (rows : ControlRows) (task : ResearchTask Digest) : StatusView :=
  { status := task.status
    stateVersion := task.stateVersion
    controlGeneration := rows.controlGeneration
    allowedOperations := allowedOperations rows task
    openInputRequests := rows.openInputs.map InputRequest.inputRequestId }

/-- `get_status`. -/
def getStatus (taskId : String) (store : ControlStore Digest) (now : Instant) :
    Except ResearchFailure (StatusView × ControlStore Digest) := do
  let task ← store.kernel.task taskId
  let expired := store.rows.expireOpenInputs now
  let after := if expired.2 = [] then task else task.advanced
  return (statusView expired.1 after, ⟨store.kernel.write after, expired.1⟩)

/-! ## Steps -/

inductive InputAction where
  | kernel (call : Call)
  | control (call : ControlCall)
  | getStatus (now : Instant)

/-- A call of the kernel. A receipt of the control service under its command stops it. -/
def kernelCall [DecidableEq Digest] (hashing : Hashing Digest) (taskId : String)
    (store : ControlStore Digest) (call : Call) : ControlStore Digest :=
  if call.taskId = taskId ∧
      (store.rows.receipts.any fun receipt => receipt.commandId = call.commandId) = true then store
  else { store with kernel := stepKernel hashing store.kernel call }

/-- One step on the task; a transaction that raises leaves nothing. -/
def stepInputs [DecidableEq Digest] (hashing : Hashing Digest) (policy : ControlPolicy)
    (taskId : String) (store : ControlStore Digest) : InputAction → ControlStore Digest
  | .kernel call => kernelCall hashing taskId store call
  | .control call =>
      match transactControl policy taskId store call with
      | .ok (_, after) => after
      | .error _ => store
  | .getStatus now =>
      match getStatus taskId store now with
      | .ok (_, after) => after
      | .error _ => store

end Shiliu.Research
