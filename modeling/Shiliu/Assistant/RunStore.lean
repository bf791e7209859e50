/-
Module: Shiliu.Assistant.RunStore
Purpose: The transactions of `PgAssistantRunStore` that move a run through its life: creation,
  claim, cancellation, pause, failure, recovery, resumption, completion, the change of a space's
  scope, the execution budget and the provider responses. Each transaction holds the locks of
  what it reads, so a call is one step; what it reads of tables that only other components write
  comes with the call and is arbitrary.
Trusted boundary: none
Main exports: Surroundings, lockThreadRun, guardRunCompletion, recordProviderResponse, Call, stepRun
-/
import Shiliu.Assistant.Rows
import Shiliu.Library.Transition

set_option linter.all false

namespace Shiliu.Assistant

open Shiliu.Library Shiliu.Storage

/-- `ASSISTANT_ACTIVE_SECONDS`. -/
def assistantActiveSeconds : Nat := 300

/-! ## What the transactions read of other tables -/

/-- The row of `assistant_task_notes` of a thread's first segment. -/
structure TaskNote where
  noteVersion : Int
  status : String

/-- A row of `assistant_memories`. -/
structure Memory where
  status : String
  version : Nat
  scopeKind : String
  scopeSpaceId : Option Nat
  validFrom : Option Instant
  expiresAt : Option Instant

/-- The clock, and the rows of tables these transactions only read. -/
structure Surroundings where
  now : Instant
  memoryEpoch : Int
  autoMemoryEnabled : Option String
  autoMemoryGeneration : Int
  taskNote : (threadId : String) → Option TaskNote
  memory : (memoryId : String) → Option Memory

/-- The row a reference names is active, in scope and valid now. -/
def Memory.isUsable (row : Memory) (now : Instant) (version spaceId : Nat) : Bool :=
  row.status = "active" ∧ row.version = version ∧
    ¬ (row.scopeKind = "space" ∧ row.scopeSpaceId ≠ some spaceId) ∧
    (row.validFrom.all fun start => start ≤ now) ∧ row.expiresAt.all fun stop => now < stop

/-- One turn of the loop of `_memory_refs_valid`. -/
def memoryRefValid (around : Surroundings) (spaceId : Nat) (ref : String) : Bool :=
  if ¬ "memory:".toList.isPrefixOf ref.toList then true
  else
    match ref.toList.splitOn ':' with
    | [_, memoryId, digits] =>
        match digitsValue digits, around.memory (String.ofList memoryId) with
        | some version, some row => row.isUsable around.now version spaceId
        | _, _ => false
    | _ => false

/-- `_memory_refs_valid`. -/
def memoryRefsValid (around : Surroundings) (refs : List String) (spaceId : Nat) : Bool :=
  refs.all (memoryRefValid around spaceId)

/-! ## Locks and guards -/

/-- `except CoordinationConflict as exc: raise AssistantConflict(str(exc))`. -/
def asAssistantConflict : Failure → Failure
  | .coordinationConflict code => .assistantConflict code
  | failure => failure

/-- `lock_workspace`. -/
def lockWorkspace (store : AssistantStore) (context : ResourceContext) : Except Failure Unit :=
  if context.workspaceId ∈ store.workspaces then .ok ()
  else .error (.coordinationConflict "workspace_missing")

/-- `lock_thread_run`. -/
def lockThreadRun (store : AssistantStore) (context : ResourceContext) (runId : String) :
    Except Failure Run :=
  match store.runs.lookup runId with
  | none => .error (.coordinationConflict "run_missing")
  | some run =>
      match store.threads.lookup run.threadId with
      | none => .error (.coordinationConflict "run_missing")
      | some thread =>
          if thread.context.workspaceId ≠ context.workspaceId then
            .error (.coordinationConflict "run_missing")
          else if thread.context.userId ≠ context.userId then
            .error (.coordinationConflict "run_owner_mismatch")
          else .ok run

/-- `_guard_run_completion`. A call that passes no integer as its epoch passes `none`. -/
def guardRunCompletion (now : Instant) (store : AssistantStore) (context : ResourceContext)
    (runId : String) (epoch : Option Int) : Except Failure Run :=
  match epoch with
  | none => .error (.assistantConflict "expected_epoch_required")
  | some epoch =>
      if epoch < 1 then .error (.assistantConflict "expected_epoch_required")
      else
        match lockThreadRun store context runId with
        | .error failure => .error (asAssistantConflict failure)
        | .ok run =>
            if run.runEpoch ≠ epoch ∨ run.status ≠ .running ∨ run.cancelRequested then
              .error (.assistantConflict "run_fenced")
            else if run.workingState.executionBudget.any fun budget => budget.deadlineAt ≤ now then
              .error (.assistantConflict "run_fenced")
            else .ok run

/-! ## Writes -/

namespace AssistantStore

/-- `UPDATE assistant_runs SET … WHERE workspace_id=… AND id=…`. -/
def changeRun (store : AssistantStore) (runId : String) (change : Change Run.id) :
    AssistantStore :=
  { store with runs := store.runs.modify runId change }

/-- `append_run_event`, for a run that is locked. -/
def appendRunEvent (store : AssistantStore) (runId : String) (payload : EventPayload) :
    AssistantStore :=
  { store with events := store.events.insert ⟨runId, store.nextEventSeq runId, payload⟩ }

/-- `UPDATE assistant_threads SET updated_at=… WHERE workspace_id=… AND id=…`. -/
def touchThread (store : AssistantStore) (threadId : String) (now : Instant) : AssistantStore :=
  { store with
    threads := store.threads.modify threadId
      ⟨fun thread => { thread with updatedAt := now }, fun _ => rfl⟩ }

end AssistantStore

/-- Replace `working_state_json`. -/
def setState (state : WorkingState) : Change Run.id :=
  ⟨fun run => { run with workingState := state }, fun _ => rfl⟩

/-! ## create_run -/

/-- The arguments of `create_run`, with the two identifiers it draws. -/
structure NewRun where
  threadId : String
  text : String
  requestId : String
  answerMessageId : Option String
  receiptOnly : Bool
  runUuid : String
  messageUuid : String

/-- `_bind_save_request`: the answer must be the one its run was completed with. -/
def bindSaveRequest (store : AssistantStore) (threadId messageId text answerMessageId : String)
    (receiptOnly : Bool) : Except Failure KnowledgeSave :=
  let answer := (store.messages.lookup answerMessageId).filter fun message =>
    message.threadId = threadId ∧ message.role = .assistant ∧
      message.payload.origin.getD "model" ≠ "operation_receipt" ∧
      store.events.rows.any fun event =>
        message.runId = some event.runId ∧ event.payload = .runCompleted message.id
  match answer with
  | none => .error (.assistantConflict "save_answer_not_available")
  | some answer =>
      .ok { sourceMessageId := messageId
            requestKey := "save-message:" ++ messageId
            answerMessageId := answer.id
            answerRunId := answer.runId
            scopeText := text
            receiptOnly := receiptOnly }

/-- `if answer_message_id: self._bind_save_request(…)`. -/
def saveRequest (store : AssistantStore) (args : NewRun) (messageId : String) :
    Except Failure (Option KnowledgeSave) :=
  match args.answerMessageId with
  | none => .ok none
  | some answerMessageId =>
      if answerMessageId = "" then .ok none
      else
        match bindSaveRequest store args.threadId messageId args.text answerMessageId
            args.receiptOnly with
        | .error failure => .error failure
        | .ok binding => .ok (some binding)

/-- The row `create_run` inserts. -/
def queuedRun (around : Surroundings) (store : AssistantStore) (space : Space)
    (latest : Option Run) (args : NewRun) (save : Option KnowledgeSave) : Run :=
  { id := "arun_" ++ args.runUuid
    threadId := args.threadId
    requestId := args.requestId
    status := .queued
    runEpoch := 1
    stepCount := 0
    toolCount := 0
    workingState :=
      { scopeVersion := space.scopeVersion
        autoMemoryAdmission :=
          ⟨around.autoMemoryEnabled.getD "1" ≠ "0", around.autoMemoryGeneration⟩
        taskSubset := latest.bind fun run => run.workingState.taskSubset
        knowledgeSave := save
        segmentStartedAt := none
        executionBudget := none
        finishRequested := false
        explicitNewSegment := false
        segmentStepBase := 0
        segmentToolBase := 0
        compactionRetries := 0
        contextRecoveryAttempts := 0
        lateModelUsage := ∅
        usageIncludesLate := false }
    usageJson := ∅
    cancelRequested := false
    memoryEpoch := around.memoryEpoch
    extractionMemoryEpoch := around.memoryEpoch
    observedMemoryEpoch := around.memoryEpoch
    lastErrorCode := none
    lastErrorMessage := none
    createdAt := around.now
    startedAt := none
    updatedAt := around.now
    completedAt := none
    insertionSeq := store.insertionHighwater + 1 }

/-- The user's message of a new run. -/
def queuedMessage (around : Surroundings) (store : AssistantStore) (args : NewRun) : Message :=
  { id := "amsg_" ++ args.messageUuid
    threadId := args.threadId
    runId := some ("arun_" ++ args.runUuid)
    seq := store.nextMessageSeq args.threadId
    role := .user
    content := strip args.text
    payload := ProviderPayload.empty
    createdAt := around.now }

/-- The writes of `create_run`. -/
def queueRun (around : Surroundings) (store : AssistantStore) (space : Space)
    (latest : Option Run) (args : NewRun) : Except Failure (AssistantStore × Run) :=
  let message := queuedMessage around store args
  if (store.runs.lookup ("arun_" ++ args.runUuid)).isSome ∨
      (store.messages.lookup message.id).isSome then .error .uniqueViolation
  else
    match saveRequest store args message.id with
    | .error failure => .error failure
    | .ok save =>
        let run := queuedRun around store space latest args save
        .ok ((({ store with
          runs := store.runs.insert run
          messages := store.messages.insert message
          insertionHighwater := store.insertionHighwater + 1 } : AssistantStore).touchThread
            args.threadId around.now).appendRunEvent run.id (.runQueued message.id), run)

/-- `create_run`. -/
def createRun (around : Surroundings) (store : AssistantStore) (context : ResourceContext)
    (args : NewRun) : Except Failure (AssistantStore × Run) :=
  if strip args.text = "" then .error (.valueError "input_empty")
  else
    match lockWorkspace store context with
    | .error failure => .error (asAssistantConflict failure)
    | .ok _ =>
        match store.thread context args.threadId with
        | none => .error .keyError
        | some thread =>
            match (store.runsOf args.threadId).find? fun run => run.requestId = args.requestId with
            | some existing => .ok (store, existing)
            | none =>
                let latest := store.latestRun args.threadId
                if ((store.runsOf args.threadId).any fun run => run.status.isActive) ∨
                    (latest.any fun run => run.status.isStopped) then
                  .error (.assistantConflict "thread_has_active_run")
                else
                  match store.space context thread.spaceId with
                  | none => .error .keyError
                  | some space => queueRun around store space latest args

/-! ## claim_next_run -/

/-- A queued run `claim_next_run` may look at. -/
def claimable (createdAfter : Option Instant) (run : Run) : Bool :=
  run.status = .queued ∧ createdAfter.all fun bound => bound ≤ run.createdAt

/-- `ORDER BY created_at,id`. -/
def Run.claimKey (run : Run) : Instant ×ₗ String :=
  toLex (run.createdAt, run.id)

/-- The thread `claim_next_run` locks; `skipped` are the threads other transactions hold. -/
def claimThread (store : AssistantStore) (context : ResourceContext)
    (createdAfter : Option Instant) (skipped : String → Bool) : Option String :=
  ((store.runs.rows.filter fun run =>
    claimable createdAfter run ∧ ¬ skipped run.threadId ∧
      (store.thread context run.threadId).any fun thread =>
        (store.spaces.lookup thread.spaceId).any fun space =>
          space.context.workspaceId = thread.context.workspaceId ∧ space.enabled).argmin
    Run.claimKey).map Run.threadId

/-- A budget that was paused runs on from now. -/
def ExecutionBudget.continued (budget : ExecutionBudget) (now : Instant) : ExecutionBudget :=
  match budget.pausedRemaining with
  | none => budget
  | some remaining =>
      { budget with deadlineAt := wholeSecond now + remaining, pausedRemaining := none }

/-- The update of `claim_next_run`. -/
def claimChange (now : Instant) : Change Run.id :=
  ⟨fun run =>
    { run with
      status := .running
      startedAt := some (run.startedAt.getD (wholeSecond now))
      workingState :=
        { run.workingState with
          segmentStartedAt := some (run.workingState.segmentStartedAt.getD (wholeSecond now))
          executionBudget := run.workingState.executionBudget.map fun budget =>
            budget.continued now }
      updatedAt := wholeSecond now }, fun _ => rfl⟩

/-- `claim_next_run`. -/
def claimNextRun (now : Instant) (store : AssistantStore) (context : ResourceContext)
    (createdAfter : Option Instant) (skipped : String → Bool) :
    Except Failure (AssistantStore × Option Run) :=
  match claimThread store context createdAfter skipped with
  | none => .ok (store, none)
  | some threadId =>
      match ((store.runsOf threadId).filter (claimable createdAfter)).argmin Run.claimKey with
      | none => .ok (store, none)
      | some run =>
          .ok ((store.changeRun run.id (claimChange now)).appendRunEvent run.id .runStarted,
            some ((claimChange now).apply run))

/-! ## cancel_run and request_finish -/

def cancelChange (now : Instant) : Change Run.id :=
  ⟨fun run =>
    { run with
      cancelRequested := true
      runEpoch := run.runEpoch + 1
      status := .cancelled
      updatedAt := now
      completedAt := some now }, fun _ => rfl⟩

/-- `cancel_run` of the fences. -/
def cancelRunRow (now : Instant) (store : AssistantStore) (context : ResourceContext)
    (runId : String) : Except Failure AssistantStore :=
  match lockThreadRun store context runId with
  | .error failure => .error failure
  | .ok run =>
      if run.status.isActive ∨ run.status.isStopped then
        .ok ((store.changeRun runId (cancelChange now)).appendRunEvent runId
          (.runCancelled "user_abandoned"))
      else .ok store

/-- `cancel_run`. -/
def cancelRun (now : Instant) (store : AssistantStore) (context : ResourceContext)
    (runId : String) : Except Failure (AssistantStore × Option Run) :=
  match cancelRunRow now store context runId with
  | .error failure => .error (asAssistantConflict failure)
  | .ok after => .ok (after, after.runs.lookup runId)

/-- `request_finish`. -/
def requestFinish (now : Instant) (store : AssistantStore) (context : ResourceContext)
    (runId : String) : Except Failure (AssistantStore × Option Run) :=
  match lockThreadRun store context runId with
  | .error failure => .error failure
  | .ok run =>
      if run.status.isActive then
        let after := store.changeRun runId
          ⟨fun run =>
            { run with
              workingState := { run.workingState with finishRequested := true }
              updatedAt := now }, fun _ => rfl⟩
        .ok (after, after.runs.lookup runId)
      else .ok (store, some run)

/-! ## pause_run, fail_run and recovery -/

/-- The arguments of `pause_run` and `fail_run`, with the tool execution they are called in. -/
structure Diagnostic where
  execution : Option (String × Int)
  runId : String
  code : String
  message : String
  epoch : Option Int

/-- `_lock_execution_diagnostic`. -/
def lockExecutionDiagnostic (store : AssistantStore) (context : ResourceContext)
    (report : Diagnostic) : Except Failure (Option Run) :=
  let foreign := report.execution.any fun active =>
    active.1 ≠ report.runId ∨ (report.epoch.any fun epoch => epoch ≠ active.2)
  if foreign then .error (.assistantConflict "run_fenced")
  else
    match (report.execution.map Prod.snd).or report.epoch with
    | none => .error (.assistantConflict "expected_epoch_required")
    | some epoch =>
        if epoch < 1 then .error (.assistantConflict "expected_epoch_required")
        else
          match lockThreadRun store context report.runId with
          | .error failure => .error failure
          | .ok run =>
              if run.status ≠ .running ∨ run.runEpoch ≠ epoch ∨ run.cancelRequested then .ok none
              else .ok (some run)

/-- The columns `pause_run` and `fail_run` fill. -/
def stopChange (now : Instant) (status : RunStatus) (report : Diagnostic) : Change Run.id :=
  ⟨fun run =>
    { run with
      status := status
      lastErrorCode := some report.code
      lastErrorMessage := some (prefixOf report.message 1000)
      updatedAt := now
      completedAt := some now }, fun _ => rfl⟩

/-- What is left of a budget, kept once. -/
def ExecutionBudget.paused (budget : ExecutionBudget) (now : Instant) : ExecutionBudget :=
  match budget.pausedRemaining with
  | some _ => budget
  | none => { budget with pausedRemaining := some (budget.deadlineAt - now) }

def pauseChange (now : Instant) (report : Diagnostic) : Change Run.id :=
  ⟨fun run =>
    (stopChange now .interrupted report).apply
      { run with
        workingState :=
          { run.workingState with
            executionBudget := run.workingState.executionBudget.map fun budget =>
              budget.paused now } }, fun _ => rfl⟩

/-- `pause_run`. -/
def pauseRun (now : Instant) (store : AssistantStore) (context : ResourceContext)
    (report : Diagnostic) : Except Failure (AssistantStore × Unit) :=
  match lockExecutionDiagnostic store context report with
  | .error failure => .error failure
  | .ok none => .ok (store, ())
  | .ok (some _) =>
      .ok ((store.changeRun report.runId (pauseChange now report)).appendRunEvent report.runId
        (.runInterrupted (some report.code) (some (prefixOf report.message 300))), ())

/-- The codes that leave a run resumable. -/
def pausingCodes : List String :=
  ["step_budget_exhausted", "tool_budget_exhausted", "context_budget_exceeded",
    "execution_budget_exhausted"]

/-- `fail_run`. -/
def failRun (now : Instant) (store : AssistantStore) (context : ResourceContext)
    (report : Diagnostic) : Except Failure (AssistantStore × Unit) :=
  match lockExecutionDiagnostic store context report with
  | .error failure => .error failure
  | .ok none => .ok (store, ())
  | .ok (some _) =>
      if report.code ∈ pausingCodes then
        .ok ((store.changeRun report.runId (stopChange now .budgetExhausted report)).appendRunEvent
          report.runId (.runBudgetExhausted report.code (prefixOf report.message 300)), ())
      else
        .ok ((store.changeRun report.runId (stopChange now .failed report)).appendRunEvent
          report.runId (.runFailed report.code (prefixOf report.message 300)), ())

def recoverChange (now : Instant) : Change Run.id :=
  ⟨fun run =>
    { run with
      status := .interrupted
      updatedAt := now
      lastErrorCode := some "service_restarted"
      lastErrorMessage := some "服务重启后需要用户继续" }, fun _ => rfl⟩

/-- The loop of `recover_interrupted_runs`. -/
def recoverRuns (now : Instant) (context : ResourceContext) :
    List String → AssistantStore → Except Failure (AssistantStore × Nat)
  | [], store => .ok (store, 0)
  | runId :: rest, store =>
      match lockThreadRun store context runId with
      | .error failure => .error failure
      | .ok run =>
          if run.status ≠ .running then recoverRuns now context rest store
          else
            match recoverRuns now context rest ((store.changeRun runId
                (recoverChange now)).appendRunEvent runId (.runInterrupted none none)) with
            | .error failure => .error failure
            | .ok (after, count) => .ok (after, count + 1)

/-- `ORDER BY t.id,r.insertion_seq`. -/
def Run.rootKey (run : Run) : String ×ₗ Nat :=
  toLex (run.threadId, run.insertionSeq)

/-- The ids of the runs a predicate selects, in the order the roots are locked. -/
def rootIds (store : AssistantStore) (select : Run → Bool) : List String :=
  ((store.runs.rows.filter select).insertionSort fun first second =>
    first.rootKey ≤ second.rootKey).map Run.id

/-- `recover_interrupted_runs`. -/
def recoverInterruptedRuns (now : Instant) (store : AssistantStore) (context : ResourceContext) :
    Except Failure (AssistantStore × Nat) :=
  recoverRuns now context (rootIds store fun run =>
    run.status = .running ∧ (store.thread context run.threadId).isSome) store

/-! ## resume_run -/

def resumeChange (now : Instant) (state : WorkingState) : Change Run.id :=
  ⟨fun run =>
    { run with
      status := .queued
      runEpoch := run.runEpoch + 1
      cancelRequested := false
      workingState := state
      updatedAt := now
      completedAt := none
      lastErrorCode := none
      lastErrorMessage := none }, fun _ => rfl⟩

/-- The working state a resumed run goes on with. -/
def resumedState (run : Run) (compaction : Bool) : WorkingState :=
  { run.workingState with
    compactionRetries := if compaction then 1 else run.workingState.compactionRetries
    explicitNewSegment := true
    segmentStepBase := run.stepCount
    segmentToolBase := run.toolCount
    executionBudget := none
    finishRequested := false }

/-- `resume_run`. -/
def resumeRun (now : Instant) (store : AssistantStore) (context : ResourceContext)
    (runId : String) : Except Failure (AssistantStore × Option Run) :=
  match lockThreadRun store context runId with
  | .error failure => .error failure
  | .ok run =>
      let compaction : Bool :=
        run.status = .failed ∧ run.lastErrorCode = some "context_compaction_failed"
      if ¬ (run.status = .interrupted ∨ run.status = .budgetExhausted) ∧ ¬ compaction then
        .error (.assistantConflict "run_not_resumable")
      else if compaction ∧ 1 ≤ run.workingState.compactionRetries then
        .error (.assistantConflict "context_recovery_not_available")
      else if run.lastErrorCode = some "context_budget_exceeded" ∧
          1 ≤ run.workingState.contextRecoveryAttempts then
        .error (.assistantConflict "context_recovery_not_available")
      else if (store.runsOf run.threadId).any fun newer => run.insertionSeq < newer.insertionSeq then
        .error (.assistantConflict "run_superseded")
      else if (store.runsOf run.threadId).any fun other =>
          other.id ≠ runId ∧ other.status.isActive then
        .error (.assistantConflict "thread_has_active_run")
      else
        let after := (store.changeRun runId
          (resumeChange now (resumedState run compaction))).appendRunEvent runId .runResumed
        .ok (after, after.runs.lookup runId)

/-! ## try_complete_run -/

/-- The arguments of `try_complete_run`, with the identifier it draws. The runtime passes the
run's stored usage, an object of numbers. -/
structure Completion where
  runId : String
  epoch : Option Int
  answer : String
  usage : Counters
  expectedScopeVersion : Int
  expectedObservedMemoryEpoch : Int
  dependencyRefs : List String
  expectedTaskNoteVersion : Option Int
  dependencyValidator : Option (List String → Nat → String → Int → Bool)
  completionOrigin : String
  messageUuid : String

inductive CompletionOutcome where
  | runFenced
  | scopeChanged
  | memoryChanged
  | memoryDependencyChanged
  | dependencyChanged
  | taskNoteChanged
  | executionBudgetExhausted
  | completed

/-- `actual_usage`. -/
def completedUsage (run : Run) (usage : Counters) : Counters :=
  let actual := if run.workingState.executionBudget.isSome then run.usageJson else usage
  if run.workingState.usageIncludesLate then actual
  else addUsage actual run.workingState.lateModelUsage.asUsage

def completeChange (around : Surroundings) (usage : Counters) : Change Run.id :=
  ⟨fun run =>
    { run with
      status := .completed
      usageJson := usage
      observedMemoryEpoch := around.memoryEpoch
      memoryEpoch := around.memoryEpoch
      updatedAt := around.now
      completedAt := some around.now }, fun _ => rfl⟩

/-- The answer of a completed run. -/
def answerMessage (around : Surroundings) (store : AssistantStore) (threadId : String)
    (args : Completion) : Message :=
  { id := "amsg_" ++ args.messageUuid
    threadId := threadId
    runId := some args.runId
    seq := store.nextMessageSeq threadId
    role := .assistant
    content := args.answer
    payload :=
      { origin := some args.completionOrigin
        dependencyRefs := args.dependencyRefs
        memoryObservedEpoch := some around.memoryEpoch
        taskNoteVersion := args.expectedTaskNoteVersion }
    createdAt := around.now }

/-- The checks of `try_complete_run` behind the run's own guard, in their order. -/
def completionObstacle (around : Surroundings) (store : AssistantStore) (context : ResourceContext)
    (run : Run) (thread : Thread) (args : Completion) : Option CompletionOutcome :=
  match (store.space context thread.spaceId).filter fun space =>
      space.scopeVersion = args.expectedScopeVersion with
  | none => some .scopeChanged
  | some space =>
      if around.memoryEpoch ≠ args.expectedObservedMemoryEpoch then some .memoryChanged
      else if ¬ memoryRefsValid around args.dependencyRefs thread.spaceId then
        some .memoryDependencyChanged
      else if args.dependencyValidator.any fun validator =>
          ¬ validator args.dependencyRefs thread.spaceId thread.id space.scopeVersion then
        some .dependencyChanged
      else if args.expectedTaskNoteVersion.any fun version =>
          ¬ (around.taskNote thread.id).any fun note =>
            note.status = "active" ∧ note.noteVersion = version then
        some .taskNoteChanged
      else if run.workingState.executionBudget.any fun budget =>
          budget.deadlineAt ≤ around.now then
        some .executionBudgetExhausted
      else none

/-- `try_complete_run`. The guard has locked the row, so the conditions of its update hold. -/
def tryCompleteRun (around : Surroundings) (store : AssistantStore) (context : ResourceContext)
    (args : Completion) : Except Failure (AssistantStore × CompletionOutcome) :=
  match lockWorkspace store context with
  | .error failure => .error failure
  | .ok _ =>
      match guardRunCompletion around.now store context args.runId args.epoch with
      | .error (.assistantConflict _) => .ok (store, .runFenced)
      | .error failure => .error failure
      | .ok run =>
          match store.threads.lookup run.threadId with
          | none => .error .typeError
          | some thread =>
              match completionObstacle around store context run thread args with
              | some obstacle => .ok (store, obstacle)
              | none =>
                  let message := answerMessage around store thread.id args
                  if (store.messages.lookup message.id).isSome then .error .uniqueViolation
                  else
                    .ok (((({ store with messages := store.messages.insert message } :
                      AssistantStore).changeRun args.runId
                        (completeChange around (completedUsage run args.usage))).touchThread
                          thread.id around.now).appendRunEvent args.runId
                            (.runCompleted message.id), .completed)

/-! ## update_space -/

/-- The keyword arguments of `update_space`. -/
structure SpaceUpdate where
  expectedScopeVersion : Int
  name : Option String
  goal : Option String
  sourceIds : Option (List Int)
  videoIds : Option (List Int)
  allActive : Option Bool
  maintenanceMode : Option String

/-- `sorted({int(v) for v in values if int(v)>0})`. -/
def selectedIds (values : List Int) : List Int :=
  ((values.filter fun value => 0 < value).dedup).insertionSort (· ≤ ·)

/-- The roots of a space whose scope changes: each is cancelled and says why. -/
def cancelRoots (now : Instant) (context : ResourceContext) :
    List String → AssistantStore → Except Failure AssistantStore
  | [], store => .ok store
  | runId :: rest, store =>
      match cancelRunRow now store context runId with
      | .error failure => .error failure
      | .ok after =>
          cancelRoots now context rest (after.changeRun runId
            ⟨fun run =>
              { run with
                lastErrorCode := some "scope_changed"
                lastErrorMessage := some "Space 范围已变化，请重新提问" }, fun _ => rfl⟩)

/-- The new columns of a space. -/
def SpaceUpdate.change (args : SpaceUpdate) (mode : MaintenanceMode) (changed : Bool) :
    Change Space.id :=
  ⟨fun prior =>
    { prior with
      name := if truthy (args.name.map strip) then (args.name.map strip).getD "" else prior.name
      goal := (args.goal.map strip).getD prior.goal
      sourceIds := (args.sourceIds.map selectedIds).getD prior.sourceIds
      videoIds := (args.videoIds.map selectedIds).getD prior.videoIds
      allActive := args.allActive.getD prior.allActive
      maintenanceMode := mode
      scopeVersion := prior.scopeVersion + if changed then 1 else 0 }, fun _ => rfl⟩

/-- `update_space`. -/
def updateSpace (now : Instant) (store : AssistantStore) (context : ResourceContext)
    (spaceId : Nat) (args : SpaceUpdate) : Except Failure (AssistantStore × Option Space) :=
  if args.maintenanceMode.any fun mode => (maintenanceModeOf mode).isNone then
    .error (.valueError "invalid_maintenance_mode")
  else
    match lockWorkspace store context with
    | .error failure => .error failure
    | .ok _ =>
        match store.space context spaceId with
        | none => .error .keyError
        | some prior =>
            if prior.scopeVersion ≠ args.expectedScopeVersion then
              .error (.assistantConflict "scope_version_conflict")
            else
              let mode := (args.maintenanceMode.bind maintenanceModeOf).getD prior.maintenanceMode
              let changed : Bool :=
                args.sourceIds.isSome ∨ args.videoIds.isSome ∨ args.allActive.isSome
              let space := (args.change mode changed).apply prior
              if mode = .automatic ∧
                  (space.allActive ∨ (space.sourceIds = [] ∧ space.videoIds = [])) then
                .error (.valueError "automatic_maintenance_requires_explicit_scope")
              else
                let roots := if changed then rootIds store fun run =>
                    run.status.isActive ∧ (store.thread context run.threadId).any fun thread =>
                      thread.spaceId = spaceId
                  else []
                match cancelRoots now context roots store with
                | .error failure => .error failure
                | .ok after =>
                    if after.spaces.rows.any fun other => other.id ≠ spaceId ∧
                        other.context.userId = context.userId ∧ other.name = space.name then
                      .error .uniqueViolation
                    else
                      let after :=
                        { after with spaces := after.spaces.modify spaceId (args.change mode changed) }
                      .ok (after, after.space context spaceId)

/-! ## Execution budget and provider responses -/

/-- The budget of a new segment. -/
def freshBudget (now : Instant) (modelLimit toolLimit : Int) : ExecutionBudget :=
  { deadlineAt := wholeSecond now + assistantActiveSeconds * microsPerSecond
    modelLimit := max 0 modelLimit
    toolLimit := max 0 toolLimit
    modelCalls := 0
    toolExecutions := 0
    knownTokens := 0
    unknownResponses := 0
    finalDispatched := false
    pausedRemaining := none }

/-- `initialize_execution_budget`. -/
def initializeExecutionBudget (now : Instant) (store : AssistantStore) (context : ResourceContext)
    (runId : String) (epoch : Option Int) (modelLimit toolLimit : Int) :
    Except Failure (AssistantStore × ExecutionBudget) :=
  match guardRunCompletion now store context runId epoch with
  | .error failure => .error failure
  | .ok run =>
      match run.workingState.executionBudget with
      | some budget => .ok (store, budget)
      | none =>
          let budget := freshBudget now modelLimit toolLimit
          .ok (store.changeRun runId
            (setState { run.workingState with executionBudget := some budget }), budget)

/-- `int(usage.get(first) or usage.get(second) or 0)`; `none` if it raises. -/
def tokenCount (usage : Usage) (first second : String) : Option Int :=
  match ([usage.lookup first, usage.lookup second].filterMap id).find? UsageValue.isTruthy with
  | some value => value.toInteger
  | none => some 0

/-- `known_tokens`; `none` if it raises. -/
def knownTokens (usage : Usage) : Option Int := do
  let total ← tokenCount usage "total_tokens" "total_tokens"
  let prompt ← tokenCount usage "prompt_tokens" "input_tokens"
  let completion ← tokenCount usage "completion_tokens" "output_tokens"
  return max total (prompt + completion)

/-- What a response with a call id adds to the budget of its segment. -/
def chargedState (state : WorkingState) (usage : Usage) (callId : Option String) :
    Except Failure WorkingState :=
  match state.executionBudget with
  | none => .ok state
  | some budget =>
      if truthy callId then
        match knownTokens usage with
        | none => .error .dataError
        | some tokens =>
            .ok { state with
              executionBudget := some
                { budget with
                  knownTokens := budget.knownTokens + tokens
                  unknownResponses := budget.unknownResponses + if usage.keys = [] then 1 else 0 }
              usageIncludesLate := true }
      else .ok state

/-- A response of the model provider. -/
structure ProviderResponse where
  usage : Usage
  finishReason : Option String
  late : Bool
  callId : Option String

/-- `payload_json->>'call_id'` of a provider response. -/
def EventPayload.callId : EventPayload → Option String
  | .providerResponse callId _ _ _ => callId
  | _ => none

/-- The run has an event for the call already. -/
def hasResponse (store : AssistantStore) (runId : String) (callId : Option String) : Bool :=
  store.events.rows.any fun event => event.runId = runId ∧ event.payload.callId = callId

def setUsage (usage : Counters) (state : WorkingState) : Change Run.id :=
  ⟨fun run => { run with usageJson := usage, workingState := state }, fun _ => rfl⟩

/-- `record_provider_response`. -/
def recordProviderResponse (store : AssistantStore) (context : ResourceContext) (runId : String)
    (response : ProviderResponse) : Except Failure (AssistantStore × Unit) :=
  match lockThreadRun store context runId with
  | .error failure => .error failure
  | .ok root =>
      if truthy response.callId ∧ hasResponse store runId response.callId then .ok (store, ())
      else
        let logged := store.appendRunEvent runId (.providerResponse response.callId response.late
          (response.usage.keys ≠ []) response.finishReason)
        match chargedState root.workingState response.usage response.callId with
        | .error failure => .error failure
        | .ok state =>
            -- a float JSON cannot hold would end up in a JSON column
            if response.usage.entries.any fun entry => entry.2 = .nonfinite then .error .dataError
            else if response.late ∨ root.status ≠ .running then
              let state :=
                { state with lateModelUsage := addUsage state.lateModelUsage response.usage }
              if state.executionBudget.isNone then .ok (logged.changeRun runId (setState state), ())
              else .ok (logged.changeRun runId
                (setUsage (addUsage root.usageJson response.usage) state), ())
            else .ok (logged.changeRun runId
              (setUsage (addUsage root.usageJson response.usage) state), ())

/-! ## Runs of calls -/

inductive RunAction where
  | createRun (args : NewRun)
  | claimNextRun (createdAfter : Option Instant) (skipped : String → Bool)
  | cancelRun (runId : String)
  | requestFinish (runId : String)
  | pauseRun (report : Diagnostic)
  | failRun (report : Diagnostic)
  | recoverInterruptedRuns
  | resumeRun (runId : String)
  | tryCompleteRun (args : Completion)
  | updateSpace (spaceId : Nat) (args : SpaceUpdate)
  | initializeExecutionBudget (runId : String) (epoch : Option Int) (modelLimit toolLimit : Int)
  | recordProviderResponse (runId : String) (response : ProviderResponse)

/-- One call: by whom, what, and what it finds around it. -/
structure Call where
  context : ResourceContext
  around : Surroundings
  action : RunAction

/-- The store after a call; a call that raises is rolled back. -/
def stepRun (store : AssistantStore) (call : Call) : AssistantStore :=
  let now := call.around.now
  match call.action with
  | .createRun args => settled store (createRun call.around store call.context args)
  | .claimNextRun createdAfter skipped =>
      settled store (claimNextRun now store call.context createdAfter skipped)
  | .cancelRun runId => settled store (cancelRun now store call.context runId)
  | .requestFinish runId => settled store (requestFinish now store call.context runId)
  | .pauseRun report => settled store (pauseRun now store call.context report)
  | .failRun report => settled store (failRun now store call.context report)
  | .recoverInterruptedRuns => settled store (recoverInterruptedRuns now store call.context)
  | .resumeRun runId => settled store (resumeRun now store call.context runId)
  | .tryCompleteRun args => settled store (tryCompleteRun call.around store call.context args)
  | .updateSpace spaceId args => settled store (updateSpace now store call.context spaceId args)
  | .initializeExecutionBudget runId epoch modelLimit toolLimit =>
      settled store (initializeExecutionBudget now store call.context runId epoch modelLimit
        toolLimit)
  | .recordProviderResponse runId response =>
      settled store (recordProviderResponse store call.context runId response)

end Shiliu.Assistant
