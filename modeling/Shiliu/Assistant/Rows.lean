/-
Module: Shiliu.Assistant.Rows
Purpose: The rows of the assistant's conversations: spaces, threads, runs, messages and run
  events, and the JSON objects among their columns. A run belongs to the workspace of its thread,
  as the foreign keys have it, so the workspace is kept with the thread.
Trusted boundary: none
Main exports: Space, Thread, Run, RunStatus, WorkingState, Message, RunEvent, AssistantStore
-/
import Mathlib.Data.List.MinMax
import Mathlib.Data.List.Sort
import Mathlib.Data.Prod.Lex
import Mathlib.Data.String.Basic
import Shiliu.Library.Table
import Shiliu.Storage.DispatchLedger

namespace Shiliu.Assistant

open Shiliu.Library Shiliu.Storage

inductive MaintenanceMode where
  | onDemand
  | automatic
deriving DecidableEq

/-- The mode a text names. -/
def maintenanceModeOf : String → Option MaintenanceMode
  | "on_demand" => some .onDemand
  | "automatic" => some .automatic
  | _ => none

/-- A row of `assistant_spaces`. -/
structure Space where
  id : Nat
  context : ResourceContext
  name : String
  goal : String
  sourceIds : List Int
  videoIds : List Int
  allActive : Bool
  maintenanceMode : MaintenanceMode
  scopeVersion : Int
  enabled : Bool

/-- A row of `assistant_threads`. -/
structure Thread where
  id : String
  context : ResourceContext
  spaceId : Nat
  title : String
  createdAt : Instant
  updatedAt : Instant

inductive RunStatus where
  | queued
  | running
  | interrupted
  | budgetExhausted
  | failed
  | completed
  | cancelled
deriving DecidableEq

/-- `status IN ('queued','running')`. -/
def RunStatus.isActive : RunStatus → Bool
  | .queued | .running => true
  | _ => false

/-- `status IN ('interrupted','budget_exhausted','failed')`. -/
def RunStatus.isStopped : RunStatus → Bool
  | .interrupted | .budgetExhausted | .failed => true
  | _ => false

/-- The statuses a run ends in. -/
def RunStatus.isFinal : RunStatus → Bool
  | .completed | .cancelled => true
  | _ => false

/-- `working_state_json["execution_budget"]`. -/
structure ExecutionBudget where
  deadlineAt : Instant
  modelLimit : Int
  toolLimit : Int
  modelCalls : Int
  toolExecutions : Int
  knownTokens : Int
  unknownResponses : Int
  finalDispatched : Bool
  /-- What was left of the budget when the run was paused, in microseconds. -/
  pausedRemaining : Option Nat

/-- `working_state_json["auto_memory_admission"]`. -/
structure MemoryAdmission where
  enabled : Bool
  generation : Int

/-- `working_state_json["knowledge_save"]`. -/
structure KnowledgeSave where
  sourceMessageId : String
  requestKey : String
  answerMessageId : String
  answerRunId : Option String
  scopeText : String
  receiptOnly : Bool

/-- `working_state_json`. A counter or flag that is absent reads as zero or false, as it does for
every `get` on it. -/
structure WorkingState where
  scopeVersion : Int
  autoMemoryAdmission : MemoryAdmission
  /-- `task_subset`, by its JSON text. -/
  taskSubset : Option String
  knowledgeSave : Option KnowledgeSave
  segmentStartedAt : Option Instant
  executionBudget : Option ExecutionBudget
  finishRequested : Bool
  explicitNewSegment : Bool
  segmentStepBase : Nat
  segmentToolBase : Nat
  compactionRetries : Nat
  contextRecoveryAttempts : Nat
  lateModelUsage : Counters
  usageIncludesLate : Bool

/-- A row of `assistant_runs`. -/
structure Run where
  id : String
  threadId : String
  requestId : String
  status : RunStatus
  runEpoch : Int
  stepCount : Nat
  toolCount : Nat
  workingState : WorkingState
  usageJson : Counters
  cancelRequested : Bool
  memoryEpoch : Int
  extractionMemoryEpoch : Int
  observedMemoryEpoch : Int
  lastErrorCode : Option String
  lastErrorMessage : Option String
  createdAt : Instant
  startedAt : Option Instant
  updatedAt : Instant
  completedAt : Option Instant
  insertionSeq : Nat

inductive Role where
  | user
  | assistant
  | tool
deriving DecidableEq

/-- `provider_payload_json`, as far as an answer fills it. -/
structure ProviderPayload where
  origin : Option String
  dependencyRefs : List String
  memoryObservedEpoch : Option Int
  taskNoteVersion : Option Int

/-- The default of the column, an empty object. -/
def ProviderPayload.empty : ProviderPayload := ⟨none, [], none, none⟩

/-- A row of `assistant_messages`. -/
structure Message where
  id : String
  threadId : String
  runId : Option String
  seq : Nat
  role : Role
  content : String
  payload : ProviderPayload
  createdAt : Instant

/-- `event_type` with its `payload_json`. -/
inductive EventPayload where
  | runQueued (messageId : String)
  | runStarted
  | runCancelled (reason : String)
  | runInterrupted (reason message : Option String)
  | runBudgetExhausted (errorCode message : String)
  | runFailed (errorCode message : String)
  | runResumed
  | runCompleted (messageId : String)
  | providerResponse (callId : Option String) (late usageKnown : Bool)
      (finishReason : Option String)
deriving DecidableEq

/-- A row of `assistant_run_events`. -/
structure RunEvent where
  runId : String
  seq : Nat
  payload : EventPayload

/-- `UNIQUE ("run_id","seq")`. -/
def RunEvent.key (event : RunEvent) : String × Nat :=
  (event.runId, event.seq)

/-- The tables of the conversations. `workspaces` are the rows of `workspace_guards`, and
`insertionHighwater` the last value of the identity column of the runs. -/
structure AssistantStore where
  workspaces : List String
  spaces : Table Space.id
  threads : Table Thread.id
  runs : Table Run.id
  messages : Table Message.id
  events : Table RunEvent.key
  insertionHighwater : Nat

namespace AssistantStore

/-- `SELECT … FROM assistant_spaces WHERE workspace_id=… AND principal_id=… AND id=…`. -/
def space (store : AssistantStore) (context : ResourceContext) (spaceId : Nat) : Option Space :=
  (store.spaces.lookup spaceId).filter fun space => space.context = context

/-- `SELECT … FROM assistant_threads WHERE workspace_id=… AND principal_id=… AND id=…`. -/
def thread (store : AssistantStore) (context : ResourceContext) (threadId : String) :
    Option Thread :=
  (store.threads.lookup threadId).filter fun thread => thread.context = context

/-- The runs of a thread. -/
def runsOf (store : AssistantStore) (threadId : String) : List Run :=
  store.runs.rows.filter fun run => run.threadId = threadId

/-- `ORDER BY insertion_seq DESC LIMIT 1` among the runs of a thread. -/
def latestRun (store : AssistantStore) (threadId : String) : Option Run :=
  (store.runsOf threadId).argmax Run.insertionSeq

/-- `COALESCE(MAX(seq),0)+1` among the messages of a thread. -/
def nextMessageSeq (store : AssistantStore) (threadId : String) : Nat :=
  ((store.messages.rows.filter fun message => message.threadId = threadId).map
    Message.seq).foldr max 0 + 1

/-- `coalesce(max(seq),0)+1` among the events of a run. -/
def nextEventSeq (store : AssistantStore) (runId : String) : Nat :=
  ((store.events.rows.filter fun event => event.runId = runId).map RunEvent.seq).foldr max 0 + 1

end AssistantStore

end Shiliu.Assistant
