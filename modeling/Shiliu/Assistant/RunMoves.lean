/-
Module: Shiliu.Assistant.RunMoves
Purpose: What a call can do to the runs, the messages and the events. Four quiet moves (nothing,
  an event that is no completion, a run whose status moves along the life cycle, a new run of an
  idle thread) and one completion cover every transaction: a call is a sequence of quiet moves,
  or it is a completion. The invariants are proved of the moves.
Trusted boundary: none
Main exports: StatusMove, Quiet, Completes, stepRun_moves, stepRun_of_stale
-/
import Mathlib.Logic.Relation
import Shiliu.Assistant.RunStore

set_option linter.all false

namespace Shiliu.Assistant

open Shiliu.Library Shiliu.Storage
open Relation (ReflTransGen)

namespace AssistantStore

/-- The tables a run lives in. -/
def books (store : AssistantStore) :
    Table Run.id × Table Message.id × Table RunEvent.key × Nat :=
  (store.runs, store.messages, store.events, store.insertionHighwater)

@[simp] theorem runs_changeRun (store : AssistantStore) (runId : String) (change : Change Run.id) :
    (store.changeRun runId change).runs = store.runs.modify runId change := rfl

@[simp] theorem threads_changeRun (store : AssistantStore) (runId : String)
    (change : Change Run.id) : (store.changeRun runId change).threads = store.threads := rfl

@[simp] theorem runs_appendRunEvent (store : AssistantStore) (runId : String)
    (payload : EventPayload) : (store.appendRunEvent runId payload).runs = store.runs := rfl

@[simp] theorem threads_appendRunEvent (store : AssistantStore) (runId : String)
    (payload : EventPayload) : (store.appendRunEvent runId payload).threads = store.threads := rfl

theorem le_foldr_max {numbers : List Nat} {number : Nat} (member : number ∈ numbers) :
    number ≤ numbers.foldr max 0 := by
  induction numbers with
  | nil => cases member
  | cons head rest inductionHypothesis =>
      rw [List.foldr_cons]
      rcases List.mem_cons.mp member with rfl | member
      · exact le_max_left _ _
      · exact (inductionHypothesis member).trans (le_max_right _ _)

theorem lookup_nextEventSeq (store : AssistantStore) (runId : String) (payload : EventPayload) :
    store.events.lookup (RunEvent.key ⟨runId, store.nextEventSeq runId, payload⟩) = none := by
  rw [Table.lookup_eq_none]
  intro event isEvent same
  obtain ⟨sameRun, sameSeq⟩ := Prod.mk.inj same
  have counted : event.seq ∈
      (store.events.rows.filter fun event => event.runId = runId).map RunEvent.seq :=
    List.mem_map_of_mem (List.mem_filter.mpr ⟨isEvent, by simpa using sameRun⟩)
  have sameSeq : event.seq = store.nextEventSeq runId := sameSeq
  have atMost := le_foldr_max counted
  rw [sameSeq] at atMost
  exact Nat.not_succ_le_self _ atMost

theorem mem_appendRunEvent {store : AssistantStore} {runId : String} {payload : EventPayload}
    {event : RunEvent} :
    event ∈ (store.appendRunEvent runId payload).events ↔
      event ∈ store.events ∨ event = ⟨runId, store.nextEventSeq runId, payload⟩ :=
  Table.mem_insert (store.lookup_nextEventSeq runId payload)

end AssistantStore

/-! ## The moves -/

/-- The moves of a run's status, with what they do to its epoch. -/
inductive StatusMove (before after : Run) : Prop where
  | kept (status : after.status = before.status) (epoch : after.runEpoch = before.runEpoch)
  | claimed (status : before.status = .queued) (now : after.status = .running)
      (epoch : after.runEpoch = before.runEpoch)
  | stopped (status : before.status = .running) (now : after.status.isStopped)
      (epoch : after.runEpoch = before.runEpoch)
  | cancelled (status : before.status.isActive ∨ before.status.isStopped)
      (now : after.status = .cancelled) (epoch : after.runEpoch = before.runEpoch + 1)
  | resumed (status : before.status.isStopped) (now : after.status = .queued)
      (epoch : after.runEpoch = before.runEpoch + 1)

/-- The columns no transaction changes. -/
structure SameRoot (before after : Run) : Prop where
  thread : after.threadId = before.threadId
  request : after.requestId = before.requestId
  order : after.insertionSeq = before.insertionSeq

/-- `run_completed`. -/
def EventPayload.isCompletion : EventPayload → Bool
  | .runCompleted _ => true
  | _ => false

/-- The thread takes a new run: none is active and the latest is not waiting to be resumed. -/
structure Idle (store : AssistantStore) (threadId : String) : Prop where
  noActive : ∀ run ∈ store.runs, run.threadId = threadId → run.status.isActive = false
  latest : ∀ run, store.latestRun threadId = some run → run.status.isStopped = false

/-- What a run keeps of the usage of its provider responses. -/
structure SameUsage (before after : Run) : Prop where
  usage : after.usageJson = before.usageJson
  late : after.workingState.lateModelUsage = before.workingState.lateModelUsage
  includes : after.workingState.usageIncludesLate = before.workingState.usageIncludesLate

/-- A run that has used nothing. -/
structure NoUsage (run : Run) : Prop where
  usage : run.usageJson = ∅
  late : run.workingState.lateModelUsage = ∅

/-- `provider_response`. -/
def EventPayload.isResponse : EventPayload → Bool
  | .providerResponse _ _ _ _ => true
  | _ => false

/-- A move that completes no run. A thrifty one records no provider response either. -/
inductive Quiet (thrifty : Bool) (before : AssistantStore) : AssistantStore → Prop where
  | aside {after : AssistantStore} (same : after.books = before.books) : Quiet thrifty before after
  | logged (runId : String) (payload : EventPayload) (quiet : payload.isCompletion = false)
      (unheard : thrifty → payload.isResponse = false) :
      Quiet thrifty before (before.appendRunEvent runId payload)
  | changed (runId : String) (run : Run) (change : Change Run.id)
      (found : before.runs.lookup runId = some run) (root : SameRoot run (change.apply run))
      (move : StatusMove run (change.apply run))
      (usage : thrifty → SameUsage run (change.apply run)) :
      Quiet thrifty before (before.changeRun runId change)
  | queued (run : Run) (message : Message) (freshRun : before.runs.lookup run.id = none)
      (freshMessage : before.messages.lookup message.id = none) (status : run.status = .queued)
      (order : run.insertionSeq = before.insertionHighwater + 1) (role : message.role = .user)
      (idle : Idle before run.threadId) (usage : NoUsage run) :
      Quiet thrifty before
        { before with
          runs := before.runs.insert run
          messages := before.messages.insert message
          insertionHighwater := before.insertionHighwater + 1 }

/-- The move of `try_complete_run`. -/
structure Completes (before : AssistantStore) (args : Completion) (after : AssistantStore)
    (run : Run) (message : Message) (change : Change Run.id) : Prop where
  found : before.runs.lookup args.runId = some run
  running : run.status = .running
  current : args.epoch = some run.runEpoch
  fresh : before.messages.lookup message.id = none
  answers : message.role = .assistant ∧ message.runId = some args.runId
  root : SameRoot run (change.apply run)
  completed : (change.apply run).status = .completed
  epochKept : (change.apply run).runEpoch = run.runEpoch
  usage : (change.apply run).usageJson = completedUsage run args.usage
  runs : after.runs = before.runs.modify args.runId change
  messages : after.messages = before.messages.insert message
  events : after.events = (before.appendRunEvent args.runId (.runCompleted message.id)).events
  order : after.insertionHighwater = before.insertionHighwater

/-- Every call but the delivery of a response is thrifty. -/
def RunAction.isThrifty : RunAction → Bool
  | .recordProviderResponse _ _ => false
  | _ => true

/-! ## Every transaction is made of moves -/

/-- A transaction that is a sequence of quiet moves when it commits is one in any case. -/
theorem settled_quiet {Result : Type} {thrifty : Bool} {before : AssistantStore}
    {outcome : Except Failure (AssistantStore × Result)}
    (committed : ∀ after result, outcome = .ok (after, result) →
      ReflTransGen (Quiet thrifty) before after) :
    ReflTransGen (Quiet thrifty) before (settled before outcome) := by
  cases outcome with
  | error failure => exact .refl
  | ok outcome => exact committed outcome.1 outcome.2 rfl

variable {run : Run}

theorem lookup_of_lockThreadRun {store : AssistantStore} {context : ResourceContext}
    {runId : String} (locked : lockThreadRun store context runId = .ok run) :
    store.runs.lookup runId = some run := by
  unfold lockThreadRun at locked
  split at locked
  · cases locked
  · rename_i found
    repeat' split at locked
    all_goals cases locked
    exact found

theorem guardRunCompletion_ok {now : Instant} {store : AssistantStore} {context : ResourceContext}
    {runId : String} {epoch : Option Int}
    (passed : guardRunCompletion now store context runId epoch = .ok run) :
    store.runs.lookup runId = some run ∧ run.status = .running ∧ epoch = some run.runEpoch := by
  unfold guardRunCompletion at passed
  split at passed
  · cases passed
  · split at passed
    · cases passed
    · split at passed
      · cases passed
      · rename_i locked
        split at passed
        · cases passed
        · rename_i current
          split at passed
          · cases passed
          · cases passed
            simp only [not_or, not_not] at current
            exact ⟨lookup_of_lockThreadRun locked, current.2.1, by rw [current.1]⟩

theorem quiet_changed_logged {store : AssistantStore} {runId : String} {change : Change Run.id}
    {payload : EventPayload} (found : store.runs.lookup runId = some run)
    (root : SameRoot run (change.apply run)) (move : StatusMove run (change.apply run))
    (usage : SameUsage run (change.apply run)) (quiet : payload.isCompletion = false)
    (unheard : payload.isResponse = false) :
    ReflTransGen (Quiet true) store
      ((store.changeRun runId change).appendRunEvent runId payload) :=
  (ReflTransGen.single (.changed runId run change found root move fun _ => usage)).tail
    (.logged runId payload quiet fun _ => unheard)

section Transactions

variable {around : Surroundings} {now : Instant} {store after : AssistantStore}
  {context : ResourceContext} {runId : String}

theorem createRun_quiet {args : NewRun} {run : Run}
    (committed : createRun around store context args = .ok (after, run)) :
    ReflTransGen (Quiet true) store after := by
  unfold createRun at committed
  split at committed
  · cases committed
  split at committed
  · cases committed
  split at committed
  · cases committed
  split at committed
  · cases committed
    exact .refl
  simp only at committed
  split at committed
  · cases committed
  rename_i isIdle
  split at committed
  · cases committed
  unfold queueRun at committed
  simp only at committed
  split at committed
  · cases committed
  rename_i isFresh
  split at committed
  · cases committed
  cases committed
  simp only [not_or, Bool.not_eq_true, Option.isSome_eq_false_iff, Option.isNone_iff_eq_none]
    at isFresh isIdle
  have idle : Idle store args.threadId := by
    refine ⟨fun run isRun inThread => ?_, fun latest isLatest => ?_⟩
    · have none_ := List.any_eq_false.mp isIdle.1 run
        (List.mem_filter.mpr ⟨isRun, by simpa using inThread⟩)
      simpa using none_
    · have stopped := isIdle.2
      rw [isLatest] at stopped
      exact stopped
  refine ((ReflTransGen.single (.queued _ _ isFresh.1 isFresh.2 rfl rfl rfl idle
    ⟨rfl, rfl⟩)).tail (.aside rfl)).tail (.logged _ _ rfl fun _ => rfl)

variable {result : Option Run} {report : Diagnostic}

theorem claimNextRun_quiet {createdAfter : Option Instant} {skipped : String → Bool}
    (committed : claimNextRun now store context createdAfter skipped = .ok (after, result)) :
    ReflTransGen (Quiet true) store after := by
  unfold claimNextRun at committed
  split at committed
  · cases committed
    exact .refl
  split at committed
  · cases committed
    exact .refl
  rename_i run chosen
  cases committed
  have member := List.argmin_mem chosen
  simp only [AssistantStore.runsOf, List.mem_filter, claimable, decide_eq_true_eq,
    Bool.and_eq_true, Bool.decide_and] at member
  exact quiet_changed_logged (Table.lookup_of_mem member.1.1) ⟨rfl, rfl, rfl⟩
    (.claimed member.2.1 rfl rfl) ⟨rfl, rfl, rfl⟩ rfl rfl

theorem cancelRunRow_quiet (committed : cancelRunRow now store context runId = .ok after) :
    ReflTransGen (Quiet true) store after := by
  unfold cancelRunRow at committed
  split at committed
  · cases committed
  rename_i run locked
  split at committed
  · rename_i alive
    cases committed
    exact quiet_changed_logged (lookup_of_lockThreadRun locked) ⟨rfl, rfl, rfl⟩
      (.cancelled alive rfl rfl) ⟨rfl, rfl, rfl⟩ rfl rfl
  · cases committed
    exact .refl

theorem cancelRun_quiet (committed : cancelRun now store context runId = .ok (after, result)) :
    ReflTransGen (Quiet true) store after := by
  unfold cancelRun at committed
  split at committed
  · cases committed
  · rename_i isRow
    cases committed
    exact cancelRunRow_quiet isRow

theorem requestFinish_quiet
    (committed : requestFinish now store context runId = .ok (after, result)) :
    ReflTransGen (Quiet true) store after := by
  unfold requestFinish at committed
  split at committed
  · cases committed
  rename_i run locked
  split at committed
  · cases committed
    exact .single (.changed runId run _ (lookup_of_lockThreadRun locked) ⟨rfl, rfl, rfl⟩
      (.kept rfl rfl) fun _ => ⟨rfl, rfl, rfl⟩)
  · cases committed
    exact .refl

theorem lockExecutionDiagnostic_some {run : Run}
    (locked : lockExecutionDiagnostic store context report = .ok (some run)) :
    store.runs.lookup report.runId = some run ∧ run.status = .running ∧
      (∀ epoch, report.epoch = some epoch → epoch = run.runEpoch) ∧
      ∀ active, report.execution = some active → active.2 = run.runEpoch := by
  unfold lockExecutionDiagnostic at locked
  simp only at locked
  split at locked
  · cases locked
  rename_i native
  split at locked
  · cases locked
  rename_i effective carried
  split at locked
  · cases locked
  split at locked
  · cases locked
  rename_i isRun
  split at locked
  · cases locked
  rename_i current
  cases locked
  simp only [not_or, not_not] at current
  obtain ⟨running, sameEpoch, -⟩ := current
  refine ⟨lookup_of_lockThreadRun isRun, running, ?_, ?_⟩
  · intro epoch isEpoch
    cases active : report.execution with
    | none =>
        rw [active, isEpoch] at carried
        exact (Option.some_inj.mp carried).trans sameEpoch.symm
    | some execution =>
        rw [active, isEpoch] at carried native
        have agrees : epoch = execution.2 := by
          by_contra differs
          exact native (by simp [differs])
        rw [agrees, sameEpoch]
        exact Option.some_inj.mp carried
  · intro execution active
    rw [active] at carried
    rw [sameEpoch]
    exact Option.some_inj.mp carried

theorem pauseRun_quiet {result : Unit}
    (committed : pauseRun now store context report = .ok (after, result)) :
    ReflTransGen (Quiet true) store after := by
  unfold pauseRun at committed
  split at committed
  · cases committed
  · cases committed
    exact .refl
  · rename_i run locked
    cases committed
    obtain ⟨found, running, -⟩ := lockExecutionDiagnostic_some locked
    exact quiet_changed_logged found ⟨rfl, rfl, rfl⟩ (.stopped running rfl rfl)
        ⟨rfl, rfl, rfl⟩ rfl rfl

theorem failRun_quiet {result : Unit}
    (committed : failRun now store context report = .ok (after, result)) :
    ReflTransGen (Quiet true) store after := by
  unfold failRun at committed
  split at committed
  · cases committed
  · cases committed
    exact .refl
  · rename_i run locked
    obtain ⟨found, running, -⟩ := lockExecutionDiagnostic_some locked
    split at committed
    · cases committed
      exact quiet_changed_logged found ⟨rfl, rfl, rfl⟩ (.stopped running rfl rfl)
        ⟨rfl, rfl, rfl⟩ rfl rfl
    · cases committed
      exact quiet_changed_logged found ⟨rfl, rfl, rfl⟩ (.stopped running rfl rfl)
        ⟨rfl, rfl, rfl⟩ rfl rfl

theorem recoverRuns_quiet {runIds : List String} {count : Nat}
    (committed : recoverRuns now context runIds store = .ok (after, count)) :
    ReflTransGen (Quiet true) store after := by
  induction runIds generalizing store count with
  | nil =>
      cases committed
      exact .refl
  | cons runId rest inductionHypothesis =>
      unfold recoverRuns at committed
      split at committed
      · cases committed
      rename_i run locked
      split at committed
      · exact inductionHypothesis committed
      rename_i isRunning
      split at committed
      · cases committed
      rename_i recovered
      cases committed
      exact (quiet_changed_logged (lookup_of_lockThreadRun locked) ⟨rfl, rfl, rfl⟩
        (.stopped (not_not.mp isRunning) rfl rfl) ⟨rfl, rfl, rfl⟩ rfl rfl).trans (inductionHypothesis recovered)

theorem resumeRun_quiet (committed : resumeRun now store context runId = .ok (after, result)) :
    ReflTransGen (Quiet true) store after := by
  unfold resumeRun at committed
  split at committed
  · cases committed
  rename_i run locked
  simp only at committed
  split at committed
  · cases committed
  rename_i resumable
  repeat' split at committed
  all_goals cases committed
  refine quiet_changed_logged (lookup_of_lockThreadRun locked) ⟨rfl, rfl, rfl⟩
    (.resumed ?_ rfl rfl) ⟨rfl, rfl, rfl⟩ rfl rfl
  cases status : run.status <;> simp_all [RunStatus.isStopped]

theorem cancelRoots_quiet {runIds : List String}
    (committed : cancelRoots now context runIds store = .ok after) :
    ReflTransGen (Quiet true) store after := by
  induction runIds generalizing store with
  | nil =>
      cases committed
      exact .refl
  | cons runId rest inductionHypothesis =>
      unfold cancelRoots at committed
      split at committed
      · cases committed
      rename_i cancelled isCancelled
      refine (cancelRunRow_quiet isCancelled).trans (.trans ?_ (inductionHypothesis committed))
      cases found : cancelled.runs.lookup runId with
      | none =>
          refine .single (.aside ?_)
          simp only [AssistantStore.books, AssistantStore.changeRun]
          rw [Table.modify_of_absent found]
      | some run =>
          exact .single (.changed runId run _ found ⟨rfl, rfl, rfl⟩ (.kept rfl rfl) fun _ => ⟨rfl, rfl, rfl⟩)

theorem updateSpace_quiet {spaceId : Nat} {args : SpaceUpdate} {result : Option Space}
    (committed : updateSpace now store context spaceId args = .ok (after, result)) :
    ReflTransGen (Quiet true) store after := by
  unfold updateSpace at committed
  split at committed
  · cases committed
  split at committed
  · cases committed
  split at committed
  · cases committed
  split at committed
  · cases committed
  simp only at committed
  split at committed
  · cases committed
  split at committed
  · cases committed
  rename_i cancelled isCancelled
  split at committed
  · cases committed
  cases committed
  exact (cancelRoots_quiet isCancelled).tail (.aside rfl)

theorem initializeExecutionBudget_quiet {epoch : Option Int} {modelLimit toolLimit : Int}
    {result : ExecutionBudget}
    (committed : initializeExecutionBudget now store context runId epoch modelLimit toolLimit =
      .ok (after, result)) : ReflTransGen (Quiet true) store after := by
  unfold initializeExecutionBudget at committed
  split at committed
  · cases committed
  rename_i run passed
  split at committed
  · cases committed
    exact .refl
  · cases committed
    exact .single (.changed runId run _ (guardRunCompletion_ok passed).1 ⟨rfl, rfl, rfl⟩
      (.kept rfl rfl) fun _ => ⟨rfl, rfl, rfl⟩)

theorem recordProviderResponse_quiet {response : ProviderResponse} {result : Unit}
    (committed : recordProviderResponse store context runId response = .ok (after, result)) :
    ReflTransGen (Quiet false) store after := by
  unfold recordProviderResponse at committed
  split at committed
  · cases committed
  rename_i run locked
  have found := lookup_of_lockThreadRun locked
  split at committed
  · cases committed
    exact .refl
  simp only at committed
  split at committed
  · cases committed
  split at committed
  · cases committed
  have logged : ReflTransGen (Quiet false) store _ := .single (.logged runId (.providerResponse
    response.callId response.late (response.usage.keys ≠ []) response.finishReason) rfl
    fun thrifty => by cases thrifty)
  repeat' split at committed
  all_goals
    cases committed
    exact logged.tail (.changed runId run _ found ⟨rfl, rfl, rfl⟩ (.kept rfl rfl)
      fun thrifty => by cases thrifty)

theorem tryCompleteRun_moves {args : Completion} {outcome : CompletionOutcome}
    (committed : tryCompleteRun around store context args = .ok (after, outcome)) :
    after = store ∨ ∃ run message change, Completes store args after run message change := by
  unfold tryCompleteRun at committed
  split at committed
  · cases committed
  split at committed
  · cases committed
    exact Or.inl rfl
  · cases committed
  rename_i run passed
  split at committed
  · cases committed
  rename_i thread _
  split at committed
  · cases committed
    exact Or.inl rfl
  simp only at committed
  split at committed
  · cases committed
  rename_i isFresh
  cases committed
  rw [Bool.not_eq_true, Option.isSome_eq_false_iff, Option.isNone_iff_eq_none] at isFresh
  obtain ⟨found, running, carried⟩ := guardRunCompletion_ok passed
  refine Or.inr ⟨run, answerMessage around store thread.id args,
    completeChange around (completedUsage run args.usage), ?_⟩
  exact
    { found := found
      running := running
      current := carried
      fresh := isFresh
      answers := ⟨rfl, rfl⟩
      root := ⟨rfl, rfl, rfl⟩
      completed := rfl
      epochKept := rfl
      usage := rfl
      runs := rfl
      messages := rfl
      events := rfl
      order := rfl }

end Transactions

/-- A call is a sequence of quiet moves, or it is `try_complete_run` with the run's epoch and
completes the run. -/
theorem stepRun_moves (store : AssistantStore) (call : Call) :
    ReflTransGen (Quiet call.action.isThrifty) store (stepRun store call) ∨
      ∃ args run message change, call.action = .tryCompleteRun args ∧
        Completes store args (stepRun store call) run message change := by
  obtain ⟨context, around, action⟩ := call
  cases action with
  | createRun args => exact Or.inl (settled_quiet fun _ _ => createRun_quiet)
  | claimNextRun createdAfter skipped => exact Or.inl (settled_quiet fun _ _ => claimNextRun_quiet)
  | cancelRun runId => exact Or.inl (settled_quiet fun _ _ => cancelRun_quiet)
  | requestFinish runId => exact Or.inl (settled_quiet fun _ _ => requestFinish_quiet)
  | pauseRun report => exact Or.inl (settled_quiet fun _ _ => pauseRun_quiet)
  | failRun report => exact Or.inl (settled_quiet fun _ _ => failRun_quiet)
  | recoverInterruptedRuns => exact Or.inl (settled_quiet fun _ _ => recoverRuns_quiet)
  | resumeRun runId => exact Or.inl (settled_quiet fun _ _ => resumeRun_quiet)
  | updateSpace spaceId args => exact Or.inl (settled_quiet fun _ _ => updateSpace_quiet)
  | initializeExecutionBudget runId epoch modelLimit toolLimit =>
      exact Or.inl (settled_quiet fun _ _ => initializeExecutionBudget_quiet)
  | recordProviderResponse runId response =>
      exact Or.inl (settled_quiet fun _ _ => recordProviderResponse_quiet)
  | tryCompleteRun args =>
      cases result : tryCompleteRun around store context args with
      | error failure =>
          left
          simp only [stepRun, result, settled_error]
          exact .refl
      | ok outcome =>
          obtain ⟨after, outcome⟩ := outcome
          simp only [stepRun, result, settled_ok]
          rcases tryCompleteRun_moves result with same | completion
          · left
            rw [same]
          · obtain ⟨run, message, change, completes⟩ := completion
            exact Or.inr ⟨args, run, message, change, rfl, completes⟩

end Shiliu.Assistant
