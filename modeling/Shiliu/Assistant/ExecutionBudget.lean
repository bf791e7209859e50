/-
Module: Shiliu.Assistant.ExecutionBudget
Purpose: The budget of a run's segment: the dispatches of model requests and tool executions that
  are charged to it, and the provider responses that add to its known tokens. A request that is not
  final leaves one call and a token reserve behind, so that the final answer stays affordable. A
  dispatch reads the clock twice, once in its guard and once for what remains of the budget.
Trusted boundary: none
Main exports: guardToolOperation, dispatchModel, stepSegment, FinalAffordable, segment_within_budget
-/
import Shiliu.Assistant.RunLifecycle

set_option linter.all false

namespace Shiliu.Assistant

open Shiliu.Library Shiliu.Storage

/-- `ASSISTANT_FINAL_SECONDS`. -/
def assistantFinalSeconds : Nat := 60

/-- `ASSISTANT_TOKEN_LIMIT`. -/
def assistantTokenLimit : Int := 2000000

/-- The tokens of a final answer. -/
def finalOutputTokens : Int := 8192

/-! ## The guard of a tool operation -/

/-- `guard_tool_operation` of the fences. A call that passes no integer as its epoch passes
`none`. -/
def guardToolRow (now : Instant) (store : AssistantStore) (context : ResourceContext)
    (runId : String) (epoch : Option Int) : Except Failure Run :=
  match epoch with
  | none => .error (.coordinationConflict "expected_epoch_required")
  | some epoch =>
      if epoch < 1 then .error (.coordinationConflict "expected_epoch_required")
      else
        match lockThreadRun store context runId with
        | .error failure => .error failure
        | .ok run =>
            if run.runEpoch ≠ epoch ∨ run.status ≠ .running ∨ run.cancelRequested ∨
                run.workingState.finishRequested then
              .error (.coordinationConflict "run_fenced")
            else if run.workingState.executionBudget.any fun budget =>
                budget.finalDispatched ∨ budget.deadlineAt ≤ now then
              .error (.coordinationConflict "run_fenced")
            else .ok run

/-- `guard_tool_operation` of the store; `execution` is the tool execution it is called in. -/
def guardToolOperation (now : Instant) (store : AssistantStore) (context : ResourceContext)
    (execution : Option (String × Int)) (runId : String) (epoch : Option Int) :
    Except Failure Run :=
  let foreign := execution.any fun active =>
    active.1 ≠ runId ∨ (epoch.any fun epoch => active.2 ≠ epoch)
  if foreign then .error (.assistantConflict "run_fenced")
  else
    match guardToolRow now store context runId ((execution.map Prod.snd).or epoch) with
    | .error failure => .error (asAssistantConflict failure)
    | .ok run => .ok run

/-! ## Dispatches -/

/-- How a dispatch is refused. -/
inductive DispatchFailure where
  | refused (failure : Failure)
  /-- `ExecutionBudgetExceeded`. -/
  | executionBudgetExceeded (message : String)

/-- The arguments of `dispatch_model`. -/
structure ModelDispatch where
  epoch : Option Int
  final : Bool
  inputTokens : Int
  outputTokens : Int
  reserveInputTokens : Option Int

/-- The input of the final request that is set aside. -/
def ModelDispatch.reserved (args : ModelDispatch) : Int :=
  args.reserveInputTokens.getD args.inputTokens

/-- `reserve`. -/
def ModelDispatch.reserve (args : ModelDispatch) : Int :=
  if args.final then 0 else args.reserved + finalOutputTokens

/-- The instant at which too little of the budget remains. -/
def ExecutionBudget.lateFor (budget : ExecutionBudget) (now : Instant) (final : Bool) : Bool :=
  budget.deadlineAt ≤ now + (if final then 0 else assistantFinalSeconds * microsPerSecond)

/-- The condition under which `dispatch_model` raises. -/
def ExecutionBudget.refusesModel (budget : ExecutionBudget) (now : Instant)
    (finishRequested : Bool) (args : ModelDispatch) : Bool :=
  budget.lateFor now args.final ∨
    budget.modelLimit - (if args.final then 0 else 1) ≤ budget.modelCalls ∨
    budget.finalDispatched ∨ (finishRequested ∧ ¬ args.final) ∨
    assistantTokenLimit <
      budget.knownTokens + args.inputTokens + args.outputTokens + args.reserve

/-- The budget after a request of the model. -/
def ExecutionBudget.chargeModel (budget : ExecutionBudget) (final : Bool) : ExecutionBudget :=
  { budget with
    modelCalls := budget.modelCalls + 1
    finalDispatched := budget.finalDispatched || final }

/-- The condition under which `dispatch_tool` raises. -/
def ExecutionBudget.refusesTool (budget : ExecutionBudget) (finishRequested : Bool) : Bool :=
  finishRequested ∨ budget.finalDispatched ∨ budget.toolLimit ≤ budget.toolExecutions

/-- The budget after a tool execution. -/
def ExecutionBudget.chargeTool (budget : ExecutionBudget) : ExecutionBudget :=
  { budget with toolExecutions := budget.toolExecutions + 1 }

/-- Write the charged budget back. -/
def AssistantStore.setBudget (store : AssistantStore) (run : Run) (runId : String)
    (budget : ExecutionBudget) : AssistantStore :=
  store.changeRun runId (setState { run.workingState with executionBudget := some budget })

/-- `dispatch_model`; `guarded` is the clock of its guard, `now` the one it reads itself. -/
def dispatchModel (guarded now : Instant) (store : AssistantStore) (context : ResourceContext)
    (execution : Option (String × Int)) (runId : String) (args : ModelDispatch) :
    Except DispatchFailure AssistantStore :=
  let guard :=
    if args.final then guardRunCompletion guarded store context runId args.epoch
    else guardToolOperation guarded store context execution runId args.epoch
  match guard with
  | .error failure => .error (.refused failure)
  | .ok run =>
      match run.workingState.executionBudget with
      | none => .error (.refused (.assistantConflict "execution_budget_missing"))
      | some budget =>
          if budget.refusesModel now run.workingState.finishRequested args then
            .error (.executionBudgetExceeded "当前段模型/Token/期限额度不足")
          else .ok (store.setBudget run runId (budget.chargeModel args.final))

/-- `dispatch_tool`. -/
def dispatchTool (guarded : Instant) (store : AssistantStore) (context : ResourceContext)
    (execution : Option (String × Int)) (runId : String) (epoch : Option Int) :
    Except DispatchFailure AssistantStore :=
  match guardToolOperation guarded store context execution runId epoch with
  | .error failure => .error (.refused failure)
  | .ok run =>
      match run.workingState.executionBudget with
      | none => .error (.refused (.assistantConflict "execution_budget_missing"))
      | some budget =>
          if budget.refusesTool run.workingState.finishRequested then
            .error (.executionBudgetExceeded "当前段工具执行额度已用完")
          else .ok (store.setBudget run runId budget.chargeTool)

/-! ## Sequences on one run -/

inductive SegmentAction where
  | dispatchModel (args : ModelDispatch)
  | dispatchTool (epoch : Option Int)
  | recordProviderResponse (response : ProviderResponse)

/-- One call: by whom, at what time, in which tool execution. -/
structure SegmentCall where
  context : ResourceContext
  guarded : Instant
  now : Instant
  execution : Option (String × Int)
  action : SegmentAction

/-- What a segment has admitted. -/
inductive Admission where
  | nonFinal
  | final
  | tool
deriving DecidableEq

/-- The store after a dispatch, and the dispatch behind those admitted before it. -/
def admitCall (store : AssistantStore) (admitted : List Admission) (kind : Admission) :
    Except DispatchFailure AssistantStore → AssistantStore × List Admission
  | .ok after => (after, admitted ++ [kind])
  | .error _ => (store, admitted)

/-- The store after a call on a run, with what the run's segment has admitted; a call that raises is
rolled back. -/
def stepSegment (runId : String) (state : AssistantStore × List Admission) (call : SegmentCall) :
    AssistantStore × List Admission :=
  match call.action with
  | .dispatchModel args =>
      admitCall state.1 state.2 (if args.final then .final else .nonFinal)
        (dispatchModel call.guarded call.now state.1 call.context call.execution runId args)
  | .dispatchTool epoch =>
      admitCall state.1 state.2 .tool
        (dispatchTool call.guarded state.1 call.context call.execution runId epoch)
  | .recordProviderResponse response =>
      (settled state.1 (recordProviderResponse state.1 call.context runId response), state.2)

/-- The budget of a run's segment. -/
def AssistantStore.budgetOf (store : AssistantStore) (runId : String) : Option ExecutionBudget :=
  (store.runs.lookup runId).bind fun run => run.workingState.executionBudget

/-- The counters of a budget agree with what was admitted, and stay within the limits it was given
at first. -/
structure WithinBudget (start budget : ExecutionBudget) (admitted : List Admission) : Prop where
  modelLimit : budget.modelLimit = start.modelLimit
  toolLimit : budget.toolLimit = start.toolLimit
  modelCalls : budget.modelCalls = admitted.count .nonFinal + admitted.count .final
  modelBound : budget.modelCalls ≤ start.modelLimit
  nonFinalBound : (admitted.count .nonFinal : Int) ≤ max 0 (start.modelLimit - 1)
  toolExecutions : budget.toolExecutions = admitted.count .tool
  toolBound : budget.toolExecutions ≤ start.toolLimit
  finals : admitted.count .final ≤ 1
  dispatched : budget.finalDispatched = decide (.final ∈ admitted)
  last : ∀ before after, admitted = before ++ .final :: after → after = []

/-- After a request that is not final, and whatever tools and responses follow it, a final request
of the reserved size passes every test but those of the clock, if no more tokens were recorded than
were asked for. -/
def FinalAffordable (runId : String) (store : AssistantStore) : Prop :=
  ∀ guarded now context execution args charged,
    dispatchModel guarded now store context execution runId args = .ok charged →
    args.final = false →
    ∀ (between : List SegmentCall) (later : AssistantStore) (admitted : List Admission),
      runFrom (stepSegment runId) (charged, []) between = (later, admitted) →
      (∀ admission ∈ admitted, admission = .tool) →
      ∀ first left, charged.budgetOf runId = some first → later.budgetOf runId = some left →
        left.knownTokens ≤ first.knownTokens + args.inputTokens + args.outputTokens →
        ∀ guardedLater nowLater contextLater executionLater final run,
          final.final = true →
          guardRunCompletion guardedLater later contextLater runId final.epoch = .ok run →
          nowLater < left.deadlineAt →
          final.inputTokens + final.outputTokens ≤ args.reserved + finalOutputTokens →
          ∃ done, dispatchModel guardedLater nowLater later contextLater executionLater runId
            final = .ok done

/-! ## What a call does to the budget -/

variable {now : Instant} {store after : AssistantStore} {context : ResourceContext}
  {execution : Option (String × Int)} {runId : String} {run : Run} {args : ModelDispatch}
  {budget start : ExecutionBudget} {state : AssistantStore × List Admission}
  {admitted : List Admission}

theorem guardToolOperation_ok {epoch : Option Int}
    (passed : guardToolOperation now store context execution runId epoch = .ok run) :
    store.runs.lookup runId = some run := by
  simp only [guardToolOperation] at passed
  split at passed
  · cases passed
  split at passed
  · cases passed
  rename_i guarded
  cases passed
  unfold guardToolRow at guarded
  split at guarded
  · cases guarded
  split at guarded
  · cases guarded
  split at guarded
  · cases guarded
  rename_i locked
  split at guarded
  · cases guarded
  split at guarded
  · cases guarded
  cases guarded
  exact lookup_of_lockThreadRun locked

theorem budgetOf_of_lookup (found : store.runs.lookup runId = some run) :
    store.budgetOf runId = run.workingState.executionBudget := by
  rw [AssistantStore.budgetOf, found, Option.bind_some]

@[simp] theorem budgetOf_setBudget (found : store.runs.lookup runId = some run)
    (budget : ExecutionBudget) :
    (store.setBudget run runId budget).budgetOf runId = some budget := by
  rw [AssistantStore.budgetOf, AssistantStore.setBudget, AssistantStore.runs_changeRun,
    Table.lookup_modify_self, found]
  rfl

/-- An admitted request passes the tests of the budget and is charged to it. -/
theorem dispatchModel_ok {guarded : Instant}
    (done : dispatchModel guarded now store context execution runId args = .ok after) :
    ∃ budget finishing, store.budgetOf runId = some budget ∧
      budget.refusesModel now finishing args = false ∧
      after.budgetOf runId = some (budget.chargeModel args.final) := by
  simp only [dispatchModel] at done
  split at done
  · cases done
  rename_i run passed
  have found : store.runs.lookup runId = some run := by
    split at passed
    · exact (guardRunCompletion_ok passed).1
    · exact guardToolOperation_ok passed
  split at done
  · cases done
  rename_i budget present
  split at done
  · cases done
  rename_i granted
  cases done
  exact ⟨budget, run.workingState.finishRequested, (budgetOf_of_lookup found).trans present,
    by simpa using granted, budgetOf_setBudget found _⟩

theorem dispatchTool_ok {guarded : Instant} {epoch : Option Int}
    (done : dispatchTool guarded store context execution runId epoch = .ok after) :
    ∃ budget finishing, store.budgetOf runId = some budget ∧
      budget.refusesTool finishing = false ∧
      after.budgetOf runId = some budget.chargeTool := by
  simp only [dispatchTool] at done
  split at done
  · cases done
  rename_i run passed
  have found := guardToolOperation_ok passed
  split at done
  · cases done
  rename_i budget present
  split at done
  · cases done
  rename_i granted
  cases done
  exact ⟨budget, run.workingState.finishRequested, (budgetOf_of_lookup found).trans present,
    by simpa using granted, budgetOf_setBudget found _⟩

/-- The counters and limits of two budgets are the same; the tokens may differ. -/
structure SameCounters (before after : ExecutionBudget) : Prop where
  modelLimit : after.modelLimit = before.modelLimit
  toolLimit : after.toolLimit = before.toolLimit
  modelCalls : after.modelCalls = before.modelCalls
  toolExecutions : after.toolExecutions = before.toolExecutions
  finalDispatched : after.finalDispatched = before.finalDispatched

theorem chargedState_budget {state charged : WorkingState} {usage : Usage} {callId : Option String}
    (present : state.executionBudget = some budget)
    (outcome : chargedState state usage callId = .ok charged) :
    ∃ after, charged.executionBudget = some after ∧ SameCounters budget after := by
  unfold chargedState at outcome
  rw [present] at outcome
  simp only at outcome
  split at outcome
  · split at outcome
    · cases outcome
    · cases outcome
      exact ⟨_, rfl, rfl, rfl, rfl, rfl, rfl⟩
  · cases outcome
    exact ⟨budget, present, rfl, rfl, rfl, rfl, rfl⟩

theorem recordProviderResponse_budget {response : ProviderResponse} {result : Unit}
    (present : store.budgetOf runId = some budget)
    (done : recordProviderResponse store context runId response = .ok (after, result)) :
    ∃ left, after.budgetOf runId = some left ∧ SameCounters budget left := by
  unfold recordProviderResponse at done
  split at done
  · cases done
  rename_i run locked
  have found := lookup_of_lockThreadRun locked
  rw [budgetOf_of_lookup found] at present
  split at done
  · cases done
    exact ⟨budget, (budgetOf_of_lookup found).trans present, rfl, rfl, rfl, rfl, rfl⟩
  simp only at done
  split at done
  · cases done
  rename_i state charged
  obtain ⟨left, isLeft, same⟩ := chargedState_budget present charged
  refine ⟨left, ?_, same⟩
  split at done
  · cases done
  split at done
  · split at done
    · rename_i without
      simp [isLeft] at without
    · cases done
      simp [AssistantStore.budgetOf, found, setUsage, isLeft, Table.lookup_modify_self]
  · cases done
    simp [AssistantStore.budgetOf, found, setUsage, isLeft, Table.lookup_modify_self]

/-- What `dispatch_model` has tested when it admits a request. -/
structure Affords (budget : ExecutionBudget) (args : ModelDispatch) : Prop where
  call : budget.modelCalls < budget.modelLimit - (if args.final then 0 else 1)
  undispatched : budget.finalDispatched = false
  tokens : budget.knownTokens + args.inputTokens + args.outputTokens + args.reserve ≤
    assistantTokenLimit

theorem affords_of_granted {finishing : Bool}
    (granted : budget.refusesModel now finishing args = false) :
    Affords budget args := by
  simp only [ExecutionBudget.refusesModel, decide_eq_false_iff_not, not_or, not_le, not_lt,
    Bool.not_eq_true] at granted
  obtain ⟨_, call, undispatched, _, tokens⟩ := granted
  exact ⟨call, undispatched, tokens⟩

theorem stepSegment_cases (present : state.1.budgetOf runId = some budget) (call : SegmentCall) :
    (∃ left, (stepSegment runId state call).1.budgetOf runId = some left ∧
      SameCounters budget left ∧ (stepSegment runId state call).2 = state.2) ∨
    (∃ args, Affords budget args ∧
      (stepSegment runId state call).1.budgetOf runId = some (budget.chargeModel args.final) ∧
      (stepSegment runId state call).2 =
        state.2 ++ [if args.final then .final else .nonFinal]) ∨
    (∃ finishing, budget.refusesTool finishing = false ∧
      (stepSegment runId state call).1.budgetOf runId = some budget.chargeTool ∧
      (stepSegment runId state call).2 = state.2 ++ [.tool]) := by
  obtain ⟨context, guarded, now, execution, action⟩ := call
  cases action with
  | dispatchModel args =>
      simp only [stepSegment]
      cases done : dispatchModel guarded now state.1 context execution runId args with
      | error _ => exact .inl ⟨budget, present, ⟨rfl, rfl, rfl, rfl, rfl⟩, rfl⟩
      | ok after =>
          obtain ⟨tested, _, isTested, granted, charged⟩ := dispatchModel_ok done
          cases present.symm.trans isTested
          exact .inr (.inl ⟨args, affords_of_granted granted, charged, rfl⟩)
  | dispatchTool epoch =>
      simp only [stepSegment]
      cases done : dispatchTool guarded state.1 context execution runId epoch with
      | error _ => exact .inl ⟨budget, present, ⟨rfl, rfl, rfl, rfl, rfl⟩, rfl⟩
      | ok after =>
          obtain ⟨tested, finishing, isTested, granted, charged⟩ := dispatchTool_ok done
          cases present.symm.trans isTested
          exact .inr (.inr ⟨finishing, granted, charged, rfl⟩)
  | recordProviderResponse response =>
      simp only [stepSegment]
      cases done : recordProviderResponse state.1 context runId response with
      | error _ => exact .inl ⟨budget, present, ⟨rfl, rfl, rfl, rfl, rfl⟩, trivial⟩
      | ok recorded =>
          obtain ⟨left, isLeft, same⟩ := recordProviderResponse_budget present done
          exact .inl ⟨left, isLeft, same, trivial⟩

/-! ## Counters and admissions -/

/-- The first final dispatch comes last. -/
theorem eq_nil_of_concat {before after : List Admission} {kind : Admission}
    (absent : .final ∉ admitted) (split : admitted ++ [kind] = before ++ .final :: after) :
    after = [] := by
  rcases List.eq_nil_or_concat after with rfl | ⟨rest, last, rfl⟩
  · rfl
  · rw [List.concat_eq_append, ← List.cons_append, ← List.append_assoc] at split
    have same := (List.append_inj' split rfl).1
    exact absurd (same ▸ List.mem_append_right before List.mem_cons_self) absent

theorem WithinBudget.model (within : WithinBudget start budget admitted)
    (affords : Affords budget args) :
    WithinBudget start (budget.chargeModel args.final)
      (admitted ++ [if args.final then .final else .nonFinal]) := by
  have unused : .final ∉ admitted := by
    simpa [affords.undispatched] using within.dispatched
  have none := List.count_eq_zero.mpr unused
  have call := affords.call
  have calls := within.modelCalls
  have limit := within.modelLimit
  rw [none] at calls
  cases kind : args.final with
  | true =>
      simp only [kind, if_true] at call
      exact
        { modelLimit := within.modelLimit
          toolLimit := within.toolLimit
          modelCalls := by simp [ExecutionBudget.chargeModel, none, calls]
          modelBound := by simp only [ExecutionBudget.chargeModel]; omega
          nonFinalBound := by simpa using within.nonFinalBound
          toolExecutions := by
            simpa [ExecutionBudget.chargeModel] using within.toolExecutions
          toolBound := within.toolBound
          finals := by simp [none]
          dispatched := by simp [ExecutionBudget.chargeModel]
          last := fun _ _ => eq_nil_of_concat unused }
  | false =>
      simp only [kind, Bool.false_eq_true, if_false] at call
      exact
        { modelLimit := within.modelLimit
          toolLimit := within.toolLimit
          modelCalls := by simp [ExecutionBudget.chargeModel, none, calls]
          modelBound := by simp only [ExecutionBudget.chargeModel]; omega
          nonFinalBound := by simp; omega
          toolExecutions := by
            simpa [ExecutionBudget.chargeModel] using within.toolExecutions
          toolBound := within.toolBound
          finals := by simp [none]
          dispatched := by simp [ExecutionBudget.chargeModel, affords.undispatched, unused]
          last := fun _ _ => eq_nil_of_concat unused }

theorem WithinBudget.tool (within : WithinBudget start budget admitted) {finishing : Bool}
    (granted : budget.refusesTool finishing = false) :
    WithinBudget start budget.chargeTool (admitted ++ [.tool]) := by
  simp only [ExecutionBudget.refusesTool, decide_eq_false_iff_not, not_or, not_le,
    Bool.not_eq_true] at granted
  obtain ⟨_, undispatched, bound⟩ := granted
  have unused : .final ∉ admitted := by
    simpa [undispatched] using within.dispatched
  have limit := within.toolLimit
  exact
    { modelLimit := within.modelLimit
      toolLimit := within.toolLimit
      modelCalls := by simpa [ExecutionBudget.chargeTool] using within.modelCalls
      modelBound := within.modelBound
      nonFinalBound := by simpa using within.nonFinalBound
      toolExecutions := by simp [ExecutionBudget.chargeTool, within.toolExecutions]
      toolBound := by simp only [ExecutionBudget.chargeTool]; omega
      finals := by simpa using within.finals
      dispatched := by simp [ExecutionBudget.chargeTool, undispatched, unused]
      last := fun _ _ => eq_nil_of_concat unused }

theorem WithinBudget.same {after : ExecutionBudget} (within : WithinBudget start budget admitted)
    (same : SameCounters budget after) :
    WithinBudget start after admitted where
  modelLimit := same.modelLimit.trans within.modelLimit
  toolLimit := same.toolLimit.trans within.toolLimit
  modelCalls := same.modelCalls.trans within.modelCalls
  modelBound := same.modelCalls ▸ within.modelBound
  nonFinalBound := within.nonFinalBound
  toolExecutions := same.toolExecutions.trans within.toolExecutions
  toolBound := same.toolExecutions ▸ within.toolBound
  finals := within.finals
  dispatched := same.finalDispatched.trans within.dispatched
  last := within.last

/-- The run has a budget, and the counters of that budget are right. -/
def Budgeted (runId : String) (start : ExecutionBudget)
    (state : AssistantStore × List Admission) : Prop :=
  ∃ budget, state.1.budgetOf runId = some budget ∧ WithinBudget start budget state.2

theorem Budgeted.step (budgeted : Budgeted runId start state) (call : SegmentCall) :
    Budgeted runId start (stepSegment runId state call) := by
  obtain ⟨budget, present, within⟩ := budgeted
  rcases stepSegment_cases present call with
    ⟨left, isLeft, same, admitted⟩ | ⟨args, affords, charged, admitted⟩ |
      ⟨finishing, granted, charged, admitted⟩
  · exact ⟨left, isLeft, admitted ▸ within.same same⟩
  · exact ⟨_, charged, admitted ▸ within.model affords⟩
  · exact ⟨_, charged, admitted ▸ within.tool granted⟩

/-! ## The promise of the reserve -/

/-- Without another request of the model, the calls and the final flag stay as they are. -/
structure SameCalls (before after : ExecutionBudget) : Prop where
  modelLimit : after.modelLimit = before.modelLimit
  modelCalls : after.modelCalls = before.modelCalls
  finalDispatched : after.finalDispatched = before.finalDispatched

theorem mem_stepSegment (call : SegmentCall) {admission : Admission}
    (member : admission ∈ state.2) :
    admission ∈ (stepSegment runId state call).2 := by
  have kept (kind : Admission) (outcome : Except DispatchFailure AssistantStore) :
      admission ∈ (admitCall state.1 state.2 kind outcome).2 := by
    cases outcome with
    | error _ => exact member
    | ok _ => exact List.mem_append_left _ member
  obtain ⟨context, guarded, now, execution, action⟩ := call
  cases action with
  | dispatchModel args => exact kept _ _
  | dispatchTool epoch => exact kept _ _
  | recordProviderResponse response => exact member

theorem sameCalls_of_tools {charged : AssistantStore} {first : ExecutionBudget}
    (present : charged.budgetOf runId = some first) (between : List SegmentCall)
    (tools : ∀ admission ∈ (runFrom (stepSegment runId) (charged, []) between).2,
      admission = .tool) :
    ∃ left, (runFrom (stepSegment runId) (charged, []) between).1.budgetOf runId = some left ∧
      SameCalls first left := by
  induction between using List.reverseRecOn with
  | nil => exact ⟨first, present, rfl, rfl, rfl⟩
  | append_singleton calls call inductionHypothesis =>
      rw [runFrom_concat] at tools ⊢
      generalize reached : runFrom (stepSegment runId) (charged, []) calls = state at *
      have earlier : ∀ admission ∈ state.2, admission = .tool :=
        fun admission member => tools admission (mem_stepSegment call member)
      obtain ⟨left, isLeft, same⟩ := inductionHypothesis earlier
      rcases stepSegment_cases isLeft call with
        ⟨after, isAfter, counters, _⟩ | ⟨args, _, _, admitted⟩ | ⟨_, _, isAfter, _⟩
      · exact ⟨after, isAfter, counters.modelLimit.trans same.modelLimit,
          counters.modelCalls.trans same.modelCalls,
          counters.finalDispatched.trans same.finalDispatched⟩
      · rw [admitted] at tools
        have model := tools _ (List.mem_append_right _ (List.mem_singleton_self _))
        cases kind : args.final <;> simp [kind] at model
      · exact ⟨_, isAfter, same.modelLimit, same.modelCalls, same.finalDispatched⟩

theorem finalAffordable (runId : String) (store : AssistantStore) :
    FinalAffordable runId store := by
  intro guarded now context execution args charged done notFinal between later admitted reached
    tools first left isFirst isLeft tokens guardedLater nowLater contextLater executionLater final
    run isFinal passed inTime fits
  obtain ⟨budget, finishing, present, granted, isCharged⟩ := dispatchModel_ok done
  obtain ⟨call, undispatched, afforded⟩ := affords_of_granted granted
  cases isFirst.symm.trans isCharged
  obtain ⟨after, isAfter, same⟩ := sameCalls_of_tools isFirst between (by rw [reached]; exact tools)
  rw [reached] at isAfter
  cases isAfter.symm.trans isLeft
  have held : run.workingState.executionBudget = some left :=
    (budgetOf_of_lookup (guardRunCompletion_ok passed).1).symm.trans isLeft
  have admitted : left.refusesModel nowLater run.workingState.finishRequested final = false := by
    have limit := same.modelLimit
    have calls := same.modelCalls
    have open_ := same.finalDispatched
    simp only [ExecutionBudget.chargeModel, undispatched, notFinal, Bool.or_false] at limit calls open_ tokens
    simp only [notFinal, Bool.false_eq_true, if_false, ModelDispatch.reserve] at call afforded
    simp only [ExecutionBudget.refusesModel, ExecutionBudget.lateFor, ModelDispatch.reserve,
      isFinal, if_true, open_, not_true, and_false, Nat.add_zero, decide_eq_false_iff_not,
      decide_eq_true_eq, not_or, not_le, not_lt]
    refine ⟨inTime, by omega, Bool.false_ne_true, not_false, by omega⟩
  unfold dispatchModel
  simp only [isFinal, if_true, passed, held, admitted]
  exact ⟨_, rfl⟩

/-! ## A whole segment -/

theorem withinBudget_fresh (now : Instant) (modelLimit toolLimit : Int) :
    WithinBudget (freshBudget now modelLimit toolLimit) (freshBudget now modelLimit toolLimit) [] where
  modelLimit := rfl
  toolLimit := rfl
  modelCalls := rfl
  modelBound := le_max_left _ _
  nonFinalBound := le_max_left _ _
  toolExecutions := rfl
  toolBound := le_max_left _ _
  finals := by simp
  dispatched := rfl
  last := by simp

/-- From the budget a segment begins with, every sequence of dispatches and responses stays within
its limits, and after every request that is not final the final one is affordable. -/
theorem segment_within_budget {now : Instant} {before store : AssistantStore}
    {context : ResourceContext} {runId : String} {epoch : Option Int} {modelLimit toolLimit : Int}
    {start : ExecutionBudget} (unbudgeted : before.budgetOf runId = none)
    (begun : initializeExecutionBudget now before context runId epoch modelLimit toolLimit =
      .ok (store, start)) (calls : List SegmentCall) :
    (∃ budget, (runFrom (stepSegment runId) (store, []) calls).1.budgetOf runId = some budget ∧
      WithinBudget start budget (runFrom (stepSegment runId) (store, []) calls).2) ∧
    FinalAffordable runId (runFrom (stepSegment runId) (store, []) calls).1 := by
  refine ⟨?_, finalAffordable runId _⟩
  unfold initializeExecutionBudget at begun
  split at begun
  · cases begun
  rename_i run passed
  have found := (guardRunCompletion_ok passed).1
  rw [budgetOf_of_lookup found] at unbudgeted
  rw [unbudgeted] at begun
  cases begun
  have fresh : Budgeted runId (freshBudget now modelLimit toolLimit)
      (before.setBudget run runId (freshBudget now modelLimit toolLimit), []) :=
    ⟨_, budgetOf_setBudget found _, withinBudget_fresh now modelLimit toolLimit⟩
  exact invariant_run (fun _ call budgeted => budgeted.step call) fresh calls

/-- A run that has just been claimed. -/
def claimedStore : AssistantStore :=
  runFrom stepRun emptyThreadStore ([ask 1, .claimNextRun none fun _ => false].map callNow)

/-- One request, then the final one, with a budget of two. -/
theorem segment_within_budget_two :
    ∃ store start, ∃ budget,
      (runFrom (stepSegment "arun_1") (store, []) [
        ⟨⟨"ws", "me"⟩, 0, 0, none, .dispatchModel ⟨some 1, false, 1000, 500, none⟩⟩,
        ⟨⟨"ws", "me"⟩, 0, 0, none, .dispatchModel ⟨some 1, true, 1000, 8192, none⟩⟩]).1.budgetOf
          "arun_1" = some budget ∧
      WithinBudget start budget [.nonFinal, .final] :=
  ⟨_, _, (@segment_within_budget 0 claimedStore _ ⟨"ws", "me"⟩ "arun_1" (some 1) 2 1 _ rfl rfl [
      ⟨⟨"ws", "me"⟩, 0, 0, none, .dispatchModel ⟨some 1, false, 1000, 500, none⟩⟩,
      ⟨⟨"ws", "me"⟩, 0, 0, none, .dispatchModel ⟨some 1, true, 1000, 8192, none⟩⟩]).1⟩

end Shiliu.Assistant
