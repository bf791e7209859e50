/-
Module: Shiliu.Deep.RunLoop
Purpose: `_run_loop` as a machine: it stops wherever the code asks the clock, the controller, the
  tools or a reducer, and the answer is the action of the step. The threads of a batch read the
  snapshot and the clock only, so a batch is one step and its answers are data. Every list of
  answers is a run, whether or not the loop has ended before it is used up.
Trusted boundary: none
Main exports: BatchAnswers, reduceResults, executeBatch, lateResult, DeepRun, Answer, begin, step
-/
import Shiliu.Deep.Execution

namespace Shiliu.Deep

open Shiliu.Library

variable (graph : DeepV2Graph)

/-! ## Reducing a batch -/

/-- What the world answers while a batch is reduced: each query alone, and the whole batch. -/
structure BatchAnswers where
  started : Rat
  entered : Nat → Reading
  independent : Nat → ReduceAnswer
  descriptions : Except String Unit
  scores : Except String (String → String → Rat)
  beforeCall : Reading
  response : Except String BatchReduction
  afterCall : Reading
  mixedDone : Bool
  beforeAcceptance : Reading

/-- A result a reducer has work on. -/
def reducible (action : V2Action) (result : ToolResult) : Bool :=
  action.kind ≠ .searchVideos ∧ result.status = .ok ∧ result.queryReduction = none

/-- A result the batch reducer takes. -/
def eligible (deadline : Rat) (action : V2Action) (result : ToolResult) : Bool :=
  action.kind = .searchTranscripts ∧ result.status = .ok ∧ result.spans ≠ [] ∧
    result.queryReduction = none ∧ result.endedAt ≤ deadline

/-- The actions and results of a batch, numbered. -/
def numbered (actions : List V2Action) (results : List ToolResult) :
    List ((V2Action × ToolResult) × Nat) :=
  (actions.zip results).zipIdx

/-- `independent`. -/
def independentReduce (question : String) (deadline : Rat) (action : V2Action)
    (result : ToolResult) (entered : Reading) (answer : ReduceAnswer) :
    Except RunFailure Reduction :=
  if entered.expired deadline then
    .ok (failedReduction [] false "Reduce deadline/cancellation"
      "Query evidence processing did not complete.")
  else queryReduceOne graph action result.spans question deadline answer

/-- Results under the reductions some of them got. -/
def withReductions (reduced : List (Nat × Reduction)) (uncacheable : Bool)
    (results : List ToolResult) : List ToolResult :=
  results.zipIdx.map fun (result, index) =>
    match reduced.lookup index with
    | some reduction =>
        { result with
          queryReduction := some reduction
          b0Uncacheable := uncacheable || result.b0Uncacheable }
    | none => result

/-- Reduce each of the numbered results alone. -/
def reduceAlone (question : String) (deadline : Rat) (answers : BatchAnswers)
    (entries : List ((V2Action × ToolResult) × Nat)) :
    Except RunFailure (List (Nat × Reduction)) :=
  entries.mapM fun ((action, result), index) =>
    (independentReduce graph question deadline action result (answers.entered index)
      (answers.independent index)).map fun reduction => (index, reduction)

/-- `controller_preview`: apply the results to a copy; it raises where that does, or where the
controller's messages would be too long. -/
def controllerPreview (actions : List V2Action) (trial : List ToolResult) (state : Research) :
    Except String Unit :=
  match applyBatchResults graph actions trial false state with
  | .error failure _ => .error failure.text
  | .ok _ preview =>
      ensure (graph.rules.controllerChars
          { preview with controllerCalls := preview.controllerCalls + 1 } none ≤
          graph.budget.controllerContextChars)
        summariesTooLong.text

/-- The body under `try` of `reduce_results`: the reductions of the batch, if all goes well. -/
def attemptBatch (actions : List V2Action) (results : List ToolResult) (state : Research)
    (deadline : Rat) (batch : List ((V2Action × ToolResult) × Nat))
    (others : Except RunFailure (List (Nat × Reduction))) (answers : BatchAnswers) :
    Except String (List (Nat × Reduction)) := do
  answers.descriptions
  let snapshots := batch.map fun ((action, result), _) => snapshot action result.spans
  let scores ← answers.scores
  let selected (id : String) : List Candidate :=
    (snapshots.find? (·.id = id)).elim [] fun found =>
      choose graph.rules found.candidates (scores id)
  let mapping ← fitSharedInput graph.rules state.query graph.budget.reduceInputChars snapshots
    scores selected
  ensure (!answers.beforeCall.expired (deadline - 20))
    "TimeoutError: Unified Reduce deadline/cancellation"
  let output ← answers.response
  ensure (!answers.afterCall.expired (deadline - 20))
    "TimeoutError: Unified Reduce arrived after deadline/cancel"
  let reductions ← project graph.rules snapshots mapping output
  ensure answers.mixedDone "TimeoutError: Mixed batch exceeded B0 attempt deadline"
  let alone ← others.mapError RunFailure.text
  let accepted := (batch.map Prod.snd).zip reductions
  controllerPreview graph actions
    (withReductions accepted true (withReductions alone false results)) state
  ensure (!answers.beforeAcceptance.expired (deadline - 20))
    "TimeoutError: Batch acceptance deadline/cancellation"
  pure accepted

/-- `reduce_results`. -/
def reduceResults (actions : List V2Action) (results : List ToolResult) (deadline : Rat)
    (answers : BatchAnswers) : Writes (List ToolResult) := do
  let state ← get
  let open_ := (numbered actions results).filter fun ((action, result), _) =>
    reducible action result
  let batch := (numbered actions results).filter fun ((action, result), _) =>
    eligible deadline action result
  let indices := batch.map Prod.snd
  let record (accepted fallback : Bool) (reason : String) : Research :=
    { state with
      events := state.events ++
        [.b0Batch state.decisionRounds indices accepted fallback reason] }
  if 2 ≤ batch.length ∧ deadline - answers.started > 40 then
    let alone := reduceAlone graph state.query deadline answers
      (open_.filter fun entry => entry.2 ∉ indices)
    match attemptBatch graph actions results state deadline batch alone answers with
    | .ok accepted =>
        set (record true false "")
        let alone ← orRaise alone
        pure (withReductions accepted true (withReductions alone false results))
    | .error reason =>
        set (record false true (String.ofList (reason.toList.take 500)))
        let alone ← orRaise (reduceAlone graph state.query deadline answers open_)
        pure (withReductions alone false results)
  else
    set (record false false (if batch.length < 2 then "fewer_than_two_eligible_queries"
      else "insufficient_remaining_time"))
    let alone ← orRaise (reduceAlone graph state.query deadline answers open_)
    pure (withReductions alone false results)

/-- A reduction taken from the cache was not called again. -/
def reuseReduction (result : ToolResult) : ToolResult :=
  if result.cacheHit then
    { result with
      queryReduction := result.queryReduction.map fun reduction =>
        { reduction with called := false } }
  else result

/-- `_execute_batch`. -/
def executeBatch (actions : List V2Action) (tools : Nat → ToolAnswer) (answers : BatchAnswers) :
    Writes (List ToolResult) := do
  let state ← get
  let deadline := min state.searchDeadline state.totalDeadline
  let results := actions.zipIdx.map fun (action, index) =>
    reuseReduction (executeOne graph action state.store state.cache (tools index))
  match graph.reduceStrategy with
  | .b0 => reduceResults graph actions results deadline answers
  | .s =>
      let alone ← orRaise
        (((numbered actions results).filter fun ((action, result), _) =>
            reducible action result).mapM fun ((action, result), index) =>
          (queryReduceOne graph action result.spans state.query deadline
            (answers.independent index)).map fun reduction => (index, reduction))
      pure (withReductions alone false results)

/-- A result that ended after the deadline brings nothing. -/
def lateResult (deadline : Rat) (result : ToolResult) : ToolResult :=
  if deadline < result.endedAt then
    { result with
      status := .timeout
      spans := []
      sources := []
      error := some "tool result arrived after deadline" }
  else result

/-! ## The loop -/

/-- Where the loop stands: at its condition, in the attempts of a decision, behind them, in a batch,
before its results are applied, behind the loop, or gone. -/
inductive Phase where
  | head
  | attempting (attempt : Nat) (error : Option String) (decision : Option V2Decision)
  | concluded (error : Option String) (decision : Option V2Decision)
  | executing (decision : V2Decision) (changed : Bool)
  | applying (decision : V2Decision) (changed : Bool) (results : List ToolResult)
  | finishing
  | finished
  | raised (failure : RunFailure)

structure DeepRun where
  state : Research
  phase : Phase

/-- What the world answers to the next question of the loop. -/
inductive Answer where
  | reading (now later : Rat) (cancelled : Bool)
  | controller (now : Rat) (answer : ControllerAnswer)
  | batch (tools : Nat → ToolAnswer) (answers : BatchAnswers) (cancelled : Bool)

/-- `_run_loop` on the state the service prepares. -/
def begin (query : String) (evidenceSpans : List TranscriptEvidenceSpan)
    (searchDeadline totalDeadline : Rat) : DeepRun where
  state := Research.initial query evidenceSpans searchDeadline totalDeadline
  phase := .head

/-- The loop ends here for a reason. -/
def Research.terminated (state : Research) (reason : TerminationReason) : Research :=
  { state with terminationReason := some reason }

/-- The codes after which the controller gets a second attempt. -/
def repairableCodes : List String :=
  ["invalid_model_output", "provider_output_invalid", "output_budget_exhausted",
    "empty_model_output"]

/-- The next of the two attempts, or the end of them. -/
def nextAttempt (attempt : Nat) (error : String) (decision : Option V2Decision) : Phase :=
  if attempt + 1 < 2 then .attempting (attempt + 1) (some error) decision
  else .concluded (some error) decision

/-- One attempt: the call is counted before it is made. -/
def stepAttempt (state : Research) (attempt : Nat) (error : Option String)
    (decision : Option V2Decision) (answer : ControllerAnswer) : DeepRun :=
  let counted := { state with controllerCalls := state.controllerCalls + 1 }
  let (events, outcome) := controllerAttempt graph counted error answer
  let noted := { counted with events := counted.events ++ events }
  match outcome with
  | .accepted accepted => ⟨noted, .concluded none (some accepted)⟩
  | .refused text refused => ⟨noted, nextAttempt attempt text (some refused)⟩
  | .failed failure =>
      let errored := { noted with errors := noted.errors ++ [failure.error] }
      if failure.code = "deadline_exhausted" ∨ failure.isTimeoutError then
        ⟨errored.terminated .timeout, .concluded (some failure.error) decision⟩
      else if failure.code ∉ repairableCodes ∧ !failure.isValueError then
        ⟨errored.terminated .providerError, .concluded (some failure.error) decision⟩
      else ⟨noted, nextAttempt attempt failure.error decision⟩

/-- Why a round without a decision ends the loop. -/
def refusalReason (error : Option String) : TerminationReason :=
  match error with
  | none => .controllerBudgetExhausted
  | some text =>
      if text = "batch exceeds remaining tool budget" then .toolBudgetExhausted
      else if text.startsWith "PipelineError:" ∨ text.startsWith "ValueError:" ∨
          text.startsWith "unknown answer navigation" ∨ mentions "validation error" text then
        .invalidStructuredOutput
      else .providerError

/-- The final decision is written. -/
def Research.finish (state : Research) (decision : V2Decision) : Research :=
  { state with
    outcome := decision.outcome
    finalRefs := decision.answerEvidenceRefs
    finalSourceIds := decision.answerSourceIds
    unresolved := decision.unresolvedItems
    terminationReason := some
      (if decision.outcome ∈ [some .sufficient, some .partial_, some .sourcesFound] then
        .answerReady
      else .evidenceUnavailable) }

/-- Behind the attempts: the round is counted, and the decision carried out or the loop left. -/
def stepConcluded (state : Research) (error : Option String) (decision : Option V2Decision)
    (now later : Rat) (cancelled : Bool) : DeepRun :=
  let counted := { state with decisionRounds := state.decisionRounds + 1 }
  match error, decision with
  | none, some decision =>
      let (needs, changed) := updateNeeds decision counted.needs
      let updated := { counted with needs := needs }
      match decision.type with
      | .finish => ⟨updated.finish decision, .finishing⟩
      | .continue_ =>
          if updated.searchDeadline ≤ now ∨ cancelled then
            ⟨updated.terminated (if updated.searchDeadline ≤ later then .timeout else .cancelled),
              .finishing⟩
          else
            ⟨{ updated with toolCalls := updated.toolCalls + decision.actions.length },
              .executing decision changed⟩
  | error, _ =>
      ⟨{ counted with
          errors := counted.errors ++ error.toList
          terminationReason := counted.terminationReason.orElse fun _ =>
            some (refusalReason error) },
        .finishing⟩

/-- The outcome of a loop nobody decided. -/
def defaultOutcome (state : Research) : Outcome :=
  if state.store.rows = [] then .insufficient else .partial_

/-- Behind the loop: what the service reads is filled in. -/
def Research.complete (state : Research) (now : Rat) : Research :=
  let reason := state.terminationReason.getD
    (if state.searchDeadline ≤ now then .timeout else .controllerBudgetExhausted)
  let missing := state.needs.rows.filter fun need => need.status ≠ .supported
  { state with
    terminationReason := some reason
    outcome := some (state.outcome.getD (defaultOutcome state))
    unresolved :=
      if reason ≠ .answerReady ∧ state.unresolved = [] then
        missing.map fun need =>
          need.text ++ ": " ++ (if need.gap = "" then "尚未确认" else need.gap)
      else state.unresolved
    openQuestions := missing.map NeedUpdate.text
    resolvedQuestions := state.needs.rows.filter fun need => need.status = .supported
    evidenceSpans := state.store.rows }

def step (run : DeepRun) (answer : Answer) : DeepRun :=
  match run.phase, answer with
  | .head, .reading now _ cancelled =>
      if now < run.state.searchDeadline ∧
          run.state.controllerCalls < graph.budget.maxControllerCalls then
        if cancelled then ⟨run.state.terminated .cancelled, .finishing⟩
        else ⟨run.state, .attempting 0 none none⟩
      else ⟨run.state, .finishing⟩
  | .attempting attempt error decision, .controller now answer =>
      if run.state.searchDeadline ≤ now ∨
          graph.budget.maxControllerCalls ≤ run.state.controllerCalls then
        ⟨run.state, .concluded error decision⟩
      else stepAttempt graph run.state attempt error decision answer
  | .concluded error decision, .reading now later cancelled =>
      stepConcluded run.state error decision now later cancelled
  | .executing decision changed, .batch tools answers cancelled =>
      match executeBatch graph decision.actions tools answers run.state with
      | .error failure state => ⟨state, .raised failure⟩
      | .ok results state =>
          if cancelled then ⟨state.terminated .cancelled, .finishing⟩
          else
            ⟨state, .applying decision changed
              (results.map (lateResult (min state.searchDeadline state.totalDeadline)))⟩
  | .applying decision changed results, _ =>
      match applyBatchResults graph decision.actions results changed run.state with
      | .error failure state => ⟨state, .raised failure⟩
      | .ok noProgress state =>
          if graph.budget.noProgressLimit ≤ noProgress then
            ⟨{ state.terminated .noNewEvidence with outcome := some (defaultOutcome state) },
              .finishing⟩
          else ⟨state, .head⟩
  | .finishing, .reading now _ _ => ⟨run.state.complete now, .finished⟩
  | _, _ => run

end Shiliu.Deep
