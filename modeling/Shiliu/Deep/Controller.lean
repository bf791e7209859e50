/-
Module: Shiliu.Deep.Controller
Purpose: `_decide`, `_validate` and `_update_needs`: one call of the controller, the checks its
  decision must pass against the state it was made for, and what its need updates write. The
  lengths of rendered texts, query normalisation and the product's filter schema are rules.
Trusted boundary: none
Main exports: DeepRules, DeepV2Graph, Refusal, updateNeeds, ControllerAnswer, controllerAttempt
-/
import Shiliu.Library.Outcome
import Shiliu.Deep.Contracts

namespace Shiliu.Deep

open Shiliu.Library

/-! ## The graph and what it is given -/

/-- What the code around the graph computes from texts and dictionaries. -/
structure DeepRules where
  /-- `not text.strip()` -/
  isBlank : String → Bool
  /-- the text of a sorted list in a message -/
  listText : List String → String
  /-- `ProductSearchFilterRequest.model_validate`: the text of its error -/
  filterRequest : Arguments → Option String
  /-- `_normalized_query` -/
  normalizedQuery : String → String
  /-- the JSON text of an action under the run's filters -/
  keyText : ActionKind → Arguments → String
  /-- the length of the controller's messages -/
  controllerChars : Research → Option String → Nat
  /-- the length of the messages of one query's reduction -/
  queryReduceChars : String → String → List (String × TranscriptEvidenceSpan) → Nat
  /-- the length of a candidate in a shared input -/
  compactChars : String → TranscriptEvidenceSpan → Nat
  /-- the length of the messages of a batch reduction -/
  sharedInputChars : String → List String → List (String × TranscriptEvidenceSpan) → Nat
  /-- `str` of the identity of a candidate -/
  identText : CitationIdentity → String
  /-- the length of a delivered excerpt -/
  displayChars : TranscriptEvidenceSpan → Nat

inductive ReduceStrategy where
  | s
  | b0

structure DeepV2Graph where
  budget : V2Budget
  reduceStrategy : ReduceStrategy
  rules : DeepRules

/-- An exception `_run_loop` caught, with what its handler looks at. -/
structure ControllerFailure where
  text : String
  code : String
  isTimeoutError : Bool
  isValueError : Bool

/-- `f"{type(exc).__name__}: {exc}"[:1000]`. -/
def ControllerFailure.error (failure : ControllerFailure) : String :=
  String.ofList (failure.text.toList.take 1000)

/-- How `_validate` turns a decision down. -/
inductive Refusal where
  | invalid (text : String)
  | raised (failure : ControllerFailure)

variable (graph : DeepV2Graph)

/-! ## Checks of one action -/

/-- `type(value) is int`. -/
def JsonValue.isInt : JsonValue → Bool
  | .int _ => true
  | _ => false

/-- `type(value) in (int, float)`. -/
def JsonValue.isNumber : JsonValue → Bool
  | .int _ | .float _ => true
  | _ => false

/-- `low <= value <= high`. -/
def JsonValue.between (low high : Rat) : JsonValue → Bool
  | .int value => low ≤ value ∧ value ≤ high
  | .float (some value) => low ≤ value ∧ value ≤ high
  | _ => false

/-- `isinstance(value, list)` and every element passes. -/
def JsonValue.isListOf (passes : JsonValue → Bool) : JsonValue → Bool
  | .list values => values.all passes
  | _ => false

def JsonValue.isPositiveInt : JsonValue → Bool
  | .int value => 0 < value
  | _ => false

/-- `isinstance(value, int) and value > 0`, where a `bool` is an `int`. -/
def JsonValue.isPositiveInstance : JsonValue → Bool
  | .int value => 0 < value
  | .bool value => value
  | _ => false

def JsonValue.text? : JsonValue → Option String
  | .str text => some text
  | _ => none

def Arguments.names (arguments : Arguments) : List String :=
  arguments.map Prod.fst

def Arguments.resultLimit (arguments : Arguments) : JsonValue :=
  (arguments.get "result_limit").getD (.int 10)

def Arguments.videoIds (arguments : Arguments) : JsonValue :=
  (arguments.get "video_ids").getD (.list [])

def Arguments.window (arguments : Arguments) (name : String) : JsonValue :=
  (arguments.get name).getD (.int 30)

def unhashable (kind : String) : ControllerFailure where
  text := "TypeError: unhashable type: '" ++ kind ++ "'"
  code := ""
  isTimeoutError := false
  isValueError := false

/-- `value not in available` raises on a value that cannot be hashed. -/
def knownRef (available : List String) : Option JsonValue → Except Refusal Bool
  | some (.str ref) => .ok (available.contains ref)
  | some (.list _) => .error (.raised (unhashable "list"))
  | some (.object _) => .error (.raised (unhashable "dict"))
  | _ => .ok false

/-- The checks under `try`, each with its own message. -/
def validateTypes (action : V2Action) : Except Refusal Unit := do
  let arguments := action.arguments
  ensure (arguments.resultLimit.isInt) (.invalid "result_limit must be an integer")
  ensure (action.kind = .searchTranscripts → arguments.videoIds.isListOf JsonValue.isPositiveInt)
    (.invalid "video_ids must be a list of positive integers")
  ensure (action.kind = .readContext →
      (arguments.window "before_seconds").isNumber ∧ (arguments.window "after_seconds").isNumber)
    (.invalid "read_context window must be numeric")
  match action.kind, graph.rules.filterRequest
      (arguments.filter fun field => field.1 ∉ ["query", "result_limit"]) with
  | .searchVideos, some text => throw (.invalid ("invalid tool arguments: " ++ text))
  | _, _ => pure ()

def validateArguments (available : List String) (action : V2Action) : Except Refusal Unit := do
  let arguments := action.arguments
  match action.kind with
  | .searchTranscripts =>
      ensure (arguments.names ⊆ ["query", "video_ids", "result_limit"])
        (.invalid ("unsupported search_transcripts argument; " ++
          "allowed query, video_ids, result_limit"))
      ensure (((arguments.get "query").bind JsonValue.text?).any fun text =>
          !graph.rules.isBlank text)
        (.invalid "search_transcripts requires query")
      ensure (arguments.resultLimit.between 1 50) (.invalid "result_limit outside 1..50")
      ensure (arguments.videoIds.isListOf JsonValue.isPositiveInstance)
        (.invalid "invalid video_ids")
  | .readContext =>
      ensure (arguments.names ⊆ ["evidence_ref", "before_seconds", "after_seconds"])
        (.invalid ("unsupported read_context argument; " ++
          "allowed evidence_ref, before_seconds, after_seconds"))
      let known ← knownRef available (arguments.get "evidence_ref")
      ensure known
        (.invalid ("read_context requires existing evidence_ref; " ++
          "same-batch dependency forbidden"))
      ensure ((arguments.window "before_seconds").between 0 120 ∧
          (arguments.window "after_seconds").between 0 120)
        (.invalid "read_context window outside 0..120")
  | .searchVideos =>
      ensure (arguments.names ⊆ ["query", "uploader", "uploader_contains", "folder_id",
          "favorite_time_from", "favorite_time_to", "result_limit"])
        (.invalid ("unsupported search_videos field or date type; allowed query, uploader, " ++
          "uploader_contains, folder_id, favorite_time_from, favorite_time_to, result_limit"))
      ensure ((((arguments.get "query").getD (.str "")).text?).isSome)
        (.invalid "search_videos query must be text")
      ensure (arguments.resultLimit.between 1 20)
        (.invalid "search_videos result_limit outside 1..20")

def validateAction (available knownNeeds : List String) (action : V2Action) :
    Except Refusal Unit := do
  ensure (!graph.rules.isBlank action.actionId ∧ !graph.rules.isBlank action.purpose)
    (.invalid "action_id and purpose required")
  ensure (action.basedOnRefs ⊆ available)
    (.invalid "based_on_refs contains unknown or same-batch evidence")
  ensure (action.needIds ⊆ knownNeeds) (.invalid "action refers to unknown need_id")
  validateTypes graph action
  validateArguments graph available action

/-! ## Checks of a decision -/

/-- What a final decision names must be there. -/
def validateFinish (decision : V2Decision) (state : Research) : Except Refusal Unit := do
  ensure (decision.answerEvidenceRefs ⊆ state.retained)
    (.invalid ("unknown or unretained answer evidence refs: " ++ graph.rules.listText
      (decision.answerEvidenceRefs.filter fun ref => ref ∉ state.retained)))
  ensure (decision.answerSourceIds ⊆ state.sourceRecordIds)
    (.invalid ("unknown answer navigation source IDs: " ++ graph.rules.listText
      (decision.answerSourceIds.filter fun source => source ∉ state.sourceRecordIds)))

/-- A batch must fit the budgets, name new actions, and each action must be well formed. -/
def validateBatch (decision : V2Decision) (state : Research) : Except Refusal Unit := do
  ensure (decision.actions.length ≤ graph.budget.maxActionsPerDecision)
    (.invalid ("batch exceeds max_actions_per_decision=" ++
      toString graph.budget.maxActionsPerDecision))
  ensure (state.toolCalls + decision.actions.length ≤ graph.budget.maxToolCalls)
    (.invalid "batch exceeds remaining tool budget")
  let ids := decision.actions.map V2Action.actionId
  ensure (ids.Nodup ∧ ∀ id ∈ ids, id ∉ state.priorIds) (.invalid "duplicate action_id in batch")
  let knownNeeds := state.needs.rows.map NeedUpdate.needId ++
    decision.needUpdates.map NeedUpdate.needId
  decision.actions.forM (validateAction graph state.storeRefs knownNeeds)

def validate (decision : V2Decision) (state : Research) : Except Refusal Unit := do
  ensure (∀ need ∈ decision.needUpdates,
      !graph.rules.isBlank need.needId ∧ need.evidenceRefs ⊆ state.retained)
    (.invalid "need_updates requires stable ID and retained evidence refs")
  match decision.type with
  | .finish => validateFinish graph decision state
  | .continue_ => validateBatch graph decision state

/-- What a decision that passed `_validate` may rely on. -/
structure Vetted (decision : V2Decision) (state : Research) : Prop where
  needs : ∀ need ∈ decision.needUpdates, need.evidenceRefs ⊆ state.retained
  answer : decision.type = .finish → decision.answerEvidenceRefs ⊆ state.retained
  sources : decision.type = .finish → decision.answerSourceIds ⊆ state.sourceRecordIds
  budget : decision.type = .continue_ →
    state.toolCalls + decision.actions.length ≤ graph.budget.maxToolCalls

variable {graph}

theorem validate_vetted {decision : V2Decision} {state : Research}
    (passed : validate graph decision state = .ok ()) : Vetted graph decision state := by
  obtain ⟨needs, passed⟩ := ensure_then_eq_ok.mp passed
  cases isType : decision.type with
  | finish =>
      rw [isType] at passed
      obtain ⟨answer, passed⟩ := ensure_then_eq_ok.mp passed
      have sources := ensure_eq_ok.mp passed
      exact
        { needs := fun need isNeed => (needs need isNeed).2
          answer := fun _ => answer
          sources := fun _ => sources
          budget := fun other => absurd (isType.symm.trans other) (by decide) }
  | continue_ =>
      rw [isType] at passed
      obtain ⟨-, passed⟩ := ensure_then_eq_ok.mp passed
      obtain ⟨budget, -⟩ := ensure_then_eq_ok.mp passed
      exact
        { needs := fun need isNeed => (needs need isNeed).2
          answer := fun other => absurd (isType.symm.trans other) (by decide)
          sources := fun other => absurd (isType.symm.trans other) (by decide)
          budget := fun _ => budget }

/-! ## The need updates of a decision -/

/-- `_update_needs`: the needs afterwards, and whether the standing of one changed. -/
def updateNeeds (decision : V2Decision) (needs : Table NeedUpdate.needId) :
    Table NeedUpdate.needId × Bool :=
  decision.needUpdates.foldl
    (fun (needs, changed) need =>
      let same := (needs.lookup need.needId).any fun previous =>
        previous.status = need.status ∧ previous.evidenceRefs = need.evidenceRefs
      (needs.assign need, changed || !same))
    (needs, false)

theorem mem_updateNeeds {decision : V2Decision} {needs : Table NeedUpdate.needId}
    {need : NeedUpdate} (isNeed : need ∈ (updateNeeds decision needs).1) :
    need ∈ needs ∨ need ∈ decision.needUpdates := by
  have general : ∀ (updates : List NeedUpdate) (start : Table NeedUpdate.needId × Bool),
      need ∈ (updates.foldl
        (fun (needs, changed) need =>
          let same := (needs.lookup need.needId).any fun previous =>
            previous.status = need.status ∧ previous.evidenceRefs = need.evidenceRefs
          (needs.assign need, changed || !same)) start).1 → need ∈ start.1 ∨ need ∈ updates := by
    intro updates
    induction updates with
    | nil => exact fun start isNeed => Or.inl isNeed
    | cons update rest inductionHypothesis =>
        intro start isNeed
        rcases inductionHypothesis _ isNeed with old | new
        · rcases Table.mem_assign.mp old with rfl | ⟨old, -⟩
          · exact Or.inr List.mem_cons_self
          · exact Or.inl old
        · exact Or.inr (List.mem_cons_of_mem update new)
  exact general decision.needUpdates (needs, false) isNeed

/-! ## One attempt of the controller -/

/-- How the provider answers: it raises, something around the call does, or it decides. -/
inductive ControllerAnswer where
  | callRaised (failure : ControllerFailure)
  | otherRaised (failure : ControllerFailure)
  | decided (decision : V2Decision)

inductive Attempt where
  | accepted (decision : V2Decision)
  | refused (error : String) (decision : V2Decision)
  | failed (failure : ControllerFailure)

def summariesTooLong : ControllerFailure where
  text := "ValueError: Controller query summaries exceed character budget"
  code := ""
  isTimeoutError := false
  isValueError := true

/-- `_decide`, then `_validate`: the events it appends and how the attempt ends. -/
def controllerAttempt (graph : DeepV2Graph) (state : Research) (repairError : Option String)
    (answer : ControllerAnswer) : List ResearchEvent × Attempt :=
  if graph.rules.controllerChars state repairError > graph.budget.controllerContextChars then
    ([], .failed summariesTooLong)
  else
    match answer with
    | .callRaised failure => ([.controllerCall state.controllerCalls failure.text], .failed failure)
    | .otherRaised failure => ([], .failed failure)
    | .decided decision =>
        let event := .decision (state.decisionRounds + 1) state.controllerCalls decision
        match validate graph decision { state with events := state.events ++ [event] } with
        | .ok () => ([event], .accepted decision)
        | .error (.invalid text) => ([event], .refused text decision)
        | .error (.raised failure) => ([event], .failed failure)

theorem controllerAttempt_accepted {state : Research} {repairError : Option String}
    {answer : ControllerAnswer} {events : List ResearchEvent} {decision : V2Decision}
    (accepted : controllerAttempt graph state repairError answer = (events, .accepted decision)) :
    Vetted graph decision state := by
  unfold controllerAttempt at accepted
  split at accepted
  · simp at accepted
  · split at accepted
    · simp at accepted
    · simp at accepted
    · dsimp only at accepted
      split at accepted
      · obtain ⟨-, isDecision⟩ := Prod.mk.inj accepted
        obtain rfl := Attempt.accepted.inj isDecision
        have vetted := validate_vetted ‹_›
        exact ⟨vetted.needs, vetted.answer, vetted.sources, vetted.budget⟩
      · simp at accepted
      · simp at accepted

end Shiliu.Deep
