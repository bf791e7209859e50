/-
Module: Shiliu.Deep.Contracts
Purpose: What the controller, the tools and the reducer of deep research exchange, and the state
  dictionary of one run. The validators of a decision, of a finding and of the budget are carried
  as fields. Token usage, wall times and the copied columns of sources are left out.
Trusted boundary: none
Main exports: JsonValue, V2Action, V2Decision, ToolResult, QueryResult, ResearchEvent, Research
-/
import Mathlib.Data.Rat.Init
import Mathlib.Tactic.DeriveFintype
import Shiliu.Library.Table

namespace Shiliu.Deep

open Shiliu.Library

/-! ## What the controller decides -/

/-- A value a model wrote into an argument. A `float` that is not finite has no value here. -/
inductive JsonValue where
  | null
  | bool (value : Bool)
  | int (value : Int)
  | float (value : Option Rat)
  | str (value : String)
  | list (values : List JsonValue)
  | object (fields : List (String × JsonValue))

/-- `dict[str, Any]`. -/
abbrev Arguments := List (String × JsonValue)

/-- `args.get(name)`. -/
def Arguments.get (arguments : Arguments) (name : String) : Option JsonValue :=
  arguments.lookup name

inductive ActionKind where
  | searchVideos
  | searchTranscripts
  | readContext
deriving DecidableEq

inductive NeedStatus where
  | open_
  | supported
  | conflicting
deriving DecidableEq

structure NeedUpdate where
  needId : String
  text : String
  status : NeedStatus
  evidenceRefs : List String
  gap : String

structure V2Action where
  actionId : String
  kind : ActionKind
  arguments : Arguments
  needIds : List String
  purpose : String
  basedOnRefs : List String

inductive DecisionType where
  | continue_
  | finish
deriving DecidableEq

inductive Outcome where
  | sufficient
  | partial_
  | insufficient
  | needsClarification
  | sourcesFound
deriving DecidableEq

/-- A decision whose `shape` validator passed. -/
structure V2Decision where
  type : DecisionType
  needUpdates : List NeedUpdate
  actions : List V2Action
  outcome : Option Outcome
  answerEvidenceRefs : List String
  answerSourceIds : List String
  unresolvedItems : List String
  continues : type = .continue_ → actions ≠ []
  finishes : type = .finish → actions = [] ∧ outcome ≠ none

def navigationSourceId (videoId : Nat) : String :=
  "nav:" ++ toString videoId

/-- Limits whose `__post_init__` passed. -/
structure V2Budget where
  maxControllerCalls : Nat
  maxToolCalls : Nat
  maxActionsPerDecision : Nat
  totalSeconds : Rat
  searchSeconds : Rat
  toolResultChars : Nat
  controllerContextChars : Nat
  reduceInputChars : Nat
  noProgressLimit : Nat
  positive : 0 < maxControllerCalls ∧ 0 < maxToolCalls ∧ 0 < maxActionsPerDecision ∧
    0 < toolResultChars ∧ 0 < controllerContextChars ∧ 0 < reduceInputChars
  ordered : 0 < searchSeconds ∧ searchSeconds < totalSeconds

/-- The defaults of `V2Budget`. -/
def defaultBudget : V2Budget where
  maxControllerCalls := 8
  maxToolCalls := 24
  maxActionsPerDecision := 4
  totalSeconds := 240
  searchSeconds := 180
  toolResultChars := 16000
  controllerContextChars := 80000
  reduceInputChars := 100000
  noProgressLimit := 3
  positive := by decide
  ordered := by decide

/-! ## What the tools return -/

structure TranscriptEvidenceSpan where
  citationId : String
  videoId : Nat
  title : String
  sourceArtifactId : String
  sourceVersion : String
  timelineRunId : String
  segmentIds : List String
  startTime : Rat
  endTime : Rat
  quoteText : String
  parentChunkIds : List String
  retrievalProvenance : List String
deriving DecidableEq

/-- What a citation names: artifact, version, timeline, segments and quote. -/
structure CitationIdentity where
  sourceArtifactId : String
  sourceVersion : String
  timelineRunId : String
  segmentIds : List String
  quoteText : String
deriving DecidableEq

def TranscriptEvidenceSpan.identity (span : TranscriptEvidenceSpan) : CitationIdentity :=
  ⟨span.sourceArtifactId, span.sourceVersion, span.timelineRunId, span.segmentIds, span.quoteText⟩

/-- A navigation document, and the record of `v2_sources` made of it. -/
structure NavigationSource where
  videoId : Nat
  title : String
  uploader : String
  subtitleAvailable : Bool

/-! ## What the reducer returns -/

/-- A finding whose `subject` has at least one character. -/
structure QueryFinding where
  subject : String
  text : String
  evidenceRefs : List String
  named : subject ≠ ""

structure QueryReduction where
  findings : List QueryFinding
  sufficient : Bool
  unresolved : List String

/-- A finding with its references bound to citations. -/
structure Finding where
  subject : String
  text : String
  evidenceRefs : List String

/-- `result["query_reduction"]`. -/
structure Reduction where
  called : Bool
  findings : List Finding
  sufficient : Bool
  unresolved : List String
  retainedEvidenceRefs : List String
  candidateCount : Nat
  error : Option String

inductive ToolStatus where
  | ok
  | empty
  | stale
  | error
  | timeout
deriving DecidableEq

/-- What an entry of `v2_cache` holds of a result. -/
structure CachedResult where
  cacheKey : String
  status : ToolStatus
  spans : List TranscriptEvidenceSpan
  sources : List NavigationSource
  error : Option String
  errorCode : String
  anchorRef : Option String
  deliveredLimit : Option Nat
  queryReduction : Option Reduction

/-- The result of one action; `b0NewRefs` and `b0Uncacheable` are the keys the batch reducer adds. -/
structure ToolResult extends CachedResult where
  cacheHit : Bool
  endedAt : Rat
  b0NewRefs : Option (List String)
  b0Uncacheable : Bool

/-! ## The state of a run -/

structure RetainedEvidence where
  evidenceRef : String
  videoId : Nat
  title : String
  startTime : Rat
  endTime : Rat

/-- An entry of `v2_query_results`. -/
structure QueryResult where
  actionId : String
  kind : ActionKind
  needIds : List String
  status : ToolStatus
  sourceIds : List Nat
  sourceRecordIds : List String
  findings : List Finding
  sufficient : Bool
  unresolved : List String
  rawCandidateCount : Nat
  retainedEvidenceRefs : List String
  retainedEvidence : List RetainedEvidence

inductive ResearchEvent where
  | controllerCall (call : Nat) (error : String)
  | decision (round call : Nat) (decision : V2Decision)
  | b0Batch (round : Nat) (indices : List Nat) (accepted fallback : Bool) (reason : String)
  | queryReduce (round : Nat) (actionId : String) (reduction : Reduction)
  | toolResult (actionId : String) (kind : ActionKind) (status : ToolStatus)
      (error : Option String) (cacheHit noNewResult : Bool)
      (evidenceRefs visibleEvidence omittedRefs retainedEvidenceRefs : List String)

inductive TerminationReason where
  | cancelled
  | timeout
  | providerError
  | toolBudgetExhausted
  | invalidStructuredOutput
  | controllerBudgetExhausted
  | answerReady
  | evidenceUnavailable
  | noNewEvidence
deriving DecidableEq

/-- The state dictionary of `_run_loop`. -/
structure Research where
  query : String
  searchDeadline : Rat
  totalDeadline : Rat
  needs : Table NeedUpdate.needId
  store : Table TranscriptEvidenceSpan.citationId
  sources : Table NavigationSource.videoId
  cache : Table CachedResult.cacheKey
  queryResults : List QueryResult
  outcome : Option Outcome
  finalRefs : List String
  finalSourceIds : List String
  unresolved : List String
  controllerCalls : Nat
  toolCalls : Nat
  decisionRounds : Nat
  noProgress : Nat
  repeatedQueryAdvice : Bool
  terminationReason : Option TerminationReason
  events : List ResearchEvent
  errors : List String
  staleReasons : List String
  openQuestions : List String
  resolvedQuestions : List NeedUpdate
  evidenceSpans : List TranscriptEvidenceSpan

namespace Research

/-- `set(state["v2_store"])`. -/
def storeRefs (state : Research) : List String :=
  state.store.rows.map TranscriptEvidenceSpan.citationId

/-- The navigation identifiers a decision may name. -/
def sourceRecordIds (state : Research) : List String :=
  state.sources.rows.map fun source => navigationSourceId source.videoId

/-- The references a decision may rest on: those some query retained, or, before any query, the
whole store. -/
def retained (state : Research) : List String :=
  if state.queryResults.isEmpty then state.storeRefs
  else state.queryResults.flatMap QueryResult.retainedEvidenceRefs

/-- `prior_ids`: the actions that have a result. -/
def priorIds (state : Research) : List String :=
  state.events.filterMap fun
    | .toolResult actionId .. => some actionId
    | _ => none

theorem mem_storeRefs {state : Research} {ref : String} :
    ref ∈ state.storeRefs ↔ ∃ span, state.store.lookup ref = some span := by
  rw [storeRefs, List.mem_map]
  constructor
  · rintro ⟨span, isSpan, rfl⟩
    exact ⟨span, Table.lookup_of_mem isSpan⟩
  · rintro ⟨span, isSpan⟩
    exact ⟨span, Table.mem_of_lookup isSpan, Table.key_of_lookup isSpan⟩

/-- A run starts with the evidence it inherits, under the last span of each citation. -/
def initial (query : String) (evidenceSpans : List TranscriptEvidenceSpan)
    (searchDeadline totalDeadline : Rat) : Research where
  query := query
  searchDeadline := searchDeadline
  totalDeadline := totalDeadline
  needs := Table.empty _
  store := evidenceSpans.foldl Table.assign (Table.empty _)
  sources := Table.empty _
  cache := Table.empty _
  queryResults := []
  outcome := none
  finalRefs := []
  finalSourceIds := []
  unresolved := []
  controllerCalls := 0
  toolCalls := 0
  decisionRounds := 0
  noProgress := 0
  repeatedQueryAdvice := false
  terminationReason := none
  events := []
  errors := []
  staleReasons := []
  openQuestions := [query]
  resolvedQuestions := []
  evidenceSpans := evidenceSpans

end Research

end Shiliu.Deep
