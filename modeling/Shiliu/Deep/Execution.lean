/-
Module: Shiliu.Deep.Execution
Purpose: One action against the snapshot of its batch, and how the results of a batch are written
  into the state in the order of the actions. What is written before an exception stays written.
Trusted boundary: none
Main exports: ToolAnswer, executeOne, registerSpan, reduceResult, applyBatchResults
-/
import Shiliu.Library.Effect
import Shiliu.Deep.BatchReduce

namespace Shiliu.Deep

open Shiliu.Library

/-- What `_run_loop` does to its state until it raises. -/
abbrev Writes (Value : Type) := EStateM RunFailure Research Value

/-- An exception of a pure part leaves the run. -/
def orRaise {Value : Type} : Except RunFailure Value → Writes Value
  | .ok value => pure value
  | .error failure => throw failure

variable (graph : DeepV2Graph)

/-! ## One action against the snapshot -/

structure ToolFailure where
  code : String
  text : String

/-- What the tool of an action returns or raises, and when. -/
structure ToolAnswer where
  transcripts : Except ToolFailure (List TranscriptEvidenceSpan)
  context : Except ToolFailure TranscriptEvidenceSpan
  videos : Except ToolFailure (List NavigationSource)
  endedAt : Rat

/-- `part in text`. -/
def mentions (part text : String) : Bool :=
  decide (part.toList <:+: text.toList)

/-- The arguments as they stand in the cache key. -/
def keyArguments (action : V2Action) : Arguments :=
  let normal := action.arguments.map fun (name, value) =>
    match name, value with
    | "query", .str text => (name, JsonValue.str (graph.rules.normalizedQuery text))
    | _, _ => (name, value)
  if action.kind = .searchTranscripts then normal.filter fun field => field.1 ≠ "result_limit"
  else normal

/-- `action.arguments.get("result_limit", 10)` of an action that passed its checks. -/
def deliveredLimit (action : V2Action) : Nat :=
  match action.arguments.resultLimit with
  | .int value => value.toNat
  | _ => 10

/-- What a call of the tool brings: spans, sources and the anchor of a window. -/
def callTool (action : V2Action) (store : Table TranscriptEvidenceSpan.citationId)
    (answer : ToolAnswer) : Except ToolFailure
      (List TranscriptEvidenceSpan × List NavigationSource × Option String) :=
  match action.kind with
  | .searchTranscripts => answer.transcripts.map fun spans => (spans, [], none)
  | .readContext =>
      match (action.arguments.get "evidence_ref").bind JsonValue.text? with
      | none => .error ⟨"", "KeyError: 'evidence_ref'"⟩
      | some ref =>
          match store.lookup ref with
          | none => .error ⟨"", "KeyError: '" ++ ref ++ "'"⟩
          | some _ => answer.context.map fun span => ([span], [], some ref)
  | .searchVideos => answer.videos.map fun sources => ([], sources, none)

def statusOf (spans : List TranscriptEvidenceSpan) (sources : List NavigationSource) :
    ToolStatus :=
  if spans = [] ∧ sources = [] then .empty else .ok

/-- `_execute_one`. -/
def executeOne (action : V2Action) (store : Table TranscriptEvidenceSpan.citationId)
    (cache : Table CachedResult.cacheKey) (answer : ToolAnswer) : ToolResult :=
  let key := graph.rules.keyText action.kind (keyArguments graph action)
  let limit := if action.kind = .searchTranscripts then some (deliveredLimit action) else none
  match cache.lookup key with
  | some cached =>
      { cached with
        status := statusOf cached.spans cached.sources
        deliveredLimit := limit.orElse fun _ => cached.deliveredLimit
        cacheHit := true
        endedAt := answer.endedAt
        b0NewRefs := none
        b0Uncacheable := false }
  | none =>
      match callTool action store answer with
      | .ok (spans, sources, anchor) =>
          { cacheKey := key
            status := statusOf spans sources
            spans := spans
            sources := sources
            error := none
            errorCode := ""
            anchorRef := anchor
            deliveredLimit := limit
            queryReduction := none
            cacheHit := false
            endedAt := answer.endedAt
            b0NewRefs := none
            b0Uncacheable := false }
      | .error failure =>
          { cacheKey := key
            status := if mentions "stale" failure.code ∨ mentions "version" failure.code then .stale
              else .error
            spans := []
            sources := []
            error := some (String.ofList (failure.text.toList.take 500))
            errorCode := failure.code
            anchorRef := none
            deliveredLimit := none
            queryReduction := none
            cacheHit := false
            endedAt := answer.endedAt
            b0NewRefs := none
            b0Uncacheable := false }

/-! ## Writing the results -/

/-- `_register_span`: a known citation only gains provenance and parents. -/
def registerSpan (span : TranscriptEvidenceSpan) : Writes PUnit := do
  let state ← get
  match state.store.lookup span.citationId with
  | none => set { state with store := state.store.assign span }
  | some existing =>
      if existing.identity ≠ span.identity then
        throw ⟨"ValueError: Conflicting citation identity"⟩
      else
        set
          { state with
            store := state.store.assign
              { existing with
                retrievalProvenance :=
                  (existing.retrievalProvenance ++ span.retrievalProvenance).eraseDups
                parentChunkIds := (existing.parentChunkIds ++ span.parentChunkIds).eraseDups } }

/-- `state["v2_store"][ref]`, as the state shows it to the controller. -/
def retainedEvidence (store : Table TranscriptEvidenceSpan.citationId) (ref : String) :
    Except RunFailure RetainedEvidence :=
  match store.lookup ref with
  | some span => .ok ⟨ref, span.videoId, span.title, span.startTime, span.endTime⟩
  | none => .error ⟨"KeyError: '" ++ ref ++ "'"⟩

/-- The reduction of a result that has none. -/
def absentReduction (action : V2Action) (refs : List String) : Reduction where
  called := false
  findings := []
  sufficient := false
  unresolved :=
    if action.kind = .searchTranscripts then ["No transcript evidence found for this query."]
    else []
  retainedEvidenceRefs := []
  candidateCount := refs.length
  error := none

/-- The excerpts delivered before one would exceed the size of a tool result. -/
def deliver (limit : Nat) (spans : List TranscriptEvidenceSpan) : List String :=
  let fitting := (spans.take limit).foldl
    (fun (delivered, used, full) span =>
      if full ∨ used + graph.rules.displayChars span > graph.budget.toolResultChars then
        (delivered, used, true)
      else (delivered ++ [span.citationId], used + graph.rules.displayChars span, false))
    (([] : List String), 0, false)
  fitting.1

/-- What `v2_cache` keeps of a result. -/
def ToolResult.cached (result : ToolResult) : CachedResult :=
  { result.toCachedResult with
    queryReduction := if result.b0Uncacheable then none else result.queryReduction }

/-- The errors and stale reasons a result adds. -/
def noteFailures (result : ToolResult) (reduction : Reduction) (state : Research) : Research :=
  { state with
    errors := state.errors ++ reduction.error.toList ++
      (if result.status = .error then result.error.toList else [])
    staleReasons := state.staleReasons ++
      (if result.status = .stale then
        [if result.errorCode ≠ "" then result.errorCode else result.error.getD ""] else []) }

/-- The entry of `v2_query_results` a result makes. -/
def queryResult (action : V2Action) (result : ToolResult) (reduction : Reduction)
    (evidence : List RetainedEvidence) : QueryResult where
  actionId := action.actionId
  kind := action.kind
  needIds := action.needIds
  status := result.status
  sourceIds := result.sources.map NavigationSource.videoId
  sourceRecordIds := result.sources.map fun source => navigationSourceId source.videoId
  findings := reduction.findings
  sufficient := reduction.sufficient
  unresolved := reduction.unresolved
  rawCandidateCount := reduction.candidateCount
  retainedEvidenceRefs := reduction.retainedEvidenceRefs.eraseDups
  retainedEvidence := evidence

/-- The events of a reduced result. -/
def resultEvents (action : V2Action) (result : ToolResult) (reduction : Reduction)
    (before after : Research) : List ResearchEvent :=
  let refs := result.spans.map TranscriptEvidenceSpan.citationId
  let newRefs := result.b0NewRefs.getD (refs.filter fun ref => ref ∉ before.storeRefs)
  let newSources := result.sources.filter fun source =>
    (before.sources.lookup source.videoId).isNone
  let delivered := deliver graph (result.deliveredLimit.getD 50)
    (refs.filterMap after.store.lookup)
  (if action.kind = .searchVideos then []
    else [.queryReduce after.decisionRounds action.actionId reduction]) ++
  [.toolResult action.actionId action.kind result.status result.error result.cacheHit
    (result.cacheHit ∧ newRefs = [] ∧ newSources = []) refs delivered
    (refs.drop delivered.length) reduction.retainedEvidenceRefs.eraseDups]

/-- `_reduce`. -/
def reduceResult (action : V2Action) (result : ToolResult) : Writes PUnit := do
  let before ← get
  modify fun state => { state with cache := state.cache.assign result.cached }
  result.spans.forM registerSpan
  let refs := result.spans.map TranscriptEvidenceSpan.citationId
  let reduction := result.queryReduction.getD (absentReduction action refs)
  modify fun state => noteFailures result reduction
    { state with sources := result.sources.foldl Table.assign state.sources }
  let state ← get
  let evidence ← orRaise
    (reduction.retainedEvidenceRefs.eraseDups.mapM (retainedEvidence state.store))
  set
    { state with
      queryResults := state.queryResults ++ [queryResult action result reduction evidence]
      events := state.events ++ resultEvents graph action result reduction before state }

/-- `_effective_progress`: three sets. -/
structure Progress where
  refs : List String
  findings : List (String × List String)
  sourceIds : List Nat

def effectiveProgress (state : Research) : Progress where
  refs := state.queryResults.flatMap QueryResult.retainedEvidenceRefs
  findings := state.queryResults.flatMap fun result =>
    result.findings.map fun finding => (finding.text, finding.evidenceRefs)
  sourceIds := state.sources.rows.map NavigationSource.videoId

def Progress.same (one other : Progress) : Bool :=
  (one.refs ⊆ other.refs ∧ other.refs ⊆ one.refs) ∧
    (one.findings ⊆ other.findings ∧ other.findings ⊆ one.findings) ∧
    one.sourceIds ⊆ other.sourceIds ∧ other.sourceIds ⊆ one.sourceIds

/-- The results register their spans before any of them is reduced. -/
def registerBatch (results : List ToolResult) : Writes (List ToolResult) := do
  let before ← get
  results.forM fun result => if result.status = .ok then result.spans.forM registerSpan else pure ()
  pure (results.map fun result =>
    if result.status = .ok then
      { result with
        b0NewRefs := some ((result.spans.map TranscriptEvidenceSpan.citationId).filter
          fun ref => ref ∉ before.storeRefs) }
    else result)

/-- A query of an accepted batch may retain what another one found, so its spans come first. -/
def registerResults (results : List ToolResult) : Writes (List ToolResult) :=
  if results.any ToolResult.b0Uncacheable then registerBatch results else pure results

/-- `_apply_batch_results`: the number of rounds without progress. -/
def applyBatchResults (actions : List V2Action) (results : List ToolResult) (changed : Bool) :
    Writes Nat := do
  let before ← get
  let results ← registerResults results
  (actions.zip results).forM fun (action, result) => reduceResult graph action result
  let state ← get
  let repeated := (state.events.drop (state.events.length - results.length)).any fun
    | .toolResult _ _ _ _ _ noNewResult _ _ _ _ => noNewResult
    | _ => false
  let noProgress :=
    if changed ∨ !(effectiveProgress state).same (effectiveProgress before) then 0
    else state.noProgress + 1
  set { state with repeatedQueryAdvice := repeated, noProgress := noProgress }
  pure noProgress

end Shiliu.Deep
