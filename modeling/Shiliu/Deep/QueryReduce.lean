/-
Module: Shiliu.Deep.QueryReduce
Purpose: The reducer of one query. It digests the spans of the query and binds the short references
  of the model to citations.
Trusted boundary: none
Main exports: ReduceAnswer, queryReduceOne
-/
import Mathlib.Algebra.Order.BigOperators.Group.List
import Mathlib.Data.List.MinMax
import Mathlib.Data.Prod.Lex
import Shiliu.Deep.Controller

namespace Shiliu.Deep

open Shiliu.Library

/-- An exception nothing in `_run_loop` catches. -/
structure RunFailure where
  text : String

/-- A clock reading and whether the run is cancelled at it. -/
structure Reading where
  now : Rat
  cancelled : Bool

def Reading.expired (reading : Reading) (deadline : Rat) : Bool :=
  deadline ≤ reading.now || reading.cancelled

variable (graph : DeepV2Graph)

/-! ## One query -/

/-- What the world answers while one query is digested: the read of the descriptions may raise,
the provider may raise. -/
structure ReduceAnswer where
  descriptions : Except RunFailure Unit
  before : Reading
  response : Except String QueryReduction
  after : Reading

/-- `{f"c{index}": span}`. -/
def shortRefs (spans : List TranscriptEvidenceSpan) : List (String × TranscriptEvidenceSpan) :=
  spans.zipIdx.map fun (span, index) => ("c" ++ toString index, span)

/-- `known[ref].citation_id` of the references that are known. -/
def boundCitations (known : List (String × TranscriptEvidenceSpan)) (refs : List String) :
    List String :=
  refs.filterMap fun ref => (known.lookup ref).map TranscriptEvidenceSpan.citationId

/-- `base`. -/
def unreduced (spans : List TranscriptEvidenceSpan) : Reduction where
  called := false
  findings := []
  sufficient := false
  unresolved := []
  retainedEvidenceRefs := []
  candidateCount := spans.length
  error := none

/-- The checks of an answer, and the answer bound to the citations of the query. -/
def bindReduction (spans : List TranscriptEvidenceSpan) (reduced : QueryReduction) :
    Except String Reduction := do
  let known := shortRefs spans
  ensure (∀ finding ∈ reduced.findings, !graph.rules.isBlank finding.subject ∧
      !graph.rules.isBlank finding.text ∧ finding.evidenceRefs ≠ [] ∧
      finding.evidenceRefs ⊆ known.map Prod.fst)
    "ValueError: query finding has empty text or unknown evidence reference"
  ensure (reduced.sufficient ∨ ∃ item ∈ reduced.unresolved, !graph.rules.isBlank item)
    "ValueError: insufficient query reduction requires a precise unresolved gap"
  let bound := reduced.findings.map fun finding => boundCitations known finding.evidenceRefs
  pure
    { unreduced spans with
      called := true
      findings := reduced.findings.map fun finding =>
        ⟨finding.subject, finding.text, boundCitations known finding.evidenceRefs⟩
      sufficient := reduced.sufficient
      unresolved := reduced.unresolved
      retainedEvidenceRefs := bound.flatten.eraseDups }

/-- The body under `try`: the provider's answer, if it is in time and passes. -/
def answeredReduction (spans : List TranscriptEvidenceSpan) (deadline : Rat)
    (answer : ReduceAnswer) : Except String Reduction := do
  let reduced ← answer.response
  ensure (!answer.after.expired deadline) "TimeoutError: query Reduce arrived after deadline"
  bindReduction graph spans reduced

/-- A reduction that did not come about. -/
def failedReduction (spans : List TranscriptEvidenceSpan) (called : Bool)
    (error unresolved : String) : Reduction :=
  { unreduced spans with
    called := called
    error := some error
    unresolved := [unresolved] }

/-- `_query_reduce_one`. -/
def queryReduceOne (action : V2Action) (spans : List TranscriptEvidenceSpan) (userQuery : String)
    (deadline : Rat) (answer : ReduceAnswer) : Except RunFailure Reduction :=
  if spans.isEmpty then
    .ok { unreduced [] with unresolved := ["No transcript evidence found for this query."] }
  else do
    answer.descriptions
    let query := ((action.arguments.get "query").bind JsonValue.text?).getD action.purpose
    if graph.rules.queryReduceChars userQuery query (shortRefs spans) >
        graph.budget.reduceInputChars then
      pure (failedReduction spans false "query candidate context exceeds safety budget"
        "Query candidates need a narrower search scope.")
    else if answer.before.expired deadline then
      pure (failedReduction spans false "query Reduce deadline exhausted"
        "Query processing timed out.")
    else
      match answeredReduction graph spans deadline answer with
      | .ok reduction => pure reduction
      | .error text =>
          pure (failedReduction spans true (String.ofList (text.toList.take 500))
            ("Query result selection failed; " ++
              "necessary evidence remains in the audit Store."))

end Shiliu.Deep
