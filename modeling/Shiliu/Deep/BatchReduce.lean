/-
Module: Shiliu.Deep.BatchReduce
Purpose: The batch reducer: candidates are chosen per query, united under shared references, fitted
  to the input budget by dropping the least relevant excerpt that no other one needs, and the one
  answer of the model is projected back on its queries.
Trusted boundary: none
Main exports: Candidate, Snapshot, choose, union, fitSharedInput, BatchReduction, project
-/
import Mathlib.Algebra.Order.BigOperators.Group.List
import Mathlib.Algebra.Order.Group.Nat
import Mathlib.Algebra.Order.Ring.Unbundled.Rat
import Mathlib.Data.Int.ConditionallyCompleteOrder
import Mathlib.Data.List.MinMax
import Mathlib.Data.Prod.Lex
import Mathlib.Data.String.Basic
import Shiliu.Deep.QueryReduce

namespace Shiliu.Deep

open Shiliu.Library

/-! ## Candidates -/

/-- A span of one query under its local reference. -/
structure Candidate where
  evidenceRef : String
  rank : Nat
  span : TranscriptEvidenceSpan
deriving DecidableEq

/-- `ident`: what two candidates of one excerpt share. The quote is not part of it. -/
def ident (candidate : Candidate) : CitationIdentity :=
  { candidate.span.identity with quoteText := "" }

/-- A query of the batch with its candidates. -/
structure Snapshot where
  id : String
  candidates : List Candidate

def snapshot (action : V2Action) (spans : List TranscriptEvidenceSpan) : Snapshot where
  id := action.actionId
  candidates := spans.zipIdx.map fun (span, index) => ⟨"c" ++ toString index, index + 1, span⟩

variable (rules : DeepRules)

/-- `len(json.dumps(compact(c)))`. -/
def compactSize (candidate : Candidate) : Nat :=
  rules.compactChars candidate.evidenceRef candidate.span

/-- The excerpt of a video that ends at most five seconds before a candidate starts. -/
def precedingExcerpt (candidates : List Candidate) (candidate : Candidate) : Option Candidate :=
  (candidates.filter fun other =>
    other.span.videoId = candidate.span.videoId ∧
      other.span.endTime ≤ candidate.span.startTime ∧
      candidate.span.startTime - other.span.endTime ≤ 5).argmax fun other => other.span.endTime

/-- `guard`: the chosen candidates, and what precedes each of them. -/
def guardExcerpts (chosen candidates : List Candidate) : List Candidate :=
  chosen.foldl
    (fun out candidate =>
      match precedingExcerpt candidates candidate with
      | some preceding => if preceding ∈ out then out else out ++ [preceding]
      | none => out)
    chosen

/-- `fill`: take candidates in order while they fit, and at least one. -/
def fill (ordered : List Candidate) (budget : Rat) : List Candidate :=
  (ordered.foldl
    (fun (out, size) candidate =>
      if size + compactSize rules candidate ≤ budget ∨ out = [] then
        (out ++ [candidate], size + compactSize rules candidate)
      else (out, size))
    (([] : List Candidate), (0 : Rat))).1

/-- The first candidate of each excerpt. -/
def distinctExcerpts (candidates : List Candidate) : List Candidate :=
  candidates.foldl
    (fun out candidate => if out.any (ident · = ident candidate) then out else out ++ [candidate])
    []

/-- `choose`: by rank up to two fifths of the size, by score up to three, then what precedes. -/
def choose (candidates : List Candidate) (score : String → Rat) : List Candidate :=
  let ranked := candidates.mergeSort fun one other => one.rank ≤ other.rank
  let distinct := distinctExcerpts ranked
  let budget : Rat := ((ranked.map (compactSize rules)).sum : Nat)
  let core := fill rules distinct (2 / 5 * budget)
  let tail := (distinct.filter fun candidate => candidate ∉ core).mergeSort fun one other =>
    decide (toLex (-score one.evidenceRef, one.rank) ≤ toLex (-score other.evidenceRef, other.rank))
  let remain : Rat := 3 / 5 * budget - ((core.map (compactSize rules)).sum : Nat)
  guardExcerpts (core ++ fill rules tail remain) ranked

/-! ## Uniting the candidates of a batch -/

/-- The first candidate of an excerpt is kept; another quote or citation of it is refused. -/
def remember (known : List Candidate) (candidate : Candidate) : Except String (List Candidate) :=
  match known.find? (ident · = ident candidate) with
  | none => .ok (known ++ [candidate])
  | some original => do
      ensure (original.span.quoteText = candidate.span.quoteText ∧
          original.span.citationId = candidate.span.citationId)
        "ValueError: Conflicting source quote/citation identity"
      pure known

/-- `originals`: the first candidate of each excerpt of the batch. -/
def originals (snapshots : List Snapshot) : Except String (List Candidate) :=
  (snapshots.flatMap Snapshot.candidates).foldlM remember []

/-- Excerpts are listed by video and time. -/
def inSourceOrder (one other : Candidate) : Bool :=
  let key (candidate : Candidate) : Nat ×ₗ Rat ×ₗ Rat ×ₗ String :=
    toLex (candidate.span.videoId, toLex (candidate.span.startTime,
      toLex (candidate.span.endTime, candidate.span.citationId)))
  key one ≤ key other

/-- `union`: the selected excerpts, each once, under the references `e0`, `e1`, … -/
def union (snapshots : List Snapshot) (selected : String → List Candidate) :
    Except String (List (String × TranscriptEvidenceSpan)) := do
  let known ← originals snapshots
  let picked := (snapshots.flatMap fun snapshot => (selected snapshot.id).map ident).eraseDups
  let excerpts := (picked.filterMap fun key => known.find? (ident · = key)).mergeSort inSourceOrder
  pure (excerpts.zipIdx.map fun (candidate, index) => ("e" ++ toString index, candidate.span))

/-! ## Fitting the shared input -/

/-- The order of the scores, the computable one: the integers have two. -/
abbrev relevanceOrder : LinearOrder (Rat ×ₗ Int) :=
  @Prod.Lex.instLinearOrder Rat Int Rat.linearOrder Int.instLinearOrder

abbrev relevancePreorder : Preorder (Rat ×ₗ Int) := relevanceOrder.toPreorder

attribute [local instance] relevanceOrder relevancePreorder

/-- `(score, -rank)`. -/
def relevance (scores : String → String → Rat) (id : String) (candidate : Candidate) :
    Rat ×ₗ Int :=
  toLex (scores id candidate.evidenceRef, -(candidate.rank : Int))

/-- The excerpts each query must keep: its best by rank, its best by score, what precedes them. -/
def protectedExcerpts (snapshots : List Snapshot) (selected : String → List Candidate)
    (scores : String → String → Rat) : List CitationIdentity :=
  snapshots.flatMap fun snapshot =>
    let anchors := ((selected snapshot.id).argmin Candidate.rank).toList ++
      ((selected snapshot.id).argmax (relevance scores snapshot.id)).toList
    (guardExcerpts anchors snapshot.candidates).map ident

/-- What precedes an excerpt that is still selected. -/
def bridges (snapshots : List Snapshot) (selected : String → List Candidate) :
    List CitationIdentity :=
  snapshots.flatMap fun snapshot =>
    (selected snapshot.id).filterMap fun candidate =>
      (precedingExcerpt snapshot.candidates candidate).map ident

/-- The order of the priorities, the computable one likewise. -/
abbrev priorityOrder : LinearOrder (Rat ×ₗ WithBot Int) :=
  @Prod.Lex.instLinearOrder Rat (WithBot Int) Rat.linearOrder
    (@WithBot.linearOrder Int Int.instLinearOrder)

abbrev priorityPreorder : Preorder (Rat ×ₗ WithBot Int) := priorityOrder.toPreorder

attribute [local instance] priorityOrder priorityPreorder

/-- The best relevance an excerpt has for a query that selected it, from `(-1, float('-inf'))` on. -/
def priority (snapshots : List Snapshot) (selected : String → List Candidate)
    (scores : String → String → Rat) (key : CitationIdentity) : Rat ×ₗ WithBot Int :=
  (snapshots.flatMap fun snapshot =>
    ((selected snapshot.id).filter (ident · = key)).map fun candidate =>
      toLex (scores snapshot.id candidate.evidenceRef,
        ((-(candidate.rank : Int) : Int) : WithBot Int))).foldl max (toLex (-1, ⊥))

/-- The excerpt to drop next: the least relevant that is neither protected nor a bridge. -/
def nextDrop (snapshots : List Snapshot) (selected : String → List Candidate)
    (scores : String → String → Rat) (kept : List CitationIdentity) : Option Candidate :=
  ((snapshots.flatMap fun snapshot => selected snapshot.id).filter fun candidate =>
      ident candidate ∉ kept ∧ ident candidate ∉ bridges snapshots selected).argmin
    fun candidate =>
      toLex (priority snapshots selected scores (ident candidate),
        rules.identText (ident candidate))

/-- The selection without an excerpt. -/
def without (selected : String → List Candidate) (key : CitationIdentity) :
    String → List Candidate :=
  fun id => (selected id).filter fun candidate => ident candidate ≠ key

def selectedCount (snapshots : List Snapshot) (selected : String → List Candidate) : Nat :=
  (snapshots.map fun snapshot => (selected snapshot.id).length).sum

variable {snapshots : List Snapshot} {selected : String → List Candidate} {candidate : Candidate}

theorem selectedCount_without_lt {snapshot : Snapshot} (isSnapshot : snapshot ∈ snapshots)
    (isSelected : candidate ∈ selected snapshot.id) :
    selectedCount snapshots (without selected (ident candidate)) <
      selectedCount snapshots selected := by
  apply List.sum_lt_sum
  · exact fun other _ => List.length_filter_le _ _
  · refine ⟨snapshot, isSnapshot, List.length_filter_lt_length_iff_exists.mpr ?_⟩
    exact ⟨candidate, isSelected, by simp⟩

theorem nextDrop_selected {scores : String → String → Rat} {kept : List CitationIdentity}
    (isDrop : nextDrop rules snapshots selected scores kept = some candidate) :
    ∃ snapshot ∈ snapshots, candidate ∈ selected snapshot.id :=
  List.mem_flatMap.mp (List.mem_filter.mp (List.argmin_mem isDrop)).1

/-- The loop of `fit_shared_input`: unite, and drop one excerpt while the input is too long. -/
def fitLoop (question : String) (budget : Nat) (snapshots : List Snapshot)
    (scores : String → String → Rat) (kept : List CitationIdentity)
    (selected : String → List Candidate) :
    Except String (List (String × TranscriptEvidenceSpan)) := do
  let mapping ← union snapshots selected
  if rules.sharedInputChars question (snapshots.map Snapshot.id) mapping ≤ budget then
    pure mapping
  else
    match _isDrop : nextDrop rules snapshots selected scores kept with
    | none =>
        throw ("SharedInputBudgetError: " ++
          "Shared input query anchors/bridges exceed character budget")
    | some candidate =>
        fitLoop question budget snapshots scores kept (without selected (ident candidate))
termination_by selectedCount snapshots selected
decreasing_by
  obtain ⟨snapshot, isSnapshot, isSelected⟩ := nextDrop_selected rules _isDrop
  exact selectedCount_without_lt isSnapshot isSelected

/-- `fit_shared_input`: the shared references and the spans behind them. -/
def fitSharedInput (question : String) (budget : Nat) (snapshots : List Snapshot)
    (scores : String → String → Rat) (selected : String → List Candidate) :
    Except String (List (String × TranscriptEvidenceSpan)) := do
  ensure (∀ snapshot ∈ snapshots, selected snapshot.id ≠ [])
    "ValueError: Shared input has no selected evidence for a query"
  fitLoop rules question budget snapshots scores
    (protectedExcerpts snapshots selected scores) selected

/-! ## The answer for the batch -/

structure BatchFinding extends QueryFinding where
  queryIds : List String

structure Assessment where
  queryId : String
  sufficient : Bool
  unresolved : List String

structure BatchReduction where
  findings : List BatchFinding
  queryAssessments : List Assessment

/-- The checks `project` makes of an answer before it binds anything. -/
def checkBatch (ids : List String) (mapping : List (String × TranscriptEvidenceSpan))
    (output : BatchReduction) : Except String Unit := do
  let assessed := output.queryAssessments.map Assessment.queryId
  ensure (assessed.length = ids.eraseDups.length ∧ assessed ⊆ ids ∧ ids ⊆ assessed)
    "ValueError: Missing/duplicated query assessment"
  ensure (∀ assessment ∈ output.queryAssessments,
      if assessment.sufficient then assessment.unresolved = []
      else ∃ item ∈ assessment.unresolved, !rules.isBlank item)
    "ValueError: Invalid sufficiency gap"
  output.findings.forM fun finding => do
    ensure (!rules.isBlank finding.subject ∧ !rules.isBlank finding.text ∧
        finding.evidenceRefs ≠ [] ∧ finding.evidenceRefs ⊆ mapping.map Prod.fst)
      "ValueError: Invalid finding reference"
    ensure (finding.queryIds ≠ [] ∧ finding.queryIds.Nodup ∧ finding.queryIds ⊆ ids)
      "ValueError: Invalid query attribution"

/-- What one query of the batch gets of the answer. -/
def projected (mapping : List (String × TranscriptEvidenceSpan)) (output : BatchReduction)
    (snapshot : Snapshot) : Reduction :=
  let findings := (output.findings.filter fun finding => snapshot.id ∈ finding.queryIds).map
    fun finding =>
      ({ subject := finding.subject
         text := finding.text
         evidenceRefs := boundCitations mapping finding.evidenceRefs } : Finding)
  let assessment := output.queryAssessments.find? fun assessment =>
    assessment.queryId = snapshot.id
  { called := true
    findings := findings
    sufficient := assessment.any Assessment.sufficient
    unresolved := (assessment.map Assessment.unresolved).getD []
    retainedEvidenceRefs := (findings.flatMap Finding.evidenceRefs).eraseDups
    candidateCount := snapshot.candidates.length
    error := none }

/-- `project`. -/
def project (snapshots : List Snapshot) (mapping : List (String × TranscriptEvidenceSpan))
    (output : BatchReduction) : Except String (List Reduction) := do
  checkBatch rules (snapshots.map Snapshot.id) mapping output
  pure (snapshots.map (projected mapping output))

/-! ## Remembered candidates -/

theorem remember_mem {known after : List Candidate}
    (remembered : remember known candidate = .ok after) : after ⊆ known ++ [candidate] := by
  unfold remember at remembered
  split at remembered
  · obtain rfl := Except.ok.inj remembered
    exact List.Subset.refl _
  · obtain ⟨-, remembered⟩ := ensure_then_eq_ok.mp remembered
    obtain rfl := pure_eq_ok.mp remembered
    exact List.subset_append_left _ _

end Shiliu.Deep
