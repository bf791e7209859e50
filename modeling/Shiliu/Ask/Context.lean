/-
Module: Shiliu.Ask.Context
Purpose: The fusion of evidence spans by citation id, the merging of spans of one source, and the
  builder of a bounded transcript context. Scores are rationals, so sums do not round.
Trusted boundary: none
Main exports: fuseEvidence, uniqueDicts, mergeSpans, TranscriptContextBuilder.build, serialize
-/
import Mathlib.Data.Prod.Lex
import Mathlib.Data.String.Basic
import Shiliu.Ask.Contracts
import Shiliu.Library.Distinct
import Shiliu.Library.Table

namespace Shiliu.Ask

open Shiliu.Library Shiliu.Storage

variable {Time : Type}

/-! ## Fusion -/

/-- `1.0 / (60.0 + max(1, rank))`, where the rank counts as 1 if there is none. -/
def ProvenanceEntry.weight (entry : ProvenanceEntry) : ℚ :=
  1 / (60 + (max 1 (entry.rank.getD 1) : ℤ))

/-- The score of one occurrence of a span. -/
def occurrenceScore (span : TranscriptEvidenceSpan Time) : ℚ :=
  (span.retrievalProvenance.map ProvenanceEntry.weight).sum

/-- `_unique_dicts`. -/
def uniqueDicts (entries : List ProvenanceEntry) : List ProvenanceEntry := distinct entries

/-- A span with a citation id that is new. -/
def scored (span : TranscriptEvidenceSpan Time) : TranscriptEvidenceSpan Time :=
  { span with fusionScore := occurrenceScore span }

/-- A span with a citation id that has occurred joins the one that has it. -/
def absorb (span : TranscriptEvidenceSpan Time) :
    Change (@TranscriptEvidenceSpan.citationId Time) where
  apply existing :=
    { existing with
      retrievalProvenance :=
        uniqueDicts (existing.retrievalProvenance ++ span.retrievalProvenance)
      parentChunkIds := distinct (existing.parentChunkIds ++ span.parentChunkIds)
      fusionScore := existing.fusionScore + occurrenceScore span }
  keeps _ := rfl

/-- `by_identity`, after the spans. -/
def byIdentity (spans : List (TranscriptEvidenceSpan Time)) :
    Table (@TranscriptEvidenceSpan.citationId Time) :=
  spans.foldl (fun table span => table.upsert (scored span) (absorb span)) (.empty _)

/-- The key the fused spans are sorted by. -/
def fusionKey (span : TranscriptEvidenceSpan Time) : ℚ ×ₗ ℤ ×ₗ Time ×ₗ String :=
  toLex (-span.fusionScore, toLex (span.videoId, toLex (span.startTime, span.citationId)))

/-- `fuse_evidence`. -/
def fuseEvidence [LinearOrder Time] (spans : List (TranscriptEvidenceSpan Time)) :
    List (TranscriptEvidenceSpan Time) :=
  sortedBy fusionKey (byIdentity spans).rows

/-! ## Merging -/

/-- `_same_lineage`. -/
def sameLineage (left right : TranscriptEvidenceSpan Time) : Bool :=
  left.videoId = right.videoId ∧ left.lineage = right.lineage

inductive Relation where
  | overlap
  | adjacent
  | separate
deriving DecidableEq

/-- The local ordinals of a span. -/
def TranscriptEvidenceSpan.localOrdinals (span : TranscriptEvidenceSpan Time) : List Nat :=
  span.segments.map EvidenceSegment.runLocalOrdinal

/-- `_segment_relation`. -/
def segmentRelation (left right : TranscriptEvidenceSpan Time) : Except AskFailure Relation :=
  if ∃ ordinal ∈ left.localOrdinals, ordinal ∈ right.localOrdinals then .ok .overlap
  else
    match left.localOrdinals.min?, left.localOrdinals.max?, right.localOrdinals.min?,
      right.localOrdinals.max? with
    | some leftMin, some leftMax, some rightMin, some rightMax =>
        .ok (if leftMax + 1 = rightMin ∨ rightMax + 1 = leftMin then .adjacent else .separate)
    | _, _, _, _ => .error (.valueError "max() iterable argument is empty")

/-- The segment is the next one behind the last of the span. -/
def TranscriptEvidenceSpan.followedBy (span : TranscriptEvidenceSpan Time)
    (segment : EvidenceSegment Time) : Bool :=
  span.segments.getLast?.any fun last => last.runLocalOrdinal + 1 = segment.runLocalOrdinal

/-- The segments of both, by id, in the order of the source. -/
def mergedSegments (left right : List (EvidenceSegment Time)) : List (EvidenceSegment Time) :=
  sortedBy EvidenceSegment.originalOrdinal
    ((left ++ right).foldl Table.assign (Table.empty (@EvidenceSegment.segmentId Time))).rows

/-- `_merge_spans`. -/
def mergeSpans (rules : AskRules Time) (left right : TranscriptEvidenceSpan Time) :
    Except AskFailure (TranscriptEvidenceSpan Time) :=
  spanWithSegments rules left (mergedSegments left.segments right.segments)
    (some (uniqueDicts (left.retrievalProvenance ++ right.retrievalProvenance)))
    (some (distinct (left.parentChunkIds ++ right.parentChunkIds)))
    (some (max left.fusionScore right.fusionScore))

/-- The loop of `_fit_span`: segments are taken while the quote fits. -/
def fitSegments (characterBudget : Nat) (selected : List (EvidenceSegment Time)) :
    List (EvidenceSegment Time) → List (EvidenceSegment Time)
  | [] => selected
  | segment :: rest =>
      if characterBudget < (quoteOf (selected ++ [segment])).length then selected
      else fitSegments characterBudget (selected ++ [segment]) rest

/-- `_fit_span`. -/
def fitSpan (rules : AskRules Time) (span : TranscriptEvidenceSpan Time) (characterBudget : Nat) :
    Except AskFailure (Option (TranscriptEvidenceSpan Time)) :=
  let selected := fitSegments characterBudget [] span.segments
  if selected = [] then .ok none
  else if selected.length = span.segments.length then .ok (some span)
  else do
    let fitted ← spanWithSegments rules span selected none none none
    return some fitted

/-! ## The context -/

/-- `ContextBuildResult`. -/
structure ContextBuildResult (Time : Type) where
  spans : List (TranscriptEvidenceSpan Time)
  modelContext : String
  citationAllowlist : List String
  truncated : Bool
  droppedSpanCount : Nat

def TranscriptEvidenceSpan.contextItem (span : TranscriptEvidenceSpan Time) : ContextItem Time :=
  { citationId := span.citationId
    videoId := span.videoId
    videoTitle := span.title
    startTime := span.startTime
    endTime := span.endTime
    quote := span.quoteText }

/-- The JSON text the model reads. -/
def serialize (rules : AskRules Time) (query intent : String)
    (spans : List (TranscriptEvidenceSpan Time)) : String :=
  rules.dumps
    { userQuery := query
      normalizedIntent := intent
      citationAllowlist := spans.map TranscriptEvidenceSpan.citationId
      transcriptEvidence := spans.map TranscriptEvidenceSpan.contextItem }

/-- `TranscriptContextBuilder`, with the checks of its constructor. -/
structure TranscriptContextBuilder where
  perSpanCharacterBudget : Nat
  totalCharacterBudget : Nat
  maxSpans : Nat
  perSpan_positive : 0 < perSpanCharacterBudget
  total_positive : 0 < totalCharacterBudget
  maxSpans_positive : 0 < maxSpans

/-- The variables of the loop over the spans. -/
structure Packing (Time : Type) where
  selected : List (TranscriptEvidenceSpan Time)
  total : Int
  truncated : Bool
  dropped : Nat

namespace TranscriptContextBuilder

variable (builder : TranscriptContextBuilder) (rules : AskRules Time)

/-- The loop over the selected spans, from one of them on; `before` are those it has passed. The
answer says also whether the span counts as merged. -/
def mergeLoop (span : TranscriptEvidenceSpan Time) (before : List (TranscriptEvidenceSpan Time))
    (remaining : List (TranscriptEvidenceSpan Time)) (state : Packing Time) (merged : Bool) :
    Except AskFailure (Packing Time × Bool) :=
  match remaining with
  | [] => .ok (state, merged)
  | existing :: rest =>
      let next := mergeLoop span (before ++ [existing]) rest
      if sameLineage existing span = false then next state merged
      else do
        let relation ← segmentRelation existing span
        if relation = .separate then next state merged
        else
          let candidate ← mergeSpans rules existing span
          if builder.perSpanCharacterBudget < candidate.quoteText.length then
            if relation = .overlap then
              next { state with truncated := true, dropped := state.dropped + 1 } true
            else next state merged
          else
            let delta : Int := candidate.quoteText.length - existing.quoteText.length
            if builder.totalCharacterBudget < state.total + delta then
              next { state with truncated := true, dropped := state.dropped + 1 } true
            else
              .ok ({ state with
                selected := before ++ candidate :: rest
                total := state.total + delta }, true)

/-- One turn of the loop over the spans. -/
def addSpan (state : Packing Time) (sourceSpan : TranscriptEvidenceSpan Time) :
    Except AskFailure (Packing Time) := do
  let fitted ← fitSpan rules sourceSpan builder.perSpanCharacterBudget
  match fitted with
  | none => return { state with truncated := true, dropped := state.dropped + 1 }
  | some span =>
      let state :=
        if span.segmentIds ≠ sourceSpan.segmentIds then { state with truncated := true } else state
      let (state, merged) ← builder.mergeLoop rules span [] state.selected state false
      if merged then return state
      else if builder.maxSpans ≤ state.selected.length ∨
          builder.totalCharacterBudget < state.total + span.quoteText.length then
        return { state with truncated := true, dropped := state.dropped + 1 }
      else
        return { state with
          selected := state.selected ++ [span]
          total := state.total + span.quoteText.length }

/-- `build`. -/
def build (query normalizedIntent : String) (spans : List (TranscriptEvidenceSpan Time)) :
    Except AskFailure (ContextBuildResult Time) := do
  let state ← spans.foldlM (builder.addSpan rules) ⟨[], 0, false, 0⟩
  return {
    spans := state.selected
    modelContext := serialize rules query normalizedIntent state.selected
    citationAllowlist := state.selected.map TranscriptEvidenceSpan.citationId
    truncated := state.truncated
    droppedSpanCount := state.dropped }

end TranscriptContextBuilder

end Shiliu.Ask
