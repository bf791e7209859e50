/-
Module: Shiliu.Ask.F1Context
Purpose: The packing of whole segments into a context: the greedy packer with its three budgets and
  its decision events, the wrapper that cuts spans at blank segments and gaps, and the wide packer
  that has no budget.
Trusted boundary: none
Main exports: Decision, Cbase, Cbase.build, S2Cbase.build, wideBuild
-/
import Shiliu.Ask.Context

namespace Shiliu.Ask

open Shiliu.Library Shiliu.Storage

variable {Time : Type}

/-- `segment.source_text.strip()` is empty. -/
def EvidenceSegment.blank (segment : EvidenceSegment Time) : Bool :=
  strip segment.sourceText = ""

/-! ## The greedy packer -/

inductive DropReason where
  | exactRawDuplicate
  | segmentOverQuoteBudget
  | maxSpans
  | payloadBudget
deriving DecidableEq

inductive Action where
  | select
  | drop (reason : DropReason)
deriving DecidableEq

/-- An entry of `decisions`. -/
structure Decision where
  rank : Nat
  segmentId : String
  action : Action

/-- `Cbase`: the budgets. -/
structure Cbase where
  totalCharacterBudget : Nat
  perSpanCharacterBudget : Nat
  maxSpans : Nat

/-- `Cbase()`. -/
def Cbase.standard : Cbase := ⟨12000, 2500, 12⟩

/-- The variables of the loops. -/
structure PackState (Time : Type) where
  selected : List (TranscriptEvidenceSpan Time)
  seen : List RawCoordinate
  decisions : List Decision

/-- What `build` returns, and what it leaves in `decisions`. -/
structure PackResult (Time : Type) where
  context : ContextBuildResult Time
  decisions : List Decision

namespace Cbase

variable (cbase : Cbase) (rules : AskRules Time) (query intent : String)

/-- The selected spans with the segment appended to the last one, if that can be done. -/
def extension (selected : List (TranscriptEvidenceSpan Time)) (single : TranscriptEvidenceSpan Time)
    (segment : EvidenceSegment Time) :
    Except AskFailure (Option (List (TranscriptEvidenceSpan Time))) :=
  match selected.getLast? with
  | none => .ok none
  | some last =>
      if sameLineage last single && last.followedBy segment then do
        let merged ← mergeSpans rules last single
        let trial := selected.dropLast ++ [merged]
        if merged.quoteText.length ≤ cbase.perSpanCharacterBudget ∧
            (serialize rules query intent trial).length ≤ cbase.totalCharacterBudget then
          return some trial
        else return none
      else .ok none

/-- The body of the loop over the segments of a span. -/
def placeSegment (rank : Nat) (span : TranscriptEvidenceSpan Time) (state : PackState Time)
    (segment : EvidenceSegment Time) : Except AskFailure (PackState Time) :=
  let key : RawCoordinate := ⟨span.lineage, segment.originalOrdinal⟩
  let decided (action : Action) : List Decision :=
    state.decisions ++ [⟨rank, segment.segmentId, action⟩]
  if key ∈ state.seen then
    .ok { state with decisions := decided (.drop .exactRawDuplicate) }
  else do
    let single ← spanWithSegments rules span [segment] none none none
    if cbase.perSpanCharacterBudget < single.quoteText.length then
      return { state with decisions := decided (.drop .segmentOverQuoteBudget) }
    else
      let extended ← cbase.extension rules query intent state.selected single segment
      match extended with
      | some trial =>
          return { selected := trial, seen := state.seen ++ [key], decisions := decided .select }
      | none =>
          let trial := state.selected ++ [single]
          if trial.length ≤ cbase.maxSpans ∧
              (serialize rules query intent trial).length ≤ cbase.totalCharacterBudget then
            return { selected := trial, seen := state.seen ++ [key], decisions := decided .select }
          else
            let reason : DropReason :=
              if cbase.maxSpans < trial.length then .maxSpans else .payloadBudget
            return { state with decisions := decided (.drop reason) }

/-- A drop that is not of a segment that is delivered already. -/
def lossy (decision : Decision) : Bool :=
  match decision.action with
  | .select | .drop .exactRawDuplicate => false
  | .drop _ => true

/-- `build`. -/
def build (spans : List (TranscriptEvidenceSpan Time)) : Except AskFailure (PackResult Time) :=
  if cbase.totalCharacterBudget < (serialize rules query intent []).length then
    .error (.valueError "query and metadata exceed payload budget")
  else do
    let state ← (spans.zipIdx 1).foldlM
      (fun state (span, rank) =>
        span.segments.foldlM (cbase.placeSegment rules query intent rank span) state)
      ⟨[], [], []⟩
    return {
      context := {
        spans := state.selected
        modelContext := serialize rules query intent state.selected
        citationAllowlist := state.selected.map TranscriptEvidenceSpan.citationId
        truncated := state.decisions.any lossy
        droppedSpanCount := (distinct ((state.decisions.filter fun decision =>
          decision.action ≠ .select).map Decision.rank)).length }
      decisions := state.decisions }

end Cbase

/-! ## The wrapper -/

/-- The variables of the loop that cuts a span. -/
structure Splitting (Time : Type) where
  parts : List (TranscriptEvidenceSpan Time × Nat)
  group : List (EvidenceSegment Time)

namespace S2Cbase

variable (rules : AskRules Time)

/-- The group becomes a part, if there is one. -/
def flush (rank : Nat) (span : TranscriptEvidenceSpan Time) (state : Splitting Time) :
    Except AskFailure (Splitting Time) :=
  if state.group = [] then .ok state
  else do
    let part ← spanWithSegments rules span state.group none none none
    return ⟨state.parts ++ [(part, rank)], []⟩

/-- The body of the loop over the segments. -/
def splitSegment (rank : Nat) (span : TranscriptEvidenceSpan Time) (state : Splitting Time)
    (segment : EvidenceSegment Time) : Except AskFailure (Splitting Time) :=
  if segment.blank then flush rules rank span state
  else do
    let state ←
      if state.group.getLast?.any fun last =>
          segment.runLocalOrdinal ≠ last.runLocalOrdinal + 1 then flush rules rank span state
      else .ok state
    return { state with group := state.group ++ [segment] }

/-- The parts of the spans, with the ranks of the spans. -/
def splitSpans (spans : List (TranscriptEvidenceSpan Time)) :
    Except AskFailure (List (TranscriptEvidenceSpan Time × Nat)) :=
  (spans.zipIdx 1).foldlM
    (fun parts (span, rank) => do
      let state ← span.segments.foldlM (splitSegment rules rank span) ⟨parts, []⟩
      let state ← flush rules rank span state
      return state.parts)
    []

/-- `build`: the parts are packed, and the decisions get the ranks of the spans. -/
def build (cbase : Cbase) (query intent : String) (spans : List (TranscriptEvidenceSpan Time)) :
    Except AskFailure (PackResult Time) := do
  let parts ← splitSpans rules spans
  let result ← cbase.build rules query intent (parts.map Prod.fst)
  return { result with
    decisions := result.decisions.map fun decision =>
      { decision with rank := (parts[decision.rank - 1]?.map Prod.snd).getD decision.rank } }

end S2Cbase

/-! ## The wide packer -/

/-- The variables of the loops; `seen` is a dictionary in the order of insertion. -/
structure WideState (Time : Type) where
  selected : List (TranscriptEvidenceSpan Time)
  seen : List (RawCoordinate × String)
  barrier : Bool

/-- The body of the loop over the segments of a span. -/
def widePlace (rules : AskRules Time) (span : TranscriptEvidenceSpan Time) (state : WideState Time)
    (segment : EvidenceSegment Time) : Except AskFailure (WideState Time) :=
  let key : RawCoordinate := ⟨span.lineage, segment.originalOrdinal⟩
  if segment.blank then .ok { state with barrier := true }
  else
    match state.seen.lookup key with
    | some text =>
        if text ≠ segment.sourceText then
          .error (.valueError
            ("conflicting original segment text at " ++ rules.reprCoordinate key))
        else .ok { state with barrier := true }
    | none => do
        let single ← spanWithSegments rules span [segment] none none none
        let selected ←
          match state.selected.getLast? with
          | some last =>
              if !state.barrier && sameLineage last single && last.followedBy segment then do
                let merged ← mergeSpans rules last single
                pure (state.selected.dropLast ++ [merged])
              else pure (state.selected ++ [single])
          | none => pure (state.selected ++ [single])
        return ⟨selected, state.seen ++ [(key, segment.sourceText)], false⟩

/-- The body of the loop over the spans: spans of a rank beyond 30 are left out. -/
def widePlaceSpan (rules : AskRules Time) (state : WideState Time)
    (span : TranscriptEvidenceSpan Time) : Except AskFailure (WideState Time) :=
  match span.retrievalProvenance with
  | [] => .error .indexError
  | first :: _ =>
      match first.rank with
      | none => .error .keyError
      | some rank =>
          if 30 < rank then .ok state else span.segments.foldlM (widePlace rules span) state

/-- `FastWide30ContextBuilder.build`. -/
def wideBuild (rules : AskRules Time) (query intent : String)
    (spans : List (TranscriptEvidenceSpan Time)) : Except AskFailure (ContextBuildResult Time) := do
  let state ← spans.foldlM (widePlaceSpan rules) ⟨[], [], false⟩
  return {
    spans := state.selected
    modelContext := serialize rules query intent state.selected
    citationAllowlist := state.selected.map TranscriptEvidenceSpan.citationId
    truncated := false
    droppedSpanCount := 0 }

end Shiliu.Ask
