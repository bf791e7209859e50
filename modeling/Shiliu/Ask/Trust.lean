/-
Module: Shiliu.Ask.Trust
Purpose: The citation integrity pass before an answer is shown. A block stands if it cites at least
  one span, by ids that are all allowed, mapped and current; all else is hidden, and the citations
  shown are exactly those the blocks left cite.
Trusted boundary: none
Main exports: AnswerDraftBlock, AnswerBlock, Citation, cited_of_surviving, mem_usedCitations
-/
import Shiliu.Ask.Contracts
import Shiliu.Library.Distinct

namespace Shiliu.Ask

open Shiliu.Library

/-! ## Contracts -/

inductive AnswerStatus where
  | complete
  | partially
  | insufficient
deriving DecidableEq

inductive AnswerExecutionOutcome where
  | answerGenerated
  | sourceLookupComplete
  | evidenceInsufficient
  | generationFailed
  | evidenceUnavailable
  | claimSupportInsufficient
  | claimVerifierFailed
  | claimVerifierUnknown

inductive TerminationReason where
  | answerReady
  | budgetExhausted
  | toolBudgetExhausted
  | controllerBudgetExhausted
  | invalidStructuredOutput
  | timeout
  | cancelled
  | noNewEvidence
  | repeatedSearch
  | providerError
  | evidenceUnavailable
  | claimSupportInsufficient
  | claimVerifierFailed
  | claimVerifierUnknown
deriving DecidableEq

/-- `AnswerDraftBlock`, as its validators leave it. -/
structure AnswerDraftBlock where
  text : String
  citationIds : List String
deriving DecidableEq

/-- `AnswerBlock`: it cites something, and no id is empty. -/
structure AnswerBlock where
  text : String
  citationIds : List String
  cited : citationIds ≠ []
  named : "" ∉ citationIds

/-- `Citation`, without the fields that are only copied along. -/
structure Citation (Time : Type) where
  citationId : String
  videoId : Int
  bvid : String
  title : String
  sourceArtifactId : String
  sourceVersion : String
  timelineRunId : String
  segmentIds : List String
  startTime : Time
  endTime : Time
  quoteText : String
  jumpUrl : String

variable {Time : Type}

/-- `as_citation`, with the checks of `Citation`. -/
def TranscriptEvidenceSpan.asCitation [LinearOrder Time] [Zero Time]
    (span : TranscriptEvidenceSpan Time) : Except AskFailure (Citation Time) := do
  ensure (span.segmentIds ≠ [])
    (.valueError "List should have at least 1 item after validation, not 0")
  ensure (0 ≤ span.startTime) (.valueError "Input should be greater than or equal to 0")
  ensure (0 ≤ span.endTime) (.valueError "Input should be greater than or equal to 0")
  ensure (span.startTime ≤ span.endTime)
    (.valueError "citation end_time must not precede start_time")
  return {
    citationId := span.citationId
    videoId := span.videoId
    bvid := span.bvid
    title := span.title
    sourceArtifactId := span.sourceArtifactId
    sourceVersion := span.sourceVersion
    timelineRunId := span.timelineRunId
    segmentIds := span.segmentIds
    startTime := span.startTime
    endTime := span.endTime
    quoteText := span.quoteText
    jumpUrl := span.jumpUrl }

theorem asCitation_id [LinearOrder Time] [Zero Time] {span : TranscriptEvidenceSpan Time}
    {citation : Citation Time} (made : span.asCitation = .ok citation) :
    citation.citationId = span.citationId := by
  simp only [TranscriptEvidenceSpan.asCitation, ensure_then_eq_ok, pure_eq_ok] at made
  rw [← made.2.2.2.2]

/-! ## One block -/

inductive ReasonCode where
  | citationMissing
  | citationNotAllowed
  | citationUnmapped
  | citationNotCurrent
  | claimAuthorityMissing
deriving DecidableEq

inductive DispositionOutcome where
  | allow
  | remove
deriving DecidableEq

/-- `AnswerTrustDisposition`. -/
structure AnswerTrustDisposition where
  answerBlockId : String
  outcome : DispositionOutcome
  acceptedReferenceIds : List String
  rejectedReferenceIds : List String
  reasonCodes : List ReasonCode

/-- What `apply_answer_trust` is called with; `validatesCurrent` tells for which spans
`validate_current` returns. -/
structure TrustRequest (Time : Type) where
  answerBlocks : List AnswerDraftBlock
  citations : List (Citation Time)
  spans : List (TranscriptEvidenceSpan Time)
  status : AnswerStatus
  limitations : List String
  terminationReason : TerminationReason
  validatesCurrent : TranscriptEvidenceSpan Time → Bool

namespace TrustRequest

variable (request : TrustRequest Time)

/-- `span_by_id.get(reference_id)`. -/
def spanById (referenceId : String) : Option (TranscriptEvidenceSpan Time) :=
  lastWith TranscriptEvidenceSpan.citationId request.spans referenceId

/-- `citation_by_id.get(reference_id)`. -/
def citationById (referenceId : String) : Option (Citation Time) :=
  lastWith Citation.citationId request.citations referenceId

/-- Why a reference is rejected, if it is. -/
def refusal (referenceId : String) : Option ReasonCode :=
  match request.spanById referenceId with
  | none => some .citationNotAllowed
  | some span =>
      if referenceId = "" then some .citationNotAllowed
      else if request.citationById referenceId = none then some .citationUnmapped
      else if request.validatesCurrent span then none
      else some .citationNotCurrent

/-- The reasons to hide a block, each once. -/
def blockReasons (block : AnswerDraftBlock) : List ReasonCode :=
  distinct ((if block.citationIds = [] then [.citationMissing] else []) ++
    (distinct block.citationIds).filterMap request.refusal)

def disposition (block : AnswerDraftBlock) (index : Nat) : AnswerTrustDisposition :=
  let references := distinct block.citationIds
  let reasons := request.blockReasons block
  { answerBlockId := s!"answer_block_{index + 1}"
    outcome := if reasons = [] then .allow else .remove
    acceptedReferenceIds := if reasons = [] then references else []
    rejectedReferenceIds := references.filter fun referenceId => (request.refusal referenceId).isSome
    reasonCodes := reasons }

def dispositions : List AnswerTrustDisposition :=
  request.answerBlocks.zipIdx.map fun (block, index) => request.disposition block index

/-! ### When a reference and a block pass -/

variable {request} {referenceId : String} {block : AnswerDraftBlock}

theorem refusal_eq_none : request.refusal referenceId = none ↔
    referenceId ≠ "" ∧ referenceId ∈ request.citations.map Citation.citationId ∧
      ∃ span, request.spanById referenceId = some span ∧ request.validatesCurrent span = true := by
  rw [← exists_lastWith, ← Option.isSome_iff_exists, Option.isSome_iff_ne_none]
  unfold refusal citationById
  split
  case h_1 absent => simp [absent]
  case h_2 span isSpan =>
      by_cases empty : referenceId = "" <;>
        by_cases unmapped : lastWith Citation.citationId request.citations referenceId = none <;>
          by_cases current : request.validatesCurrent span <;>
            simp [empty, unmapped, current, isSpan]

theorem mem_blockReasons {reason : ReasonCode} : reason ∈ request.blockReasons block ↔
    block.citationIds = [] ∧ reason = .citationMissing ∨
      ∃ referenceId ∈ block.citationIds, request.refusal referenceId = some reason := by
  simp only [blockReasons, mem_distinct, List.mem_append, List.mem_filterMap]
  apply or_congr
  · split <;> simp [*]
  · rfl

theorem blockReasons_eq_nil : request.blockReasons block = [] ↔
    block.citationIds ≠ [] ∧ ∀ referenceId ∈ block.citationIds,
      request.refusal referenceId = none := by
  rw [List.eq_nil_iff_forall_not_mem]
  simp only [mem_blockReasons]
  constructor
  · intro clean
    constructor
    · intro uncited
      exact clean .citationMissing (.inl ⟨uncited, rfl⟩)
    · intro referenceId cites
      rw [Option.eq_none_iff_forall_ne_some]
      intro reason refused
      exact clean reason (.inr ⟨referenceId, cites, refused⟩)
  · rintro ⟨cited, passes⟩ reason (⟨uncited, -⟩ | ⟨referenceId, cites, refused⟩)
    · exact cited uncited
    · rw [passes referenceId cites] at refused
      cases refused

/-! ## The pass -/

variable (request)

/-- The block as it is shown, if nothing speaks against it. -/
def strictBlock (block : AnswerDraftBlock) : Option AnswerBlock :=
  if clean : request.blockReasons block = [] then
    have passes := blockReasons_eq_nil.mp clean
    some {
      text := block.text
      citationIds := distinct block.citationIds
      cited := fun uncited => passes.1 (List.eq_nil_iff_forall_not_mem.mpr fun _ cites =>
        List.not_mem_nil (uncited ▸ mem_distinct.mpr cites))
      named := fun isEmpty =>
        (refusal_eq_none.mp (passes.2 "" (mem_distinct.mp isEmpty))).1 rfl }
  else none

def surviving : List AnswerBlock := request.answerBlocks.filterMap request.strictBlock

/-- `surviving_citations`: the citations that are used, in the order of their ids. -/
def usedCitations : List (Citation Time) :=
  (distinct (request.citations.map Citation.citationId)).filterMap fun referenceId =>
    if ∃ block ∈ request.surviving, referenceId ∈ block.citationIds then
      request.citationById referenceId
    else none

end TrustRequest

inductive OverallOutcome where
  | allow
  | partially
  | insufficient

/-- `AnswerTrustSummary`. -/
structure AnswerTrustSummary where
  overallOutcome : OverallOutcome
  dispositions : List AnswerTrustDisposition
  reasonCodes : List ReasonCode

/-- `TrustedAnswer`. -/
structure TrustedAnswer (Time : Type) where
  status : AnswerStatus
  executionOutcome : AnswerExecutionOutcome
  terminationReason : TerminationReason
  answerBlocks : List AnswerBlock
  citations : List (Citation Time)
  limitations : List String
  summary : AnswerTrustSummary

/-- `_trust_insufficient`, without a verifier. -/
def trustInsufficient (limitations : List String) (reasonCodes : List ReasonCode)
    (dispositions : List AnswerTrustDisposition) : TrustedAnswer Time :=
  { status := .insufficient
    executionOutcome := .claimSupportInsufficient
    terminationReason := .claimSupportInsufficient
    answerBlocks := []
    citations := []
    limitations := distinct (limitations ++ ["回答中的实质性陈述未通过展示前可信门，已全部隐藏"])
    summary := ⟨.insufficient, dispositions, distinct reasonCodes⟩ }

/-- `apply_answer_trust`. -/
def applyAnswerTrust (request : TrustRequest Time) : TrustedAnswer Time :=
  let dispositions := request.dispositions
  let reasonCodes := distinct (dispositions.flatMap AnswerTrustDisposition.reasonCodes)
  let surviving := request.surviving
  if surviving = [] then
    trustInsufficient request.limitations
      (if reasonCodes = [] then [.claimAuthorityMissing] else reasonCodes) dispositions
  else
    let hiddenCount := request.answerBlocks.length - surviving.length
    let hidden :=
      if hiddenCount = 0 then [] else [s!"回答可信门隐藏了 {hiddenCount} 个引用完整性未通过的回答块"]
    let lowered := hiddenCount ≠ 0 ∨ request.status = .partially
    { status := if lowered then .partially else request.status
      executionOutcome := .answerGenerated
      terminationReason := request.terminationReason
      answerBlocks := surviving
      citations := request.usedCitations
      limitations := distinct (request.limitations ++ hidden)
      summary := ⟨if lowered then .partially else .allow, dispositions, reasonCodes⟩ }

/-! ## What is shown -/

section Shown

variable {request : TrustRequest Time}

theorem applyAnswerTrust_blocks : (applyAnswerTrust request).answerBlocks = request.surviving := by
  simp only [applyAnswerTrust]
  split
  case isTrue none => rw [none]; rfl
  case isFalse => rfl

theorem applyAnswerTrust_dispositions :
    (applyAnswerTrust request).summary.dispositions = request.dispositions := by
  simp only [applyAnswerTrust]
  split <;> rfl

theorem applyAnswerTrust_citations :
    (applyAnswerTrust request).citations = request.usedCitations := by
  simp only [applyAnswerTrust]
  split
  case isTrue none => simp [trustInsufficient, TrustRequest.usedCitations, none]
  case isFalse => rfl

/-- A block that is shown cites only what passes. -/
theorem cited_of_surviving {block : AnswerBlock} (shown : block ∈ request.surviving)
    {referenceId : String} (cites : referenceId ∈ block.citationIds) :
    request.refusal referenceId = none := by
  obtain ⟨draft, -, made⟩ := List.mem_filterMap.mp shown
  rw [TrustRequest.strictBlock] at made
  split at made
  case isTrue clean =>
      cases made
      exact (TrustRequest.blockReasons_eq_nil.mp clean).2 referenceId (mem_distinct.mp cites)
  case isFalse => cases made

/-- The citations shown are those that are cited. -/
theorem mem_usedCitations {referenceId : String} :
    referenceId ∈ request.usedCitations.map Citation.citationId ↔
      ∃ block ∈ request.surviving, referenceId ∈ block.citationIds := by
  simp only [TrustRequest.usedCitations, List.mem_map, List.mem_filterMap, mem_distinct]
  constructor
  · rintro ⟨citation, ⟨other, -, found⟩, rfl⟩
    split at found
    case isTrue used =>
        rw [(lastWith_some found).2]
        exact used
    case isFalse => cases found
  · intro used
    obtain ⟨block, shown, cites⟩ := used
    have isMapped := (TrustRequest.refusal_eq_none.mp (cited_of_surviving shown cites)).2.1
    obtain ⟨citation, found⟩ := exists_lastWith.mpr isMapped
    refine ⟨citation, ⟨referenceId, List.mem_map.mp isMapped, ?_⟩, (lastWith_some found).2⟩
    rw [if_pos ⟨block, shown, cites⟩]
    exact found

/-- No citation is shown twice. -/
theorem nodup_usedCitations : (request.usedCitations.map Citation.citationId).Nodup := by
  have kept : (request.usedCitations.map Citation.citationId).Sublist
      (distinct (request.citations.map Citation.citationId)) := by
    rw [TrustRequest.usedCitations]
    induction distinct (request.citations.map Citation.citationId) with
    | nil => simp
    | cons referenceId rest inductionHypothesis =>
        rw [List.filterMap_cons]
        split
        case h_1 => exact inductionHypothesis.cons _
        case h_2 citation found =>
            split at found
            case isTrue =>
                rw [List.map_cons, (lastWith_some found).2]
                exact inductionHypothesis.cons_cons _
            case isFalse => cases found
  exact kept.nodup (nodup_distinct _)

end Shown

end Shiliu.Ask
