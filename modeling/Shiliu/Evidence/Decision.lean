/-
Module: Shiliu.Evidence.Decision
Purpose: Evidence decisions: from what a question requires, what covers it and how its references
  stand, seven gates are judged and one action is selected. The validators of the input are carried
  as fields, so an input the contract refuses cannot be built; limits on the lengths of texts are
  left out.
Trusted boundary: none
Main exports: EvidenceRequirement, AuthorityReference, selectAction, createEvidenceDecision
-/
import Mathlib.Data.List.Sort
import Mathlib.Data.String.Basic
import Shiliu.Library.Outcome
import Shiliu.Evidence.Source

set_option linter.all false

namespace Shiliu.Evidence

open Shiliu.Library

/-! ## Vocabulary -/

inductive RequirementOrigin where
  | explicitUser
  | productRule
  | boundedInference
  | unknown
deriving DecidableEq

/-- `REQUIREMENT_PRECEDENCE`. -/
def RequirementOrigin.precedence : RequirementOrigin → Nat
  | .explicitUser => 0
  | .productRule => 1
  | .boundedInference => 2
  | .unknown => 3

inductive ScopeMatchStatus where
  | exact
  | compatible
  | mismatch
  | unknown
deriving DecidableEq

inductive SourceVersionStatus where
  | current
  | stale
  | invalid
  | unavailable
  | unknown
deriving DecidableEq

inductive ReferenceScopeStatus where
  | inScope
  | outOfScope
  | unknown
deriving DecidableEq

inductive AuthorizationStatus where
  | authorized
  | unauthorized
  | unknown
deriving DecidableEq

inductive CoverageStatus where
  | covered
  | partiallyCovered
  | open_
  | unknown
deriving DecidableEq

inductive CorpusNewMaterialStatus where
  | noRelevantNewMaterial
  | relevantNewMaterial
  | notChecked
  | checkFailed
deriving DecidableEq

inductive LibraryFreshnessStatus where
  | fresh
  | newMaterial
  | unknown
  | checkFailed

inductive ConflictStatus where
  | potential
  | confirmed
  | resolved
  | dismissed
deriving DecidableEq

inductive ContributionKind where
  | old
  | reused
  | new
  | dropped
deriving DecidableEq

inductive GateName where
  | requirements
  | scope
  | coverage
  | sourceVersion
  | libraryFreshness
  | conflict
  | authority
deriving DecidableEq

inductive GateOutcome where
  | pass
  | fail
  | unknown
deriving DecidableEq

inductive EvidenceDecisionAction where
  | answerFresh
  | directReuse
  | targetedRefresh
  | deepResearch
  | clarify
deriving DecidableEq

inductive FailClosedOutcome where
  | allowCurrentEvidence
  | allowDirectReuse
  | requireRefresh
  | requireDeepResearch
  | requireClarification
deriving DecidableEq

inductive DecisionReasonCode where
  | requirementsResolved
  | explicitRequirementPrecedence
  | boundedInferencePresent
  | requirementUnknown
  | scopeExact
  | scopeCompatible
  | scopeMismatch
  | scopeUnknown
  | coverageComplete
  | coverageIncomplete
  | coverageUnknown
  | sourceVersionCurrent
  | sourceVersionStale
  | sourceVersionInvalid
  | sourceVersionUnavailable
  | sourceVersionUnknown
  | libraryFresh
  | localCorpusNewMaterial
  | libraryFreshnessUnknown
  | libraryFreshnessCheckFailed
  | noBlockingConflict
  | blockingConflict
  | authorityValid
  | evidenceUnauthorized
  | evidenceOutOfScope
  | evidenceAuthorityUnknown
  | currentEvidenceAvailable
  | reusedEvidenceAvailable
  | noSafeCoverage
  | semanticAdviceNonAuthoritative
deriving DecidableEq

inductive SemanticAdviceKind where
  | requirement
  | scope
  | timeSensitivity
  | conflict
  | claimSupport
deriving DecidableEq

/-- A `datetime` with a time zone: the instant, and the offset it is written in. -/
structure AwareTime where
  instant : Int
  offset : Int
deriving DecidableEq

/-! ## The input -/

/-- `EvidenceRequirement`. Its precedence is bound to its origin. -/
structure EvidenceRequirement where
  aspectId : String
  description : String
  origin : RequirementOrigin
deriving DecidableEq

/-- `ScopeAssessment`. -/
structure ScopeAssessment where
  status : ScopeMatchStatus
  requestedScopeHash : String
  candidateScopeHash : Option String
  explanation : String
  comparedReferenceIds : List String
  candidate_of_known : status ≠ .unknown → candidateScopeHash ≠ none
deriving DecidableEq

/-- How a reference stands. -/
structure ReferenceStanding where
  sourceVersionStatus : SourceVersionStatus
  scopeStatus : ReferenceScopeStatus
  authorizationStatus : AuthorizationStatus
deriving DecidableEq

/-- `EvidenceAuthorityReference` or `FactRevisionAuthorityReference`. -/
inductive AuthorityReference where
  | evidence (referenceId sourceArtifactId sourceVersion timelineRunId : String)
      (segmentIds : List String) (standing : ReferenceStanding)
  | factRevision (referenceId : String) (evidenceReferenceIds : List String)
      (standing : ReferenceStanding)
deriving DecidableEq

namespace AuthorityReference

def referenceId : AuthorityReference → String
  | .evidence referenceId .. => referenceId
  | .factRevision referenceId .. => referenceId

def standing : AuthorityReference → ReferenceStanding
  | .evidence _ _ _ _ _ standing => standing
  | .factRevision _ _ standing => standing

end AuthorityReference

/-- `AspectCoverage`. -/
structure AspectCoverage where
  aspectId : String
  status : CoverageStatus
  authorityReferences : List AuthorityReference
  explanation : String
  references_of_claimed :
    status = .covered ∨ status = .partiallyCovered → authorityReferences ≠ []
deriving DecidableEq

/-- `CorpusNewMaterialCheck`, without its constant fields. -/
structure CorpusNewMaterialCheck where
  status : CorpusNewMaterialStatus
  recordedCheckTime : AwareTime
  previousCheckTime : Option AwareTime
  boundedQueryHash : String
  candidateReferenceIds : List String
  relevantMaterialReferenceIds : List String
  previous_not_after : ∀ previous ∈ previousCheckTime,
    previous.instant ≤ recordedCheckTime.instant
  relevant_of_new : status = .relevantNewMaterial → relevantMaterialReferenceIds ≠ []
  none_of_no_new : status = .noRelevantNewMaterial → relevantMaterialReferenceIds = []
deriving DecidableEq

/-- The `status` of a `LibraryFreshness`, which the contract binds to the check. -/
def CorpusNewMaterialCheck.freshness (check : CorpusNewMaterialCheck) : LibraryFreshnessStatus :=
  match check.status with
  | .noRelevantNewMaterial => .fresh
  | .relevantNewMaterial => .newMaterial
  | .notChecked => .unknown
  | .checkFailed => .checkFailed

/-- `ConflictObservation`. -/
structure ConflictObservation where
  conflictId : String
  status : ConflictStatus
  leftReferenceIds : List String
  rightReferenceIds : List String
  observedAt : AwareTime
  explanation : String
deriving DecidableEq

/-- `EvidenceContribution`. -/
structure EvidenceContribution where
  kind : ContributionKind
  referenceId : String
  aspectIds : List String
deriving DecidableEq

/-- `SemanticAdvice`, without its constant field. -/
structure SemanticAdvice where
  adviceId : String
  kind : SemanticAdviceKind
  proposedValue : String
  supportingReferenceIds : List String
deriving DecidableEq

/-- The fields of `EvidenceDecisionInput`. `libraryFreshness` is its check. -/
structure DecisionFields where
  normalizedQuestion : String
  parentDecisionId : Option String
  requirements : List EvidenceRequirement
  scope : ScopeAssessment
  coverage : List AspectCoverage
  libraryFreshness : CorpusNewMaterialCheck
  conflicts : List ConflictObservation
  contributions : List EvidenceContribution
  semanticAdvice : List SemanticAdvice
deriving DecidableEq

def maxRequirements : Nat := 24

def maxInferredRequirements : Nat := 8

/-- The number of requirements that were inferred. -/
def inferredCount (requirements : List EvidenceRequirement) : Nat :=
  requirements.countP fun requirement => requirement.origin = .boundedInference

/-- `EvidenceDecisionInput`. -/
structure EvidenceDecisionInput extends DecisionFields where
  requirements_nonempty : requirements ≠ []
  requirements_bounded : requirements.length ≤ maxRequirements
  requirements_unique : (requirements.map EvidenceRequirement.aspectId).Nodup
  coverage_unique : (coverage.map AspectCoverage.aspectId).Nodup
  same_aspects : ∀ aspectId, aspectId ∈ coverage.map AspectCoverage.aspectId ↔
    aspectId ∈ requirements.map EvidenceRequirement.aspectId
  inferred_bounded : inferredCount requirements ≤ maxInferredRequirements

/-! ## Requirements -/

/-- `EvidenceDecisionContractError`, or a value the decision contract refuses. -/
inductive DecisionFailure where
  | contract (message code : String)
  | invalid (message : String)
deriving DecidableEq

/-- `if current is None or requirement.precedence < current.precedence`: a better requirement for
an aspect takes the place of the one there was. -/
def selectRequirement (selected : List EvidenceRequirement) (requirement : EvidenceRequirement) :
    List EvidenceRequirement :=
  if selected.any fun current => current.aspectId = requirement.aspectId then
    selected.map fun current =>
      if current.aspectId = requirement.aspectId ∧
          requirement.origin.precedence < current.origin.precedence then requirement
      else current
  else selected ++ [requirement]

/-- The order of `resolve_requirements`. -/
def requirementOrder (first second : EvidenceRequirement) : Prop :=
  first.origin.precedence < second.origin.precedence ∨
    first.origin.precedence = second.origin.precedence ∧ first.aspectId ≤ second.aspectId

instance : DecidableRel requirementOrder := fun _ _ => inferInstanceAs (Decidable (_ ∨ _))

/-- The requirements, one for an aspect, in their order. -/
def resolvedOrder (requirements : List EvidenceRequirement) : List EvidenceRequirement :=
  (requirements.foldl selectRequirement []).insertionSort requirementOrder

/-- `resolve_requirements`. -/
def resolveRequirements (requirements : List EvidenceRequirement) :
    Except DecisionFailure (List EvidenceRequirement) :=
  let resolved := resolvedOrder requirements
  if resolved = [] then
    .error (.contract "at least one requirement is required" "requirements_empty")
  else if maxRequirements < resolved.length then
    .error (.contract "requirements exceed the bounded maximum" "requirements_unbounded")
  else if maxInferredRequirements < inferredCount resolved then
    .error (.contract "inferred requirements exceed the bounded maximum"
      "inferred_requirements_unbounded")
  else .ok resolved

/-! ## Gates -/

/-- The reasons a reference is not eligible, in the order they are found. -/
def ReferenceStanding.reasons (standing : ReferenceStanding) : List DecisionReasonCode :=
  (match standing.sourceVersionStatus with
    | .current => []
    | .stale => [.sourceVersionStale]
    | .invalid => [.sourceVersionInvalid]
    | .unavailable => [.sourceVersionUnavailable]
    | .unknown => [.sourceVersionUnknown]) ++
  (match standing.scopeStatus with
    | .inScope => []
    | .outOfScope => [.evidenceOutOfScope]
    | .unknown => [.evidenceAuthorityUnknown]) ++
  match standing.authorizationStatus with
    | .authorized => []
    | .unauthorized => [.evidenceUnauthorized]
    | .unknown => [.evidenceAuthorityUnknown]

/-- What `_reference_eligibility` returns; its middle part is read nowhere. -/
structure Eligibility where
  eligible : Bool
  reasons : List DecisionReasonCode

/-- `_reference_eligibility`. -/
def referenceEligibility (reference : AuthorityReference) : Eligibility :=
  let reasons := reference.standing.reasons
  ⟨reasons.isEmpty, reasons.eraseDups⟩

/-- `_all_references`. -/
def allReferences (value : DecisionFields) : List AuthorityReference :=
  value.coverage.flatMap AspectCoverage.authorityReferences

/-- `DeterministicGateResult`. -/
structure DeterministicGateResult where
  gate : GateName
  outcome : GateOutcome
  reasonCodes : List DecisionReasonCode
deriving DecidableEq

def requirementsGate (value : DecisionFields) : DeterministicGateResult :=
  let has (origin : RequirementOrigin) :=
    value.requirements.any fun requirement => requirement.origin = origin
  let reasons :=
    (if has .explicitUser then [.explicitRequirementPrecedence] else []) ++
    (if has .boundedInference then [.boundedInferencePresent] else []) ++
    if has .unknown then [DecisionReasonCode.requirementUnknown] else []
  { gate := .requirements
    outcome := if has .unknown then .unknown else .pass
    reasonCodes := if reasons = [] then [.requirementsResolved] else reasons }

def scopeGate (value : DecisionFields) : DeterministicGateResult :=
  { gate := .scope
    outcome :=
      match value.scope.status with
      | .mismatch => .fail
      | .unknown => .unknown
      | .exact | .compatible => .pass
    reasonCodes :=
      match value.scope.status with
      | .exact => [.scopeExact]
      | .compatible => [.scopeCompatible]
      | .mismatch => [.scopeMismatch]
      | .unknown => [.scopeUnknown] }

/-- `coverage_statuses == {CoverageStatus.COVERED}`. -/
def coverageComplete (value : DecisionFields) : Bool :=
  value.coverage ≠ [] ∧ value.coverage.all fun item => item.status = .covered

def coverageGate (value : DecisionFields) : DeterministicGateResult :=
  let unknown := value.coverage.any fun item => item.status = .unknown
  { gate := .coverage
    outcome :=
      if coverageComplete value then .pass else if unknown then .unknown else .fail
    reasonCodes :=
      if coverageComplete value then [.coverageComplete]
      else if unknown then [.coverageUnknown]
      else [.coverageIncomplete] }

/-- The reasons of a kind over all references, without repetition. -/
def referenceReasons (value : DecisionFields) (kind : List DecisionReasonCode) :
    List DecisionReasonCode :=
  (((allReferences value).flatMap fun reference => (referenceEligibility reference).reasons).filter
    fun reason => reason ∈ kind).eraseDups

/-- A gate over the reasons of a kind: unknown if one of them says so, and open if there are
none. -/
def referenceGate (gate : GateName) (value : DecisionFields) (kind : List DecisionReasonCode)
    (unknown clear : DecisionReasonCode) : DeterministicGateResult :=
  let reasons := referenceReasons value kind
  { gate := gate
    outcome := if unknown ∈ reasons then .unknown else if reasons ≠ [] then .fail else .pass
    reasonCodes := if reasons = [] then [clear] else reasons }

def sourceReasonCodes : List DecisionReasonCode :=
  [.sourceVersionStale, .sourceVersionInvalid, .sourceVersionUnavailable, .sourceVersionUnknown]

def sourceGate (value : DecisionFields) : DeterministicGateResult :=
  referenceGate .sourceVersion value sourceReasonCodes .sourceVersionUnknown .sourceVersionCurrent

def freshnessGate (value : DecisionFields) : DeterministicGateResult :=
  { gate := .libraryFreshness
    outcome :=
      match value.libraryFreshness.freshness with
      | .fresh => .pass
      | .newMaterial => .fail
      | .unknown | .checkFailed => .unknown
    reasonCodes :=
      match value.libraryFreshness.freshness with
      | .fresh => [.libraryFresh]
      | .newMaterial => [.localCorpusNewMaterial]
      | .unknown => [.libraryFreshnessUnknown]
      | .checkFailed => [.libraryFreshnessCheckFailed] }

def conflictGate (value : DecisionFields) : DeterministicGateResult :=
  let blocking := value.conflicts.any fun conflict =>
    conflict.status = .potential ∨ conflict.status = .confirmed
  { gate := .conflict
    outcome := if blocking then .fail else .pass
    reasonCodes := if blocking then [.blockingConflict] else [.noBlockingConflict] }

def authorityReasonCodes : List DecisionReasonCode :=
  [.evidenceUnauthorized, .evidenceOutOfScope, .evidenceAuthorityUnknown]

def authorityGate (value : DecisionFields) : DeterministicGateResult :=
  referenceGate .authority value authorityReasonCodes .evidenceAuthorityUnknown .authorityValid

/-- `_evaluate_gates`. -/
def evaluateGates (value : DecisionFields) : List DeterministicGateResult :=
  [requirementsGate value, scopeGate value, coverageGate value, sourceGate value,
    freshnessGate value, conflictGate value, authorityGate value]

/-! ## The action -/

/-- `by_name[name].outcome`. Every gate has a result. -/
def outcomeOf (gates : List DeterministicGateResult) (name : GateName) : GateOutcome :=
  (gates.find? fun gate => gate.gate = name).elim .unknown DeterministicGateResult.outcome

/-- The references that are eligible. -/
def safeReferences (value : DecisionFields) : List AuthorityReference :=
  (allReferences value).filter fun reference => (referenceEligibility reference).eligible

/-- A contribution reuses an eligible reference. -/
def hasReused (value : DecisionFields) : Bool :=
  value.contributions.any fun item =>
    item.kind = .reused ∧
      (safeReferences value).any fun reference => reference.referenceId = item.referenceId

/-- What `_select_action` returns. -/
structure Selection where
  action : EvidenceDecisionAction
  reasonCodes : List DecisionReasonCode
  outcome : FailClosedOutcome

/-- A refresh where there is evidence to start from, and research where there is none. -/
def refreshOrResearch (value : DecisionFields) (reasons : List DecisionReasonCode) : Selection :=
  if safeReferences value ≠ [] then ⟨.targetedRefresh, reasons.eraseDups, .requireRefresh⟩
  else ⟨.deepResearch, reasons.eraseDups, .requireDeepResearch⟩

/-- `_select_action`. -/
def selectAction (value : DecisionFields) (gates : List DeterministicGateResult) : Selection :=
  let reasons := gates.flatMap DeterministicGateResult.reasonCodes ++
    if value.semanticAdvice ≠ [] then [.semanticAdviceNonAuthoritative] else []
  let because (reason : DecisionReasonCode) := (reasons ++ [reason]).eraseDups
  let research : Selection := ⟨.deepResearch, reasons.eraseDups, .requireDeepResearch⟩
  if outcomeOf gates .requirements = .unknown ∨ outcomeOf gates .scope = .unknown then
    ⟨.clarify, reasons.eraseDups, .requireClarification⟩
  else if outcomeOf gates .conflict = .fail then research
  else if outcomeOf gates .sourceVersion ≠ .pass ∨ outcomeOf gates .authority ≠ .pass then research
  else if outcomeOf gates .scope = .fail then research
  else if outcomeOf gates .libraryFreshness ≠ .pass then refreshOrResearch value reasons
  else if outcomeOf gates .coverage ≠ .pass then
    refreshOrResearch value (reasons ++
      [if safeReferences value ≠ [] then .currentEvidenceAvailable else .noSafeCoverage])
  else if value.scope.status ≠ .exact ∧ hasReused value then
    ⟨.targetedRefresh, reasons.eraseDups, .requireRefresh⟩
  else if hasReused value then
    ⟨.directReuse, because .reusedEvidenceAvailable, .allowDirectReuse⟩
  else ⟨.answerFresh, because .currentEvidenceAvailable, .allowCurrentEvidence⟩

/-! ## The decision -/

/-- `EvidenceDecision` before it is hashed, without its constant fields. -/
structure DecisionBody where
  decisionId : String
  recordedAt : AwareTime
  fields : DecisionFields
  deterministicGates : List DeterministicGateResult
  coveredAspects : List String
  openAspects : List String
  action : EvidenceDecisionAction
  reasonCodes : List DecisionReasonCode
  failClosedOutcome : FailClosedOutcome
  inputHash : String
  authorityHash : String

/-- `EvidenceDecision`. -/
structure EvidenceDecision extends DecisionBody where
  decisionHash : String

/-- The hashes of a decision, any functions of what is hashed. The authority hash is taken of an
input whose advice was removed. -/
structure DecisionDigests where
  inputHash : DecisionFields → String
  authorityHash : DecisionFields → String
  decisionId : (parentDecisionId : Option String) → (inputHash authorityHash : String) → String
  decisionHash : DecisionBody → String

/-- The input in the order of its resolved requirements; an input that has that order already is
taken as it is. The aspects agree, so no coverage is missed. -/
def normalizedFields (value : DecisionFields) (requirements : List EvidenceRequirement) :
    DecisionFields :=
  if requirements ≠ value.requirements then
    { value with
      requirements := requirements
      coverage := requirements.filterMap fun requirement =>
        value.coverage.find? fun item => item.aspectId = requirement.aspectId }
  else value

/-- An aspect that is covered by eligible references only. -/
def isCovered (item : AspectCoverage) : Bool :=
  item.status = .covered ∧ item.authorityReferences ≠ [] ∧
    item.authorityReferences.all fun reference => (referenceEligibility reference).eligible

/-- `_authority_payload`. -/
def authorityPayload (value : DecisionFields) : DecisionFields :=
  { value with semanticAdvice := [] }

/-- The decision over a normalised input, before it is hashed. -/
def decisionBody (digests : DecisionDigests) (value : DecisionFields) (recordedAt : AwareTime) :
    DecisionBody :=
  let gates := evaluateGates value
  let selection := selectAction value gates
  let covered := (value.coverage.filter isCovered).map AspectCoverage.aspectId
  let inputHash := digests.inputHash value
  let authorityHash := digests.authorityHash (authorityPayload value)
  { decisionId := digests.decisionId value.parentDecisionId inputHash authorityHash
    recordedAt := recordedAt
    fields := value
    deterministicGates := gates
    coveredAspects := covered
    openAspects := (value.coverage.map AspectCoverage.aspectId).filter (· ∉ covered)
    action := selection.action
    reasonCodes := selection.reasonCodes
    failClosedOutcome := selection.outcome
    inputHash := inputHash
    authorityHash := authorityHash }

/-- `_validate_decision_time_causality`. -/
def validateTimeCausality (value : DecisionFields) (recordedAt : AwareTime) :
    Except DecisionFailure Unit := do
  ensure (value.libraryFreshness.recordedCheckTime.instant ≤ recordedAt.instant)
    (.contract "local-corpus check must not follow decision recorded_at"
      "corpus_check_after_decision")
  ensure (value.conflicts.all fun conflict => conflict.observedAt.instant ≤ recordedAt.instant)
    (.contract "conflict observation must not follow decision recorded_at"
      "conflict_observation_after_decision")

/-- `create_evidence_decision`; a time without a zone is `none`. -/
def createEvidenceDecision (digests : DecisionDigests) (value : EvidenceDecisionInput)
    (recordedAt : Option AwareTime) : Except DecisionFailure EvidenceDecision :=
  match recordedAt with
  | none => .error (.contract "recorded_at must be timezone-aware" "recorded_at_invalid")
  | some recordedAt => do
      validateTimeCausality value.toDecisionFields recordedAt
      let requirements ← resolveRequirements value.requirements
      let body := decisionBody digests (normalizedFields value.toDecisionFields requirements)
        recordedAt
      ensure (value.parentDecisionId ≠ some body.decisionId)
        (.invalid "a decision cannot parent itself")
      return { body with decisionHash := digests.decisionHash body }

end Shiliu.Evidence
