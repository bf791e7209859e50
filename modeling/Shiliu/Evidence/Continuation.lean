/-
Module: Shiliu.Evidence.Continuation
Purpose: Continuation envelopes and the targeted refresh: the open aspects of a decision are searched
  again, at most three rounds of it, what the callback returns is merged and a new decision is made of
  it. Every call of the callback is kept beside what the run returns. The callback and the clock are
  answers of the run; hashes are any functions of what is hashed.
Trusted boundary: none
Main exports: ContinuationEnvelope, RefreshObservation, RefreshRun, runTargetedRefresh
-/
import Shiliu.Library.Distinct
import Shiliu.Library.Json
import Shiliu.Evidence.DecisionIntegrity

set_option linter.all false

namespace Shiliu.Evidence

open Shiliu.Library

/-! ## Vocabulary -/

inductive ContinuationTarget where
  | fast
  | deep
  | research
  | knowledgeReuse

inductive ContinuationFailureState where
  | none
  | evidenceInsufficient
  | evidenceUnavailable
  | sourceConflict
  | generationFailure
  | providerFailure
  | transportFailure
  | interrupted
  | unknownSideEffect
  | budgetExhausted
  | deadlineExhausted
deriving DecidableEq

inductive ReceiptState where
  | notApplicable
  | notStarted
  | reserved
  | inFlight
  | receipted
  | failed
  | unknown
deriving DecidableEq

inductive SideEffectState where
  | none
  | confirmedNone
  | confirmed
  | unknown
deriving DecidableEq

inductive ContinuationStopReason where
  | coverageComplete
  | noNewEligibleEvidence
  | repeatedQuery
  | repeatedAction
  | repeatedEvidenceIdentity
  | sourceOrCitationLineageDrift
  | conflictUnresolved
  | deadlineExhausted
  | toolBudgetExhausted
  | unknownSideEffect
  | actionBoundary
  | interrupted
  | receiptPreventsReplay
  | maxRefreshRounds
deriving DecidableEq

def maxRefreshRounds : Nat := 3

/-- What a run raises: a contract error, a value a contract refuses, or a key that is missing. -/
inductive ContinuationFailure where
  | contract (message code : String)
  | invalid (field : String)
  | decision (failure : DecisionFailure)
  | keyError
deriving DecidableEq

/-! ## Envelopes -/

/-- `SearchExecutionReference`. -/
structure SearchExecutionReference where
  executionId : Option String
  searchTraceId : String
  query : String
  relationKind : String
  tracePersisted : Bool
deriving DecidableEq

/-- `InheritedEvidenceReference`. -/
structure InheritedEvidenceReference where
  referenceId : String
  citationIdentityVersion : String
  sourceArtifactId : String
  sourceVersion : String
  timelineRunId : String
  segmentIds : List String
  citationLineageHash : String
  searchExecutionIds : List String

/-- `ContinuationRequirement`. -/
structure ContinuationRequirement where
  aspectId : String
  description : String
  origin : RequirementOrigin

/-- `ContinuationBudgetState`. -/
structure ContinuationBudgetState where
  refreshRoundsCompleted : Nat
  remainingToolCalls : Nat
  deadlineAt : Option AwareTime

/-- The fields of a `ContinuationEnvelope` that are sealed, without its constant ones. -/
structure EnvelopeFields where
  parentRunId : String
  childRunId : Option String
  parentDecisionId : String
  parentDecisionHash : String
  target : ContinuationTarget
  originalQuestion : String
  normalizedScope : List (String × Json)
  explicitRequirements : List ContinuationRequirement
  coveredAspects : List String
  openAspects : List String
  inheritedEvidence : List InheritedEvidenceReference
  searchExecutions : List SearchExecutionReference
  currentAction : EvidenceDecisionAction
  reasonCodes : List DecisionReasonCode
  contributions : List EvidenceContribution
  budget : ContinuationBudgetState
  failureState : ContinuationFailureState
  receiptState : ReceiptState
  sideEffectState : SideEffectState
  stopReason : Option ContinuationStopReason

def EnvelopeFields.requirementIds (fields : EnvelopeFields) : List String :=
  fields.explicitRequirements.map ContinuationRequirement.aspectId

/-- What the contract asks of an envelope: the lengths of its lists, and `validate_state`. -/
structure EnvelopeFields.Valid (fields : EnvelopeFields) : Prop where
  requirements : fields.explicitRequirements ≠ [] ∧ fields.explicitRequirements.length ≤ 24
  aspects : fields.coveredAspects.length ≤ 24 ∧ fields.openAspects.length ≤ 24
  inherited : fields.inheritedEvidence.length ≤ 64
  searches : fields.searchExecutions.length ≤ 64
  reasons : fields.reasonCodes.length ≤ 64
  budget : fields.budget.refreshRoundsCompleted ≤ maxRefreshRounds ∧
    fields.budget.remainingToolCalls ≤ 64
  declared : fields.coveredAspects ⊆ fields.requirementIds ∧ fields.openAspects ⊆ fields.requirementIds
  disjoint : ∀ aspectId ∈ fields.coveredAspects, aspectId ∉ fields.openAspects
  sideEffect : fields.sideEffectState = .unknown →
    fields.failureState = .unknownSideEffect ∨ fields.failureState = .interrupted

instance (fields : EnvelopeFields) : Decidable fields.Valid :=
  decidable_of_iff
    ((fields.explicitRequirements ≠ [] ∧ fields.explicitRequirements.length ≤ 24) ∧
      (fields.coveredAspects.length ≤ 24 ∧ fields.openAspects.length ≤ 24) ∧
      fields.inheritedEvidence.length ≤ 64 ∧ fields.searchExecutions.length ≤ 64 ∧
      fields.reasonCodes.length ≤ 64 ∧
      (fields.budget.refreshRoundsCompleted ≤ maxRefreshRounds ∧
        fields.budget.remainingToolCalls ≤ 64) ∧
      (fields.coveredAspects ⊆ fields.requirementIds ∧
        fields.openAspects ⊆ fields.requirementIds) ∧
      (∀ aspectId ∈ fields.coveredAspects, aspectId ∉ fields.openAspects) ∧
      (fields.sideEffectState = .unknown →
        fields.failureState = .unknownSideEffect ∨ fields.failureState = .interrupted))
    ⟨fun ⟨one, two, three, four, five, six, seven, eight, nine⟩ =>
        ⟨one, two, three, four, five, six, seven, eight, nine⟩,
      fun valid => ⟨valid.requirements, valid.aspects, valid.inherited, valid.searches,
        valid.reasons, valid.budget, valid.declared, valid.disjoint, valid.sideEffect⟩⟩

/-- An envelope as a document has it: nothing is checked yet. -/
structure EnvelopeDocument extends EnvelopeFields where
  envelopeId : String
  envelopeHash : String

/-- `ContinuationEnvelope`. -/
structure ContinuationEnvelope extends EnvelopeDocument where
  valid : toEnvelopeFields.Valid

/-- The hashes of a run. An envelope is hashed without the nulls of its scope. -/
structure ContinuationDigests extends DecisionDigests where
  queryHash : (roundNumber : Nat) → (openAspects : List String) → String
  envelopeId : EnvelopeFields → String
  envelopeHash : EnvelopeFields → (envelopeId : String) → String

/-- `_jsonable`, of the fields of an envelope. -/
def EnvelopeFields.jsonable (fields : EnvelopeFields) : EnvelopeFields :=
  { fields with normalizedScope := Json.membersWithoutNulls fields.normalizedScope }

/-- `ContinuationEnvelope.model_validate`. -/
def EnvelopeDocument.validated (document : EnvelopeDocument) :
    Except ContinuationFailure ContinuationEnvelope :=
  if valid : document.toEnvelopeFields.Valid then .ok ⟨document, valid⟩
  else .error (.invalid "envelope")

variable (digests : ContinuationDigests)

/-- `_seal_envelope`. -/
def sealEnvelope (fields : EnvelopeFields) : Except ContinuationFailure ContinuationEnvelope :=
  let envelopeId := digests.envelopeId fields.jsonable
  EnvelopeDocument.validated
    ⟨fields, envelopeId, digests.envelopeHash fields.jsonable envelopeId⟩

/-- `_verify_envelope`. -/
def verifyEnvelope (envelope : ContinuationEnvelope) : Except ContinuationFailure Unit :=
  ensure (envelope.envelopeId = digests.envelopeId envelope.jsonable ∧
      envelope.envelopeHash = digests.envelopeHash envelope.jsonable envelope.envelopeId)
    (.contract "ContinuationEnvelope integrity failed" "continuation_integrity_failed")

/-- `parse_continuation_envelope`. -/
def parseContinuationEnvelope (document : EnvelopeDocument) :
    Except ContinuationFailure ContinuationEnvelope := do
  let envelope ← document.validated.mapError fun _ =>
    .contract "ContinuationEnvelope is invalid" "invalid_continuation_envelope"
  verifyEnvelope digests envelope
  return envelope

/-- What an envelope is made of beside the decision. -/
structure EnvelopeRequest where
  parentRunId : String
  target : ContinuationTarget
  originalQuestion : String
  normalizedScope : List (String × Json)
  inheritedEvidence : List InheritedEvidenceReference
  searchExecutions : List SearchExecutionReference
  budget : ContinuationBudgetState
  failureState : ContinuationFailureState
  receiptState : ReceiptState
  sideEffectState : SideEffectState
  stopReason : Option ContinuationStopReason
  /-- `None` for those of the decision. -/
  contributions : Option (List EvidenceContribution)

/-- The fields of a new envelope. -/
def EnvelopeRequest.fields (request : EnvelopeRequest) (decision : EvidenceDecision) :
    EnvelopeFields where
  parentRunId := request.parentRunId
  childRunId := none
  parentDecisionId := decision.decisionId
  parentDecisionHash := decision.decisionHash
  target := request.target
  originalQuestion := request.originalQuestion
  normalizedScope := request.normalizedScope
  explicitRequirements := decision.fields.requirements.map fun requirement =>
    ⟨requirement.aspectId, requirement.description, requirement.origin⟩
  coveredAspects := decision.coveredAspects
  openAspects := decision.openAspects
  inheritedEvidence := request.inheritedEvidence
  searchExecutions := request.searchExecutions
  currentAction := decision.action
  reasonCodes := decision.reasonCodes
  contributions := request.contributions.getD decision.fields.contributions
  budget := request.budget
  failureState := request.failureState
  receiptState := request.receiptState
  sideEffectState := request.sideEffectState
  stopReason := request.stopReason

/-- `create_continuation_envelope`. -/
def createContinuationEnvelope (request : EnvelopeRequest) (decision : EvidenceDecision) :
    Except ContinuationFailure ContinuationEnvelope :=
  sealEnvelope digests (request.fields decision)

/-- `bind_continuation_child`. -/
def bindContinuationChild (envelope : ContinuationEnvelope) (childRunId : String) :
    Except ContinuationFailure ContinuationEnvelope :=
  sealEnvelope digests { envelope.toEnvelopeFields with childRunId := some childRunId }

/-! ## What a refresh returns -/

/-- The length of the text of an identity. -/
def IsReferenceId (referenceId : String) : Prop :=
  1 ≤ referenceId.length ∧ referenceId.length ≤ 200

instance (referenceId : String) : Decidable (IsReferenceId referenceId) :=
  inferInstanceAs (Decidable (_ ∧ _))

/-- `RefreshObservation`. -/
structure RefreshObservation where
  aspectId : String
  aspectComplete : Bool
  authorityReferences : List AuthorityReference
  droppedReferenceIds : List String
  searchExecutions : List SearchExecutionReference
  conflicts : List ConflictObservation
  failureState : ContinuationFailureState
  receiptState : ReceiptState
  sideEffectState : SideEffectState
  references_bounded : authorityReferences.length ≤ 16
  dropped_bounded : droppedReferenceIds.length ≤ 16
  searches_bounded : searchExecutions.length ≤ 16
  conflicts_bounded : conflicts.length ≤ 16
  references_named : ∀ reference ∈ authorityReferences, IsReferenceId reference.referenceId

/-- A call of the callback, and the decision that was current then. -/
structure RefreshCall where
  current : EvidenceDecision
  aspectId : String
  query : String
  roundNumber : Nat

/-- `RefreshCallback`. No two calls of a run have the same aspect and query. -/
abbrev RefreshCallback :=
  (aspectId query : String) → (roundNumber : Nat) → RefreshObservation

/-- What `now` answers: at the start, when a round begins, and when its decision is recorded. -/
structure RefreshClock where
  started : AwareTime
  roundBegan : Nat → AwareTime
  roundRecorded : Nat → AwareTime

/-- `RefreshRoundRecord`. -/
structure RefreshRoundRecord where
  roundNumber : Nat
  queriedAspects : List String
  newReferenceIds : List String
  droppedReferenceIds : List String
  decisionId : String
  action : EvidenceDecisionAction
  reasonCodes : List DecisionReasonCode

/-- `ContinuationExecutionResult`. -/
structure ContinuationExecutionResult where
  finalDecision : EvidenceDecision
  envelope : ContinuationEnvelope
  rounds : List RefreshRoundRecord
  stopReason : ContinuationStopReason
  searchExecutions : List SearchExecutionReference
  contributions : List EvidenceContribution
  failureState : ContinuationFailureState

/-! ## When to stop -/

/-- The deadline has come. -/
def ContinuationBudgetState.expired (budget : ContinuationBudgetState) (time : AwareTime) : Bool :=
  budget.deadlineAt.any fun deadline => deadline.instant ≤ time.instant

/-- `_unsafe_replay_stop`. -/
def unsafeReplayStop (envelope : EnvelopeFields) (currentTime : AwareTime) :
    Option ContinuationStopReason :=
  if envelope.sideEffectState = .unknown ∨ envelope.failureState = .unknownSideEffect then
    some .unknownSideEffect
  else if envelope.failureState = .interrupted then some .interrupted
  else if envelope.receiptState = .inFlight ∨ envelope.receiptState = .unknown then
    some .receiptPreventsReplay
  else if envelope.budget.expired currentTime then some .deadlineExhausted
  else if envelope.budget.remainingToolCalls = 0 then some .toolBudgetExhausted
  else if maxRefreshRounds ≤ envelope.budget.refreshRoundsCompleted then some .maxRefreshRounds
  else none

/-- `_observation_stop`. -/
def observationStop (observation : RefreshObservation) :
    Option (ContinuationStopReason × ContinuationFailureState) :=
  if observation.sideEffectState = .unknown ∨ observation.failureState = .unknownSideEffect then
    some (.unknownSideEffect, .unknownSideEffect)
  else if observation.failureState = .interrupted then some (.interrupted, .interrupted)
  else if observation.receiptState = .inFlight ∨ observation.receiptState = .unknown then
    some (.receiptPreventsReplay, observation.failureState)
  else if observation.failureState ≠ .none then some (.actionBoundary, observation.failureState)
  else none

/-- `_eligible`. -/
def eligible (reference : AuthorityReference) : Bool :=
  reference.standing.sourceVersionStatus = .current ∧ reference.standing.scopeStatus = .inScope ∧
    reference.standing.authorizationStatus = .authorized

/-! ## Asking -/

/-- The state while a round asks for its aspects. -/
structure Asking where
  queryFingerprints : List (String × String)
  remainingTools : Nat
  calls : List RefreshCall
  observations : List RefreshObservation

/-- How the asking of a round ends. `none` for a failure state that stays. -/
inductive AskingEnd where
  | complete
  | stops (stop : ContinuationStopReason) (failure : Option ContinuationFailureState)
  | raises (failure : ContinuationFailure)

/-- `requirement_by_id[aspect_id].description`. -/
def descriptionOf (requirements : List EvidenceRequirement) (aspectId : String) : Option String :=
  (lastWith EvidenceRequirement.aspectId requirements aspectId).map EvidenceRequirement.description

/-- The loop over the open aspects. The fingerprint of a query stands for its hash. -/
def askAspects (refresh : RefreshCallback) (requirements : List EvidenceRequirement)
    (current : EvidenceDecision) (roundNumber : Nat) :
    List String → Asking → Asking × AskingEnd
  | [], asking => (asking, .complete)
  | aspectId :: rest, asking =>
      if asking.remainingTools = 0 then
        (asking, .stops .toolBudgetExhausted (some .budgetExhausted))
      else
        match descriptionOf requirements aspectId with
        | none => (asking, .raises .keyError)
        | some query =>
            if (aspectId, query) ∈ asking.queryFingerprints then
              (asking, .stops .repeatedQuery none)
            else
              let observation := refresh aspectId query roundNumber
              let asked :=
                { asking with
                  queryFingerprints := asking.queryFingerprints ++ [(aspectId, query)]
                  remainingTools := asking.remainingTools - 1
                  calls := asking.calls ++ [⟨current, aspectId, query, roundNumber⟩] }
              if observation.aspectId ≠ aspectId then
                (asked, .raises (.contract "refresh escaped its open aspect" "refresh_aspect_mismatch"))
              else
                let asked := { asked with observations := asked.observations ++ [observation] }
                match observationStop observation with
                | some (stop, failure) => (asked, .stops stop (some failure))
                | none => askAspects refresh requirements current roundNumber rest asked

/-! ## Merging -/

/-- The values of a dictionary built from a list: each key where it came first, with its last value. -/
def dictValues {Entry : Type} (keyOf : Entry → String) (entries : List Entry) : List Entry :=
  (distinct (entries.map keyOf)).filterMap (lastWith keyOf entries)

/-- The state while the observations of a round are merged. -/
structure Merging where
  known : List AuthorityReference
  coverage : List AspectCoverage
  contributions : List EvidenceContribution
  newIds : List String
  droppedIds : List String
  lineageDrift : Bool
  conflicts : List ConflictObservation
  searchRefs : List SearchExecutionReference

/-- `EvidenceContribution` of one aspect. -/
def evidenceContribution (kind : ContributionKind) (referenceId aspectId : String) :
    Except ContinuationFailure EvidenceContribution := do
  ensure (IsReferenceId referenceId) (.invalid "reference_id")
  return ⟨kind, referenceId, [aspectId]⟩

/-- A contribution is added. -/
def Merging.contribute (merging : Merging) (kind : ContributionKind)
    (referenceId aspectId : String) : Except ContinuationFailure Merging := do
  let contribution ← evidenceContribution kind referenceId aspectId
  return { merging with contributions := merging.contributions ++ [contribution] }

def mergeDropped (aspectId : String) (merging : Merging) (referenceId : String) :
    Except ContinuationFailure Merging :=
  { merging with droppedIds := merging.droppedIds ++ [referenceId] }.contribute .dropped referenceId
    aspectId

/-- One round of the loop over the references, with those that are eligible. -/
def mergeReference (aspectId : String) (state : Merging × List AuthorityReference)
    (reference : AuthorityReference) :
    Except ContinuationFailure (Merging × List AuthorityReference) := do
  let (merging, eligibles) := state
  let existing := lastWith AuthorityReference.referenceId merging.known reference.referenceId
  if existing.any (· ≠ reference) then
    return ({ merging with
      lineageDrift := true
      droppedIds := merging.droppedIds ++ [reference.referenceId] }, eligibles)
  else if eligible reference then
    let known := { merging with known := merging.known ++ [reference] }
    if existing = none then
      let contributed ← { known with newIds := known.newIds ++ [reference.referenceId] }.contribute
        .new reference.referenceId aspectId
      return (contributed, eligibles ++ [reference])
    else return (known, eligibles ++ [reference])
  else
    let contributed ← { merging with
      droppedIds := merging.droppedIds ++ [reference.referenceId] }.contribute .dropped
        reference.referenceId aspectId
    return (contributed, eligibles)

/-- `AspectCoverage` after a refresh. -/
def refreshedCoverage (aspectId : String) (status : CoverageStatus)
    (references : List AuthorityReference) : Except ContinuationFailure AspectCoverage :=
  if claimed : status = .covered ∨ status = .partiallyCovered → references ≠ [] then
    .ok ⟨aspectId, status, references, "targeted refresh over the canonical open aspect", claimed⟩
  else .error (.invalid "authority_references")

/-- One round of the loop over the observations. -/
def mergeObservation (merging : Merging) (observation : RefreshObservation) :
    Except ContinuationFailure Merging := do
  let dropped ← observation.droppedReferenceIds.foldlM (mergeDropped observation.aspectId) merging
  let (merged, eligibles) ← observation.authorityReferences.foldlM
    (mergeReference observation.aspectId) (dropped, [])
  match merged.coverage.find? fun item => item.aspectId = observation.aspectId with
  | none => .error .keyError
  | some prior => do
      let combined := dictValues AuthorityReference.referenceId
        (prior.authorityReferences ++ eligibles)
      let status : CoverageStatus :=
        if observation.aspectComplete ∧ eligibles ≠ [] then .covered
        else if combined ≠ [] then .partiallyCovered else .open_
      let coverage ← refreshedCoverage observation.aspectId status combined
      return { merged with
        coverage := merged.coverage.map fun item =>
          if item.aspectId = observation.aspectId then coverage else item
        conflicts := merged.conflicts ++ observation.conflicts
        searchRefs := merged.searchRefs ++ observation.searchExecutions }

/-! ## A new decision -/

theorem noNew_not_new : CorpusNewMaterialStatus.noRelevantNewMaterial = .relevantNewMaterial →
    ([] : List String) ≠ [] := by simp

theorem noNew_nothing : CorpusNewMaterialStatus.noRelevantNewMaterial = .noRelevantNewMaterial →
    ([] : List String) = [] := fun _ => rfl

/-- `CorpusNewMaterialCheck` of a round: nothing new was found in the library itself. -/
def roundCheck (current : EvidenceDecision) (recordedAt : AwareTime) (queryHash : String)
    (newIds : List String) : Except ContinuationFailure CorpusNewMaterialCheck :=
  let previous := current.fields.libraryFreshness.recordedCheckTime
  if inOrder : previous.instant ≤ recordedAt.instant then
    .ok
      { status := .noRelevantNewMaterial
        recordedCheckTime := recordedAt
        previousCheckTime := some previous
        boundedQueryHash := queryHash
        candidateReferenceIds := newIds
        relevantMaterialReferenceIds := []
        previous_not_after := by simpa using inOrder
        relevant_of_new := noNew_not_new
        none_of_no_new := noNew_nothing }
  else .error (.invalid "previous_check_time")

/-- The input of the decision a round ends with. -/
def childFields (current : EvidenceDecision) (merged : Merging) (check : CorpusNewMaterialCheck) :
    DecisionFields where
  normalizedQuestion := current.fields.normalizedQuestion
  parentDecisionId := some current.decisionId
  requirements := current.fields.requirements
  scope := current.fields.scope
  coverage := current.fields.requirements.filterMap fun requirement =>
    merged.coverage.find? fun item => item.aspectId = requirement.aspectId
  libraryFreshness := check
  conflicts := merged.conflicts
  contributions := distinct merged.contributions
  semanticAdvice := current.fields.semanticAdvice

/-- The decision a round ends with. -/
def childDecision (current : EvidenceDecision) (roundNumber : Nat) (recordedAt : AwareTime)
    (merged : Merging) : Except ContinuationFailure EvidenceDecision := do
  let check ← roundCheck current recordedAt
    (digests.queryHash roundNumber current.openAspects) merged.newIds
  let input ← (evidenceDecisionInput (childFields current merged check)).mapError .decision
  (createEvidenceDecision digests.toDecisionDigests input (some recordedAt)).mapError .decision

/-! ## Rounds -/

/-- The state of the loop over the rounds. -/
structure Refreshing where
  current : EvidenceDecision
  merging : Merging
  rounds : List RefreshRoundRecord
  asking : Asking
  decisionIds : List String
  actionKeys : List (EvidenceDecisionAction × List String)
  stop : ContinuationStopReason
  failure : ContinuationFailureState

/-- How a round ends. -/
inductive RoundEnd where
  | goesOn (state : Refreshing)
  | breaks (state : Refreshing)
  | raises (calls : List RefreshCall) (failure : ContinuationFailure)

/-- Where the loop ends after a decision. -/
def afterDecision (state : Refreshing) (child : EvidenceDecision) : RoundEnd :=
  let actionKey := (child.action, child.openAspects)
  if state.stop = .conflictUnresolved ∨ state.stop = .noNewEligibleEvidence then .breaks state
  else if child.decisionId ∈ state.decisionIds then
    .breaks { state with stop := .repeatedEvidenceIdentity }
  else if actionKey ∈ state.actionKeys then .breaks { state with stop := .repeatedAction }
  else if child.openAspects = [] then .breaks { state with stop := .coverageComplete }
  else if child.action ≠ .targetedRefresh then .breaks { state with stop := .actionBoundary }
  else
    .goesOn { state with
      decisionIds := state.decisionIds ++ [child.decisionId]
      actionKeys := state.actionKeys ++ [actionKey] }

/-- The second half of a round: what was observed is merged, and judged. -/
def decideRound (clock : RefreshClock) (roundNumber : Nat) (state : Refreshing) : RoundEnd :=
  let observations := state.asking.observations
  match observations.foldlM mergeObservation
      { state.merging with
        newIds := []
        droppedIds := []
        lineageDrift := false
        conflicts := state.current.fields.conflicts } with
  | .error failure => .raises state.asking.calls failure
  | .ok merged =>
      let state := { state with merging := merged }
      if merged.lineageDrift then
        .breaks { state with stop := .sourceOrCitationLineageDrift }
      else
        let (stop, failure) :=
          if merged.conflicts.any fun conflict =>
              conflict.status = .potential ∨ conflict.status = .confirmed then
            (.conflictUnresolved, .sourceConflict)
          else if merged.newIds = [] then (.noNewEligibleEvidence, .evidenceInsufficient)
          else (state.stop, state.failure)
        match childDecision digests state.current roundNumber (clock.roundRecorded roundNumber)
            merged with
        | .error failure => .raises state.asking.calls failure
        | .ok child =>
            afterDecision
              { state with
                current := child
                rounds := state.rounds ++
                  [{ roundNumber := roundNumber
                     queriedAspects := observations.map RefreshObservation.aspectId
                     newReferenceIds := distinct merged.newIds
                     droppedReferenceIds := distinct merged.droppedIds
                     decisionId := child.decisionId
                     action := child.action
                     reasonCodes := child.reasonCodes }]
                stop := stop
                failure := failure } child

/-- One round. -/
def refreshRound (refresh : RefreshCallback) (clock : RefreshClock)
    (requirements : List EvidenceRequirement) (budget : ContinuationBudgetState) (roundNumber : Nat)
    (state : Refreshing) : RoundEnd :=
  if budget.expired (clock.roundBegan roundNumber) then
    .breaks { state with stop := .deadlineExhausted, failure := .deadlineExhausted }
  else
    let (asking, ending) := askAspects refresh requirements state.current roundNumber
      state.current.openAspects { state.asking with observations := [] }
    let state := { state with asking := asking }
    match ending with
    | .raises failure => .raises asking.calls failure
    | .stops stop failure =>
        .breaks { state with stop := stop, failure := failure.getD state.failure }
    | .complete => decideRound digests clock roundNumber state

/-- The loop over the rounds. -/
def refreshRounds (refresh : RefreshCallback) (clock : RefreshClock)
    (requirements : List EvidenceRequirement) (budget : ContinuationBudgetState) :
    List Nat → Refreshing → RoundEnd
  | [], state => .breaks state
  | roundNumber :: rest, state =>
      match refreshRound digests refresh clock requirements budget roundNumber state with
      | .goesOn state => refreshRounds refresh clock requirements budget rest state
      | ending => ending

/-! ## The run -/

/-- The calls a run makes of its callback, and what it returns or raises. -/
structure RefreshRun where
  calls : List RefreshCall
  outcome : Except ContinuationFailure ContinuationExecutionResult

/-- `_validate_parent_binding`. -/
def validateParentBinding (decision : EvidenceDecision) (envelope : ContinuationEnvelope) :
    Except ContinuationFailure Unit := do
  verifyEnvelope digests envelope
  ensure (envelope.parentDecisionId = decision.decisionId ∧
      envelope.parentDecisionHash = decision.decisionHash)
    (.contract "parent decision binding changed" "parent_decision_mismatch")
  ensure (envelope.originalQuestion = decision.fields.normalizedQuestion)
    (.contract "original question changed" "original_question_mismatch")

/-- What an envelope hands on to the next one. -/
def EnvelopeFields.continued (envelope : EnvelopeFields)
    (searchExecutions : List SearchExecutionReference) (budget : ContinuationBudgetState)
    (failure : ContinuationFailureState) (stop : ContinuationStopReason) : EnvelopeRequest where
  parentRunId := envelope.parentRunId
  target := envelope.target
  originalQuestion := envelope.originalQuestion
  normalizedScope := envelope.normalizedScope
  inheritedEvidence := envelope.inheritedEvidence
  searchExecutions := searchExecutions
  budget := budget
  failureState := failure
  receiptState := envelope.receiptState
  sideEffectState := envelope.sideEffectState
  stopReason := some stop
  contributions := none

/-- `_terminal_result`. -/
def terminalResult (decision : EvidenceDecision) (envelope : ContinuationEnvelope)
    (reason : ContinuationStopReason) :
    Except ContinuationFailure ContinuationExecutionResult := do
  let updated ← createContinuationEnvelope digests
    (envelope.continued envelope.searchExecutions envelope.budget envelope.failureState reason)
    decision
  return ⟨decision, updated, [], reason, envelope.searchExecutions, decision.fields.contributions,
    envelope.failureState⟩

/-- The end of a run whose rounds are over. -/
def finishedResult (envelope : ContinuationEnvelope) (state : Refreshing) :
    Except ContinuationFailure ContinuationExecutionResult := do
  let budget : ContinuationBudgetState :=
    { refreshRoundsCompleted :=
        min (envelope.budget.refreshRoundsCompleted + state.rounds.length) maxRefreshRounds
      remainingToolCalls := state.asking.remainingTools
      deadlineAt := envelope.budget.deadlineAt }
  let updated ← createContinuationEnvelope digests
    (envelope.continued state.merging.searchRefs budget state.failure state.stop) state.current
  return ⟨state.current, updated, state.rounds, state.stop, state.merging.searchRefs,
    distinct state.merging.contributions, state.failure⟩

/-- The state a run starts from. -/
def startRefreshing (decision : EvidenceDecision) (envelope : ContinuationEnvelope) : Refreshing where
  current := decision
  merging :=
    { known := allReferences decision.fields
      coverage := decision.fields.coverage
      contributions := decision.fields.contributions
      newIds := []
      droppedIds := []
      lineageDrift := false
      conflicts := []
      searchRefs := envelope.searchExecutions }
  rounds := []
  asking := ⟨[], envelope.budget.remainingToolCalls, [], []⟩
  decisionIds := [decision.decisionId]
  actionKeys := [(decision.action, decision.openAspects)]
  stop := .maxRefreshRounds
  failure := envelope.failureState

/-- The numbers of the rounds that are left. -/
def roundsLeft (budget : ContinuationBudgetState) : List Nat :=
  List.range' (budget.refreshRoundsCompleted + 1) (maxRefreshRounds - budget.refreshRoundsCompleted)

/-- `run_targeted_refresh`. -/
def runTargetedRefresh (decision : EvidenceDecision) (envelope : ContinuationEnvelope)
    (refresh : RefreshCallback) (clock : RefreshClock) : RefreshRun :=
  match validateParentBinding digests decision envelope with
  | .error failure => ⟨[], .error failure⟩
  | .ok _ =>
      match unsafeReplayStop envelope.toEnvelopeFields clock.started with
      | some reason => ⟨[], terminalResult digests decision envelope reason⟩
      | none =>
          if decision.action ≠ .targetedRefresh then
            let reason :=
              if decision.openAspects = [] then .coverageComplete else .actionBoundary
            ⟨[], terminalResult digests decision envelope reason⟩
          else
            match refreshRounds digests refresh clock decision.fields.requirements envelope.budget
                (roundsLeft envelope.budget) (startRefreshing decision envelope) with
            | .raises calls failure => ⟨calls, .error failure⟩
            | .goesOn state | .breaks state =>
                ⟨state.asking.calls, finishedResult digests envelope state⟩

end Shiliu.Evidence
