/-
Module: Shiliu.Knowledge.Candidates
Purpose: `review_candidate`: a pending candidate becomes a fact when all its evidence is observed
  current in the same transaction, is sent back when it is not, is rejected, or is superseded by an
  edited candidate that waits for revalidation. The observations of a transaction that sends a
  candidate back stay, since it commits.
Trusted boundary: `authority.observe` is a function of the evidence use for the length of one transaction
Main exports: observeUses, validateCandidateEvidence, createInitialFact, reviewCandidate, intake
-/
import Shiliu.Knowledge.Rows

namespace Shiliu.Knowledge

open Shiliu.Library Shiliu.Research

/-! ## Intake -/

/-- A claim that `intake_candidates` takes over from a research run. -/
structure IntakeItem where
  candidateId : Ident
  attemptId : Ident
  claimText : String
  citationIds : List Ident
  evidenceUseIds : List Ident

def IntakeItem.candidate (item : IntakeItem) : Candidate where
  candidateId := item.candidateId
  attemptId := item.attemptId
  parentCandidateId := none
  claimText := item.claimText
  citationIds := item.citationIds
  evidenceUseIds := item.evidenceUseIds
  status := .pendingReview
  stateVersion := 0

/-- The rows a research run and `intake_candidates` after it leave behind. -/
def TaskKnowledge.intake (store : TaskKnowledge) (uses : List EvidenceUse)
    (items : List IntakeItem) : TaskKnowledge :=
  { store with
    evidenceUses := uses.foldl Table.insert store.evidenceUses
    candidates := (items.map IntakeItem.candidate).foldl Table.insert store.candidates }

/-! ## Validation -/

/-- What `_validate_candidate_evidence` has written and found. -/
structure EvidenceValidation where
  validations : Table Validation.observationId
  links : List EvidenceLink
  outcomes : List EvidenceOutcome

/-- `all_current`. -/
def EvidenceValidation.allCurrent (found : EvidenceValidation) : Bool :=
  !found.links.isEmpty && found.outcomes.all (· = .current)

/-- The return in the middle of the loop. -/
def EvidenceValidation.broken (found : EvidenceValidation) : EvidenceValidation :=
  { found with outcomes := found.outcomes ++ [.invalid] }

def validationId (commandId : String) (useId : Ident) : Ident :=
  .hashed "kvalidation" [.text commandId, useId]

/-- The loop over the evidence uses of a candidate with the citations they stand for. -/
def observeUses (uses : Table EvidenceUse.useId) (view : EvidenceView) (commandId : String)
    (attemptId : Ident) :
    List (Ident × Ident) → EvidenceValidation → Except ResearchFailure EvidenceValidation
  | [], found => .ok found
  | (useId, citationId) :: rest, found =>
      match uses.lookup useId with
      | none => .ok found.broken
      | some use =>
          if use.attemptId ≠ attemptId ∨ use.evidenceId ≠ citationId then .ok found.broken
          else do
            let validations ← insertNew found.validations
              { observationId := validationId commandId useId
                useId := useId
                evidenceId := use.evidenceId
                outcome := (view useId).outcome }
            observeUses uses view commandId attemptId rest
              { validations := validations
                links := found.links ++ [⟨use.evidenceId, useId, validationId commandId useId⟩]
                outcomes := found.outcomes ++ [(view useId).outcome] }

/-- `_validate_candidate_evidence`. -/
def validateCandidateEvidence (store : TaskKnowledge) (view : EvidenceView) (commandId : String)
    (candidate : Candidate) : Except ResearchFailure EvidenceValidation :=
  let found : EvidenceValidation := ⟨store.validations, [], []⟩
  if candidate.evidenceUseIds = [] ∨
      candidate.evidenceUseIds.length ≠ candidate.citationIds.length then
    .ok found.broken
  else
    observeUses store.evidenceUses view commandId candidate.attemptId
      (candidate.evidenceUseIds.zip candidate.citationIds) found

/-! ## The decisions -/

/-- A new status under the next state version. -/
def decideCandidate (status : CandidateStatus) : Change Candidate.candidateId :=
  ⟨fun candidate =>
    { candidate with status := status, stateVersion := candidate.stateVersion + 1 },
    fun _ => rfl⟩

def TaskKnowledge.decide (store : TaskKnowledge) (candidateId : Ident)
    (status : CandidateStatus) : TaskKnowledge :=
  { store with candidates := store.candidates.modify candidateId (decideCandidate status) }

def factIdOf (candidateId : Ident) : Ident :=
  .hashed "fact" [candidateId]

def initialRevisionId (candidateId : Ident) : Ident :=
  .hashed "factrev" [factIdOf candidateId, .number 1]

/-- The first revision of a fact, with its links. -/
def initialRevision (candidate : Candidate) (links : List EvidenceLink) : FactRevision where
  revisionId := initialRevisionId candidate.candidateId
  revision := 1
  parentRevisionId := none
  supersedesRevisionId := none
  claimText := candidate.claimText
  temporalScope := []
  viewpointScope := []
  links := links

/-- The fact with its first revision and its state. -/
def initialFact (candidate : Candidate) (links : List EvidenceLink) : Fact where
  factId := factIdOf candidate.candidateId
  originCandidateId := candidate.candidateId
  revisions := [initialRevision candidate links]
  currentRevisionId := initialRevisionId candidate.candidateId
  lifecycle := .current
  currentness := .current
  observationSetId := none
  stateVersion := 0

/-- `_create_initial_fact`. -/
def createInitialFact (store : TaskKnowledge) (candidate : Candidate)
    (links : List EvidenceLink) : Except ResearchFailure TaskKnowledge := do
  let facts ← insertNew store.facts (initialFact candidate links)
  pure { store with facts := facts }

/-- `decision == "accept"`. -/
def acceptCandidate (store : TaskKnowledge) (view : EvidenceView) (commandId : String)
    (candidate : Candidate) : Transaction := do
  let found ← validateCandidateEvidence store view commandId candidate
  let validated := { store with validations := found.validations }
  if found.allCurrent then
    let granted ← createInitialFact validated candidate found.links
    pure (granted.decide candidate.candidateId .accepted,
      .candidateReviewed candidate.candidateId .accepted (candidate.stateVersion + 1)
        (some (initialRevisionId candidate.candidateId)) none)
  else
    pure (validated.decide candidate.candidateId .needsRevalidation,
      .candidateReviewed candidate.candidateId .needsRevalidation (candidate.stateVersion + 1)
        none none)

/-- `_create_edited_candidate`. -/
def editedCandidate (candidate : Candidate) (commandId claim : String) : Candidate :=
  { candidate with
    candidateId := .hashed "kcandidate" [candidate.candidateId, .text commandId, .text claim]
    parentCandidateId := some candidate.candidateId
    claimText := claim
    status := .needsRevalidation
    stateVersion := 0 }

/-- `decision == "reject"`. -/
def rejectCandidate (store : TaskKnowledge) (candidate : Candidate) : Transaction :=
  .ok (store.decide candidate.candidateId .rejected,
    .candidateReviewed candidate.candidateId .rejected (candidate.stateVersion + 1) none none)

/-- `decision == "edit"`. -/
def editCandidate (store : TaskKnowledge) (commandId claim : String) (candidate : Candidate) :
    Transaction := do
  let edited := editedCandidate candidate commandId claim
  let candidates ← insertNew store.candidates edited
  pure (TaskKnowledge.decide { store with candidates := candidates } candidate.candidateId
      .superseded,
    .candidateReviewed candidate.candidateId .superseded (candidate.stateVersion + 1) none
      (some edited.candidateId))

def ReviewRequest.apply (request : ReviewRequest) (store : TaskKnowledge) (view : EvidenceView)
    (commandId : String) (candidate : Candidate) : Transaction :=
  match request.decision with
  | .accept => acceptCandidate store view commandId candidate
  | .reject => rejectCandidate store candidate
  | .edit => editCandidate store commandId request.editedClaim candidate

/-- The guards of a review. -/
def assertReviewable (candidate : Candidate) (request : ReviewRequest) :
    Except ResearchFailure Unit := do
  ensure (candidate.stateVersion = request.expectedStateVersion)
    (.conflict s!"stale candidate state: expected {request.expectedStateVersion}, current {candidate.stateVersion}")
  ensure (candidate.status = .pendingReview ∨ candidate.status = .needsRevalidation)
    (.conflict ("Candidate 已完成审查: " ++ candidate.status.value))
  ensure (request.decision = .accept → candidate.status = .pendingReview)
    (.unsafeState "needs_revalidation Candidate 没有服务器 validator，不得接受")

/-- `review_candidate`. -/
def reviewCandidate (store : TaskKnowledge) (view : EvidenceView) (commandId : String)
    (candidateId : Ident) (request : ReviewRequest) : Transaction :=
  transact store commandId (.reviewCandidate candidateId request) do
    match store.candidates.lookup candidateId with
    | none => .error (.notFound "Knowledge Candidate 不存在")
    | some candidate =>
        assertReviewable candidate request
        request.apply store view commandId candidate

end Shiliu.Knowledge
