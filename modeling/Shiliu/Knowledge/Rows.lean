/-
Module: Shiliu.Knowledge.Rows
Purpose: The rows behind `ResearchKnowledgeService` and `ResearchKnowledgeLifecycleService`, for one
  research task: the two services only ever read and write rows of the task a command names. A
  fact carries its revisions and its state row, an artifact and a page carry their revisions, and a revision
  its links, since each of these rows names its parent for good.
Trusted boundary: `_id(prefix, value)` is a `sha256` of the canonical form of a value; identifiers are
  modelled by what is hashed, so two identifiers are equal when prefix and value are
Main exports: Ident, Candidate, Fact, Artifact, Page, Command, Response, TaskKnowledge, transact
-/
import Shiliu.Library.Outcome
import Shiliu.Library.Table
import Shiliu.Research.Rows

set_option linter.all false

namespace Shiliu.Knowledge

open Shiliu.Library Shiliu.Research Shiliu.Storage

/-! ## Identifiers -/

inductive Ident where
  | text (value : String)
  | number (value : Nat)
  | pair (first second : Ident)
deriving DecidableEq

/-- `_id(prefix, value)`, with the fields of the value in their order. -/
def Ident.hashed (kind : String) (fields : List Ident) : Ident :=
  fields.foldr .pair (.text kind)

theorem Ident.hashed_inj {kind other : String} {fields others : List Ident} :
    Ident.hashed kind fields = Ident.hashed other others ↔ kind = other ∧ fields = others := by
  induction fields generalizing others with
  | nil => cases others <;> simp [Ident.hashed]
  | cons first rest inductionHypothesis =>
      cases others with
      | nil => simp [Ident.hashed]
      | cons head tail =>
          have rests : Ident.hashed kind rest = Ident.hashed other tail ↔ _ := inductionHypothesis
          simp only [Ident.hashed] at rests
          simp only [Ident.hashed, List.foldr_cons, Ident.pair.injEq, rests, List.cons.injEq]
          tauto

/-! ## Evidence -/

/-- A row of `research_evidence_uses`. -/
structure EvidenceUse where
  useId : Ident
  attemptId : Ident
  evidenceId : Ident

inductive EvidenceOutcome where
  | current
  | stale
  | missing
  | invalid
  | error
deriving DecidableEq

/-- What `authority.observe` says of an evidence use: the quote is there when its span is. -/
structure Observation where
  outcome : EvidenceOutcome
  reasonCode : Option String
  quote : Option String

/-- The evidence as one transaction finds it. -/
abbrev EvidenceView := Ident → Observation

/-- A row of `research_evidence_validations`. -/
structure Validation where
  observationId : Ident
  useId : Ident
  evidenceId : Ident
  outcome : EvidenceOutcome

/-! ## Candidates -/

inductive CandidateStatus where
  | pendingReview
  | needsRevalidation
  | accepted
  | rejected
  | superseded
deriving DecidableEq

/-- The column value. -/
def CandidateStatus.value : CandidateStatus → String
  | .pendingReview => "pending_review"
  | .needsRevalidation => "needs_revalidation"
  | .accepted => "accepted"
  | .rejected => "rejected"
  | .superseded => "superseded"

structure Candidate where
  candidateId : Ident
  attemptId : Ident
  parentCandidateId : Option Ident
  claimText : String
  citationIds : List Ident
  evidenceUseIds : List Ident
  status : CandidateStatus
  stateVersion : Nat
deriving DecidableEq

/-! ## Facts -/

/-- A row of `research_fact_evidence_links`. -/
structure EvidenceLink where
  evidenceId : Ident
  useId : Ident
  observationId : Ident

/-- A JSON object of scalars, in its canonical order. -/
abbrev Scope := List (String × String)

structure FactRevision where
  revisionId : Ident
  revision : Nat
  parentRevisionId : Option Ident
  supersedesRevisionId : Option Ident
  claimText : String
  temporalScope : Scope
  viewpointScope : Scope
  links : List EvidenceLink

inductive Lifecycle where
  | current
  | retired
  | superseded
deriving DecidableEq

inductive Currentness where
  | current
  | stale
  | potentialConflict
  | conflicted
deriving DecidableEq

/-- A grounded fact with its revisions and its row of `research_knowledge_fact_states`. -/
structure Fact where
  factId : Ident
  originCandidateId : Ident
  revisions : List FactRevision
  currentRevisionId : Ident
  lifecycle : Lifecycle
  currentness : Currentness
  observationSetId : Option Ident
  stateVersion : Nat

/-! ## Artifacts and pages -/

/-- A fact as the bodies of artifacts and pages list it. -/
structure FactLine where
  factRevisionId : Ident
  claim : String
  citationIds : List Ident

structure ArtifactRevision where
  revisionId : Ident
  revision : Nat
  parentRevisionId : Option Ident
  topic : String
  facts : List FactLine
  limitations : List String
  unresolved : List String
  /-- The rows of `research_artifact_fact_links`. -/
  factRevisionIds : List Ident

structure Artifact where
  artifactId : Ident
  revisions : List ArtifactRevision

inductive ReviewStatus where
  | draft
  | published
  | returned
deriving DecidableEq

/-- The column value. -/
def ReviewStatus.value : ReviewStatus → String
  | .draft => "draft"
  | .published => "published"
  | .returned => "returned"

inductive RevisionKind where
  | initial
  | refresh
  | edit
  | revert
deriving DecidableEq

structure PageRevision where
  revisionId : Ident
  version : Nat
  parentRevisionId : Option Ident
  revertOf : Option Ident
  kind : RevisionKind
  artifactRevisionId : Ident
  title : String
  facts : List FactLine
  limitations : List String
  unresolved : List String
  annotation : Option String
  /-- The rows of `research_topic_page_fact_links`. -/
  factRevisionIds : List Ident

structure Page where
  pageId : Ident
  currentVersion : Nat
  publishedVersion : Option Nat
  reviewStatus : ReviewStatus
  stateVersion : Nat
  revisions : List PageRevision

/-! ## Builds -/

/-- `build_kind` with the `build_input` that is hashed: the sorted fact revisions of an artifact, or
the artifact revision of a page. -/
inductive BuildInput where
  | artifact (factRevisionIds : List Ident)
  | topicPage (artifactRevisionId : Ident)
deriving DecidableEq

/-- The identity of a build, for `input_hash` and `build_run_id`. -/
def BuildInput.ident : BuildInput → Ident
  | .artifact factRevisionIds => .hashed "artifact" factRevisionIds
  | .topicPage artifactRevisionId => .hashed "topic_page" [artifactRevisionId]

inductive BuildStatus where
  | queued
  | running
  | succeeded
  | failed
deriving DecidableEq

structure BuildRun where
  input : BuildInput
  runId : Ident
  commandId : String
  status : BuildStatus
  attemptCount : Nat
  outputReference : Option Ident

/-! ## Updates of facts -/

inductive UpdateKind where
  | sourceRebind
  | newEvidence
  | userCorrection
  | potentialConflict
  | retire
  | supersede
deriving DecidableEq

structure UpdateCandidate where
  updateCandidateId : Ident
  factId : Ident
  sourceRevisionId : Ident
  relatedRevisionId : Option Ident
  observationSetId : Option Ident
  kind : UpdateKind
  proposedClaim : Option String
  temporalScope : Scope
  viewpointScope : Scope
  evidenceUseIds : List Ident
  affectedArtifactIds : List Ident
  affectedPageIds : List Ident
  eligible : Bool
  status : CandidateStatus
  parentCandidateId : Option Ident
  stateVersion : Nat

/-! ## Operations -/

inductive OperationStatus where
  | pending
  | running
  | retryWait
  | succeeded
  | needsUser
  | deadLetter
  | superseded
  | cancelled

/-- `expected_heads_json["facts"]`, which names one fact. -/
structure ExpectedFact where
  factId : Ident
  revisionId : Ident
  stateVersion : Nat
  lifecycle : Lifecycle

/-- `input_json` and `expected_heads_json`: the heads a refresh was enqueued for. -/
structure RefreshInput where
  updateCandidateId : Ident
  fact : ExpectedFact
  artifacts : List (Ident × Nat)
  pages : List (Ident × Nat)

inductive ExportFormat where
  | markdown
  | json
deriving DecidableEq

inductive OperationInput where
  | refresh (input : RefreshInput)
  | exportPage (pageRevisionId : Ident) (format : ExportFormat)

/-- What `error_class` and `error_code` say together. -/
inductive OperationError where
  | staleInputFence (detail : String)
  | infrastructureInvalid
  | implementationFailure

/-- `output_reference`: the heads a refresh wrote, or the file of an export. -/
inductive OperationOutput where
  | refreshed (artifacts pages : List (Ident × Nat))
  | exported (pageRevisionId : Ident) (format : ExportFormat)

/-- A row of `research_knowledge_update_operations`: `claimant_id`, `lease_until` and
`claim_generation` are its lease. -/
structure UpdateOperation where
  operationId : Ident
  input : OperationInput
  status : OperationStatus
  attemptCount : Nat
  maxAttempts : Nat
  error : Option OperationError
  nextAttemptAt : Option Instant
  claim : Lease String
  output : Option OperationOutput

/-! ## Commands -/

inductive ReviewDecision where
  | accept
  | reject
  | edit
deriving DecidableEq

/-- `ReviewKnowledgeCandidateRequest` without its command id. An edit has a claim, the other
decisions have none, so the claim is part of the decision. -/
structure ReviewRequest where
  decision : ReviewDecision
  expectedStateVersion : Nat
  reason : String
  editedClaim : String
deriving DecidableEq

/-- `ReviewTopicPageRequest` without its command id. -/
structure PageReviewRequest where
  publish : Bool
  expectedVersion : Nat
  reason : String
deriving DecidableEq

inductive RevalidationTrigger where
  | explicit
  | sourceChange
  | recovery
deriving DecidableEq

/-- `ProposeFactUpdateRequest` without its command id. -/
structure ProposeRequest where
  kind : UpdateKind
  expectedFactStateVersion : Nat
  proposedClaim : Option String
  temporalScope : Scope
  viewpointScope : Scope
  evidenceUseIds : List Ident
  relatedRevisionId : Option Ident
  reason : String
deriving DecidableEq

/-- `ReviewFactUpdateRequest` without its command id. -/
structure UpdateReviewRequest where
  decision : ReviewDecision
  expectedCandidateVersion : Nat
  expectedFactStateVersion : Nat
  reason : String
  editedClaim : String
deriving DecidableEq

/-- `EditTopicPageRequest` without its command id. -/
structure PageEdit where
  title : Option String
  limitations : Option (List String)
  unresolved : Option (List String)
  annotation : Option String
deriving DecidableEq

/-- The payload of a command: what is hashed beside the task id. -/
inductive Command where
  | reviewCandidate (candidateId : Ident) (request : ReviewRequest)
  | build (input : BuildInput)
  | reviewPage (pageId : Ident) (request : PageReviewRequest)
  | revalidate (factRevisionIds : List Ident) (trigger : RevalidationTrigger)
  | proposeUpdate (factId : Ident) (request : ProposeRequest)
  | reviewUpdate (updateCandidateId : Ident) (request : UpdateReviewRequest)
  | runOperation (operationId : Ident) (claimantId : String)
  | resolveOperation (operationId : Ident) (retry : Bool) (expectedClaimGeneration : Nat)
      (reason : String)
  | exportPage (pageRevisionId : Ident) (format : ExportFormat)
  | editPage (pageId : Ident) (expectedVersion : Nat) (edit : PageEdit) (reason : String)
  | revertPage (pageId : Ident) (expectedVersion targetVersion : Nat) (reason : String)
deriving DecidableEq

/-- What a finalized build adds to its response. -/
inductive BuildOutput where
  | artifact (artifactId artifactRevisionId : Ident) (revision : Nat)
  | topicPage (pageId pageRevisionId : Ident) (version : Nat) (reviewStatus : ReviewStatus)

/-- The responses of the commands. A reused build has no output. -/
inductive Response where
  | candidateReviewed (candidateId : Ident) (status : CandidateStatus) (stateVersion : Nat)
      (factRevisionId editedCandidateId : Option Ident)
  | built (runId outputReference : Ident) (reusedBuild : Bool) (output : Option BuildOutput)
  | pageReviewed (pageId pageRevisionId : Ident) (version : Nat) (reviewStatus : ReviewStatus)
  | revalidated (observationSetId : Ident) (facts : List (Ident × Currentness × Option Ident))
  | updateProposed (updateCandidateId : Ident) (eligible : Bool) (status : CandidateStatus)
      (affectedArtifactIds affectedPageIds : List Ident)
  | updateReviewed (updateCandidateId : Ident) (status : CandidateStatus)
      (resultRevisionId operationId editedCandidateId : Option Ident)
  | operation (operation : UpdateOperation)
  | operationResolved (operationId : Ident) (status : OperationStatus) (claimGeneration : Nat)
  | pageRevised (pageId pageRevisionId : Ident) (version : Nat) (publishedVersion : Option Nat)

structure Receipt where
  commandId : String
  command : Command
  response : Response

/-! ## The store -/

/-- The rows of one task. `objective` is that of its active goal. -/
structure TaskKnowledge where
  taskId : Ident
  objective : String
  evidenceUses : Table EvidenceUse.useId
  validations : Table Validation.observationId
  candidates : Table Candidate.candidateId
  facts : Table Fact.factId
  artifacts : Table Artifact.artifactId
  pages : Table Page.pageId
  buildRuns : Table BuildRun.input
  updateCandidates : Table UpdateCandidate.updateCandidateId
  operations : Table UpdateOperation.operationId
  receipts : Table Receipt.commandId

def TaskKnowledge.empty (taskId : Ident) (objective : String) : TaskKnowledge where
  taskId := taskId
  objective := objective
  evidenceUses := Table.empty _
  validations := Table.empty _
  candidates := Table.empty _
  facts := Table.empty _
  artifacts := Table.empty _
  pages := Table.empty _
  buildRuns := Table.empty _
  updateCandidates := Table.empty _
  operations := Table.empty _
  receipts := Table.empty _

namespace TaskKnowledge

variable (store : TaskKnowledge)

/-- The fact that has a revision, with that revision. -/
def factRevision (revisionId : Ident) : Option (Fact × FactRevision) :=
  store.facts.child Fact.revisions fun revision => revision.revisionId = revisionId

def artifactRevision (revisionId : Ident) : Option (Artifact × ArtifactRevision) :=
  store.artifacts.child Artifact.revisions fun revision => revision.revisionId = revisionId

theorem factRevision_eq_some {store : TaskKnowledge} {revisionId : Ident} {fact : Fact}
    {revision : FactRevision} (found : store.factRevision revisionId = some (fact, revision)) :
    fact ∈ store.facts ∧ revision ∈ fact.revisions ∧ revision.revisionId = revisionId := by
  obtain ⟨isRow, isRevision, isId⟩ := Table.child_eq_some found
  exact ⟨isRow, isRevision, of_decide_eq_true isId⟩

theorem exists_factRevision {store : TaskKnowledge} {fact : Fact} {revision : FactRevision}
    (isRow : fact ∈ store.facts) (isRevision : revision ∈ fact.revisions) :
    ∃ other found, store.factRevision revision.revisionId = some (other, found) := by
  have found : ∃ pair, store.factRevision revision.revisionId = some pair :=
    Table.exists_child isRow isRevision (decide_eq_true rfl)
  obtain ⟨⟨other, later⟩, isFound⟩ := found
  exact ⟨other, later, isFound⟩

theorem artifactRevision_eq_some {store : TaskKnowledge} {revisionId : Ident} {artifact : Artifact}
    {revision : ArtifactRevision} (found : store.artifactRevision revisionId = some (artifact, revision)) :
    artifact ∈ store.artifacts ∧ revision ∈ artifact.revisions ∧ revision.revisionId = revisionId := by
  obtain ⟨isRow, isRevision, isId⟩ := Table.child_eq_some found
  exact ⟨isRow, isRevision, of_decide_eq_true isId⟩

theorem exists_artifactRevision {store : TaskKnowledge} {artifact : Artifact} {revision : ArtifactRevision}
    (isRow : artifact ∈ store.artifacts) (isRevision : revision ∈ artifact.revisions) :
    ∃ other found, store.artifactRevision revision.revisionId = some (other, found) := by
  have found : ∃ pair, store.artifactRevision revision.revisionId = some pair :=
    Table.exists_child isRow isRevision (decide_eq_true rfl)
  obtain ⟨⟨other, later⟩, isFound⟩ := found
  exact ⟨other, later, isFound⟩

end TaskKnowledge

/-- A refused transaction raises and is rolled back. -/
abbrev Transaction := Except ResearchFailure (TaskKnowledge × Response)

/-- A row whose primary key is taken: the kernel turns the error into a conflict. -/
def identityConflict : ResearchFailure := .conflict "research identity conflict"

/-- `INSERT` into a table that refuses a second row with its key. -/
def insertNew {Row Key : Type} [DecidableEq Key] {keyOf : Row → Key} (table : Table keyOf)
    (row : Row) : Except ResearchFailure (Table keyOf) :=
  match table.lookup (keyOf row) with
  | none => .ok (table.insert row)
  | some _ => .error identityConflict

theorem insertNew_eq_ok {Row Key : Type} [DecidableEq Key] {keyOf : Row → Key}
    {table after : Table keyOf} {row : Row} :
    insertNew table row = .ok after ↔
      table.lookup (keyOf row) = none ∧ table.insert row = after := by
  unfold insertNew
  split <;> rename_i found <;> simp [found]

/-- `_existing_receipt`: what a command answers that has been committed before. -/
def TaskKnowledge.existingReceipt (store : TaskKnowledge) (commandId : String)
    (command : Command) : Except ResearchFailure (Option Response) :=
  match store.receipts.lookup commandId with
  | none => .ok none
  | some receipt =>
      if receipt.command = command then .ok (some receipt.response)
      else .error (.conflict "同一 command_id 的 payload hash 不一致，已 fail closed")

variable {commandId : String} {command : Command}

theorem TaskKnowledge.existingReceipt_eq_none {store : TaskKnowledge} :
    store.existingReceipt commandId command = .ok none ↔
      store.receipts.lookup commandId = none := by
  unfold TaskKnowledge.existingReceipt
  cases found : store.receipts.lookup commandId with
  | none => simp
  | some receipt => by_cases same : receipt.command = command <;> simp [same]

theorem TaskKnowledge.existingReceipt_eq_some {store : TaskKnowledge} {response : Response} :
    store.existingReceipt commandId command = .ok (some response) ↔
      store.receipts.lookup commandId = some ⟨commandId, command, response⟩ := by
  unfold TaskKnowledge.existingReceipt
  cases found : store.receipts.lookup commandId with
  | none => simp
  | some receipt =>
      have isId : receipt.commandId = commandId := Table.key_of_lookup found
      obtain ⟨receiptId, receiptCommand, receiptResponse⟩ := receipt
      subst isId
      by_cases same : receiptCommand = command <;> simp [same]

/-- `_insert_receipt`. -/
def TaskKnowledge.insertReceipt (store : TaskKnowledge) (commandId : String) (command : Command)
    (response : Response) : TaskKnowledge :=
  { store with receipts := store.receipts.insert ⟨commandId, command, response⟩ }

/-- A command in one transaction: a receipt answers it, else its body runs and leaves one. -/
def transact (store : TaskKnowledge) (commandId : String) (command : Command)
    (body : Transaction) : Transaction := do
  match ← store.existingReceipt commandId command with
  | some response => pure (store, response)
  | none =>
      let (after, response) ← body
      pure (after.insertReceipt commandId command response, response)

theorem transact_eq_ok {store after : TaskKnowledge} {body : Transaction} {response : Response} :
    transact store commandId command body = .ok (after, response) ↔
      (store.receipts.lookup commandId = some ⟨commandId, command, response⟩ ∧ after = store) ∨
      (store.receipts.lookup commandId = none ∧ ∃ middle, body = .ok (middle, response) ∧
        after = middle.insertReceipt commandId command response) := by
  unfold transact
  rw [bind_eq_ok]
  constructor
  · rintro ⟨existing, isExisting, ran⟩
    cases existing with
    | some replayed =>
        simp only [pure_eq_ok, Prod.mk.injEq] at ran
        obtain ⟨rfl, rfl⟩ := ran
        exact .inl ⟨TaskKnowledge.existingReceipt_eq_some.mp isExisting, rfl⟩
    | none =>
        simp only [bind_eq_ok, pure_eq_ok, Prod.mk.injEq] at ran
        obtain ⟨⟨middle, answer⟩, isBody, rfl, rfl⟩ := ran
        exact .inr ⟨TaskKnowledge.existingReceipt_eq_none.mp isExisting, middle, isBody, rfl⟩
  · rintro (⟨found, rfl⟩ | ⟨absent, middle, isBody, rfl⟩)
    · exact ⟨some response, TaskKnowledge.existingReceipt_eq_some.mpr found, rfl⟩
    · refine ⟨none, TaskKnowledge.existingReceipt_eq_none.mpr absent, ?_⟩
      simp [isBody, bind, Except.bind, pure, Except.pure]

end Shiliu.Knowledge
