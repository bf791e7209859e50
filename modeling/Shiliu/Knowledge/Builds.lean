/-
Module: Shiliu.Knowledge.Builds
Purpose: `build_artifact`, `build_topic_page` and `review_page`. A build is two transactions: one
  reserves a run for the input, one finalizes it. A run that has already succeeded for the same
  input is reused, and the response of a reused build carries no output.
Trusted boundary: none
Main exports: validateBuildInput, reserveBuild, finalizeBuild, BuildStep, reviewPage
-/
import Shiliu.Knowledge.Candidates

namespace Shiliu.Knowledge

open Shiliu.Library Shiliu.Research

/-! ## What may be built -/

/-- The current and current-grounded head of a fact. -/
def Fact.headIs (fact : Fact) (revisionId : Ident) : Bool :=
  fact.currentRevisionId = revisionId ∧ fact.lifecycle = .current ∧ fact.currentness = .current

/-- An accepted, current-grounded fact revision. -/
def buildableRevision (store : TaskKnowledge) (revisionId : Ident) : Bool :=
  match store.factRevision revisionId with
  | none => false
  | some (fact, revision) =>
      (store.candidates.lookup fact.originCandidateId).any (·.status = .accepted) &&
        !revision.links.isEmpty &&
        revision.links.all (fun link =>
          (store.validations.lookup link.observationId).any (·.outcome = .current)) &&
        fact.headIs revisionId

/-- The latest revision of its artifact, none of whose known facts has moved on. -/
def buildableArtifact (store : TaskKnowledge) (artifactRevisionId : Ident) : Bool :=
  match store.artifactRevision artifactRevisionId with
  | none => false
  | some (artifact, revision) =>
      revision.revision = (artifact.revisions.map ArtifactRevision.revision).foldr max 0 &&
        revision.factRevisionIds.all fun factRevisionId =>
          (store.factRevision factRevisionId).all fun found => found.1.headIs factRevisionId

/-- `_validate_build_input`. -/
def validateBuildInput (store : TaskKnowledge) : BuildInput → Except ResearchFailure Unit
  | .artifact factRevisionIds =>
      ensure (factRevisionIds.all (buildableRevision store) = true)
        (.validation "artifact inputs must be accepted, current-grounded Fact revisions from this Task")
  | .topicPage artifactRevisionId =>
      ensure (buildableArtifact store artifactRevisionId = true)
        (.validation
          "page input must be the latest current-grounded Artifact revision from this Task")

/-! ## Finalizing -/

/-- The line of a fact revision: its claim and the evidence it cites. -/
def FactRevision.line (revision : FactRevision) : FactLine :=
  ⟨revision.revisionId, revision.claimText, revision.links.map EvidenceLink.evidenceId⟩

/-- The lines of fact revisions, if all of them are there. -/
def factLines (store : TaskKnowledge) : List Ident → Option (List FactLine)
  | [] => some []
  | revisionId :: rest => do
      let (_, revision) ← store.factRevision revisionId
      let lines ← factLines store rest
      pure (revision.line :: lines)

def artifactLimitations : List String :=
  ["仅包含本次显式接受且接受时通过当前性验证的 Fact"]

def artifactIdOf (taskId : Ident) (factRevisionIds : List Ident) : Ident :=
  .hashed "kartifact" [taskId, (BuildInput.artifact factRevisionIds).ident]

def artifactRevisionIdOf (artifactId : Ident) (revision : Nat) : Ident :=
  .hashed "kartifactrev" [artifactId, .number revision]

/-- The first revision of an artifact. -/
def builtArtifactRevision (taskId : Ident) (objective : String) (factRevisionIds : List Ident)
    (lines : List FactLine) : ArtifactRevision where
  revisionId := artifactRevisionIdOf (artifactIdOf taskId factRevisionIds) 1
  revision := 1
  parentRevisionId := none
  topic := objective
  facts := lines
  limitations := artifactLimitations
  unresolved := []
  factRevisionIds := factRevisionIds

/-- `_finalize_artifact`. -/
def finalizeArtifact (store : TaskKnowledge) (factRevisionIds : List Ident) :
    Except ResearchFailure (TaskKnowledge × BuildOutput) :=
  match factLines store factRevisionIds with
  | none => .error (.validation "Fact revision left Task boundary")
  | some lines => do
      let artifactId := artifactIdOf store.taskId factRevisionIds
      let revision := builtArtifactRevision store.taskId store.objective factRevisionIds lines
      let artifacts ← insertNew store.artifacts ⟨artifactId, [revision]⟩
      pure ({ store with artifacts := artifacts },
        .artifact artifactId revision.revisionId revision.revision)

def pageIdOf (taskId : Ident) (artifactRevisionId : Ident) : Ident :=
  .hashed "topicpage" [taskId, (BuildInput.topicPage artifactRevisionId).ident]

def pageRevisionIdOf (pageId : Ident) (version : Nat) : Ident :=
  .hashed "topicpagerev" [pageId, .number version]

/-- The first revision of a page. -/
def builtPageRevision (pageId : Ident) (artifact : ArtifactRevision) : PageRevision where
  revisionId := pageRevisionIdOf pageId 1
  version := 1
  parentRevisionId := none
  revertOf := none
  kind := .initial
  artifactRevisionId := artifact.revisionId
  title := artifact.topic
  facts := artifact.facts
  limitations := artifact.limitations
  unresolved := artifact.unresolved
  annotation := none
  factRevisionIds := artifact.factRevisionIds

def builtPage (pageId : Ident) (artifact : ArtifactRevision) : Page where
  pageId := pageId
  currentVersion := 1
  publishedVersion := none
  reviewStatus := .draft
  stateVersion := 0
  revisions := [builtPageRevision pageId artifact]

/-- `_finalize_topic_page`. -/
def finalizeTopicPage (store : TaskKnowledge) (artifactRevisionId : Ident) :
    Except ResearchFailure (TaskKnowledge × BuildOutput) :=
  match store.artifactRevision artifactRevisionId with
  | none => .error (.validation "Artifact revision left Task boundary")
  | some (_, artifact) => do
      let pageId := pageIdOf store.taskId artifactRevisionId
      let pages ← insertNew store.pages (builtPage pageId artifact)
      pure ({ store with pages := pages },
        .topicPage pageId (pageRevisionIdOf pageId 1) 1 .draft)

def BuildInput.finalize (store : TaskKnowledge) :
    BuildInput → Except ResearchFailure (TaskKnowledge × BuildOutput)
  | .artifact factRevisionIds => finalizeArtifact store factRevisionIds
  | .topicPage artifactRevisionId => finalizeTopicPage store artifactRevisionId

/-- `output["output_reference"]`. -/
def BuildOutput.reference : BuildOutput → Ident
  | .artifact _ artifactRevisionId _ => artifactRevisionId
  | .topicPage _ pageRevisionId _ _ => pageRevisionId

/-! ## The two transactions of a build -/

def BuildInput.runId (store : TaskKnowledge) (input : BuildInput) : Ident :=
  .hashed "kbuild" [store.taskId, input.ident]

/-- A run that is started for the first time. -/
def BuildInput.newRun (store : TaskKnowledge) (input : BuildInput) (commandId : String) :
    BuildRun where
  input := input
  runId := input.runId store
  commandId := commandId
  status := .running
  attemptCount := 1
  outputReference := none

def retryBuild : Change BuildRun.input :=
  ⟨fun run => { run with attemptCount := run.attemptCount + 1 }, fun _ => rfl⟩

def succeedBuild (outputReference : Ident) : Change BuildRun.input :=
  ⟨fun run => { run with status := .succeeded, outputReference := some outputReference },
    fun _ => rfl⟩

/-- `status='succeeded'` with the output reference. -/
def TaskKnowledge.succeed (store : TaskKnowledge) (input : BuildInput) (reference : Ident) :
    TaskKnowledge :=
  { store with buildRuns := store.buildRuns.modify input (succeedBuild reference) }

/-- Where a call of `_run_build` is after a transaction. -/
inductive BuildStep where
  | returned (response : Response)
  | reserved

/-- The first transaction of `_run_build`. -/
def reserveBuild (store : TaskKnowledge) (commandId : String) (input : BuildInput) :
    Except ResearchFailure (TaskKnowledge × BuildStep) := do
  match ← store.existingReceipt commandId (.build input) with
  | some response => pure (store, .returned response)
  | none =>
      validateBuildInput store input
      match store.buildRuns.lookup input with
      | none =>
          pure ({ store with buildRuns := store.buildRuns.insert (input.newRun store commandId) },
            .reserved)
      | some run =>
          match run.status with
          | .succeeded =>
              -- `_build_response` alone: nothing of what the first build answered beside it
              let response := Response.built run.runId (run.outputReference.getD run.runId) true none
              pure (store.insertReceipt commandId (.build input) response, .returned response)
          | .failed => .error (.unsafeState "failed BuildRun requires Stage 2 recovery")
          | .queued | .running =>
              pure ({ store with buildRuns := store.buildRuns.modify input retryBuild }, .reserved)

/-- The second transaction of `_run_build`. -/
def finalizeBuild (store : TaskKnowledge) (commandId : String) (input : BuildInput) :
    Transaction :=
  transact store commandId (.build input) do
    match store.buildRuns.lookup input with
    | none => .error (.conflict "BuildRun state changed during synchronous build")
    | some run =>
        ensure (run.status = .running) (.conflict "BuildRun state changed during synchronous build")
        let (built, output) ← input.finalize store
        pure (built.succeed input output.reference,
          .built run.runId output.reference false (some output))

/-! ## Reviewing a page -/

/-- A decision on the current version of a page. -/
def decidePage (publish : Bool) (version : Nat) : Change Page.pageId :=
  ⟨fun page =>
    { page with
      reviewStatus := if publish then .published else .returned
      publishedVersion := if publish then some version else page.publishedVersion
      stateVersion := page.stateVersion + 1 },
    fun _ => rfl⟩

def TaskKnowledge.decidePage (store : TaskKnowledge) (pageId : Ident) (publish : Bool)
    (version : Nat) : TaskKnowledge :=
  { store with pages := store.pages.modify pageId (Knowledge.decidePage publish version) }

/-- `review_page`. -/
def reviewPage (store : TaskKnowledge) (commandId : String) (pageId : Ident)
    (request : PageReviewRequest) : Transaction :=
  transact store commandId (.reviewPage pageId request) do
    match store.pages.lookup pageId with
    | none => .error (.notFound "Topic Page 不存在")
    | some page =>
        ensure (page.currentVersion = request.expectedVersion)
          (.conflict s!"stale page version: expected {request.expectedVersion}, current {page.currentVersion}")
        ensure (page.reviewStatus = .draft) 
          (.conflict ("Topic Page 已完成审查: " ++ page.reviewStatus.value))
        match page.revisions.find? fun revision => revision.version = request.expectedVersion with
        | none => .error (.unsafeState "Topic Page current revision missing")
        | some revision =>
            pure (store.decidePage pageId request.publish request.expectedVersion,
              .pageReviewed pageId revision.revisionId request.expectedVersion
                (if request.publish then .published else .returned))

end Shiliu.Knowledge
