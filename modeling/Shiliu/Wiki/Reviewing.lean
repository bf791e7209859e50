/-
Module: Shiliu.Wiki.Reviewing
Purpose: The proposals that hold a source patch until a user has reviewed it. `_create_source_patch` writes one,
  `_decide_source_patch` publishes it or lets it go, `validate_source_proposal` marks one whose basis is
  gone, and `apply_patch` is the commit of a job, which either publishes or proposes.
Trusted boundary: none
Main exports: ReviewBasis, validateSourcePatch, Decision, decideSourcePatch, validateSourceProposal
-/
import Mathlib.Data.List.MinMax
import Shiliu.Wiki.SourcePatches

namespace Shiliu.Wiki

open Shiliu.Library Shiliu.Storage

/-! ## `_validate_source_patch` -/

/-- What a review reads of other services. -/
structure ReviewBasis where
  around : Surroundings
  /-- `_validate_source_scope`. -/
  scope : Except Failure Unit
  /-- The payload of the job that proposed the patch is the request still. -/
  originKept : Bool
  taskSubset : List Nat
  /-- The snapshot of a video is that of the revision. -/
  snapshotCurrent : Nat → String → Bool
  /-- `_visible_page`, in the task's projection. -/
  visible : PageRecord → List Block
  inputSuppressed : Bool
  admittedVideos : List Nat
  cardVideo : String → Option Nat

/-- The publication a proposal asks for. -/
def PatchPayload.publication (payload : PatchPayload) (basis : ReviewBasis) (proposal : Proposal) :
    Publication :=
  { spaceId := proposal.spaceId
    videoId := payload.videoId
    revision := payload.revision
    expectedVersion := proposal.targetVersion
    patch := payload.patch
    scopeVersion := payload.scopeVersion
    around := basis.around
    admittedVideos := basis.admittedVideos
    cardVideo := basis.cardVideo }

/-- The reviewed revisions: those of the page, and those that come with the patch. -/
def assertRevision (basis : ReviewBasis) (incoming : List String) (revision : String) :
    Except Failure Unit :=
  match basis.around.heads.find? fun head => head.2 = revision with
  | none => .error (.assistantConflict "wiki_source_out_of_scope")
  | some head => do
      ensure (head.1 ∈ basis.around.visibleVideos ∧
          (revision ∈ incoming → basis.taskSubset = [] ∨ head.1 ∈ basis.taskSubset))
        (.assistantConflict "wiki_source_out_of_scope")
      ensure (basis.snapshotCurrent head.1 revision = true)
        (.assistantConflict "source_revision_changed")

/-- The check of the block a review revises. -/
def assertReviewTarget (basis : ReviewBasis) (patch : SourcePatch) (record : PageRecord)
    (current incoming : List String) : Except Failure Unit :=
  if patch.localOperation = some .reviseBlock then
    match (basis.visible record).find? fun block => some block.stableId = patch.targetBlockId with
    | none => .error (.assistantConflict "wiki_manual_conflict")
    | some target => do
        ensure (target.manualLock = false) (.assistantConflict "wiki_manual_conflict")
        ensure (∀ ref ∈ target.sourceRefs, ref ∈ current → ref ∈ incoming)
          (.assistantConflict "proposal_missing_source_coverage")
  else .ok ()

/-- The references of the page with those of the patch. -/
def reviewedRefs (patch : SourcePatch) (page : Page) (incoming : List String) : List String :=
  incoming ++ (page.blocks.filter fun block =>
    patch.localOperation ≠ some .reviseBlock ∨
      some block.stableId ≠ patch.targetBlockId).flatMap Block.sourceRefs

/-- `_validate_source_patch`. -/
def validateSourcePatch (store : WikiStore) (basis : ReviewBasis) (proposal : Proposal)
    (payload : PatchPayload) : Except Failure PageRecord := do
  basis.scope
  ensure (basis.originKept = true) (.assistantConflict "wiki_proposal_origin_changed")
  match store.pages.lookup proposal.targetPageId with
  | none => .error (.assistantConflict "wiki_page_missing")
  | some record => do
      let patch := payload.patch
      ensure (record.page.spaceId = proposal.spaceId) (.assistantConflict "wiki_page_missing")
      ensure (record.page.version = proposal.targetVersion)
        (.assistantConflict "wiki_version_conflict")
      ensure ((patch.localOperation = some .addBlock ∨ patch.localOperation = some .reviseBlock) ∧
        patch.replaceDerived = false) (.assistantConflict "wiki_proposal_operation_invalid")
      assertLifecycle record.page (patch.blocks.map PatchBlock.incoming) patch.targetId
      let publication := payload.publication basis proposal
      let incoming := publication.incomingRefs
      (payload.revision :: payload.sourceRevisions ++ incoming).forM
        (assertRevision basis (payload.revision :: incoming))
      let current := publication.currentRevisions record.page record.sources
      assertReviewTarget basis patch record current incoming
      let retained := reviewedRefs patch record.page incoming
      ensure ((∀ ref ∈ current, ref ∈ retained) ∧ payload.revision ∈ retained)
        (.assistantConflict "proposal_missing_source_coverage")
      ensure (∀ row ∈ record.personal, basis.around.personalCurrent row = true)
        (.assistantConflict "wiki_personal_dependency_changed")
      ensure (basis.inputSuppressed = false) (.assistantConflict "wiki_task_input_stale")
      return record

/-! ## `_create_source_patch` and `apply_patch` -/

/-- The commit of a job's patch. -/
structure ApplyPatch where
  publication : Publication
  /-- The fence of the job and `_require_publish_allowed`. -/
  fence : Except Failure Unit
  /-- `_source_direct_authorized`. -/
  direct : Bool
  /-- The review of the proposal that is created. -/
  basis : ReviewBasis
  /-- The digest of the content of the proposal. -/
  fingerprint : Page → List String → String

/-- The latest proposal for a page, by `content_version`. -/
def WikiStore.latestPatch (store : WikiStore) (spaceId : Nat) (pageId : String) : Option Proposal :=
  (store.proposals.rows.filter fun proposal =>
    proposal.spaceId = spaceId ∧ proposal.kind = .sourcePatch ∧
      proposal.targetPageId = pageId).argmax Proposal.contentVersion

/-- The proposal a job's patch makes. -/
def ApplyPatch.proposal (call : ApplyPatch) (store : WikiStore) (record : PageRecord)
    (sourceRevisions : List String) (proposalId : String) : Proposal :=
  let publication := call.publication
  let previous := store.latestPatch publication.spaceId record.page.id
  { id := proposalId
    spaceId := publication.spaceId
    kind := .sourcePatch
    targetPageId := record.page.id
    targetVersion := publication.expectedVersion
    source := none
    inputFingerprint := call.fingerprint record.page sourceRevisions
    payload := some
      { patch := publication.patch
        before := record.page
        scopeVersion := publication.scopeVersion
        videoId := publication.videoId
        revision := publication.revision
        sourceRevisions := sourceRevisions }
    status := .pending
    contentVersion := (previous.map fun proposal => proposal.contentVersion + 1).getD 1
    supersedesId := previous.map Proposal.id }

/-- A proposal that is new: it takes the place of the pending ones of its page. -/
def insertSourcePatch (store : WikiStore) (call : ApplyPatch) (record : PageRecord)
    (sourceRevisions : List String) : Except Failure (WikiStore × String × ProposalStatus) := do
  let (proposalId, store) := store.freshId "wproposal_"
  let proposal := call.proposal store record sourceRevisions proposalId
  let payload ← proposal.payload.elim (.error .keyError) .ok
  let _ ← validateSourcePatch store call.basis proposal payload
  ensure (store.proposals.lookup proposalId = none) .uniqueViolation
  let store := store.expireSourcePatches record.page.id none
  return ({ store with proposals := store.proposals.insert proposal }, proposalId, .pending)

/-- `_create_source_patch`. -/
def createSourcePatch (rules : WikiRules) (store : WikiStore) (call : ApplyPatch) :
    Except Failure (WikiStore × String × ProposalStatus) :=
  let publication := call.publication
  match store.titled publication.spaceId (rules.normalizeTitle publication.patch.title) with
  | none => .error (.assistantConflict "wiki_page_missing")
  | some record =>
      let sourceRevisions := publication.currentRevisions record.page record.sources
      match store.proposals.rows.find? fun proposal =>
          proposal.spaceId = publication.spaceId ∧ proposal.kind = .sourcePatch ∧
            proposal.targetPageId = record.page.id ∧
            proposal.inputFingerprint = call.fingerprint record.page sourceRevisions with
      | some identical => .ok (store, identical.id, identical.status)
      | none => insertSourcePatch store call record sourceRevisions

/-- How the commit of a patch ends. -/
inductive PatchResult where
  | published (pageId : String) (version : Nat)
  | proposed (proposalId : String) (status : ProposalStatus)

/-- `apply_patch`. -/
def applyPatch (rules : WikiRules) (store : WikiStore) (call : ApplyPatch) :
    Except Failure (WikiStore × PatchResult) := do
  call.fence
  let publication := call.publication
  let operation := publication.patch.localOperation
  if call.direct = true ∨ operation = some .associate then
    let published ← publishSourcePatch rules store publication none
    return (published.1, .published published.2.1 published.2.2)
  else
    ensure ((operation = some .addBlock ∨ operation = some .reviseBlock) ∧
      publication.expectedVersion ≠ 0) (.assistantConflict "unattended_wiki_requires_local_patch")
    let created ← createSourcePatch rules store call
    return (created.1, .proposed created.2.1 created.2.2)

/-! ## `_decide_source_patch` -/

/-- `decide_proposal` of a source patch. -/
structure DecideSourcePatch where
  proposalId : String
  spaceId : Nat
  accept : Bool
  operationKey : String
  expectedContentVersion : Nat
  expectedTargetVersion : Nat
  /-- `_source_patch_evidence` failed before the transaction. -/
  evidenceFailed : Bool
  basis : ReviewBasis

/-- How a decision ends. A stale proposal is marked, and the call raises after the commit. -/
inductive Decision where
  | answered (result : Receipt)
  | settled (status : ProposalStatus)
  | accepted (pageId : String) (version : Nat)
  | rejected
  | stale
deriving DecidableEq

/-- The receipt of a decision about a proposal. -/
def Receipt.decides (proposalId : String) : Receipt → Bool
  | .decision decided _ _ => decided = proposalId
  | _ => false

/-- The row of a proposal of a space, or `KeyError`. -/
def WikiStore.proposal (store : WikiStore) (proposalId : String) (spaceId : Nat) :
    Except Failure Proposal :=
  match store.proposals.lookup proposalId with
  | none => .error .keyError
  | some proposal => do
      ensure (proposal.spaceId = spaceId) .keyError
      return proposal

/-- A source patch with its payload. -/
def WikiStore.sourceProposal (store : WikiStore) (proposalId : String) (spaceId : Nat) :
    Except Failure (Proposal × PatchPayload) := do
  let proposal ← store.proposal proposalId spaceId
  ensure (proposal.kind = .sourcePatch) (.assistantConflict "wiki_proposal_kind")
  let payload ← proposal.payload.elim (.error (.assistantConflict "wiki_proposal_kind")) .ok
  return (proposal, payload)

/-- `UPDATE … SET status WHERE status='pending'`. -/
def WikiStore.settleProposal (store : WikiStore) (proposalId : String) (status : ProposalStatus) :
    WikiStore :=
  { store with
    proposals := store.proposals.updateWhere
      (fun proposal => proposal.id = proposalId ∧ proposal.status = .pending)
      ⟨fun proposal => { proposal with status := status }, fun _ => rfl⟩ }

/-- `view["confirmable"]` of a pending proposal. -/
def confirmable (store : WikiStore) (basis : ReviewBasis) (proposal : Proposal)
    (payload : PatchPayload) : Bool :=
  (validateSourcePatch store basis proposal payload).toBool

/-- A proposal that is accepted and can be: its patch is published, for it alone. -/
def acceptSourcePatch (rules : WikiRules) (store : WikiStore) (call : DecideSourcePatch)
    (proposal : Proposal) (payload : PatchPayload) : Except Failure (WikiStore × Decision) := do
  let published ← publishSourcePatch rules store (payload.publication call.basis proposal)
    (some proposal.id)
  return ((published.1.settleProposal proposal.id .accepted).insertReceipt call.operationKey
    (.decision proposal.id .accepted (some published.2)),
    .accepted published.2.1 published.2.2)

/-- The decision on a pending proposal. -/
def decidePending (rules : WikiRules) (store : WikiStore) (call : DecideSourcePatch)
    (proposal : Proposal) (payload : PatchPayload) : Except Failure (WikiStore × Decision) :=
  if call.accept = false then
    .ok ((store.settleProposal proposal.id .rejected).insertReceipt call.operationKey
      (.decision proposal.id .rejected none), .rejected)
  else if call.evidenceFailed = true ∨
      confirmable store call.basis proposal payload = false then
    .ok (store.settleProposal proposal.id .stale, .stale)
  else acceptSourcePatch rules store call proposal payload

/-- `_decide_source_patch`. -/
def decideSourcePatch (rules : WikiRules) (store : WikiStore) (call : DecideSourcePatch) :
    Except Failure (WikiStore × Decision) := do
  let (proposal, payload) ← store.sourceProposal call.proposalId call.spaceId
  ensure (call.expectedContentVersion = proposal.contentVersion ∧
      call.expectedTargetVersion = proposal.targetVersion)
    (.assistantConflict "wiki_proposal_review_version_conflict")
  match store.receipt call.operationKey with
  | some result =>
      ensure (result.decides proposal.id = true) (.assistantConflict "operation_key_conflict")
      return (store, .answered result)
  | none =>
      if proposal.status = .pending then decidePending rules store call proposal payload
      else return (store, .settled proposal.status)

/-! ## `validate_source_proposal` -/

structure ValidateSourceProposal where
  proposalId : String
  spaceId : Nat
  basis : ReviewBasis

/-- `validate_source_proposal`. -/
def validateSourceProposal (store : WikiStore) (call : ValidateSourceProposal) :
    Except Failure (WikiStore × Bool) := do
  let (proposal, payload) ← store.sourceProposal call.proposalId call.spaceId
  if proposal.status = .pending ∧ confirmable store call.basis proposal payload = false then
    return (store.settleProposal proposal.id .stale, false)
  else return (store, confirmable store call.basis proposal payload)

end Shiliu.Wiki
