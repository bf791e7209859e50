/-
Module: Shiliu.Wiki.Merging
Purpose: `merge_pages` and the decision on a merge that was held back. A merge copies the visible blocks
  of one page onto another, with its deleted ones, and redirects the page.
Trusted boundary: none
Main exports: MergePages, carriedTombs, mergeBlocks, mergePages, decideMerge
-/
import Shiliu.Wiki.Reviewing

namespace Shiliu.Wiki

open Shiliu.Library Shiliu.Storage

structure MergePages where
  sourcePageId : String
  targetPageId : String
  spaceId : Nat
  sourceVersion : Nat
  targetVersion : Nat
  operationKey : String
  acceptConflict : Bool
  /-- `_visible_page`. -/
  visible : PageRecord → List Block
  now : Instant

/-- `str(block["heading"]).strip().casefold()`. -/
def foldedHeading (rules : WikiRules) (block : Block) : String :=
  rules.casefold (strip block.heading)

/-- The locked blocks of the source page that contradict one of the target page. The last block with
a heading stands for it. -/
def mergeConflicts (rules : WikiRules) (source target : List Block) : List Block :=
  source.filter fun block =>
    block.manualLock ∧
      ((target.filter Block.manualLock).reverse.find? fun other =>
          foldedHeading rules other = foldedHeading rules block).any fun other =>
        block.markdown ≠ other.markdown

/-! ## The blocks of the target page -/

/-- The deleted blocks of the source page, carried over one by one. -/
def carriedTombs (sourcePageId : String) (version : Nat) (blocks tombs : List Block) : List Block :=
  tombs.foldl (fun blocks tomb =>
    let carried := { tomb with lifecycleVersion := some version }
    blocks ++
      [if tomb.stableId ∈ blocks.map Block.stableId then
        { carried with
          deletedStableId := some tomb.stableId
          stableId := "tomb_" ++ sourcePageId ++ "_" ++ tomb.stableId }
      else carried]) blocks

/-- The blocks while the visible ones are copied, with the identities they got. -/
structure MergedBlocks where
  blocks : List Block
  mapped : List (String × String)
  nextId : Nat

/-- The target page has the block already. -/
def sameBlock (existing candidate : Block) : Bool :=
  existing.markdown = candidate.markdown ∧ existing.heading = candidate.heading ∧
    existing.sourceRefs = candidate.sourceRefs ∧ existing.assessment = candidate.assessment

/-- One round of the loop over the visible blocks of the source page. -/
def mergeBlock (conflictIds : List String) (merged : MergedBlocks) (block : Block) : MergedBlocks :=
  let place (nextId : Nat) (candidate : Block) : MergedBlocks :=
    let candidate :=
      if block.stableId ∈ conflictIds then { candidate with relation := "condition_difference" }
      else candidate
    ⟨merged.blocks ++ [candidate], merged.mapped ++ [(block.stableId, candidate.stableId)], nextId⟩
  match findBlock block.stableId merged.blocks with
  | none => place merged.nextId block
  | some existing =>
      if sameBlock existing block then
        { merged with mapped := merged.mapped ++ [(block.stableId, block.stableId)] }
      else
        place (merged.nextId + 1)
          { block with stableId := "wblock_merge_" ++ toString merged.nextId }

/-- The blocks of the target page after the merge. -/
def mergeBlocks (call : MergePages) (nextId : Nat) (conflicts : List Block)
    (source target : PageRecord) : MergedBlocks :=
  (call.visible source).foldl (mergeBlock (conflicts.map Block.stableId))
    ⟨carriedTombs call.sourcePageId (call.targetVersion + 1) target.page.blocks
      (source.page.blocks.filter Block.isDeleted), [], nextId⟩

/-! ## The rows -/

/-- `mapped_ids[block_id]`; a later entry overwrites an earlier one. -/
def mappedId (mapped : List (String × String)) (blockId : String) : Option String :=
  (mapped.reverse.find? fun entry => entry.1 = blockId).map Prod.snd

/-- The source rows of the target page with those of the copied blocks. -/
def mergeSources (mapped : List (String × String)) (rows sourceRows : List SourceDependency) :
    List SourceDependency :=
  sourceRows.foldl (fun rows row =>
    match mappedId mapped row.blockId with
    | some blockId => insertSourceOnce rows { row with blockId := blockId }
    | none => rows) rows

/-- The personal rows; a block has one at most. -/
def mergePersonal (mapped : List (String × String)) (rows sourceRows : List PersonalDependency) :
    List PersonalDependency :=
  sourceRows.foldl (fun rows row =>
    match mappedId mapped row.blockId with
    | some blockId =>
        if rows.any fun other => other.blockId = blockId then rows
        else rows ++ [{ row with blockId := blockId }]
    | none => rows) rows

/-- The target page after the merge. -/
def mergedTarget (call : MergePages) (merged : MergedBlocks) (source target : PageRecord) :
    PageRecord :=
  { target with
    page :=
      { target.page with
        blocks := merged.blocks
        summary := "已合并相关主题；不同说法请按各块条件和来源查看。"
        version := call.targetVersion + 1
        updatedAt := call.now }
    sources := mergeSources merged.mapped target.sources source.sources
    personal := mergePersonal merged.mapped target.personal source.personal
    materials := source.materials.foldl insertMaterialOnce target.materials }

/-- The source page after the merge. -/
def mergedSource (call : MergePages) (source : PageRecord) : PageRecord :=
  { source with
    page :=
      { source.page with
        status := .merged
        version := call.sourceVersion + 1
        updatedAt := call.now } }

/-- The writes of `merge_pages`. The redirect is there before the changes are recorded. -/
def merged (store : WikiStore) (call : MergePages) (conflicts : List Block)
    (source target : PageRecord) : Written :=
  let blocks := mergeBlocks call store.nextId conflicts source target
  let targetState := store.operationState target
  let sourceState := store.operationState source
  let redirected :=
    { store with
      nextId := blocks.nextId
      redirects := store.redirects.insert ⟨call.sourcePageId, call.targetPageId, call.spaceId⟩ }
  let after := redirected.commit
    ⟨mergedTarget call blocks source target, .merged, some target.page, some targetState⟩ none
  (after.commit ⟨mergedSource call source, .merged, some source.page, some sourceState⟩ none,
    .merged call.targetPageId (call.targetVersion + 1) call.sourcePageId)

/-! ## The call -/

/-- How a merge ends. -/
inductive MergeResult where
  | done (result : Receipt)
  | held (proposalId : String) (status : ProposalStatus)

/-- The digest of a merge with its conflicts. -/
def mergeFingerprint (rules : WikiRules) (call : MergePages) (conflicts : List Block) : String :=
  rules.digest (",".intercalate ([call.sourcePageId, call.targetPageId,
    toString call.sourceVersion, toString call.targetVersion] ++ conflicts.map Block.stableId))

/-- The proposal of a merge with conflicts, new or from before. -/
def holdMerge (rules : WikiRules) (store : WikiStore) (call : MergePages)
    (conflicts : List Block) : Except Failure (WikiStore × MergeResult) :=
  let fingerprint := mergeFingerprint rules call conflicts
  match store.proposals.rows.find? fun proposal =>
      proposal.kind = .merge ∧ proposal.spaceId = call.spaceId ∧
        proposal.targetPageId = call.targetPageId ∧
        proposal.inputFingerprint = fingerprint with
  | some proposal => .ok (store, .held proposal.id proposal.status)
  | none => do
      let (proposalId, store) := store.freshId "awprop_"
      ensure (store.proposals.lookup proposalId = none) .uniqueViolation
      return ({ store with
        proposals := store.proposals.insert
          { id := proposalId
            spaceId := call.spaceId
            kind := .merge
            targetPageId := call.targetPageId
            targetVersion := call.targetVersion
            source := some (call.sourcePageId, call.sourceVersion)
            inputFingerprint := fingerprint
            payload := none
            status := .pending
            contentVersion := 1
            supersedesId := none } }, .held proposalId .pending)

/-- `merge_pages`. -/
def mergePages (rules : WikiRules) (store : WikiStore) (call : MergePages) :
    Except Failure (WikiStore × MergeResult) := do
  ensure (call.sourcePageId ≠ call.targetPageId) (.valueError "same_wiki_page")
  match store.receipt call.operationKey with
  | some result => return (store, .done result)
  | none =>
      let source ← store.activePage call.sourcePageId call.spaceId
      let target ← store.activePage call.targetPageId call.spaceId
      ensure (source.page.version = call.sourceVersion ∧ target.page.version = call.targetVersion)
        (.assistantConflict "wiki_version_conflict")
      ensure (call.visible source ≠ []) (.assistantConflict "wiki_source_has_no_current_content")
      let conflicts := mergeConflicts rules (call.visible source) (call.visible target)
      if conflicts ≠ [] ∧ call.acceptConflict = false then
        holdMerge rules store call conflicts
      else
        assertLifecycle target.page ((call.visible source).map Block.incoming) ""
        ensure (store.redirects.lookup call.sourcePageId = none) .uniqueViolation
        let written := merged store call conflicts source target
        return (written.1.insertReceipt call.operationKey written.2, .done written.2)

/-- `decide_proposal` of a merge. -/
structure DecideMerge where
  proposalId : String
  spaceId : Nat
  accept : Bool
  operationKey : String
  /-- `list_proposals` does not show the proposal any more. -/
  outdated : Bool
  visible : PageRecord → List Block
  now : Instant

/-- The merge a proposal asks for. -/
def DecideMerge.merge (call : DecideMerge) (proposal : Proposal) (source : String × Nat) :
    MergePages :=
  { sourcePageId := source.1
    targetPageId := proposal.targetPageId
    spaceId := proposal.spaceId
    sourceVersion := source.2
    targetVersion := proposal.targetVersion
    operationKey := "wiki_proposal_merge:" ++ proposal.id
    acceptConflict := true
    visible := call.visible
    now := call.now }

/-- The decision on a pending merge. -/
def decidePendingMerge (rules : WikiRules) (store : WikiStore) (call : DecideMerge)
    (proposal : Proposal) (source : String × Nat) : Except Failure (WikiStore × Decision) :=
  if call.outdated = true then .ok (store.settleProposal proposal.id .stale, .stale)
  else if call.accept = false then
    .ok ((store.settleProposal proposal.id .rejected).insertReceipt call.operationKey
      (.decision proposal.id .rejected none), .rejected)
  else do
    let mergedStore ← mergePages rules store (call.merge proposal source)
    return ((mergedStore.1.settleProposal proposal.id .accepted).insertReceipt call.operationKey
        (.decision proposal.id .accepted (some (proposal.targetPageId, proposal.targetVersion + 1))),
      .accepted proposal.targetPageId (proposal.targetVersion + 1))

def decideMerge (rules : WikiRules) (store : WikiStore) (call : DecideMerge) :
    Except Failure (WikiStore × Decision) :=
  match store.proposals.lookup call.proposalId with
  | none => .error .keyError
  | some proposal =>
      match proposal.source with
      | none => .error .keyError
      | some source => do
          ensure (proposal.spaceId = call.spaceId) .keyError
          match store.receipt call.operationKey with
          | some result =>
              ensure (result.decides proposal.id = true)
                (.assistantConflict "operation_key_conflict")
              return (store, .answered result)
          | none =>
              if proposal.status = .pending then
                decidePendingMerge rules store call proposal source
              else return (store, .settled proposal.status)

end Shiliu.Wiki
