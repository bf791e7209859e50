/-
Module: Shiliu.Wiki.Reverting
Purpose: `revert`, which takes one change of a page back. The page gets the blocks and the dependency rows of
  the operation state before the change, with the later edits on top. Which edits those are is read
  off the images the later changes recorded. A merge the change made is undone on its source page too.
Trusted boundary: none
Main exports: RevertPage, targetState, independentIds, revertedRecord, undoMerge, revert
-/
import Shiliu.Wiki.Merging

namespace Shiliu.Wiki

open Shiliu.Library Shiliu.Storage

structure RevertPage where
  pageId : String
  targetVersion : Nat
  expectedVersion : Nat
  operationKey : String

/-! ## What is restored -/

/-- The operation state a revert goes back to. -/
def targetState (record : PageRecord) (version : Nat) : Option OperationState :=
  match record.states.find? fun row => row.version = version with
  | some row => some row.after
  | none => (record.states.find? fun row => row.version = version + 1).bind StateRow.before

/-- `{block["stable_id"]: block for block in blocks}`: the last block with an identity stands for it. -/
def blockAt (blocks : List Block) (blockId : String) : Option Block :=
  findBlock blockId blocks.reverse

/-- The keys of that dictionary. -/
def blockIds (blocks : List Block) : List String := (blocks.map Block.stableId).eraseDups

/-- The changes after the one that is taken back. -/
def laterChanges (record : PageRecord) (version : Nat) : List PageChange :=
  record.changes.filter fun change => version + 1 < change.version

/-- The changes a revert may leave standing. -/
def Operation.isIndependent (operation : Operation) : Bool :=
  operation ∈ [.blockEdited, .personalNoteAdded, .deleteBlock, .restoreBlock]

/-- A locked block of the image after the change that is not in the image before it. -/
def PageChange.edits (change : PageChange) (blockId : String) : Bool :=
  (blockAt change.after.blocks blockId).any fun block =>
    block.manualLock ∧
      change.before.bind (fun page => blockAt page.blocks blockId) ≠ some block

/-- `independent_ids`, before those of the deletions are added. -/
def independentIds (later : List PageChange) : List String :=
  (later.flatMap fun change =>
    (change.after.blocks.map Block.stableId).filter change.edits).eraseDups

/-- `lifecycle_ids`: the blocks that were deleted or restored since. -/
def lifecycleIds (version : Nat) (blocks : List Block) : List String :=
  (blocks.filter fun block => version < block.lifecycleVersion.getD 0).map Block.stableId

/-- A block of the target, or the current one where it was edited since. -/
def desiredBlock (independent : List String) (current target : List Block) (blockId : String) :
    Option Block :=
  if blockId ∈ independent then (blockAt current blockId).or (blockAt target blockId)
  else blockAt target blockId

/-- `restored_blocks`. -/
def restoredBlocks (version : Nat) (independent : List String) (current target : List Block) :
    List Block :=
  let lifecycle := lifecycleIds version current
  let added := (independent.filter (· ∉ blockIds target)).insertionSort (· ≤ ·)
  (((blockIds target).filterMap (desiredBlock independent current target) ++
      added.filterMap (blockAt current)).filter fun block => block.stableId ∉ lifecycle) ++
    current.filter fun block => block.stableId ∈ lifecycle

/-- The blocks whose rows are the current ones. -/
def currentIds (record : PageRecord) (version : Nat) : List String :=
  independentIds (laterChanges record version) ++ lifecycleIds version record.page.blocks

/-- The source rows before those of dropped blocks are left out. -/
def restoredSources (record : PageRecord) (version : Nat) (target : OperationState) :
    List SourceDependency :=
  (target.sources.filter fun row => row.blockId ∉ currentIds record version) ++
    record.sources.filter fun row => row.blockId ∈ currentIds record version

def restoredPersonal (record : PageRecord) (version : Nat) (target : OperationState) :
    List PersonalDependency :=
  (target.personal.filter fun row => row.blockId ∉ currentIds record version) ++
    record.personal.filter fun row => row.blockId ∈ currentIds record version

/-- The current revisions of the videos the space sees. -/
def validRevisions (around : Surroundings) : List String :=
  (around.heads.filter fun head => head.1 ∈ around.visibleVideos).map Prod.snd

/-- A block stays when it is deleted, or when what it depends on is current. -/
def restorable (around : Surroundings) (sources : List SourceDependency)
    (personal : List PersonalDependency) (block : Block) : Bool :=
  let refs := (sources.filter fun row => row.blockId = block.stableId).map
    SourceDependency.sourceRevision
  block.isDeleted ∨
    ((block.sourceRefs ≠ [] → refs ≠ [] ∧ ∀ ref ∈ refs, ref ∈ validRevisions around) ∧
      ∀ row ∈ personal, row.blockId = block.stableId → around.personalCurrent row = true)

/-- `kept_blocks`. -/
def keptBlocks (around : Surroundings) (record : PageRecord) (version : Nat)
    (target : OperationState) : List Block :=
  (restoredBlocks version (independentIds (laterChanges record version)) record.page.blocks
      target.page.blocks).filter
    (restorable around (restoredSources record version target)
      (restoredPersonal record version target))

/-- The page with its rows after the revert. -/
def revertedRecord (rules : WikiRules) (around : Surroundings) (record : PageRecord)
    (version : Nat) (target : OperationState) : PageRecord :=
  let blocks := keptBlocks around record version target
  let keptIds := blocks.map Block.stableId
  { record with
    page :=
      { record.page with
        title := target.page.title
        normalizedTitle := rules.normalizeTitle target.page.title
        pageType := target.page.pageType
        summary := pendingGuide
        blocks := blocks
        version := record.page.version + 1
        updatedAt := around.now }
    sources := (restoredSources record version target).filter fun row => row.blockId ∈ keptIds
    personal := (restoredPersonal record version target).filter fun row => row.blockId ∈ keptIds
    materials := target.materials.filter fun row => row.sourceRevision ∈ validRevisions around }

/-! ## Merges that are undone -/

/-- A deleted block of the target page applies to a block of the source page. -/
def appliesTo (tomb block : Block) : Bool :=
  block.stableId = tomb.stableId ∨ some block.stableId = tomb.deletedStableId ∨
    sameText block.heading block.markdown tomb

/-- The blocks of the source page; what was deleted on the target page is deleted there too. -/
def unmergedBlocks (version : Nat) (tombs blocks : List Block) : List Block :=
  blocks.map fun block =>
    tombs.foldl (fun block tomb =>
      if appliesTo tomb block then lifecycleBlock false version block else block) block

/-- The source page of the merge, active again. -/
def unmergedSource (around : Surroundings) (tombs : List Block) (source : PageRecord) :
    PageRecord :=
  let version := source.page.version + 1
  { source with
    page :=
      { source.page with
        status := .active
        blocks := unmergedBlocks version tombs source.page.blocks
        summary := pendingGuide
        version := version
        updatedAt := around.now } }

/-- One round of the loop over the redirects the target state does not have. -/
def undoMerge (around : Surroundings) (tombs : List Block) (store : WikiStore)
    (oldPageId : String) : Except Failure WikiStore :=
  match store.pages.lookup oldPageId with
  | none => .error (.assistantConflict "revert_merge_source_changed")
  | some source => do
      ensure (source.page.status = .merged) (.assistantConflict "revert_merge_source_changed")
      ensure ((source.changes.find? fun change => change.version = source.page.version).any
          (fun change => change.operation = .merged) = true)
        (.assistantConflict "revert_merge_source_changed")
      let before := store.operationState source
      let store :=
        { store with
          redirects := store.redirects.deleteWhere fun redirect => redirect.oldPageId = oldPageId }
      return store.commit
        ⟨unmergedSource around tombs source, .mergeUndone, some source.page, some before⟩ none

/-- The redirects the target state does not have. The order of the set does not matter. -/
def undoneRedirects (store : WikiStore) (pageId : String) (target : OperationState) : List String :=
  (store.redirectsTo pageId).filter (· ∉ target.redirects)

/-! ## The call -/

/-- The title of the target may not be that of another page. -/
def assertTitleFree (rules : WikiRules) (store : WikiStore) (page : Page) (title : String) :
    Except Failure Unit :=
  ensure (∀ other ∈ store.titled page.spaceId (rules.normalizeTitle title), other.id = page.id)
    .uniqueViolation

/-- The write of the page itself. -/
def revertWrite (rules : WikiRules) (around : Surroundings) (store : WikiStore) (version : Nat)
    (record : PageRecord) (target : OperationState) : PageWrite :=
  ⟨revertedRecord rules around record version target, .reverted, some record.page,
    some (store.operationState record)⟩

/-- The writes of `revert`. -/
def revertPage (rules : WikiRules) (around : Surroundings) (store : WikiStore) (version : Nat)
    (record : PageRecord) (target : OperationState) : Except Failure Written := do
  let undone ← (undoneRedirects store record.page.id target).foldlM
    (undoMerge around (deletedBlocks record.page)) store
  return undone.written (revertWrite rules around store version record target)

/-- `revert`. -/
def revert (rules : WikiRules) (around : Surroundings) (store : WikiStore) (call : RevertPage) :
    Except Failure Written :=
  store.once call.operationKey do
    let record ← store.page call.pageId
    assertLifecycle record.page [] ""
    assertVersion record.page call.expectedVersion
    ensure (call.targetVersion < call.expectedVersion) (.valueError "invalid_revert_version")
    match targetState record call.targetVersion with
    | none => .error (.assistantConflict "revert_dependency_snapshot_unavailable")
    | some target =>
        ensure (∀ change ∈ laterChanges record call.targetVersion,
            change.operation.isIndependent = true)
          (.assistantConflict "revert_later_source_change_conflict")
        assertTitleFree rules store record.page target.page.title
        revertPage rules around store call.targetVersion record target

end Shiliu.Wiki
