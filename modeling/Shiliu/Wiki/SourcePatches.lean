/-
Module: Shiliu.Wiki.SourcePatches
Purpose: `_publish_source_patch`, which brings a source into a page. It serves a job that may write by itself
  and a proposal that a user has reviewed.
Trusted boundary: none
Main exports: blocksWithIdentity, renamedBlock, Publication, publishSourcePatch
-/
import Shiliu.Wiki.SaveDiscussion

namespace Shiliu.Wiki

open Shiliu.Library Shiliu.Storage

attribute [local instance] source_lawful

/-! ## Identities of derived blocks -/

/-- The identity of a derived block: its topic, its place and its sources. -/
def WikiRules.identity (rules : WikiRules) (topic : String) (index : Nat) (refs : List String) :
    String :=
  "wblock_" ++ rules.digest (topic ++ ":" ++ compilerVersion ++ ":" ++ toString index ++ ":" ++
    ",".intercalate (refs.insertionSort (· ≤ ·)))

/-- One block of `_blocks_with_identity`. -/
def identifiedBlock (rules : WikiRules) (revision topic : String) (index : Nat)
    (block : PatchBlock) : Block :=
  let refs := (block.sourceRefs.getD [revision]).eraseDups
  { stableId := rules.identity topic index refs
    heading := if block.heading = "" then "来源说明" else block.heading
    markdown := block.markdown
    sourceRefs := refs
    applicability := block.applicability
    assessment := block.assessment
    relation := if block.relation = "" then "related" else block.relation
    manualLock := false
    compilerVersion := some compilerVersion
    other := block.other }

/-- `_blocks_with_identity`. -/
def blocksWithIdentity (rules : WikiRules) (revision topic : String) (blocks : List PatchBlock) :
    List Block :=
  blocks.zipIdx.map fun (block, index) => identifiedBlock rules revision topic index block

/-- The identity of new content in the place of a deleted block. -/
def renamedBlock (rules : WikiRules) (deletedIds : List String) (block : Block) : Block :=
  if block.stableId ∈ deletedIds then
    { block with
      stableId := "wblock_" ++
        rules.digest (block.stableId ++ ":" ++ block.heading ++ ":" ++ block.markdown) }
  else block

/-! ## `_publish_source_patch` -/

/-- A publication, and what it reads of other services. -/
structure Publication where
  spaceId : Nat
  videoId : Nat
  revision : String
  expectedVersion : Nat
  patch : SourcePatch
  scopeVersion : Nat
  around : Surroundings
  /-- The videos the space selects that have an active source. -/
  admittedVideos : List Nat
  /-- `video_id` of the card of a revision. -/
  cardVideo : String → Option Nat

namespace Publication

variable (publication : Publication)

/-- `_current_page_source_revisions`. -/
def currentRevisions (page : Page) (rows : List SourceDependency) : List String :=
  ((liveSources page rows).filter fun row =>
    (row.videoId, row.sourceRevision) ∈ publication.around.heads ∧
      row.videoId ∈ publication.around.visibleVideos).map SourceDependency.sourceRevision

/-- The revisions a patch that replaces the derived blocks has to cover. -/
def activeRefs (page : Page) (rows : List SourceDependency) : List String :=
  ((liveSources page rows).filter fun row =>
    (row.videoId, row.sourceRevision) ∈ publication.around.heads ∧
      row.videoId ∈ publication.admittedVideos).map SourceDependency.sourceRevision

/-- The references of the blocks of the patch. -/
def incomingRefs : List String := publication.patch.blocks.flatMap PatchBlock.refs

/-- The check of the block that is revised. -/
def assertTarget (record : PageRecord) : Except Failure Unit :=
  if publication.patch.localOperation = some .reviseBlock then
    match findBlock publication.patch.targetId record.page.blocks with
    | none => .error (.assistantConflict "wiki_manual_conflict")
    | some target => do
        ensure (target.manualLock = false) (.assistantConflict "wiki_manual_conflict")
        let valid := publication.currentRevisions record.page record.sources
        ensure (∀ ref ∈ target.sourceRefs, ref ∈ valid → ref ∈ publication.incomingRefs)
          (.assistantConflict "proposal_missing_source_coverage")
  else .ok ()

/-- The check of a patch that replaces the derived blocks. -/
def assertCovered (record : PageRecord) : Except Failure Unit :=
  ensure (publication.patch.replaceDerived = true →
      (∀ ref ∈ publication.activeRefs record.page record.sources,
        ref ∈ publication.incomingRefs) ∧ publication.revision ∈ publication.incomingRefs)
    (.assistantConflict "proposal_missing_source_coverage")

/-- The blocks an earlier revision of the video supports. -/
def priorIds (rows : List SourceDependency) : List String :=
  (rows.filter fun row =>
    row.videoId = publication.videoId ∧ row.sourceRevision ≠ publication.revision).map
      SourceDependency.blockId

/-- The patch takes the place of the block. -/
def replaces (rows : List SourceDependency) (block : Block) : Bool :=
  let wholesale : Bool := publication.patch.localOperation = none
  ¬block.manualLock ∧ ¬block.isDeleted ∧
    ((publication.patch.localOperation = some .reviseBlock ∧
        block.stableId = publication.patch.targetId) ∨
      (wholesale ∧ publication.patch.replaceDerived) ∨
      (wholesale ∧ block.stableId ∈ publication.priorIds rows) ∨
      (wholesale ∧ publication.revision ∈ block.sourceRefs ∧
        block.compilerVersion ≠ some compilerVersion))

/-- `replace_ids`. -/
def replaceIds (record : PageRecord) : List String :=
  (record.page.blocks.filter (publication.replaces record.sources)).map Block.stableId

/-- The blocks of the patch as they come to the page. -/
def incoming (rules : WikiRules) (page : Page) : List Block :=
  (blocksWithIdentity rules publication.revision publication.patch.title
    publication.patch.blocks).map (renamedBlock rules ((deletedBlocks page).map Block.stableId))

/-- `blocks.extend(…)`: a block whose identity the page already has is left out. -/
def extend (blocks incoming : List Block) : List Block :=
  incoming.foldl (fun blocks block =>
    if block.stableId ∈ blocks.map Block.stableId then blocks else blocks ++ [block]) blocks

/-- The blocks of the page with those of the patch. -/
def mergedBlocks (rules : WikiRules) (record : PageRecord) : List Block :=
  extend (record.page.blocks.filter fun block =>
    block.stableId ∉ publication.replaceIds record) (publication.incoming rules record.page)

/-- The dependency rows without those of the replaced blocks. -/
def keptSources (record : PageRecord) : List SourceDependency :=
  record.sources.filter fun row => row.blockId ∉ publication.replaceIds record

/-- A local patch may not lose a current source of the page. -/
def assertRetained (record : PageRecord) (blocks : List Block) : Except Failure Unit :=
  let retained := blocks.flatMap Block.sourceRefs
  ensure (publication.patch.localOperation = some .addBlock ∨
      publication.patch.localOperation = some .reviseBlock →
        (∀ ref ∈ publication.currentRevisions record.page (publication.keptSources record),
          ref ∈ retained) ∧ publication.revision ∈ retained)
    (.assistantConflict "proposal_missing_source_coverage")

/-- The row of one reference of a block; it has to be current and in scope. -/
def linkSource (blockId : String) (rows : List SourceDependency) (ref : String) :
    Except Failure (List SourceDependency) :=
  match publication.around.heads.find? fun head => head.2 = ref with
  | none => .error (.assistantConflict "source_revision_changed")
  | some head => do
      ensure (head.1 ∈ publication.admittedVideos) (.assistantConflict "wiki_source_out_of_scope")
      return insertSourceOnce rows ⟨blockId, ref, head.1, "source"⟩

/-- The rows of one block. -/
def linkBlock (incomingIds : List String) (rows : List SourceDependency) (block : Block) :
    Except Failure (List SourceDependency) :=
  if block.stableId ∈ incomingIds then
    block.sourceRefs.foldlM (publication.linkSource block.stableId) rows
  else .ok rows

/-- The materials with those of the patch. -/
def linkMaterials (blocks : List Block) (rows : List Material) : List Material :=
  let relation : MaterialRelation :=
    if publication.patch.localOperation = some .associate then .associated else .supportsBlock
  (blocks.flatMap Block.sourceRefs).foldl (fun rows ref =>
    match publication.cardVideo ref with
    | some videoId => insertMaterialOnce rows ⟨videoId, ref, .supportsBlock⟩
    | none => rows) (upsertMaterial rows ⟨publication.videoId, publication.revision, relation⟩)

/-- `operation` of the change on a page that was there. -/
def operation (record : PageRecord) : Operation :=
  if publication.replaceIds record ≠ [] then .sourceAmended
  else if publication.patch.localOperation = some .associate then .sourceAssociated
  else .sourceIntegrated

/-- The row of the page after the patch. -/
def patchedPage (rules : WikiRules) (record : PageRecord) : Page :=
  let page := record.page
  let patch := publication.patch
  let blocks := publication.mergedBlocks rules record
  { page with
    summary :=
      if blocks.any Block.isDeleted then pendingGuide
      else if patch.summary = "" then page.summary else patch.summary
    blocks := blocks
    aliases :=
      (page.aliases ++ patch.aliases.filter fun value => strip value ≠ "").eraseDups.take 24
    pageType := patch.pageType
    version := publication.expectedVersion + 1
    scopeVersion := publication.scopeVersion
    status := .active
    updatedAt := publication.around.now }

/-- The write of the patch on a page that is there. -/
def pageWrite (store : WikiStore) (record : PageRecord) (after : Page)
    (sources : List SourceDependency) : PageWrite :=
  ⟨{ record with
      page := after
      sources := sources
      materials := publication.linkMaterials after.blocks record.materials },
    publication.operation record, some record.page, some (store.operationState record)⟩

/-- The patch on a page that is there. -/
def onPage (rules : WikiRules) (store : WikiStore) (record : PageRecord)
    (exclude : Option String) : Except Failure (WikiStore × (String × Nat)) := do
  assertLifecycle record.page (publication.patch.blocks.map PatchBlock.incoming)
    publication.patch.targetId
  assertVersion record.page publication.expectedVersion
  publication.assertTarget record
  publication.assertCovered record
  let incoming := publication.incoming rules record.page
  assertLifecycle record.page (incoming.map Block.incoming) publication.patch.targetId
  let after := publication.patchedPage rules record
  publication.assertRetained record after.blocks
  let sources ← after.blocks.foldlM
    (publication.linkBlock (incoming.map Block.stableId)) (publication.keptSources record)
  return (store.commit (publication.pageWrite store record after sources) exclude,
    (after.id, after.version))

/-- The page a patch creates. -/
def createdPage (rules : WikiRules) (pageId : String) : Page :=
  { id := pageId
    spaceId := publication.spaceId
    normalizedTitle := rules.normalizeTitle publication.patch.title
    title := publication.patch.title
    aliases := publication.patch.aliases
    pageType := publication.patch.pageType
    summary := publication.patch.summary
    blocks := blocksWithIdentity rules publication.revision publication.patch.title
      publication.patch.blocks
    version := 1
    status := .active
    scopeVersion := publication.scopeVersion
    createdAt := publication.around.now
    updatedAt := publication.around.now }

/-- The write of a page that is new. -/
def newPageWrite (page : Page) (sources : List SourceDependency) : PageWrite :=
  ⟨{ page := page
     sources := sources
     personal := []
     materials := publication.linkMaterials page.blocks []
     changes := []
     states := [] },
    .created, none, none⟩

/-- The patch as a new page. -/
def asNewPage (rules : WikiRules) (store : WikiStore) (exclude : Option String) :
    Except Failure (WikiStore × (String × Nat)) := do
  ensure (publication.expectedVersion = 0) (.assistantConflict "wiki_page_missing")
  let (pageId, store) := store.freshId "awiki_"
  store.assertFresh pageId
  let page := publication.createdPage rules pageId
  let sources ← page.blocks.foldlM
    (publication.linkBlock (page.blocks.map Block.stableId)) []
  return (store.commit (publication.newPageWrite page sources) exclude, (pageId, 1))

end Publication

/-- `_publish_source_patch`. -/
def publishSourcePatch (rules : WikiRules) (store : WikiStore) (publication : Publication)
    (exclude : Option String) : Except Failure (WikiStore × (String × Nat)) :=
  match store.titled publication.spaceId (rules.normalizeTitle publication.patch.title) with
  | some record => publication.onPage rules store record exclude
  | none => publication.asNewPage rules store exclude

end Shiliu.Wiki
