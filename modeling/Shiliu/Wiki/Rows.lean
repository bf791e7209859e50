/-
Module: Shiliu.Wiki.Rows
Purpose: The rows of the wiki. A page is kept together with its dependency rows, its changes and its
  operation states; redirects, proposals, knowledge plans and mutation receipts have tables of their own.
  Digests and Unicode case folding come with `WikiRules`.
Trusted boundary: none
Main exports: Block, Page, PageRecord, SourcePatch, Proposal, WikiStore, WikiRules, assertLifecycle
-/
import Mathlib.Data.List.Sort
import Shiliu.Library.Outcome
import Shiliu.Library.Table
import Shiliu.Storage.Basic

namespace Shiliu.Wiki

open Shiliu.Library Shiliu.Storage

/-! ## Enumerations -/

/-- The role of a block. -/
inductive Assessment where
  | sourceReported
  | systemSynthesis
  | userAnnotation
  | userExplicit
deriving DecidableEq

inductive PageType where
  | concept
  | method
  | comparison
  | topic
deriving DecidableEq

inductive PageStatus where
  | active
  | archived
  | merged
deriving DecidableEq

/-- `operation` of a change. -/
inductive Operation where
  | created
  | sourceAmended
  | sourceAssociated
  | sourceIntegrated
  | sourceRebound
  | deleteBlock
  | restoreBlock
  | archive
  | restore
  | blockEdited
  | derivedRepair
  | personalNoteAdded
  | discussionSaved
  | merged
  | mergeUndone
  | reverted
deriving DecidableEq

inductive MaterialRelation where
  | supportsBlock
  | associated

inductive LocalOperation where
  | associate
  | addBlock
  | reviseBlock
deriving DecidableEq

inductive ProposalKind where
  | sourcePatch
  | merge
deriving DecidableEq

inductive ProposalStatus where
  | pending
  | accepted
  | rejected
  | stale
deriving DecidableEq

/-! ## Pages -/

/-- A block of a page, as its JSON object has it: an optional key is `none` where it is absent. The keys no
modelled function reads are kept in `other`. -/
structure Block where
  stableId : String
  heading : String
  markdown : String
  sourceRefs : List String
  applicability : String
  assessment : Assessment
  relation : String
  manualLock : Bool
  deleted : Option Bool := none
  lockBeforeDelete : Option Bool := none
  deletionReleased : Option Bool := none
  lifecycleVersion : Option Nat := none
  deletedStableId : Option String := none
  compilerVersion : Option String := none
  userInputSource : Option String := none
  userQuote : Option String := none
  userMessageId : Option String := none
  other : List (String × String) := []
deriving DecidableEq

/-- `block.get("deleted")`. -/
def Block.isDeleted (block : Block) : Bool := block.deleted = some true

/-- A row of `assistant_wiki_pages`. -/
structure Page where
  id : String
  spaceId : Nat
  normalizedTitle : String
  title : String
  aliases : List String
  pageType : PageType
  summary : String
  blocks : List Block
  version : Nat
  status : PageStatus
  scopeVersion : Nat
  createdAt : Instant
  updatedAt : Instant
deriving DecidableEq

/-- A row of `assistant_wiki_dependencies`. -/
structure SourceDependency where
  blockId : String
  sourceRevision : String
  videoId : Nat
  dependencyKind : String
deriving DecidableEq

/-- A row of `assistant_wiki_personal_dependencies`. -/
structure PersonalDependency where
  blockId : String
  memoryId : String
  memoryVersion : Nat
  sourceMessageId : Option String

/-- A row of `assistant_wiki_materials`. -/
structure Material where
  videoId : Nat
  sourceRevision : String
  relation : MaterialRelation

/-- `_operation_state`. -/
structure OperationState where
  page : Page
  sources : List SourceDependency
  personal : List PersonalDependency
  materials : List Material
  redirects : List String

/-- A row of `assistant_wiki_changes`. -/
structure PageChange where
  version : Nat
  operation : Operation
  before : Option Page
  after : Page

/-- A row of `assistant_wiki_operation_states`. -/
structure StateRow where
  version : Nat
  before : Option OperationState
  after : OperationState

/-- A page with the rows that refer to it. -/
structure PageRecord where
  page : Page
  sources : List SourceDependency
  personal : List PersonalDependency
  materials : List Material
  changes : List PageChange
  states : List StateRow

def PageRecord.id (record : PageRecord) : String := record.page.id

/-- A row of `assistant_wiki_redirects`. -/
structure Redirect where
  oldPageId : String
  targetPageId : String
  spaceId : Nat

/-! ## Patches and proposals -/

/-- A block of a patch. -/
structure PatchBlock where
  heading : String
  markdown : String
  /-- `none` where the key is absent. -/
  sourceRefs : Option (List String)
  applicability : String
  assessment : Assessment
  relation : String
  other : List (String × String)

/-- `block.get("source_refs", [])`. -/
def PatchBlock.refs (block : PatchBlock) : List String := block.sourceRefs.getD []

structure SourcePatch where
  title : String
  pageType : PageType
  summary : String
  aliases : List String
  blocks : List PatchBlock
  localOperation : Option LocalOperation
  targetBlockId : Option String
  replaceDerived : Bool

/-- `str(patch.get("target_block_id") or "")`. -/
def SourcePatch.targetId (patch : SourcePatch) : String := patch.targetBlockId.getD ""

/-- `payload_json` of a source patch proposal. -/
structure PatchPayload where
  patch : SourcePatch
  before : Page
  scopeVersion : Nat
  videoId : Nat
  revision : String
  sourceRevisions : List String

/-- A row of `assistant_wiki_proposals`. -/
structure Proposal where
  id : String
  spaceId : Nat
  kind : ProposalKind
  targetPageId : String
  targetVersion : Nat
  /-- `source_page_id` and `source_version` of a merge. -/
  source : Option (String × Nat)
  inputFingerprint : String
  /-- `payload_json` of a source patch. -/
  payload : Option PatchPayload
  status : ProposalStatus
  contentVersion : Nat
  supersedesId : Option String

/-! ## Receipts -/

inductive LifecycleAction where
  | deleteBlock
  | restoreBlock
  | archive
  | restore
deriving DecidableEq

/-- The result stored with a receipt. -/
inductive Receipt where
  | page (page : Page)
  | lifecycle (pageId : String) (version : Nat) (action : LifecycleAction)
      (blockId : Option String) (status : PageStatus)
  | merged (pageId : String) (version : Nat) (redirectedPageId : String)
  | decision (proposalId : String) (status : ProposalStatus) (page : Option (String × Nat))
deriving DecidableEq

/-- A row of `assistant_mutation_receipts`. -/
structure ReceiptRow where
  operationKey : String
  result : Receipt

/-! ## The store -/

structure WikiStore where
  pages : Table PageRecord.id
  redirects : Table Redirect.oldPageId
  proposals : Table Proposal.id
  receipts : Table ReceiptRow.operationKey
  nextId : Nat

def WikiStore.empty : WikiStore :=
  ⟨Table.empty PageRecord.id, Table.empty Redirect.oldPageId, Table.empty Proposal.id,
    Table.empty ReceiptRow.operationKey, 0⟩

namespace WikiStore

variable (store : WikiStore)

def receipt (operationKey : String) : Option Receipt :=
  (store.receipts.lookup operationKey).map ReceiptRow.result

/-- The row with a title in a space; `(space_id, normalized_title)` is unique. -/
def titled (spaceId : Nat) (normalizedTitle : String) : Option PageRecord :=
  store.pages.rows.find? fun record =>
    record.page.spaceId = spaceId ∧ record.page.normalizedTitle = normalizedTitle

/-- The pages redirected to a page. -/
def redirectsTo (pageId : String) : List String :=
  (store.redirects.rows.filter fun redirect => redirect.targetPageId = pageId).map
    Redirect.oldPageId

def operationState (record : PageRecord) : OperationState :=
  ⟨record.page, record.sources, record.personal, record.materials,
    store.redirectsTo record.page.id⟩

end WikiStore

/-! ## Texts -/

/-- What the wiki takes from outside: a digest and Unicode case folding. -/
structure WikiRules where
  /-- `hashlib.sha256(text).hexdigest()[:20]`. -/
  digest : String → String
  casefold : String → String

/-- `text.split()`. -/
def words (text : String) : List String :=
  (((text.toList.splitOnP isSpace).filter fun word => word ≠ []).map String.ofList)

/-- `" ".join(text.split())`. -/
def collapse (text : String) : String := " ".intercalate (words text)

/-- A letter of a normalized title. -/
def isTitleLetter (letter : Char) : Bool :=
  letter.isDigit ∨ letter.isLower ∨ (0x4e00 ≤ letter.toNat ∧ letter.toNat ≤ 0x9fff)

/-- `_normalize_title`. -/
def WikiRules.normalizeTitle (rules : WikiRules) (title : String) : String :=
  prefixOf (String.ofList ((rules.casefold title).toList.filter isTitleLetter)) 200

/-- `_pending_guide`. -/
def pendingGuide : String := "导读未随本次修改重写；请查看下方各条内容、条件及来源。"

def compilerVersion : String := "wiki-compiler-v7"

/-! ## Blocks -/

/-- The first block with an identity. -/
def findBlock (blockId : String) (blocks : List Block) : Option Block :=
  blocks.find? fun block => block.stableId = blockId

/-- A change of the first block with an identity. -/
def changeBlock (blockId : String) (change : Block → Block) : List Block → List Block
  | [] => []
  | block :: rest =>
      if block.stableId = blockId then change block :: rest
      else block :: changeBlock blockId change rest

/-- `_deleted_blocks`. -/
def deletedBlocks (page : Page) : List Block :=
  page.blocks.filter fun block => block.isDeleted ∧ block.deletionReleased ≠ some true

/-- The identities a deleted block goes by. -/
def Block.tombIds (tomb : Block) : List String :=
  (tomb.stableId :: tomb.deletedStableId.toList).filter fun value => value ≠ ""

/-- What `_assert_lifecycle` reads of a block. -/
structure IncomingBlock where
  stableId : Option String
  heading : String
  markdown : String

def Block.incoming (block : Block) : IncomingBlock :=
  ⟨some block.stableId, block.heading, block.markdown⟩

def PatchBlock.incoming (block : PatchBlock) : IncomingBlock :=
  ⟨none, block.heading, block.markdown⟩

/-- Heading and text agree up to white space. -/
def sameText (heading markdown : String) (block : Block) : Bool :=
  collapse heading = collapse block.heading ∧ collapse markdown = collapse block.markdown

/-- A block that would bring deleted content back. -/
def IncomingBlock.revives (block : IncomingBlock) (tomb : Block) : Bool :=
  (∃ stableId ∈ block.stableId, stableId ∈ tomb.tombIds) ∨
    sameText block.heading block.markdown tomb

/-- `_assert_lifecycle`. -/
def assertLifecycle (page : Page) (incoming : List IncomingBlock) (targetId : String) :
    Except Failure Unit := do
  ensure (page.status = .active) (.assistantConflict "wiki_page_inactive")
  (deletedBlocks page).forM fun tomb => do
    ensure (targetId = "" ∨ targetId ∉ tomb.tombIds) (.assistantConflict "wiki_block_deleted")
    ensure (∀ block ∈ incoming, block.revives tomb = false)
      (.assistantConflict "wiki_deleted_content_conflict")

/-! ## Writing -/

/-- `_expire_source_patches`. -/
def WikiStore.expireSourcePatches (store : WikiStore) (pageId : String)
    (exclude : Option String) : WikiStore :=
  { store with
    proposals := store.proposals.updateWhere
      (fun proposal => proposal.kind = .sourcePatch ∧ proposal.status = .pending ∧
        proposal.targetPageId = pageId ∧ exclude ≠ some proposal.id)
      ⟨fun proposal => { proposal with status := .stale }, fun _ => rfl⟩ }

/-- A write of a page: its row with the dependency rows, and the images the writer hands over. -/
structure PageWrite where
  written : PageRecord
  operation : Operation
  before : Option Page
  beforeState : Option OperationState

/-- The change a write records. -/
def PageWrite.change (write : PageWrite) : PageChange :=
  ⟨write.written.page.version, write.operation, write.before, write.written.page⟩

/-- The end of every page write: the rows, then `_record_notification_change`, then
`_save_operation_state`. -/
def WikiStore.commit (store : WikiStore) (write : PageWrite) (exclude : Option String) :
    WikiStore :=
  let written := write.written
  let store := store.expireSourcePatches written.page.id exclude
  { store with
    pages := store.pages.assign
      { written with
        changes := written.changes ++ [write.change]
        states := written.states ++
          [⟨written.page.version, write.beforeState, store.operationState written⟩] } }

/-- `INSERT INTO assistant_mutation_receipts`. -/
def WikiStore.insertReceipt (store : WikiStore) (operationKey : String) (result : Receipt) :
    WikiStore :=
  { store with receipts := store.receipts.insert ⟨operationKey, result⟩ }

/-- The counter after a number of texts. -/
def WikiStore.counted (store : WikiStore) (count : Nat) : WikiStore :=
  { store with nextId := store.nextId + count }

/-- A text no row has yet. -/
def WikiStore.freshId (store : WikiStore) (stem : String) : String × WikiStore :=
  (stem ++ toString store.nextId, store.counted 1)

/-- The primary key of a new page. -/
def WikiStore.assertFresh (store : WikiStore) (pageId : String) : Except Failure Unit :=
  ensure (store.pages.lookup pageId = none) .uniqueViolation

end Shiliu.Wiki
