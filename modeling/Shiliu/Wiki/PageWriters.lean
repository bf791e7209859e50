/-
Module: Shiliu.Wiki.PageWriters
Purpose: The writers of one page: `edit_block`, `add_personal_note`, `manage_page`,
  `revise_derived_blocks` and `_rebind_equivalent_source`. Each is one transaction behind the workspace lock. Answers of other
  services (source heads, visible videos, memories, messages, job fences) come with the call.
Trusted boundary: none
Main exports: Surroundings, editBlock, managePage, reviseDerivedBlocks, rebindEquivalentSource
-/
import Mathlib.Data.List.Infix
import Shiliu.Wiki.Rows

set_option linter.all false

namespace Shiliu.Wiki

open Shiliu.Library Shiliu.Storage

/-- Sources are found in a list by equality. -/
theorem source_lawful : LawfulBEq (Nat × String) := inferInstance

attribute [local instance] source_lawful

/-! ## What a transaction reads of other services -/

structure Surroundings where
  now : Instant
  /-- `video_id` and `current_revision` of `assistant_source_heads`. -/
  heads : List (Nat × String)
  /-- `visible_video_ids` of the space. -/
  visibleVideos : List Nat
  /-- `_personal_dependency_current` in the space. -/
  personalCurrent : PersonalDependency → Bool

/-- A page and its new rows, with what the receipt keeps. -/
abbrev Written := WikiStore × Receipt

namespace WikiStore

variable (store : WikiStore)

/-- The row of a page, or `KeyError`. -/
def page (pageId : String) : Except Failure PageRecord :=
  match store.pages.lookup pageId with
  | some record => .ok record
  | none => .error .keyError

/-- The row of a page in a space that is active, or `KeyError`. -/
def activePage (pageId : String) (spaceId : Nat) : Except Failure PageRecord := do
  let record ← store.page pageId
  ensure (record.page.spaceId = spaceId ∧ record.page.status = .active) .keyError
  return record

/-- A receipt under the operation key answers the call; else the body runs and leaves one. -/
def once (operationKey : String) (body : Except Failure Written) : Except Failure Written :=
  match store.receipt operationKey with
  | some result => .ok (store, result)
  | none => do
      let written ← body
      return (written.1.insertReceipt operationKey written.2, written.2)

/-- A page write that answers with the page. -/
def written (write : PageWrite) : Written :=
  (store.commit write none, .page write.written.page)

end WikiStore

def assertVersion (page : Page) (expected : Nat) : Except Failure Unit :=
  ensure (page.version = expected) (.assistantConflict "wiki_version_conflict")

/-! ## `edit_block` -/

structure EditBlock where
  pageId : String
  blockId : String
  markdown : String
  expectedVersion : Nat
  operationKey : String
  now : Instant

/-- The edit of one block. -/
def editedBlock (clean : String) (block : Block) : Block :=
  { block with markdown := clean, manualLock := true }

/-- The write of `edit_block`. The list of blocks is copied but not the blocks, so the image recorded
as the page before shows the edit as well; the operation state was read before it. -/
def editWrite (store : WikiStore) (call : EditBlock) (record : PageRecord) (clean : String) :
    PageWrite :=
  let edited :=
    { record.page with blocks := changeBlock call.blockId (editedBlock clean) record.page.blocks }
  let after :=
    { edited with
      summary := pendingGuide
      version := call.expectedVersion + 1
      updatedAt := call.now }
  ⟨{ record with page := after }, .blockEdited, some edited, some (store.operationState record)⟩

/-- `edit_block`. -/
def editBlock (store : WikiStore) (call : EditBlock) : Except Failure Written := do
  let clean := strip call.markdown
  ensure (clean ≠ "" ∧ clean.length ≤ 20000) (.valueError "invalid_wiki_block")
  store.once call.operationKey do
    let record ← store.page call.pageId
    assertVersion record.page call.expectedVersion
    assertLifecycle record.page [] call.blockId
    ensure ((findBlock call.blockId record.page.blocks).isSome = true) .keyError
    return store.written (editWrite store call record clean)

/-! ## `add_personal_note` -/

structure AddPersonalNote where
  pageId : String
  spaceId : Nat
  text : String
  expectedVersion : Nat
  operationKey : String
  memoryId : Option String
  memoryVersion : Option Nat
  sourceMessageId : Option String
  /-- `_personal_dependency_current` of the memory. -/
  memoryCurrent : Bool
  /-- Content and time of the user's message. -/
  message : Option (String × Instant)
  memoryText : Option String
  now : Instant

/-- `needle in text`. -/
def occursIn (needle text : String) : Bool := needle.toList <:+: text.toList

/-- The checks of the note's text against its message and its memory. -/
def assertQuoted (call : AddPersonalNote) (clean : String) : Except Failure Unit := do
  ensure (truthy call.memoryId = true → call.memoryCurrent = true)
    (.assistantConflict "personal_dependency_stale")
  ensure (truthy call.sourceMessageId = true → call.message.isSome = true)
    (.valueError "user_source_required")
  let quoted := (call.message.map fun message => occursIn clean message.1).getD false
  ensure (truthy call.sourceMessageId = true → truthy call.memoryId = false → quoted = true)
    (.valueError "personal_quote_required")
  ensure (truthy call.sourceMessageId = true → truthy call.memoryId = true → quoted = true ∨
      (call.memoryText.map (occursIn clean)).getD false = true)
    (.valueError "personal_quote_required")

/-- The block of a note. `validity` are the keys its words about time give it. -/
def noteBlock (validity : String → Instant → List (String × String)) (call : AddPersonalNote)
    (clean blockId : String) : Block :=
  let sourceTime := (call.message.map Prod.snd).getD call.now
  { stableId := blockId
    heading := "我的笔记"
    markdown := clean
    sourceRefs := []
    applicability := ""
    assessment := .userExplicit
    relation := "personal_note"
    manualLock := true
    userInputSource :=
      some (if truthy call.memoryId then "memory_derived"
        else if truthy call.sourceMessageId then "discussion" else "direct_ui")
    userMessageId :=
      if truthy call.sourceMessageId ∧ ¬truthy call.memoryId then call.sourceMessageId else none
    other := ("source_message_id", call.sourceMessageId.getD "") :: validity clean sourceTime }

/-- The row of a note that came from a memory. -/
def notePersonal (call : AddPersonalNote) (blockId : String) : List PersonalDependency :=
  match call.memoryId, call.memoryVersion with
  | some memoryId, some memoryVersion =>
      [⟨blockId, memoryId, memoryVersion, call.sourceMessageId⟩]
  | _, _ => []

/-- The write of `add_personal_note`. -/
def noteWrite (validity : String → Instant → List (String × String)) (store : WikiStore)
    (call : AddPersonalNote) (record : PageRecord) (clean blockId : String) : PageWrite :=
  let after :=
    { record.page with
      blocks := record.page.blocks ++ [noteBlock validity call clean blockId]
      version := call.expectedVersion + 1
      updatedAt := call.now }
  ⟨{ record with page := after, personal := record.personal ++ notePersonal call blockId },
    .personalNoteAdded, some record.page, some (store.operationState record)⟩

/-- `add_personal_note`. -/
def addPersonalNote (validity : String → Instant → List (String × String)) (store : WikiStore)
    (call : AddPersonalNote) : Except Failure Written := do
  let clean := strip call.text
  ensure (clean ≠ "" ∧ clean.length ≤ 4000) (.valueError "invalid_personal_note")
  ensure (truthy call.memoryId = call.memoryVersion.isSome)
    (.valueError "memory_dependency_required")
  store.once call.operationKey do
    let record ← store.activePage call.pageId call.spaceId
    assertVersion record.page call.expectedVersion
    assertQuoted call clean
    let (blockId, store) := store.freshId "wblock_user_"
    return store.written (noteWrite validity store call record clean blockId)

/-! ## `manage_page` -/

structure ManagePage where
  pageId : String
  spaceId : Nat
  action : LifecycleAction
  expectedVersion : Nat
  operationKey : String
  blockId : Option String
  now : Instant

/-- The operation recorded for an action. -/
def LifecycleAction.operation : LifecycleAction → Operation
  | .deleteBlock => .deleteBlock
  | .restoreBlock => .restoreBlock
  | .archive => .archive
  | .restore => .restore

/-- The update of a deleted or restored block. -/
def lifecycleBlock (restores : Bool) (version : Nat) (block : Block) : Block :=
  if restores then
    { block with
      deleted := some false
      manualLock := block.lockBeforeDelete = some true
      deletionReleased := some true
      lifecycleVersion := some version }
  else
    { block with
      lockBeforeDelete := some block.manualLock
      deleted := some true
      manualLock := true
      deletionReleased := some false
      lifecycleVersion := some version }

/-- The blocks and the status an action leaves. -/
def managedPage (call : ManagePage) (page : Page) : Except Failure Page :=
  let restores := call.action = .restoreBlock
  match call.action with
  | .deleteBlock | .restoreBlock =>
      match page.blocks.find? fun block => some block.stableId = call.blockId with
      | none => .error .keyError
      | some block => do
          ensure (block.isDeleted = restores) (.assistantConflict "wiki_block_state_changed")
          return { page with
            blocks := changeBlock block.stableId (lifecycleBlock restores (call.expectedVersion + 1))
              page.blocks }
  | .archive => .ok { page with status := .archived }
  | .restore => .ok { page with status := .active }

/-- The checks of the status against the action. -/
def assertManageable (page : Page) (action : LifecycleAction) : Except Failure Unit := do
  ensure (page.status ≠ .merged ∧ (page.status = .active ∨ action = .restore))
    (.assistantConflict "wiki_page_inactive")
  ensure (action = .restore → page.status = .archived)
    (.assistantConflict "wiki_page_not_archived")

/-- The receipt of another action under the same key is a conflict. -/
def ManagePage.answeredBy (call : ManagePage) : Receipt → Bool
  | .lifecycle pageId _ action blockId _ =>
      pageId = call.pageId ∧ action = call.action ∧ blockId = call.blockId
  | _ => false

/-- The write of `manage_page`. -/
def manageWrite (store : WikiStore) (call : ManagePage) (record : PageRecord) (managed : Page) :
    PageWrite :=
  let after :=
    { managed with
      summary := pendingGuide
      version := call.expectedVersion + 1
      updatedAt := call.now }
  ⟨{ record with page := after }, call.action.operation, some record.page,
    some (store.operationState record)⟩

/-- `manage_page`. -/
def managePage (store : WikiStore) (call : ManagePage) : Except Failure Written := do
  let record ← store.page call.pageId
  ensure (record.page.spaceId = call.spaceId) .keyError
  match store.receipt call.operationKey with
  | some result =>
      ensure (call.answeredBy result = true) (.assistantConflict "operation_key_conflict")
      return (store, result)
  | none =>
      assertVersion record.page call.expectedVersion
      assertManageable record.page call.action
      let managed ← managedPage call record.page
      let write := manageWrite store call record managed
      let result := Receipt.lifecycle call.pageId write.written.page.version call.action
        call.blockId write.written.page.status
      return ((store.commit write none).insertReceipt call.operationKey result, result)

/-! ## `revise_derived_blocks` -/

/-- One edit; an absent key is `none`. -/
structure DerivedEdit where
  blockId : String
  heading : String
  markdown : String
  applicability : Option String
  assessment : Option Assessment
  sourceRefs : Option (List String)

structure ReviseDerivedBlocks where
  pageId : String
  spaceId : Nat
  expectedVersion : Nat
  edits : List DerivedEdit
  summary : String
  operationKey : String

/-- `ref.split(":")` of a versioned video source: the video and the revision. -/
def parseVideoRef (ref : String) : Option (Nat × String) :=
  match ref.splitOn ":" with
  | ["video", digits, revision] =>
      if digits ≠ "" ∧ digits.toList.all Char.isDigit = true then
        some (digits.toList.foldl (fun value digit => 10 * value + (digit.toNat - '0'.toNat)) 0,
          revision)
      else none
  | _ => none

/-- A referenced source has to be the current revision of a visible video. -/
def resolveRef (around : Surroundings) (ref : String) : Except Failure (Nat × String) :=
  match parseVideoRef ref with
  | none => .error (.valueError "versioned_video_source_required")
  | some source => do
      ensure (source ∈ around.heads) (.assistantConflict "source_revision_changed")
      ensure (source.1 ∈ around.visibleVideos) (.assistantConflict "wiki_source_out_of_scope")
      return source

/-- A quoted analysis of a discussion may be given back its role. -/
def DerivedEdit.fixesRole (edit : DerivedEdit) (target : Block) : Bool :=
  target.userInputSource = some "discussion" ∧ edit.assessment = some .systemSynthesis

/-- What an edit makes of its block, the sources apart. -/
def revisedBlock (edit : DerivedEdit) (target : Block) : Block :=
  let edited :=
    { target with
      heading := strip edit.heading
      markdown := strip edit.markdown
      applicability :=
        (edit.applicability.map fun text => prefixOf (strip text) 600).getD target.applicability
      assessment := edit.assessment.getD target.assessment }
  if edit.assessment.isSome = true ∧ edit.fixesRole target = true then
    { edited with manualLock := false, relation := "discussion_analysis", userQuote := none }
  else edited

/-- One round of the loop over the edits: the blocks, which the page shares, and the sources that
replace those of a block. -/
def reviseBlock (around : Surroundings) (page : Page) (seen : List String) (edit : DerivedEdit) :
    Except Failure (List Block × List (String × List (Nat × String))) := do
  assertLifecycle page [] edit.blockId
  ensure (edit.blockId ∉ seen) (.valueError "duplicate_block_edit")
  match findBlock edit.blockId page.blocks with
  | none => .error (.assistantConflict "wiki_manual_conflict")
  | some target =>
      ensure ((target.manualLock = false ∧ target.assessment ≠ .userExplicit) ∨
          edit.fixesRole target = true) (.assistantConflict "wiki_manual_conflict")
      let heading := strip edit.heading
      let body := strip edit.markdown
      ensure (heading ≠ "" ∧ body ≠ "" ∧ heading.length ≤ 160 ∧ body.length ≤ 12000)
        (.valueError "invalid_derived_revision")
      ensure (∀ role ∈ edit.assessment, role = .sourceReported ∨ role = .systemSynthesis)
        (.valueError "invalid_derived_role")
      let revised := revisedBlock edit target
      match edit.sourceRefs with
      | none => return (changeBlock edit.blockId (fun _ => revised) page.blocks, [])
      | some refs =>
          ensure (revised.assessment ≠ .userExplicit) (.valueError "personal_block_source_conflict")
          let resolved ← refs.eraseDups.mapM (resolveRef around)
          let sourced := { revised with sourceRefs := resolved.map Prod.snd }
          return (changeBlock edit.blockId (fun _ => sourced) page.blocks,
            [(edit.blockId, resolved)])

/-- The loop over the edits. -/
def reviseBlocks (around : Surroundings) :
    Page → List String → List DerivedEdit →
      Except Failure (Page × List (String × List (Nat × String)))
  | page, _, [] => .ok (page, [])
  | page, seen, edit :: rest => do
      let revised ← reviseBlock around page seen edit
      let others ←
        reviseBlocks around { page with blocks := revised.1 } (edit.blockId :: seen) rest
      return (others.1, revised.2 ++ others.2)

/-- `INSERT INTO assistant_wiki_dependencies`: `(block_id, source_revision)` is unique on a page. -/
def insertSource (rows : List SourceDependency) (row : SourceDependency) :
    Except Failure (List SourceDependency) :=
  if rows.any fun other => other.blockId = row.blockId ∧ other.sourceRevision = row.sourceRevision
  then .error .uniqueViolation
  else .ok (rows ++ [row])

/-- The same with `ON CONFLICT DO NOTHING`. -/
def insertSourceOnce (rows : List SourceDependency) (row : SourceDependency) :
    List SourceDependency :=
  if rows.any fun other => other.blockId = row.blockId ∧ other.sourceRevision = row.sourceRevision
  then rows
  else rows ++ [row]

/-- The rows of a block, written anew. -/
def replaceSources (rows : List SourceDependency)
    (replacement : String × List (Nat × String)) : Except Failure (List SourceDependency) :=
  (replacement.2.map fun source =>
    (⟨replacement.1, source.2, source.1, "source"⟩ : SourceDependency)).foldlM insertSource
      (rows.filter fun row => row.blockId ≠ replacement.1)

/-- The write of `revise_derived_blocks`. As in `edit_block`, the image recorded as the page before
shares its blocks with the page that is edited. -/
def reviseWrite (store : WikiStore) (call : ReviseDerivedBlocks) (now : Instant)
    (record : PageRecord) (edited : Page) (sources : List SourceDependency) (replaced : Bool) :
    PageWrite :=
  let after :=
    { edited with
      summary := call.summary
      version := call.expectedVersion + 1
      updatedAt := now }
  let materials := record.materials.map fun material =>
    if replaced = true ∧ material.videoId ∉ sources.map SourceDependency.videoId then
      { material with relation := .associated }
    else material
  ⟨{ record with page := after, sources := sources, materials := materials }, .derivedRepair,
    some edited, some (store.operationState record)⟩

/-- `revise_derived_blocks`. -/
def reviseDerivedBlocks (around : Surroundings) (store : WikiStore) (call : ReviseDerivedBlocks) :
    Except Failure Written := do
  ensure ((1 ≤ call.edits.length ∧ call.edits.length ≤ 4) ∧ 1 ≤ call.summary.length ∧
      call.summary.length ≤ 3000) (.valueError "invalid_derived_revision")
  store.once call.operationKey do
    let record ← store.activePage call.pageId call.spaceId
    assertVersion record.page call.expectedVersion
    let revised ← reviseBlocks around record.page [] call.edits
    let sources ← revised.2.foldlM replaceSources record.sources
    return store.written
      (reviseWrite store call around.now record revised.1 sources (revised.2 ≠ []))

/-! ## `_rebind_equivalent_source` -/

structure RebindEquivalentSource where
  pageId : String
  version : Nat
  scopeVersion : Nat
  videoId : Nat
  revision : String
  /-- The card of an earlier revision says the same as that of `revision`. -/
  equivalent : String → Bool
  /-- The fence of the job. -/
  fence : Except Failure Unit

/-- The rows of blocks that are not deleted. -/
def liveSources (page : Page) (rows : List SourceDependency) : List SourceDependency :=
  rows.filter fun row =>
    ¬page.blocks.any fun block => block.stableId = row.blockId ∧ block.isDeleted

/-- The revisions that are replaced. -/
def oldRevisions (call : RebindEquivalentSource) (record : PageRecord) : List String :=
  (((liveSources record.page record.sources).filter fun row =>
    row.videoId = call.videoId ∧ row.sourceRevision ≠ call.revision ∧
      call.equivalent row.sourceRevision = true).map SourceDependency.sourceRevision).eraseDups

/-- A block with the new revision in the place of the old ones. -/
def reboundBlock (revision : String) (old : List String) (block : Block) : Block :=
  if block.isDeleted then block
  else
    { block with
      sourceRefs := (block.sourceRefs.map fun ref => if ref ∈ old then revision else ref).eraseDups }

/-- The rows after one old revision: each of its rows on a live block gets the new revision. -/
def reboundSources (call : RebindEquivalentSource) (page : Page) (rows : List SourceDependency)
    (old : String) : List SourceDependency :=
  let moved := (liveSources page rows).filter fun row =>
    row.videoId = call.videoId ∧ row.sourceRevision = old
  ((moved.map fun row => { row with sourceRevision := call.revision }).foldl insertSourceOnce
    rows).filter fun row => row ∉ moved

/-- The write of `_rebind_equivalent_source`. -/
def rebindWrite (store : WikiStore) (call : RebindEquivalentSource) (now : Instant)
    (record : PageRecord) : PageWrite :=
  let old := oldRevisions call record
  let after :=
    { record.page with
      blocks := record.page.blocks.map (reboundBlock call.revision old)
      version := record.page.version + 1
      scopeVersion := call.scopeVersion
      updatedAt := now }
  let materials := record.materials.map fun material =>
    if material.videoId = call.videoId then { material with sourceRevision := call.revision }
    else material
  ⟨{ record with
      page := after
      sources := old.foldl (reboundSources call record.page) record.sources
      materials := materials },
    .sourceRebound, some record.page, some (store.operationState record)⟩

/-- `_rebind_equivalent_source`. -/
def rebindEquivalentSource (around : Surroundings) (store : WikiStore)
    (call : RebindEquivalentSource) : Except Failure WikiStore := do
  call.fence
  match store.pages.lookup call.pageId with
  | none => .error (.assistantConflict "wiki_version_conflict")
  | some record =>
      ensure (record.page.status = .active ∧ record.page.version = call.version)
        (.assistantConflict "wiki_version_conflict")
      return if oldRevisions call record = [] then store
        else store.commit (rebindWrite store call around.now record) none

end Shiliu.Wiki
