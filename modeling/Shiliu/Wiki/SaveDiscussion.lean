/-
Module: Shiliu.Wiki.SaveDiscussion
Purpose: `save_discussion`: the chosen conclusions of a discussion become blocks of a page, new or
  already there. For a knowledge plan they take the place of the derived blocks with the same heading.
Trusted boundary: none
Main exports: SaveItem, SaveDiscussion, buildItem, placeBlocks, saveDiscussion
-/
import Shiliu.Wiki.PageWriters

namespace Shiliu.Wiki

open Shiliu.Library Shiliu.Storage

/-! ## What is saved -/

inductive SaveRole where
  | source
  | analysis
  | personal
deriving DecidableEq

/-- A source outside the collection. -/
structure ExternalSource where
  url : String
  resultRef : String

/-- A selected conclusion. -/
structure SaveItem where
  /-- `none` for any other text. -/
  role : Option SaveRole
  heading : String
  markdown : String
  sourceRefs : List String
  externalSources : List ExternalSource
  userQuote : String
  userMessageId : Option String
  memoryId : Option String
  memoryVersion : Option Nat
  sourceView : String
  applicability : String
  evidenceRef : Option String

structure SaveDiscussion where
  spaceId : Nat
  title : String
  purpose : String
  items : List SaveItem
  operationKey : String
  expectedVersion : Option Nat
  sourceMessageId : Option String
  authorizedPlanId : Option String
  /-- The scope version read before the transaction. -/
  observedScope : Nat
  /-- The scope version read in it. -/
  currentScope : Nat
  /-- The message is a user's message of the space. -/
  messageFound : Bool
  taskSubset : Option (List Nat)
  /-- The check of the plan that authorizes the call. -/
  authorization : Except Failure Unit
  /-- `_plan_block_issues` of the items. -/
  planIssues : List String
  /-- `_user_quote`: the quoted message and its time. -/
  userQuote : SaveItem → Except Failure (String × Instant)
  /-- The receipt behind each external source, as JSON. -/
  externalLinks : SaveItem → Except Failure String
  /-- `_read_view_observed`. -/
  viewObserved : String → String → Bool
  /-- The keys that words about time give a personal text. -/
  validity : String → Instant → List (String × String)
  /-- The text names a date of publication or of collection. -/
  namesDate : String → Bool

/-! ## Building the blocks -/

/-- A block with its links. -/
structure BuiltItem where
  block : Block
  sources : List SourceDependency
  personal : Option PersonalDependency

def sourceViews : List String :=
  ["transcript", "summary", "description", "notes", "metadata", "time"]

/-- A block that names a date depends on the whole source. -/
def narrowedView (call : SaveDiscussion) (item : SaveItem) : String :=
  if item.sourceView ≠ "time" ∧ call.namesDate (strip item.markdown) = true then ""
  else item.sourceView

def SaveRole.assessment : SaveRole → Assessment
  | .source => .sourceReported
  | .analysis => .systemSynthesis
  | .personal => .userExplicit

def SaveRole.relation : SaveRole → String
  | .source => "discussion_source"
  | .analysis => "discussion_analysis"
  | .personal => "personal_note"

/-- The checks of an item by itself. -/
def assertItem (item : SaveItem) (role : SaveRole) : Except Failure Unit := do
  ensure (strip item.heading ≠ "" ∧ strip item.markdown ≠ "" ∧
      (strip item.markdown).length ≤ 12000) (.valueError "invalid_knowledge_block")
  ensure (role = .source → ¬(item.sourceRefs = [] ∧ item.externalSources = []))
    (.valueError "source_block_requires_source")
  ensure (role = .personal → item.sourceRefs = [] ∧ item.externalSources = [])
    (.valueError "personal_block_source_conflict")

/-- `_user_quote`, asked for personal items only. -/
def quoteOf (call : SaveDiscussion) (item : SaveItem) (role : SaveRole) :
    Except Failure (Option (String × Instant)) :=
  if role = .personal then (call.userQuote item).map some else .ok none

/-- The dependency of a block on one reference. -/
def linkRef (around : Surroundings) (call : SaveDiscussion) (view blockId ref : String) :
    Except Failure SourceDependency := do
  let source ← resolveRef around ref
  ensure (∀ subset ∈ call.taskSubset, subset = [] ∨ source.1 ∈ subset)
    (.assistantConflict "wiki_source_out_of_scope")
  ensure (view = "" ∨ call.viewObserved ref view = true) (.valueError "source_view_not_observed")
  return ⟨blockId, source.2, source.1, if view = "" then "source" else "view:" ++ view⟩

/-- The dependency of a block on a memory. -/
def linkMemory (around : Surroundings) (call : SaveDiscussion) (item : SaveItem) (blockId : String) :
    Except Failure (Option PersonalDependency) :=
  match item.memoryId, item.memoryVersion with
  | some memoryId, some memoryVersion =>
      if truthy item.memoryId then do
        let row : PersonalDependency := ⟨blockId, memoryId, memoryVersion, call.sourceMessageId⟩
        ensure (around.personalCurrent row = true) (.assistantConflict "personal_dependency_stale")
        return some row
      else .ok none
  | _, _ => .ok none

/-- The block of an item. -/
def itemBlock (call : SaveDiscussion) (item : SaveItem) (role : SaveRole) (blockId view : String)
    (quoted : Option (String × Instant)) (revisions : List String) (external : String) : Block :=
  let body := strip item.markdown
  { stableId := blockId
    heading := prefixOf (strip item.heading) 160
    markdown := body
    sourceRefs := revisions
    applicability := prefixOf item.applicability 600
    assessment := role.assessment
    relation := role.relation
    manualLock := role = .personal
    userInputSource := some (if truthy item.memoryId then "memory_derived" else "discussion")
    userQuote := quoted.map fun _ => strip item.userQuote
    userMessageId := quoted.map Prod.fst
    other :=
      [("source_message_id", call.sourceMessageId.getD "")] ++
        (if view = "" then [] else [("source_view", view)]) ++
        (if item.externalSources = [] then [] else [("external_sources", external)]) ++
        (item.evidenceRef.toList.map fun ref => ("evidence_ref", ref)) ++
        match quoted with
        | some message => if truthy item.memoryId then [] else call.validity body message.2
        | none => [] }

/-- One round of the loop over the items. -/
def buildItem (around : Surroundings) (call : SaveDiscussion) (blockId : String) (item : SaveItem) :
    Except Failure BuiltItem :=
  match item.role with
  | none => .error (.valueError "invalid_knowledge_block")
  | some role => do
      assertItem item role
      let quoted ← quoteOf call item role
      ensure (truthy item.memoryId = item.memoryVersion.isSome ∧
          ¬(truthy item.memoryId = true ∧ role = .source)) (.valueError "invalid_memory_dependency")
      ensure (item.sourceView = "" ∨ item.sourceView ∈ sourceViews)
        (.valueError "invalid_source_view")
      let view := narrowedView call item
      let sources ← item.sourceRefs.eraseDups.mapM (linkRef around call view blockId)
      let external ← call.externalLinks item
      let personal ← linkMemory around call item blockId
      return ⟨itemBlock call item role blockId view quoted
        (sources.map SourceDependency.sourceRevision) external, sources, personal⟩

/-- The items in turn, each with a new identity. -/
def buildItems (around : Surroundings) (call : SaveDiscussion) :
    Nat → List SaveItem → Except Failure (List BuiltItem)
  | _, [] => .ok []
  | nextId, item :: rest => do
      let built ← buildItem around call ("wblock_" ++ toString nextId) item
      let others ← buildItems around call (nextId + 1) rest
      return built :: others

/-! ## Placing the blocks -/

/-- A deleted block whose content is saved again is released. The block is changed where it is, and the
image recorded as the page before shares it. -/
def releaseTombs (version : Nat) (incoming : List Block) (blocks : List Block) : List Block :=
  blocks.map fun tomb =>
    if tomb.isDeleted = true ∧
        (incoming.any fun block => sameText tomb.heading tomb.markdown block) = true then
      { tomb with deletionReleased := some true, lifecycleVersion := some version }
    else tomb

/-- `blocks[blocks.index(old)] = new`. -/
def replaceBlock (old new : Block) : List Block → List Block
  | [] => []
  | block :: rest => if block = old then new :: rest else block :: replaceBlock old new rest

/-- The blocks and the dependency rows while a plan's blocks find their places. -/
structure Placing where
  blocks : List Block
  sources : List SourceDependency
  personal : List PersonalDependency

/-- A block that says the same as a locked one is left out. -/
def sameConclusion (old block : Block) : Bool :=
  old.markdown = block.markdown ∧ old.assessment = block.assessment ∧
    old.userQuote = block.userQuote ∧ old.userMessageId = block.userMessageId ∧
    old.applicability = block.applicability

/-- One round of the loop over the incoming blocks of a plan. -/
def placeBlock (oldBlocks : List Block) (placing : Placing) (block : Block) :
    Except Failure Placing :=
  match oldBlocks.filter fun old =>
      ¬old.isDeleted ∧ collapse old.heading = collapse block.heading with
  | [] => .ok placing
  | [old] =>
      if old.manualLock then
        .ok (if sameConclusion old block then
          { placing with blocks := placing.blocks.erase block } else placing)
      else
        .ok
          { blocks := replaceBlock old block (placing.blocks.erase block)
            sources := placing.sources.filter fun row => row.blockId ≠ old.stableId
            personal := placing.personal.filter fun row => row.blockId ≠ old.stableId }
  | _ => .error (.assistantConflict "wiki_block_target_ambiguous")

/-- The blocks of the page with the incoming ones; without a plan they are appended. -/
def placeBlocks (planned : Bool) (oldBlocks incoming : List Block) (record : PageRecord) :
    Except Failure Placing := do
  let start : Placing := ⟨oldBlocks ++ incoming, record.sources, record.personal⟩
  if planned then
    ensure (incoming.map fun block => collapse block.heading).Nodup
      (.assistantConflict "wiki_block_target_ambiguous")
    incoming.foldlM (placeBlock oldBlocks) start
  else return start

/-! ## Writing -/

/-- `ON CONFLICT(page_id,video_id) DO UPDATE`. -/
def upsertMaterial (rows : List Material) (row : Material) : List Material :=
  if rows.any fun other => other.videoId = row.videoId then
    rows.map fun other => if other.videoId = row.videoId then row else other
  else rows ++ [row]

/-- `ON CONFLICT DO NOTHING`. -/
def insertMaterialOnce (rows : List Material) (row : Material) : List Material :=
  if rows.any fun other => other.videoId = row.videoId then rows else rows ++ [row]

/-- The links of the blocks that found a place. -/
def placedLinks (placing : Placing) (built : List BuiltItem) :
    List SourceDependency × List PersonalDependency :=
  let placed := placing.blocks.map Block.stableId
  ((built.flatMap BuiltItem.sources).filter fun row => row.blockId ∈ placed,
    (built.filterMap BuiltItem.personal).filter fun row => row.blockId ∈ placed)

/-- The dependency rows with the new links. -/
def linked (record : PageRecord) (placing : Placing) (built : List BuiltItem) :
    Except Failure PageRecord := do
  let links := placedLinks placing built
  let sources ← links.1.foldlM insertSource placing.sources
  return { record with
    sources := sources
    personal := placing.personal ++ links.2
    materials := links.1.foldl (fun rows row =>
      upsertMaterial rows ⟨row.videoId, row.sourceRevision, .supportsBlock⟩) record.materials }

/-- A page that is new, without its blocks. -/
def newRecord (pageId : String) (call : SaveDiscussion) (normalized : String) (now : Instant) :
    PageRecord :=
  { page :=
      { id := pageId
        spaceId := call.spaceId
        normalizedTitle := normalized
        title := strip call.title
        aliases := []
        pageType := .topic
        summary := strip call.purpose
        blocks := []
        version := 0
        status := .active
        scopeVersion := call.observedScope
        createdAt := now
        updatedAt := now }
    sources := []
    personal := []
    materials := []
    changes := []
    states := [] }

/-- The blocks saved on a page that is there. -/
def saveOnPage (around : Surroundings) (store : WikiStore) (call : SaveDiscussion)
    (record : PageRecord) : Except Failure Written := do
  ensure (record.page.status = .active) (.assistantConflict "wiki_page_inactive")
  ensure (call.expectedVersion = some record.page.version)
    (.assistantConflict "wiki_version_conflict")
  let built ← buildItems around call store.nextId call.items
  let incoming := built.map BuiltItem.block
  let version := record.page.version + 1
  let released := { record.page with blocks := releaseTombs version incoming record.page.blocks }
  let placing ← placeBlocks call.authorizedPlanId.isSome released.blocks incoming record
  let rows ← linked record placing built
  let after :=
    { released with
      blocks := placing.blocks
      version := version
      updatedAt := around.now }
  return (store.counted call.items.length).written
    ⟨{ rows with page := after }, .discussionSaved, some released,
      some (store.operationState record)⟩

/-- The blocks saved on a new page. -/
def saveNewPage (around : Surroundings) (store : WikiStore) (call : SaveDiscussion)
    (normalized : String) : Except Failure Written := do
  ensure (call.expectedVersion = none) (.assistantConflict "wiki_page_missing")
  let (pageId, store) := store.freshId "awiki_"
  store.assertFresh pageId
  let record := newRecord pageId call normalized around.now
  let built ← buildItems around call store.nextId call.items
  let rows ← linked record ⟨built.map BuiltItem.block, [], []⟩ built
  let after := { record.page with blocks := built.map BuiltItem.block, version := 1 }
  return (store.counted call.items.length).written
    ⟨{ rows with page := after }, .discussionSaved, none, none⟩

/-- `save_discussion`. -/
def saveDiscussion (rules : WikiRules) (around : Surroundings) (store : WikiStore)
    (call : SaveDiscussion) : Except Failure Written := do
  ensure ((strip call.title ≠ "" ∧ (strip call.title).length ≤ 120) ∧
      (strip call.purpose ≠ "" ∧ (strip call.purpose).length ≤ 600) ∧
      1 ≤ call.items.length ∧ call.items.length ≤ 8) (.valueError "invalid_knowledge_save")
  ensure (call.sourceMessageId.isSome = true) (.valueError "user_source_required")
  store.once call.operationKey do
    ensure (call.messageFound = true) (.valueError "user_source_required")
    ensure (call.currentScope = call.observedScope) (.assistantConflict "wiki_scope_changed")
    call.authorization
    ensure (call.planIssues = [])
      (.valueError ("knowledge_topic_invalid:" ++ ";".intercalate call.planIssues))
    let normalized := rules.normalizeTitle (strip call.title)
    match store.titled call.spaceId normalized with
    | some record => saveOnPage around store call record
    | none => saveNewPage around store call normalized

end Shiliu.Wiki
