/-
Module: Shiliu.Wiki.WriterMoves
Purpose: Each writer of the wiki taken apart into moves. `KeepsImages` is what a call has to meet so that the
  image it records as the page before is the page as it was stored: three writers change the blocks of
  that image in place.
Trusted boundary: none
Main exports: WikiCall.KeepsImages, WikiCall.subject, stepWiki_move
-/
import Shiliu.Wiki.Redirects

set_option linter.all false

namespace Shiliu.Wiki

open Shiliu.Library Shiliu.Storage

variable {rules : WikiRules} {images : Prop} {subjects : List String} {store : WikiStore}

variable {page : Page} {done : Written} {around : Surroundings} {seen : List String}
  {after : WikiStore} {call : SaveDiscussion} {version : Nat} {record : PageRecord}

theorem assertLifecycle_active {incoming : List IncomingBlock} {targetId : String} {done : Unit}
    (isDone : assertLifecycle page incoming targetId = .ok done) :
    page.status = .active := (ensure_then_eq_ok.mp isDone).1

/-! ## `edit_block` -/

/-- The block has the text already, and it is locked. -/
def EditBlock.KeepsImage (call : EditBlock) (store : WikiStore) : Prop :=
  store.receipt call.operationKey = none →
    (strip call.markdown ≠ "" ∧ (strip call.markdown).length ≤ 20000) →
      ∀ record ∈ store.pages.lookup call.pageId, record.page.version = call.expectedVersion →
        assertLifecycle record.page [] call.blockId = .ok () →
          ∀ block ∈ findBlock call.blockId record.page.blocks,
            block.markdown = strip call.markdown ∧ block.manualLock = true

theorem editedBlock_same {clean : String} {block : Block}
    (same : block.markdown = clean ∧ block.manualLock = true) : editedBlock clean block = block := by
  obtain ⟨rfl, isLocked⟩ := same
  cases block
  simp_all [editedBlock]

theorem editBlock_moves {call : EditBlock} (isDone : editBlock store call = .ok done) :
    CallMove rules (call.KeepsImage store) [call.blockId] store done.1 := by
  obtain ⟨valid, isDone⟩ := ensure_then_eq_ok.mp isDone
  refine once_moves isDone fun written isWritten unanswered => ?_
  obtain ⟨record, isPage, isWritten⟩ := bind_eq_ok.mp isWritten
  obtain ⟨_, isVersion, isWritten⟩ := bind_eq_ok.mp isWritten
  obtain ⟨_, isActive, isWritten⟩ := bind_eq_ok.mp isWritten
  obtain ⟨-, isWritten⟩ := ensure_then_eq_ok.mp isWritten
  obtain rfl := pure_eq_ok.mp isWritten
  obtain ⟨found, sameId⟩ := page_ok isPage
  have version := assertVersion_ok.mp isVersion
  refine .write (.of_row record (editWrite store call record _) (sameId ▸ found) rfl rfl rfl
    (congrArg (· + 1) version.symm) rfl ?_ (.of_same rfl rfl rfl) ?_) rfl
  · intro keeps
    have same : changeBlock call.blockId (editedBlock (strip call.markdown)) record.page.blocks =
        record.page.blocks := changeBlock_same fun block isBlock =>
      editedBlock_same (keeps unanswered valid record found version isActive block isBlock)
    exact congrArg some (congrArg (fun blocks => { record.page with blocks := blocks }) same)
  · -- the image shows the edit already
    intro _ blockId edits
    exact (edits_same edits rfl rfl).elim

/-! ## `add_personal_note` -/

/-- The block a note gets. -/
def noteId (store : WikiStore) : String := (store.freshId "wblock_user_").1

theorem addPersonalNote_moves {validity : String → Instant → List (String × String)}
    {call : AddPersonalNote} (isDone : addPersonalNote validity store call = .ok done) :
    CallMove rules True [noteId store] store done.1 := by
  obtain ⟨-, isDone⟩ := ensure_then_eq_ok.mp isDone
  obtain ⟨-, isDone⟩ := ensure_then_eq_ok.mp isDone
  refine once_moves isDone fun written isWritten _ => ?_
  obtain ⟨record, isPage, isWritten⟩ := bind_eq_ok.mp isWritten
  obtain ⟨_, isVersion, isWritten⟩ := bind_eq_ok.mp isWritten
  obtain ⟨_, -, isWritten⟩ := bind_eq_ok.mp isWritten
  obtain rfl := pure_eq_ok.mp isWritten
  obtain ⟨found, sameId, -, -⟩ := activePage_ok isPage
  have version := assertVersion_ok.mp isVersion
  have isRow : (store.counted 1).pages.lookup record.page.id = some record := sameId ▸ found
  refine CallMove.counted.trans (.write (.of_row record _ isRow rfl rfl rfl (congrArg (· + 1) version.symm)
    rfl (fun _ => rfl) (.of_same rfl rfl rfl) ?_) rfl)
  intro _ blockId edits
  exact List.mem_singleton.mpr (edits_concat edits rfl rfl)

/-! ## `manage_page` -/

theorem lifecycleBlock_stableId (restores : Bool) (version : Nat) (block : Block) :
    (lifecycleBlock restores version block).stableId = block.stableId := by
  cases restores <;> rfl

/-- The block of the action is the one that differs. -/
theorem managedPage_ok {call : ManagePage} {after : Page}
    (isAfter : managedPage call page = .ok after) :
    ∃ blocks status, after = { page with blocks := blocks, status := status } ∧
      (page.status ≠ .merged → status ≠ .merged) ∧
      ((call.action.operation.isIndependent = false ∧ blocks = page.blocks) ∨
        ∃ blockId, call.blockId = some blockId ∧
          blocks = changeBlock blockId
            (lifecycleBlock (call.action = .restoreBlock) (call.expectedVersion + 1)) page.blocks) := by
  unfold managedPage at isAfter
  cases isAction : call.action with
  | deleteBlock | restoreBlock =>
      simp only [isAction] at isAfter
      split at isAfter
      case h_1 => nomatch isAfter
      case h_2 block isBlock =>
        obtain ⟨-, isAfter⟩ := ensure_then_eq_ok.mp isAfter
        obtain rfl := pure_eq_ok.mp isAfter
        have same := List.find?_some isBlock
        exact ⟨_, page.status, rfl, id,
          Or.inr ⟨block.stableId, (of_decide_eq_true same).symm, rfl⟩⟩
  | archive | restore =>
      simp only [isAction] at isAfter
      obtain rfl := Except.ok.inj isAfter
      exact ⟨page.blocks, _, rfl, fun _ => by simp, Or.inl ⟨rfl, rfl⟩⟩

theorem managePage_moves {call : ManagePage} (isDone : managePage store call = .ok done) :
    CallMove rules True call.blockId.toList store done.1 := by
  obtain ⟨record, isPage, isDone⟩ := bind_eq_ok.mp isDone
  obtain ⟨-, isDone⟩ := ensure_then_eq_ok.mp isDone
  obtain ⟨found, sameId⟩ := page_ok isPage
  cases answered : store.receipt call.operationKey with
  | some result =>
      simp only [answered] at isDone
      obtain ⟨-, isDone⟩ := ensure_then_eq_ok.mp isDone
      obtain rfl := pure_eq_ok.mp isDone
      exact .refl
  | none =>
      simp only [answered] at isDone
      obtain ⟨_, isVersion, isDone⟩ := bind_eq_ok.mp isDone
      obtain ⟨_, isManageable, isDone⟩ := bind_eq_ok.mp isDone
      obtain ⟨managed, isManaged, isDone⟩ := bind_eq_ok.mp isDone
      obtain rfl := pure_eq_ok.mp isDone
      have version := assertVersion_ok.mp isVersion
      have unmerged : record.page.status ≠ .merged := (ensure_then_eq_ok.mp isManageable).1.1
      obtain ⟨blocks, status, rfl, stays, isBlocks⟩ := managedPage_ok isManaged
      let managed : Page := { record.page with blocks := blocks, status := status }
      have moved : CallMove rules True call.blockId.toList store
          (store.commit (manageWrite store call record managed) none) := by
        have merged : decide (status = .merged) = (some record).any fun record =>
            record.page.status = .merged := by simp [unmerged, stays unmerged]
        refine .write (.of_row record _ (sameId ▸ found) rfl rfl rfl
          (congrArg (· + 1) version.symm) rfl (fun _ => rfl) (.of_same rfl rfl rfl) ?_) merged
        intro independent blockId edits
        obtain ⟨dependent, -⟩ | ⟨target, isTarget, isChanged⟩ := isBlocks
        · exact absurd (independent.symm.trans dependent) Bool.noConfusion
        · have same := edits_changeBlock edits rfl isChanged (lifecycleBlock_stableId _ _)
          rw [isTarget, same]
          exact List.mem_singleton_self target
      exact moved.trans (.aside rfl rfl rfl)

/-! ## `revise_derived_blocks` -/

/-- The block an edit leaves. -/
def DerivedEdit.result (edit : DerivedEdit) (block : Block) : Block :=
  match edit.sourceRefs with
  | none => revisedBlock edit block
  | some refs =>
      { revisedBlock edit block with
        sourceRefs := (refs.eraseDups.filterMap parseVideoRef).map Prod.snd }

/-- The edits leave the blocks as they are. -/
def ReviseDerivedBlocks.KeepsImage (call : ReviseDerivedBlocks) (around : Surroundings)
    (store : WikiStore) : Prop :=
  store.receipt call.operationKey = none → ∀ record ∈ store.pages.lookup call.pageId,
    record.page.status = .active → record.page.version = call.expectedVersion →
      (reviseBlocks around record.page [] call.edits).toBool = true →
        ∀ edit ∈ call.edits, ∀ block ∈ findBlock edit.blockId record.page.blocks,
          edit.result block = block

theorem resolveRef_ok {ref : String} {source : Nat × String}
    (isSource : resolveRef around ref = .ok source) : parseVideoRef ref = some source := by
  unfold resolveRef at isSource
  split at isSource
  case h_1 => nomatch isSource
  case h_2 parsed isParsed =>
    obtain ⟨-, isSource⟩ := ensure_then_eq_ok.mp isSource
    obtain ⟨-, isSource⟩ := ensure_then_eq_ok.mp isSource
    rw [isParsed, pure_eq_ok.mp isSource]

theorem resolveRefs_ok {refs : List String} {sources : List (Nat × String)}
    (isSources : refs.mapM (resolveRef around) = .ok sources) :
    refs.filterMap parseVideoRef = sources := by
  induction refs generalizing sources with
  | nil =>
      obtain rfl := pure_eq_ok.mp isSources
      rfl
  | cons ref rest inductionHypothesis =>
      rw [List.mapM_cons] at isSources
      obtain ⟨source, isSource, isSources⟩ := bind_eq_ok.mp isSources
      obtain ⟨others, isOthers, same⟩ := bind_eq_ok.mp isSources
      obtain rfl := pure_eq_ok.mp same
      rw [List.filterMap_cons, resolveRef_ok isSource, inductionHypothesis isOthers]

theorem reviseBlock_ok {edit : DerivedEdit}
    {revised : List Block × List (String × List (Nat × String))}
    (isRevised : reviseBlock around page seen edit = .ok revised) :
    ∃ target, findBlock edit.blockId page.blocks = some target ∧
      revised.1 = changeBlock edit.blockId (fun _ => edit.result target) page.blocks := by
  obtain ⟨_, -, isRevised⟩ := bind_eq_ok.mp isRevised
  obtain ⟨-, isRevised⟩ := ensure_then_eq_ok.mp isRevised
  cases isTarget : findBlock edit.blockId page.blocks with
  | none =>
      rw [isTarget] at isRevised
      nomatch isRevised
  | some target =>
      simp only [isTarget] at isRevised
      obtain ⟨-, isRevised⟩ := ensure_then_eq_ok.mp isRevised
      obtain ⟨-, isRevised⟩ := ensure_then_eq_ok.mp isRevised
      obtain ⟨-, isRevised⟩ := ensure_then_eq_ok.mp isRevised
      refine ⟨target, rfl, ?_⟩
      unfold DerivedEdit.result
      cases isRefs : edit.sourceRefs with
      | none =>
          simp only [isRefs] at isRevised
          obtain rfl := pure_eq_ok.mp isRevised
          rfl
      | some refs =>
          simp only [isRefs] at isRevised
          obtain ⟨-, isRevised⟩ := ensure_then_eq_ok.mp isRevised
          obtain ⟨sources, isSources, isRevised⟩ := bind_eq_ok.mp isRevised
          obtain rfl := pure_eq_ok.mp isRevised
          simp only [resolveRefs_ok isSources]

variable {edits : List DerivedEdit} {revised : Page × List (String × List (Nat × String))}
  {built : List BuiltItem} {written : Written} {publication : Publication}
  {conflicts tombs : List Block} {target : OperationState}

theorem reviseBlocks_same (isRevised : reviseBlocks around page seen edits = .ok revised)
    (same : ∀ edit ∈ edits, ∀ block ∈ findBlock edit.blockId page.blocks,
      edit.result block = block) : revised.1 = page := by
  induction edits generalizing page seen revised with
  | nil =>
      obtain rfl := Except.ok.inj isRevised
      rfl
  | cons edit rest inductionHypothesis =>
      rw [List.forall_mem_cons] at same
      obtain ⟨sameBlock, sameRest⟩ := same
      obtain ⟨one, isOne, isRevised⟩ := bind_eq_ok.mp isRevised
      obtain ⟨others, isOthers, done⟩ := bind_eq_ok.mp isRevised
      obtain rfl := pure_eq_ok.mp done
      obtain ⟨target, isTarget, isBlocks⟩ := reviseBlock_ok isOne
      have unchanged : one.1 = page.blocks := by
        rw [isBlocks]
        refine changeBlock_same fun block isBlock => ?_
        obtain rfl := Option.some.inj (isTarget.symm.trans isBlock)
        exact sameBlock target isTarget
      rw [unchanged] at isOthers
      have result := inductionHypothesis isOthers sameRest
      exact result

theorem reviseBlocks_kept (isRevised : reviseBlocks around page seen edits = .ok revised) :
    ∃ blocks, revised.1 = { page with blocks := blocks } := by
  induction edits generalizing page seen revised with
  | nil =>
      obtain rfl := Except.ok.inj isRevised
      exact ⟨page.blocks, rfl⟩
  | cons edit rest inductionHypothesis =>
      obtain ⟨one, -, isRevised⟩ := bind_eq_ok.mp isRevised
      obtain ⟨others, isOthers, done⟩ := bind_eq_ok.mp isRevised
      obtain rfl := pure_eq_ok.mp done
      obtain ⟨blocks, same⟩ := inductionHypothesis isOthers
      exact ⟨blocks, same⟩

theorem reviseDerivedBlocks_moves {call : ReviseDerivedBlocks}
    (isDone : reviseDerivedBlocks around store call = .ok done) :
    CallMove rules (call.KeepsImage around store) subjects store done.1 := by
  obtain ⟨-, isDone⟩ := ensure_then_eq_ok.mp isDone
  refine once_moves isDone fun written isWritten unanswered => ?_
  obtain ⟨record, isPage, isWritten⟩ := bind_eq_ok.mp isWritten
  obtain ⟨_, isVersion, isWritten⟩ := bind_eq_ok.mp isWritten
  obtain ⟨revised, isRevised, isWritten⟩ := bind_eq_ok.mp isWritten
  obtain ⟨sources, -, isWritten⟩ := bind_eq_ok.mp isWritten
  obtain rfl := pure_eq_ok.mp isWritten
  obtain ⟨found, sameId, -, status⟩ := activePage_ok isPage
  have version := assertVersion_ok.mp isVersion
  obtain ⟨blocks, isEdited⟩ := reviseBlocks_kept isRevised
  have isId : revised.1.id = record.page.id := by rw [isEdited]
  have isSpace : revised.1.spaceId = record.page.spaceId := by rw [isEdited]
  have isTitle : revised.1.title = record.page.title := by rw [isEdited]
  have isNormalized : revised.1.normalizedTitle = record.page.normalizedTitle := by rw [isEdited]
  have merged : decide (revised.1.status = .merged) = (some record).any fun record =>
      record.page.status = .merged := by rw [isEdited]; rfl
  refine .write (.of_row record (reviseWrite store call around.now record revised.1 sources _)
    (sameId ▸ found) isId rfl rfl (congrArg (· + 1) version.symm) rfl ?_
    (.of_same isSpace isTitle isNormalized) fun independent => nomatch independent) merged
  intro keeps
  exact congrArg some (reviseBlocks_same isRevised
    (keeps unanswered record found status version (by rw [isRevised]; rfl)))

/-! ## `_rebind_equivalent_source` -/

theorem rebindEquivalentSource_moves {call : RebindEquivalentSource}
    (isAfter : rebindEquivalentSource around store call = .ok after) :
    CallMove rules True subjects store after := by
  obtain ⟨_, -, isAfter⟩ := bind_eq_ok.mp isAfter
  cases found : store.pages.lookup call.pageId with
  | none =>
      rw [found] at isAfter
      cases isAfter
  | some record =>
      simp only [found] at isAfter
      obtain ⟨-, isAfter⟩ := ensure_then_eq_ok.mp isAfter
      have sameId : record.id = call.pageId := Table.key_of_lookup found
      have isRow : store.pages.lookup record.page.id = some record :=
        (congrArg store.pages.lookup sameId).trans found
      rw [← pure_eq_ok.mp isAfter]
      split
      · exact .refl
      · exact .write (.of_row record (rebindWrite store call around.now record) isRow rfl rfl rfl rfl
          rfl (fun _ => rfl) (.of_same rfl rfl rfl) fun independent => by cases independent) rfl

/-! ## `save_discussion` -/

/-- No deleted block of the page says what an item says. -/
def SaveDiscussion.KeepsImage (call : SaveDiscussion) (rules : WikiRules) (store : WikiStore) :
    Prop :=
  store.receipt call.operationKey = none →
    ∀ record ∈ store.titled call.spaceId (rules.normalizeTitle (strip call.title)),
      record.page.status = .active → call.expectedVersion = some record.page.version →
        ∀ tomb ∈ record.page.blocks, tomb.isDeleted = true → ∀ item ∈ call.items,
          ¬(collapse tomb.heading = collapse (prefixOf (strip item.heading) 160) ∧
            collapse tomb.markdown = collapse (strip item.markdown))

theorem buildItem_text {blockId : String} {item : SaveItem} {built : BuiltItem}
    (isBuilt : buildItem around call blockId item = .ok built) :
    built.block.heading = prefixOf (strip item.heading) 160 ∧
      built.block.markdown = strip item.markdown := by
  unfold buildItem at isBuilt
  split at isBuilt
  case h_1 => nomatch isBuilt
  case h_2 role _ =>
    obtain ⟨_, -, isBuilt⟩ := bind_eq_ok.mp isBuilt
    obtain ⟨quoted, -, isBuilt⟩ := bind_eq_ok.mp isBuilt
    obtain ⟨-, isBuilt⟩ := ensure_then_eq_ok.mp isBuilt
    obtain ⟨-, isBuilt⟩ := ensure_then_eq_ok.mp isBuilt
    obtain ⟨sources, -, isBuilt⟩ := bind_eq_ok.mp isBuilt
    obtain ⟨external, -, isBuilt⟩ := bind_eq_ok.mp isBuilt
    obtain ⟨personal, -, isBuilt⟩ := bind_eq_ok.mp isBuilt
    obtain rfl := pure_eq_ok.mp isBuilt
    exact ⟨rfl, rfl⟩

theorem buildItems_text {nextId : Nat} {items : List SaveItem}
    (isBuilt : buildItems around call nextId items = .ok built) :
    ∀ one ∈ built, ∃ item ∈ items, one.block.heading = prefixOf (strip item.heading) 160 ∧
      one.block.markdown = strip item.markdown := by
  induction items generalizing nextId built with
  | nil =>
      obtain rfl := Except.ok.inj isBuilt
      exact fun _ member => nomatch member
  | cons item rest inductionHypothesis =>
      obtain ⟨first, isFirst, isBuilt⟩ := bind_eq_ok.mp isBuilt
      obtain ⟨others, isOthers, same⟩ := bind_eq_ok.mp isBuilt
      obtain rfl := pure_eq_ok.mp same
      intro one member
      obtain rfl | member := List.mem_cons.mp member
      · exact ⟨item, List.mem_cons_self, buildItem_text isFirst⟩
      · obtain ⟨source, isSource, text⟩ := inductionHypothesis isOthers one member
        exact ⟨source, List.mem_cons_of_mem item isSource, text⟩

theorem releaseTombs_same {incoming blocks : List Block}
    (none : ∀ tomb ∈ blocks, tomb.isDeleted = true → ∀ block ∈ incoming,
      sameText tomb.heading tomb.markdown block = false) :
    releaseTombs version incoming blocks = blocks := by
  refine (List.map_congr_left fun tomb isTomb => ?_).trans blocks.map_id
  refine if_neg fun ⟨deleted, matched⟩ => ?_
  obtain ⟨block, isBlock, same⟩ := List.any_eq_true.mp matched
  rw [none tomb isTomb deleted block isBlock] at same
  nomatch same

theorem linked_ok {rows : PageRecord} {placing : Placing}
    (isLinked : linked record placing built = .ok rows) :
    rows.page = record.page ∧ rows.changes = record.changes ∧ rows.states = record.states := by
  obtain ⟨sources, -, isLinked⟩ := bind_eq_ok.mp isLinked
  obtain rfl := pure_eq_ok.mp isLinked
  exact ⟨rfl, rfl, rfl⟩

theorem saveOnPage_moves (found : store.pages.lookup record.page.id = some record)
    (isWritten : saveOnPage around store call record = .ok written) :
    CallMove rules (record.page.status = .active →
      call.expectedVersion = some record.page.version →
        ∀ tomb ∈ record.page.blocks, tomb.isDeleted = true → ∀ item ∈ call.items,
          ¬(collapse tomb.heading = collapse (prefixOf (strip item.heading) 160) ∧
            collapse tomb.markdown = collapse (strip item.markdown))) subjects store written.1 := by
  obtain ⟨active, isWritten⟩ := ensure_then_eq_ok.mp isWritten
  obtain ⟨version, isWritten⟩ := ensure_then_eq_ok.mp isWritten
  obtain ⟨built, isBuilt, isWritten⟩ := bind_eq_ok.mp isWritten
  obtain ⟨placing, -, isWritten⟩ := bind_eq_ok.mp isWritten
  obtain ⟨rows, isLinked, isWritten⟩ := bind_eq_ok.mp isWritten
  obtain rfl := pure_eq_ok.mp isWritten
  obtain ⟨-, changes, states⟩ := linked_ok isLinked
  have isRow : (store.counted call.items.length).pages.lookup record.page.id = some record := found
  refine CallMove.counted.trans (.write (.of_row record _ isRow rfl changes states rfl rfl ?_
    (.of_same rfl rfl rfl) nofun) rfl)
  intro distinct
  have same : releaseTombs (record.page.version + 1) (built.map BuiltItem.block)
      record.page.blocks = record.page.blocks := by
    refine releaseTombs_same fun tomb isTomb deleted block isBlock => ?_
    obtain ⟨one, isOne, rfl⟩ := List.mem_map.mp isBlock
    obtain ⟨item, isItem, heading, markdown⟩ := buildItems_text isBuilt one isOne
    rw [sameText, heading, markdown]
    exact decide_eq_false (distinct active version tomb isTomb deleted item isItem)
  exact congrArg some (congrArg (fun blocks => { record.page with blocks := blocks }) same)

theorem saveNewPage_moves
    (untaken : store.titled call.spaceId (rules.normalizeTitle (strip call.title)) = none)
    (isWritten : saveNewPage around store call (rules.normalizeTitle (strip call.title)) =
      .ok written) :
    CallMove rules images subjects store written.1 := by
  obtain ⟨-, isWritten⟩ := ensure_then_eq_ok.mp isWritten
  obtain ⟨_, isFresh, isWritten⟩ := bind_eq_ok.mp isWritten
  obtain ⟨built, -, isWritten⟩ := bind_eq_ok.mp isWritten
  obtain ⟨rows, isLinked, isWritten⟩ := bind_eq_ok.mp isWritten
  obtain rfl := pure_eq_ok.mp isWritten
  obtain ⟨-, changes, states⟩ := linked_ok isLinked
  refine CallMove.counted.trans (CallMove.counted.trans (.write (.of_new _ ?_ changes states rfl rfl
    rfl rfl untaken rfl) rfl))
  exact assertFresh_ok.mp isFresh

theorem saveDiscussion_moves (isDone : saveDiscussion rules around store call = .ok done) :
    CallMove rules (call.KeepsImage rules store) subjects store done.1 := by
  obtain ⟨-, isDone⟩ := ensure_then_eq_ok.mp isDone
  obtain ⟨-, isDone⟩ := ensure_then_eq_ok.mp isDone
  refine once_moves isDone fun written isWritten unanswered => ?_
  obtain ⟨-, isWritten⟩ := ensure_then_eq_ok.mp isWritten
  obtain ⟨-, isWritten⟩ := ensure_then_eq_ok.mp isWritten
  obtain ⟨_, -, isWritten⟩ := bind_eq_ok.mp isWritten
  obtain ⟨-, isWritten⟩ := ensure_then_eq_ok.mp isWritten
  cases isTitled : store.titled call.spaceId (rules.normalizeTitle (strip call.title)) with
  | none =>
      simp only [isTitled] at isWritten
      exact saveNewPage_moves isTitled isWritten
  | some record =>
      simp only [isTitled] at isWritten
      obtain ⟨found, -, -⟩ := titled_some isTitled
      exact (saveOnPage_moves found isWritten).mono fun keeps => keeps unanswered record isTitled

/-! ## Source patches -/

theorem publishSourcePatch_writes {exclude : Option String} {done : WikiStore × (String × Nat)}
    (isDone : publishSourcePatch rules store publication exclude = .ok done) :
    ∃ count prior write, write.Continues rules images subjects (store.counted count) prior ∧
      (decide (write.written.page.status = .merged) =
        prior.any fun record => record.page.status = .merged) ∧
      done.1 = (store.counted count).commit write exclude := by
  unfold publishSourcePatch at isDone
  cases isTitled : store.titled publication.spaceId
      (rules.normalizeTitle publication.patch.title) with
  | none =>
      simp only [isTitled] at isDone
      obtain ⟨-, isDone⟩ := ensure_then_eq_ok.mp isDone
      obtain ⟨_, isFresh, isDone⟩ := bind_eq_ok.mp isDone
      obtain ⟨sources, -, isDone⟩ := bind_eq_ok.mp isDone
      obtain rfl := pure_eq_ok.mp isDone
      let page := publication.createdPage rules (store.freshId "awiki_").1
      exact ⟨1, none, publication.newPageWrite page sources,
        .of_new _ (assertFresh_ok.mp isFresh) rfl rfl rfl rfl rfl rfl isTitled rfl, rfl, rfl⟩
  | some record =>
      simp only [isTitled] at isDone
      obtain ⟨_, isActive, isDone⟩ := bind_eq_ok.mp isDone
      obtain ⟨_, isVersion, isDone⟩ := bind_eq_ok.mp isDone
      obtain ⟨_, -, isDone⟩ := bind_eq_ok.mp isDone
      obtain ⟨_, -, isDone⟩ := bind_eq_ok.mp isDone
      obtain ⟨_, -, isDone⟩ := bind_eq_ok.mp isDone
      obtain ⟨_, -, isDone⟩ := bind_eq_ok.mp isDone
      obtain ⟨sources, -, isDone⟩ := bind_eq_ok.mp isDone
      obtain rfl := pure_eq_ok.mp isDone
      have isRow : (store.counted 0).pages.lookup record.page.id = some record :=
        (titled_some isTitled).1
      have version := assertVersion_ok.mp isVersion
      have active : record.page.status = .active := assertLifecycle_active isActive
      let after := publication.patchedPage rules record
      refine ⟨0, some record, publication.pageWrite store record after sources,
        .of_row record _ isRow rfl rfl rfl (congrArg (· + 1) version.symm) rfl (fun _ => rfl)
          (.of_same rfl rfl rfl) ?_, by simp [after, Publication.pageWrite, active]; rfl, rfl⟩
      intro independent
      simp only [Publication.pageWrite, Publication.operation] at independent
      split at independent
      · nomatch independent
      · split at independent <;> nomatch independent

theorem publishSourcePatch_moves {done : WikiStore × (String × Nat)}
    (isDone : publishSourcePatch rules store publication none = .ok done) :
    CallMove rules images subjects store done.1 := by
  obtain ⟨count, prior, write, continues, merged, same⟩ := publishSourcePatch_writes isDone
  rw [same]
  exact CallMove.counted.trans (.write continues merged)

theorem validateSourcePatch_ok {basis : ReviewBasis} {proposal : Proposal} {payload : PatchPayload}
    (isValid : validateSourcePatch store basis proposal payload = .ok record) :
    store.pages.lookup proposal.targetPageId = some record ∧
      record.page.spaceId = proposal.spaceId ∧ record.page.version = proposal.targetVersion := by
  obtain ⟨_, -, isValid⟩ := bind_eq_ok.mp isValid
  obtain ⟨-, isValid⟩ := ensure_then_eq_ok.mp isValid
  cases isPage : store.pages.lookup proposal.targetPageId with
  | none =>
      rw [isPage] at isValid
      nomatch isValid
  | some row =>
      simp only [isPage] at isValid
      obtain ⟨space, isValid⟩ := ensure_then_eq_ok.mp isValid
      obtain ⟨version, isValid⟩ := ensure_then_eq_ok.mp isValid
      obtain ⟨-, isValid⟩ := ensure_then_eq_ok.mp isValid
      obtain ⟨_, -, isValid⟩ := bind_eq_ok.mp isValid
      obtain ⟨_, -, isValid⟩ := bind_eq_ok.mp isValid
      obtain ⟨_, -, isValid⟩ := bind_eq_ok.mp isValid
      obtain ⟨-, isValid⟩ := ensure_then_eq_ok.mp isValid
      obtain ⟨-, isValid⟩ := ensure_then_eq_ok.mp isValid
      obtain ⟨-, isValid⟩ := ensure_then_eq_ok.mp isValid
      obtain rfl := pure_eq_ok.mp isValid
      exact ⟨rfl, space, version⟩

theorem createSourcePatch_moves {call : ApplyPatch}
    {created : WikiStore × String × ProposalStatus}
    (isCreated : createSourcePatch rules store call = .ok created) :
    CallMove rules images subjects store created.1 := by
  unfold createSourcePatch at isCreated
  simp only at isCreated
  split at isCreated
  case h_1 => nomatch isCreated
  case h_2 record isTitled =>
    split at isCreated
    case h_1 =>
      obtain rfl := Except.ok.inj isCreated
      exact .refl
    case h_2 =>
      obtain ⟨payload, isPayload, isCreated⟩ := bind_eq_ok.mp isCreated
      obtain ⟨row, isValid, isCreated⟩ := bind_eq_ok.mp isCreated
      obtain ⟨absent, isCreated⟩ := ensure_then_eq_ok.mp isCreated
      obtain rfl := pure_eq_ok.mp isCreated
      obtain ⟨isPage, isSpace, isVersion⟩ := validateSourcePatch_ok isValid
      obtain ⟨found, -, isTitle⟩ := titled_some isTitled
      obtain rfl := Option.some.inj (found.symm.trans isPage)
      refine CallMove.counted.trans (.of_proposals (.propose isPage isVersion isSpace fun other isOther => ?_) rfl)
      obtain rfl := Option.some.inj isOther
      exact isTitle

theorem applyPatch_moves {call : ApplyPatch} {done : WikiStore × PatchResult}
    (isDone : applyPatch rules store call = .ok done) :
    CallMove rules images subjects store done.1 := by
  obtain ⟨_, -, isDone⟩ := bind_eq_ok.mp isDone
  simp only at isDone
  split at isDone
  · obtain ⟨published, isPublished, isDone⟩ := bind_eq_ok.mp isDone
    obtain rfl := pure_eq_ok.mp isDone
    exact publishSourcePatch_moves isPublished
  · obtain ⟨-, isDone⟩ := ensure_then_eq_ok.mp isDone
    obtain ⟨created, isCreated, isDone⟩ := bind_eq_ok.mp isDone
    obtain rfl := pure_eq_ok.mp isDone
    exact createSourcePatch_moves isCreated

theorem decideSourcePatch_moves {call : DecideSourcePatch} {done : WikiStore × Decision}
    (isDone : decideSourcePatch rules store call = .ok done) :
    CallMove rules images subjects store done.1 := by
  obtain ⟨⟨proposal, payload⟩, -, isDone⟩ := bind_eq_ok.mp isDone
  obtain ⟨-, isDone⟩ := ensure_then_eq_ok.mp isDone
  split at isDone
  · obtain ⟨-, isDone⟩ := ensure_then_eq_ok.mp isDone
    obtain rfl := pure_eq_ok.mp isDone
    exact .refl
  split at isDone
  case isFalse =>
    obtain rfl := pure_eq_ok.mp isDone
    exact .refl
  unfold decidePending at isDone
  split at isDone
  · obtain rfl := Except.ok.inj isDone
    exact .trans (.settle ProposalStatus.noConfusion) (.aside rfl rfl rfl)
  split at isDone
  · obtain rfl := Except.ok.inj isDone
    exact .settle ProposalStatus.noConfusion
  · obtain ⟨published, isPublished, isDone⟩ := bind_eq_ok.mp isDone
    obtain rfl := pure_eq_ok.mp isDone
    obtain ⟨count, prior, write, continues, merged, same⟩ := publishSourcePatch_writes isPublished
    rw [same]
    exact CallMove.counted.trans (.trans (.accept continues merged) (.aside rfl rfl rfl))

theorem validateSourceProposal_moves {call : ValidateSourceProposal} {done : WikiStore × Bool}
    (isDone : validateSourceProposal store call = .ok done) :
    CallMove rules images subjects store done.1 := by
  obtain ⟨⟨proposal, payload⟩, -, isDone⟩ := bind_eq_ok.mp isDone
  simp only at isDone
  split at isDone
  · obtain rfl := pure_eq_ok.mp isDone
    exact .settle ProposalStatus.noConfusion
  · obtain rfl := pure_eq_ok.mp isDone
    exact .refl

/-! ## Merges -/

theorem holdMerge_moves {call : MergePages} {done : WikiStore × MergeResult}
    (isDone : holdMerge rules store call conflicts = .ok done) :
    CallMove rules images subjects store done.1 := by
  unfold holdMerge at isDone
  simp only at isDone
  split at isDone
  · obtain rfl := Except.ok.inj isDone
    exact .refl
  · obtain ⟨-, isDone⟩ := ensure_then_eq_ok.mp isDone
    obtain rfl := pure_eq_ok.mp isDone
    exact CallMove.counted.trans (.of_proposals (.hold rfl) rfl)

/-- The store of a merge before its pages are written. -/
def redirected (store : WikiStore) (call : MergePages) (nextId : Nat) : WikiStore :=
  { store with
    nextId := nextId
    redirects := store.redirects.insert ⟨call.sourcePageId, call.targetPageId, call.spaceId⟩ }

theorem merged_entries {call : MergePages} {source target : PageRecord}
    (isSource : store.activePage call.sourcePageId call.spaceId = .ok source)
    (isTarget : store.activePage call.targetPageId call.spaceId = .ok target)
    (different : call.sourcePageId ≠ call.targetPageId)
    (absent : store.redirects.lookup call.sourcePageId = none) :
    EntryStep store.entries (merged store call conflicts source target).1.entries := by
  obtain ⟨sourceFound, sourceId, sourceSpace, sourceActive⟩ := activePage_ok isSource
  obtain ⟨targetFound, targetId, targetSpace, targetActive⟩ := activePage_ok isTarget
  have unmerged : ∀ {record : PageRecord} {pageId : String},
      store.pages.lookup pageId = some record → record.page.spaceId = call.spaceId →
        record.page.status = .active →
          store.entries.standing pageId = some ⟨call.spaceId, false⟩ := by
    intro record pageId found space active
    simp [WikiStore.entries, found, PageRecord.standing, space, active]
  apply EntryStep.merge different (unmerged sourceFound sourceSpace sourceActive)
    (unmerged targetFound targetSpace targetActive)
  · intro id
    change (store.redirects.insert ⟨call.sourcePageId, call.targetPageId, call.spaceId⟩).lookup id =
      if id = call.sourcePageId then some ⟨call.sourcePageId, call.targetPageId, call.spaceId⟩
      else store.redirects.lookup id
    split
    case isTrue here =>
        rw [here]
        exact Table.lookup_insert_self absent
    case isFalse elsewhere => exact Table.lookup_insert_of_ne (Ne.symm elsewhere)
  · intro id
    simp only [merged, standing_commit]
    simp only [mergedSource, mergedTarget, PageRecord.standing, sourceId, targetId, sourceSpace,
      targetSpace, targetActive, decide_true]
    split
    case isTrue => rfl
    case isFalse =>
        split
        case isTrue here =>
            rw [here, unmerged targetFound targetSpace targetActive]
            rfl
        case isFalse => rfl

theorem mergePages_moves {call : MergePages} {done : WikiStore × MergeResult}
    (isDone : mergePages rules store call = .ok done) :
    CallMove rules images subjects store done.1 := by
  obtain ⟨different, isDone⟩ := ensure_then_eq_ok.mp isDone
  split at isDone
  · obtain rfl := pure_eq_ok.mp isDone
    exact .refl
  obtain ⟨source, isSource, isDone⟩ := bind_eq_ok.mp isDone
  obtain ⟨target, isTarget, isDone⟩ := bind_eq_ok.mp isDone
  obtain ⟨⟨sourceVersion, targetVersion⟩, isDone⟩ := ensure_then_eq_ok.mp isDone
  obtain ⟨-, isDone⟩ := ensure_then_eq_ok.mp isDone
  simp only at isDone
  split at isDone
  · exact holdMerge_moves isDone
  obtain ⟨_, -, isDone⟩ := bind_eq_ok.mp isDone
  obtain ⟨absent, isDone⟩ := ensure_then_eq_ok.mp isDone
  obtain rfl := pure_eq_ok.mp isDone
  obtain ⟨sourceFound, sourceId, -, -⟩ := activePage_ok isSource
  obtain ⟨targetFound, targetId, -, -⟩ := activePage_ok isTarget
  let conflicts := mergeConflicts rules (call.visible source) (call.visible target)
  let blocks := mergeBlocks call store.nextId conflicts source target
  let first : PageWrite := ⟨mergedTarget call blocks source target, .merged, some target.page,
    some (store.operationState target)⟩
  let second : PageWrite := ⟨mergedSource call source, .merged, some source.page,
    some (store.operationState source)⟩
  let before := redirected store call blocks.nextId
  let between := before.commit first none
  have isTargetRow : before.pages.lookup target.page.id = some target := targetId ▸ targetFound
  have isSourceRow : between.pages.lookup source.page.id = some source := by
    have apart : source.page.id ≠ first.written.page.id := by
      rw [sourceId]
      exact fun same => different (same.trans targetId)
    rw [lookup_commit_of_ne apart, sourceId]
    exact sourceFound
  have redirects : WikiMove rules images subjects store before := .aside rfl rfl
  have writesTarget : WikiMove rules images subjects before between :=
    .write (.of_row target first isTargetRow rfl rfl rfl (congrArg (· + 1) targetVersion.symm) rfl
      (fun _ => rfl) (.of_same rfl rfl rfl) fun independent => by cases independent)
  have writesSource : WikiMove rules images subjects between (between.commit second none) :=
    .write (.of_row source second isSourceRow rfl rfl rfl (congrArg (· + 1) sourceVersion.symm) rfl
      (fun _ => rfl) (.of_same rfl rfl rfl) fun independent => by cases independent)
  exact ⟨redirects.trans (writesTarget.trans (writesSource.trans (.aside rfl rfl))),
    .single (merged_entries isSource isTarget different absent)⟩

theorem decideMerge_moves {call : DecideMerge} {done : WikiStore × Decision}
    (isDone : decideMerge rules store call = .ok done) :
    CallMove rules images subjects store done.1 := by
  unfold decideMerge at isDone
  split at isDone
  case h_1 => nomatch isDone
  split at isDone
  case h_1 => nomatch isDone
  obtain ⟨-, isDone⟩ := ensure_then_eq_ok.mp isDone
  split at isDone
  · obtain ⟨-, isDone⟩ := ensure_then_eq_ok.mp isDone
    obtain rfl := pure_eq_ok.mp isDone
    exact .refl
  split at isDone
  case isFalse =>
    obtain rfl := pure_eq_ok.mp isDone
    exact .refl
  unfold decidePendingMerge at isDone
  split at isDone
  · obtain rfl := Except.ok.inj isDone
    exact .settle ProposalStatus.noConfusion
  split at isDone
  · obtain rfl := Except.ok.inj isDone
    exact .trans (.settle ProposalStatus.noConfusion) (.aside rfl rfl rfl)
  · obtain ⟨merged, isMerged, isDone⟩ := bind_eq_ok.mp isDone
    obtain rfl := pure_eq_ok.mp isDone
    exact (mergePages_moves isMerged).trans
      (.trans (.settle ProposalStatus.noConfusion) (.aside rfl rfl rfl))

/-! ## `revert` -/

/-- The operation state a revert goes back to is one of the page. -/
theorem targetState_titled (isTarget : targetState record version = some target) :
    ∃ row ∈ record.states, target.page.title ∈ row.titles := by
  unfold targetState at isTarget
  split at isTarget
  case h_1 row isRow =>
    obtain rfl := Option.some.inj isTarget
    exact ⟨row, List.mem_of_find?_eq_some isRow, List.mem_cons_self⟩
  case h_2 =>
    obtain ⟨row, isRow, isBefore⟩ := Option.bind_eq_some_iff.mp isTarget
    refine ⟨row, List.mem_of_find?_eq_some isRow, List.mem_cons_of_mem _ ?_⟩
    rw [isBefore]
    exact List.mem_singleton_self _

theorem undoMerge_moves {oldPageId : String}
    (isAfter : undoMerge around tombs store oldPageId = .ok after)
    (found : store.pages.lookup record.page.id = some record)
    (active : record.page.status = .active) :
    CallMove rules images subjects store after ∧
      after.pages.lookup record.page.id = some record := by
  unfold undoMerge at isAfter
  split at isAfter
  case h_1 => cases isAfter
  case h_2 source isSource =>
    obtain ⟨merged, isAfter⟩ := ensure_then_eq_ok.mp isAfter
    obtain ⟨-, isAfter⟩ := ensure_then_eq_ok.mp isAfter
    obtain rfl := pure_eq_ok.mp isAfter
    have isKey : source.id = oldPageId := Table.key_of_lookup isSource
    have sourceId : source.page.id = oldPageId := isKey
    let before : WikiStore :=
      { store with
        redirects := store.redirects.deleteWhere fun redirect => redirect.oldPageId = oldPageId }
    let write : PageWrite := ⟨unmergedSource around tombs source, .mergeUndone, some source.page,
      some (store.operationState source)⟩
    have isRow : before.pages.lookup source.page.id = some source :=
      (congrArg store.pages.lookup sourceId).trans isSource
    have redirects : WikiMove rules images subjects store before := .aside rfl rfl
    refine ⟨⟨redirects.trans (.write (.of_row source write isRow rfl rfl rfl rfl rfl (fun _ => rfl)
      (.of_same rfl rfl rfl) fun independent => by cases independent)), .single ?_⟩, ?_⟩
    · apply @EntryStep.undo _ _ oldPageId source.page.spaceId
      · simp [WikiStore.entries, isSource, PageRecord.standing, merged]
      · intro id
        exact Table.lookup_deleteWhere_key
      · intro id
        rw [standing_commit]
        simp only [unmergedSource, sourceId]
        rfl
    · have apart : record.page.id ≠ write.written.page.id := by
        intro same
        obtain rfl :=
          Option.some.inj (found.symm.trans ((congrArg store.pages.lookup same).trans isRow))
        exact PageStatus.noConfusion (active.symm.trans merged)
      rw [lookup_commit_of_ne apart]
      exact found

theorem undoMerges_moves {oldPageIds : List String}
    (isAfter : oldPageIds.foldlM (undoMerge around tombs) store = .ok after)
    (found : store.pages.lookup record.page.id = some record)
    (active : record.page.status = .active) :
    CallMove rules images subjects store after ∧
      after.pages.lookup record.page.id = some record := by
  induction oldPageIds generalizing store with
  | nil =>
      obtain rfl := pure_eq_ok.mp isAfter
      exact ⟨.refl, found⟩
  | cons oldPageId rest inductionHypothesis =>
      rw [List.foldlM_cons] at isAfter
      obtain ⟨middle, isMiddle, isAfter⟩ := bind_eq_ok.mp isAfter
      obtain ⟨first, stillFound⟩ := undoMerge_moves isMiddle found active
      obtain ⟨others, atEnd⟩ := inductionHypothesis isAfter stillFound
      exact ⟨first.trans others, atEnd⟩

theorem revertWrite_continues {undone : WikiStore}
    (found : undone.pages.lookup record.page.id = some record)
    (isTarget : targetState record version = some target) :
    (revertWrite rules around store version record target).Continues rules images subjects undone
      (some record) := by
  have kept : TitleKept rules record (revertedRecord rules around record version target).page := by
    refine ⟨?_, Or.inr ⟨?_, ?_⟩⟩ <;> dsimp only [revertedRecord]
    exact targetState_titled isTarget
  -- the fields are unfolded first: comparing the two pages as a whole would compare their blocks
  unfold revertWrite
  refine .of_row record _ found ?_ ?_ ?_ ?_ rfl (fun _ => rfl) kept
    fun independent => nomatch independent
  all_goals dsimp only [revertedRecord]

theorem revert_moves {call : RevertPage} (isDone : revert rules around store call = .ok done) :
    CallMove rules images subjects store done.1 := by
  refine once_moves isDone fun written isWritten _ => ?_
  obtain ⟨record, isPage, isWritten⟩ := bind_eq_ok.mp isWritten
  obtain ⟨_, isActive, isWritten⟩ := bind_eq_ok.mp isWritten
  obtain ⟨_, -, isWritten⟩ := bind_eq_ok.mp isWritten
  obtain ⟨-, isWritten⟩ := ensure_then_eq_ok.mp isWritten
  cases isTarget : targetState record call.targetVersion with
  | none =>
      rw [isTarget] at isWritten
      nomatch isWritten
  | some target =>
      simp only [isTarget] at isWritten
      obtain ⟨-, isWritten⟩ := ensure_then_eq_ok.mp isWritten
      obtain ⟨_, -, isWritten⟩ := bind_eq_ok.mp isWritten
      obtain ⟨undone, isUndone, isWritten⟩ := bind_eq_ok.mp isWritten
      obtain rfl := pure_eq_ok.mp isWritten
      obtain ⟨found, sameId⟩ := page_ok isPage
      obtain ⟨undoes, isRow⟩ :=
        undoMerges_moves isUndone (sameId ▸ found) (assertLifecycle_active isActive)
      have continues : (revertWrite rules around store call.targetVersion record target).Continues
          rules images subjects undone (some record) := revertWrite_continues isRow isTarget
      refine undoes.trans (.write continues ?_)
      have active : record.page.status = .active := assertLifecycle_active isActive
      dsimp only [revertWrite, revertedRecord]
      rfl

/-! ## A call -/

namespace WikiCall

/-- The call leaves the blocks of the image it records as they were. -/
def KeepsImages (rules : WikiRules) (store : WikiStore) : WikiCall → Prop
  | .saveDiscussion _ call => call.KeepsImage rules store
  | .editBlock call => call.KeepsImage store
  | .reviseDerivedBlocks around call => call.KeepsImage around store
  | _ => True

/-- The block an edit is about. -/
def subject (store : WikiStore) : WikiCall → List String
  | .editBlock call => [call.blockId]
  | .addPersonalNote _ _ => [noteId store]
  | .managePage call => call.blockId.toList
  | _ => []

end WikiCall

theorem run_moves {call : WikiCall} {done : WikiStore × Bool}
    (isDone : call.run rules store = .ok done) :
    CallMove rules (call.KeepsImages rules store) (call.subject store) store done.1 := by
  cases call with
  | saveDiscussion around call =>
      obtain ⟨written, isWritten, rfl⟩ := map_eq_ok.mp isDone
      exact saveDiscussion_moves isWritten
  | addPersonalNote validity call =>
      obtain ⟨written, isWritten, rfl⟩ := map_eq_ok.mp isDone
      exact addPersonalNote_moves isWritten
  | editBlock call =>
      obtain ⟨written, isWritten, rfl⟩ := map_eq_ok.mp isDone
      exact editBlock_moves isWritten
  | reviseDerivedBlocks around call =>
      obtain ⟨written, isWritten, rfl⟩ := map_eq_ok.mp isDone
      exact reviseDerivedBlocks_moves isWritten
  | managePage call =>
      obtain ⟨written, isWritten, rfl⟩ := map_eq_ok.mp isDone
      exact managePage_moves isWritten
  | mergePages call =>
      obtain ⟨written, isWritten, rfl⟩ := map_eq_ok.mp isDone
      exact mergePages_moves isWritten
  | decideMerge call =>
      obtain ⟨written, isWritten, rfl⟩ := map_eq_ok.mp isDone
      exact decideMerge_moves isWritten
  | revert around call =>
      obtain ⟨written, isWritten, rfl⟩ := map_eq_ok.mp isDone
      exact revert_moves isWritten
  | applyPatch call =>
      obtain ⟨written, isWritten, rfl⟩ := map_eq_ok.mp isDone
      exact applyPatch_moves isWritten
  | decideSourcePatch call =>
      obtain ⟨written, isWritten, rfl⟩ := map_eq_ok.mp isDone
      exact decideSourcePatch_moves isWritten
  | validateSourceProposal call =>
      obtain ⟨written, isWritten, rfl⟩ := map_eq_ok.mp isDone
      have moved : CallMove rules True [] store written.1 := validateSourceProposal_moves isWritten
      exact moved
  | rebindEquivalentSource around call =>
      obtain ⟨after, isAfter, rfl⟩ := map_eq_ok.mp isDone
      exact rebindEquivalentSource_moves isAfter

/-- A step is made of moves. -/
theorem stepWiki_move (rules : WikiRules) (store : WikiStore) (call : WikiCall) :
    CallMove rules (call.KeepsImages rules store) (call.subject store) store
      (stepWiki rules store call) := by
  unfold stepWiki
  split
  · exact .refl
  · next after returns isDone => exact run_moves isDone

end Shiliu.Wiki
