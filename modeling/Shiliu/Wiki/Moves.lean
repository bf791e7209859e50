/-
Module: Shiliu.Wiki.Moves
Purpose: What the writers of the wiki can do to its pages and its proposals, said once. A call that returns is
  made of the moves listed in `WikiMove`; every write of a page continues the row the store has. Later
  results take these lists apart and do not unfold a writer again.
Trusted boundary: none
Main exports: PageWrite.Continues, WikiMove, edits_same, edits_changeBlock, edits_concat
-/
import Shiliu.Wiki.Service

namespace Shiliu.Wiki

open Shiliu.Library Shiliu.Storage

/-! ## Rows -/

/-- The row a write leaves. -/
def WikiStore.committed (store : WikiStore) (write : PageWrite) : PageRecord :=
  { write.written with
    changes := write.written.changes ++ [write.change]
    states := write.written.states ++
      [⟨write.written.page.version, write.beforeState, store.operationState write.written⟩] }

theorem lookup_commit_self (store : WikiStore) (write : PageWrite) (exclude : Option String) :
    (store.commit write exclude).pages.lookup write.written.page.id =
      some (store.committed write) := Table.lookup_assign_self

theorem lookup_commit_of_ne {store : WikiStore} {write : PageWrite} {exclude : Option String}
    {pageId : String} (different : pageId ≠ write.written.page.id) :
    (store.commit write exclude).pages.lookup pageId = store.pages.lookup pageId :=
  Table.lookup_assign_of_ne different

/-! ## Blocks -/

theorem findBlock_cons (blockId : String) (block : Block) (rest : List Block) :
    findBlock blockId (block :: rest) =
      if block.stableId = blockId then some block else findBlock blockId rest := by
  by_cases same : block.stableId = blockId <;> simp [findBlock, same]

theorem changeBlock_same {blockId : String} {change : Block → Block} {blocks : List Block}
    (same : ∀ block ∈ findBlock blockId blocks, change block = block) :
    changeBlock blockId change blocks = blocks := by
  induction blocks with
  | nil => rfl
  | cons block rest inductionHypothesis =>
      rw [findBlock_cons] at same
      by_cases isBlock : block.stableId = blockId
      · rw [if_pos isBlock] at same
        rw [changeBlock, if_pos isBlock, same block rfl]
      · rw [if_neg isBlock] at same
        rw [changeBlock, if_neg isBlock, inductionHypothesis same]

theorem blockAt_changeBlock {blockId other : String} {change : Block → Block}
    {blocks : List Block} (keeps : ∀ block, (change block).stableId = block.stableId)
    (different : other ≠ blockId) :
    blockAt (changeBlock blockId change blocks) other = blockAt blocks other := by
  unfold blockAt findBlock
  induction blocks with
  | nil => rfl
  | cons block rest inductionHypothesis =>
      by_cases isBlock : block.stableId = blockId
      · rw [changeBlock, if_pos isBlock, List.reverse_cons, List.reverse_cons, List.find?_append,
          List.find?_append]
        simp [keeps, isBlock, Ne.symm different]
      · rw [changeBlock, if_neg isBlock, List.reverse_cons, List.reverse_cons, List.find?_append,
          List.find?_append, inductionHypothesis]

theorem blockAt_concat (blocks : List Block) (block : Block) (blockId : String) :
    blockAt (blocks ++ [block]) blockId =
      if block.stableId = blockId then some block else blockAt blocks blockId := by
  rw [blockAt, List.reverse_append, List.reverse_singleton, List.singleton_append, findBlock_cons]
  rfl

/-! ## Page writes -/

/-- The titles the operation states of a page know. -/
def StateRow.titles (row : StateRow) : List String :=
  row.after.page.title :: (row.before.map fun state => state.page.title).toList

/-- A title is kept, or it comes from an operation state. -/
structure TitleKept (rules : WikiRules) (record : PageRecord) (after : Page) : Prop where
  space : after.spaceId = record.page.spaceId
  title : (after.title = record.page.title ∧ after.normalizedTitle = record.page.normalizedTitle) ∨
    ((∃ row ∈ record.states, after.title ∈ row.titles) ∧
      after.normalizedTitle = rules.normalizeTitle after.title)

/-- A write continues the row the store has. `images` stands for a writer that hands over the page as it
was stored, and `subjects` are the blocks an edit may be about. -/
structure PageWrite.Continues (rules : WikiRules) (images : Prop) (subjects : List String)
    (store : WikiStore) (prior : Option PageRecord) (write : PageWrite) : Prop where
  found : store.pages.lookup write.written.page.id = prior
  changes : write.written.changes = (prior.map PageRecord.changes).getD []
  states : write.written.states = (prior.map PageRecord.states).getD []
  version : write.written.page.version = (prior.map fun record => record.page.version).getD 0 + 1
  state : write.beforeState.map OperationState.page = prior.map PageRecord.page
  image : images → write.before = prior.map PageRecord.page
  kept : ∀ record ∈ prior, TitleKept rules record write.written.page
  titled : prior = none →
    write.written.page.normalizedTitle = rules.normalizeTitle write.written.page.title ∧
      store.titled write.written.page.spaceId write.written.page.normalizedTitle = none
  subject : write.operation.isIndependent = true →
    ∀ blockId, write.change.edits blockId = true → blockId ∈ subjects

/-- The moves transactions are made of. -/
inductive WikiMove (rules : WikiRules) (images : Prop) (subjects : List String) :
    WikiStore → WikiStore → Prop
  /-- Receipts, redirects and the counter. -/
  | aside {before after : WikiStore} (pages : after.pages = before.pages)
      (proposals : after.proposals = before.proposals) : WikiMove rules images subjects before after
  | write {store : WikiStore} {prior : Option PageRecord} {write : PageWrite}
      (continues : write.Continues rules images subjects store prior) :
      WikiMove rules images subjects store (store.commit write none)
  | settle {store : WikiStore} {proposalId : String} {status : ProposalStatus}
      (leaves : status ≠ .pending) :
      WikiMove rules images subjects store (store.settleProposal proposalId status)
  /-- A merge is held back. -/
  | hold {store : WikiStore} {proposal : Proposal} (isMerge : proposal.kind = .merge) :
      WikiMove rules images subjects store
        { store with proposals := store.proposals.insert proposal }
  /-- A source patch is proposed. -/
  | propose {store : WikiStore} {proposal : Proposal} {record : PageRecord}
      (isPage : store.pages.lookup proposal.targetPageId = some record)
      (isVersion : record.page.version = proposal.targetVersion)
      (isSpace : record.page.spaceId = proposal.spaceId)
      (isTitle : ∀ payload ∈ proposal.payload,
        record.page.normalizedTitle = rules.normalizeTitle payload.patch.title) :
      WikiMove rules images subjects store
        { store.expireSourcePatches proposal.targetPageId none with
          proposals := (store.expireSourcePatches proposal.targetPageId none).proposals.insert
            proposal }
  /-- A source patch is accepted. -/
  | accept {store : WikiStore} {prior : Option PageRecord} {write : PageWrite}
      {proposalId : String} (continues : write.Continues rules images subjects store prior) :
      WikiMove rules images subjects store
        ((store.commit write (some proposalId)).settleProposal proposalId .accepted)
  | trans {first second third : WikiStore} (one : WikiMove rules images subjects first second)
      (two : WikiMove rules images subjects second third) :
      WikiMove rules images subjects first third

section

variable {rules : WikiRules} {images : Prop} {subjects : List String} {store : WikiStore}

theorem WikiMove.refl : WikiMove rules images subjects store store :=
  .aside rfl rfl

/-- The images of a call that keeps them under a weaker condition. -/
theorem WikiMove.mono {stronger : Prop} {before after : WikiStore} (implies : stronger → images)
    (move : WikiMove rules images subjects before after) :
    WikiMove rules stronger subjects before after := by
  induction move with
  | aside pages proposals => exact .aside pages proposals
  | write continues =>
      exact .write { continues with image := fun holds => continues.image (implies holds) }
  | settle leaves => exact .settle leaves
  | hold isMerge => exact .hold isMerge
  | propose isPage isVersion isSpace isTitle => exact .propose isPage isVersion isSpace isTitle
  | accept continues =>
      exact .accept { continues with image := fun holds => continues.image (implies holds) }
  | trans _ _ first second => exact first.trans second

theorem WikiMove.rows {holds : PageRecord → Prop} {before after : WikiStore}
    (move : WikiMove rules images subjects before after)
    (writes : ∀ store prior write, PageWrite.Continues rules images subjects store prior write →
      (∀ record ∈ prior, holds record) → holds (store.committed write))
    (start : ∀ record ∈ before.pages, holds record) : ∀ record ∈ after.pages, holds record := by
  have writesRow : ∀ (store : WikiStore) (prior : Option PageRecord) (write : PageWrite),
      write.Continues rules images subjects store prior →
        (∀ record ∈ store.pages, holds record) →
          ∀ record ∈ store.pages.assign (store.committed write), holds record := by
    intro store prior write continues known record member
    obtain rfl | ⟨member, -⟩ := Table.mem_assign.mp member
    · refine writes store prior write continues fun record isPrior => known record ?_
      exact Table.mem_of_lookup (continues.found.trans isPrior)
    · exact known record member
  induction move with
  | aside pages proposals => exact fun record member => start record (pages ▸ member)
  | @write store prior write continues => exact writesRow store prior write continues start
  | settle | hold | propose => exact start
  | @accept store prior write _ continues => exact writesRow store prior write continues start
  | trans _ _ first second => exact second (first start)

theorem PageWrite.Continues.of_row (record : PageRecord) (write : PageWrite)
    (found : store.pages.lookup record.page.id = some record)
    (sameId : write.written.page.id = record.page.id)
    (changes : write.written.changes = record.changes)
    (states : write.written.states = record.states)
    (version : write.written.page.version = record.page.version + 1)
    (state : write.beforeState.map OperationState.page = some record.page)
    (image : images → write.before = some record.page)
    (kept : TitleKept rules record write.written.page)
    (subject : write.operation.isIndependent = true →
      ∀ blockId, write.change.edits blockId = true → blockId ∈ subjects) :
    write.Continues rules images subjects store (some record) where
  found := by rw [sameId, found]
  changes := changes
  states := states
  version := version
  state := state
  image := image
  kept := by
    intro other isOther
    obtain rfl := Option.some.inj isOther
    exact kept
  titled := fun absent => nomatch absent
  subject := subject

theorem PageWrite.Continues.of_new (write : PageWrite)
    (absent : store.pages.lookup write.written.page.id = none)
    (changes : write.written.changes = []) (states : write.written.states = [])
    (version : write.written.page.version = 1) (state : write.beforeState = none)
    (image : write.before = none)
    (titled : write.written.page.normalizedTitle = rules.normalizeTitle write.written.page.title)
    (untaken : store.titled write.written.page.spaceId write.written.page.normalizedTitle = none)
    (dependent : write.operation.isIndependent = false) :
    write.Continues rules images subjects store none where
  found := absent
  changes := changes
  states := states
  version := version
  state := by rw [state]; rfl
  image := fun _ => image
  kept := fun _ absent => nomatch absent
  titled := fun _ => ⟨titled, untaken⟩
  subject := fun independent => absurd (dependent.symm.trans independent) Bool.noConfusion

variable {record : PageRecord} {pageId : String}

theorem TitleKept.of_same {after : Page} (space : after.spaceId = record.page.spaceId)
    (title : after.title = record.page.title)
    (normalized : after.normalizedTitle = record.page.normalizedTitle) :
    TitleKept rules record after :=
  ⟨space, Or.inl ⟨title, normalized⟩⟩

theorem page_ok (isPage : store.page pageId = .ok record) :
    store.pages.lookup pageId = some record ∧ record.page.id = pageId := by
  unfold WikiStore.page at isPage
  cases found : store.pages.lookup pageId with
  | none =>
      rw [found] at isPage
      nomatch isPage
  | some row =>
      rw [found] at isPage
      obtain rfl := Except.ok.inj isPage
      have sameId : row.id = pageId := Table.key_of_lookup found
      exact ⟨rfl, sameId⟩

theorem activePage_ok {spaceId : Nat} (isPage : store.activePage pageId spaceId = .ok record) :
    store.pages.lookup pageId = some record ∧ record.page.id = pageId ∧
      record.page.spaceId = spaceId ∧ record.page.status = .active := by
  unfold WikiStore.activePage at isPage
  obtain ⟨row, isRow, rest⟩ := bind_eq_ok.mp isPage
  obtain ⟨⟨space, status⟩, same⟩ := ensure_then_eq_ok.mp rest
  obtain rfl := pure_eq_ok.mp same
  obtain ⟨found, sameId⟩ := page_ok isRow
  exact ⟨found, sameId, space, status⟩

theorem titled_some {spaceId : Nat} {normalized : String}
    (isTitled : store.titled spaceId normalized = some record) :
    store.pages.lookup record.page.id = some record ∧ record.page.spaceId = spaceId ∧
      record.page.normalizedTitle = normalized := by
  have member : record ∈ store.pages := List.mem_of_find?_eq_some isTitled
  have matched := List.find?_some isTitled
  rw [decide_eq_true_eq] at matched
  exact ⟨Table.lookup_of_mem member, matched⟩

theorem assertFresh_ok {done : Unit} :
    store.assertFresh pageId = .ok done ↔ store.pages.lookup pageId = none := ensure_eq_ok

theorem assertVersion_ok {page : Page} {expected : Nat} {done : Unit} :
    assertVersion page expected = .ok done ↔ page.version = expected := ensure_eq_ok

section Images

variable {change : PageChange} {page : Page} {blockId : String}

/-- An image of the page before that has the blocks of the page after shows no edit. -/
theorem edits_same (edits : change.edits blockId = true) (isBefore : change.before = some page)
    (isAfter : change.after.blocks = page.blocks) : False := by
  rw [PageChange.edits, isAfter, isBefore, Option.bind_some] at edits
  cases isBlock : blockAt page.blocks blockId with
  | none => simp [isBlock] at edits
  | some block => simp [isBlock] at edits

/-- An image that shows no other block changed than one. -/
theorem edits_changeBlock (edits : change.edits blockId = true) {changed : String}
    {update : Block → Block} (isBefore : change.before = some page)
    (isAfter : change.after.blocks = changeBlock changed update page.blocks)
    (keeps : ∀ block, (update block).stableId = block.stableId) : blockId = changed := by
  by_contra different
  rw [PageChange.edits, isAfter, isBefore, Option.bind_some, blockAt_changeBlock keeps different]
    at edits
  cases isBlock : blockAt page.blocks blockId with
  | none => simp [isBlock] at edits
  | some block => simp [isBlock] at edits

/-- An image that shows one block added. -/
theorem edits_concat (edits : change.edits blockId = true) {block : Block}
    (isBefore : change.before = some page) (isAfter : change.after.blocks = page.blocks ++ [block]) :
    blockId = block.stableId := by
  by_contra different
  rw [PageChange.edits, isAfter, isBefore, Option.bind_some, blockAt_concat,
    if_neg (Ne.symm different)] at edits
  cases isBlock : blockAt page.blocks blockId with
  | none => simp [isBlock] at edits
  | some other => simp [isBlock] at edits

end Images

end

end Shiliu.Wiki
