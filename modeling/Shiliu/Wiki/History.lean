/-
Module: Shiliu.Wiki.History
Purpose: The history of a page. The operation states form a chain in every run: each starts from the page the one
  before it left, and the last one left the page that is stored. The change rows record the same pages as long
  as no writer changes the image it records as the page before; `edit_block`, `revise_derived_blocks` and
  `save_discussion` do. A call that raises changes no page.
Trusted boundary: none
Main exports: StatesChained, states_chained, Faithful, history_faithful
-/
import Shiliu.Library.Chain
import Shiliu.Wiki.WriterMoves

namespace Shiliu.Wiki

open Shiliu.Library Shiliu.Storage

/-! ## The operation states -/

/-- The page an operation state row starts from. -/
def StateRow.source (row : StateRow) : Option Page := row.before.map OperationState.page

/-- The page it leads to. -/
def StateRow.target (row : StateRow) : Option Page := some row.after.page

/-- The page a change row leads to. -/
def PageChange.target (change : PageChange) : Option Page := some change.after

/-- The operation states lead from nothing to the stored page, one for each version, and each change row
has the version and the page after of the operation state beside it. -/
structure StatesChained (record : PageRecord) : Prop where
  count : record.page.version = record.states.length
  chain : Chain StateRow.version StateRow.source StateRow.target 1 none record.states
  stored : endOf StateRow.target none record.states = some record.page
  changes : record.changes.map (fun change => (change.version, change.target)) =
    record.states.map fun row => (row.version, row.target)

variable {rules : WikiRules} {images : Prop} {subjects : List String} {store : WikiStore}

theorem StatesChained.commit {prior : Option PageRecord} {write : PageWrite}
    (continues : write.Continues rules images subjects store prior)
    (chained : ∀ record ∈ prior, StatesChained record) :
    StatesChained (store.committed write) := by
  obtain ⟨-, changes, states, version, state, -⟩ := continues
  have sizes : (prior.map fun record => record.page.version).getD 0 =
      write.written.states.length := by
    rw [states]
    cases prior with
    | none => rfl
    | some record => exact (chained record rfl).count
  have isChain : Chain StateRow.version StateRow.source StateRow.target 1 none
      write.written.states := by
    rw [states]
    cases prior with
    | none => exact trivial
    | some record => exact (chained record rfl).chain
  have leads : endOf StateRow.target none write.written.states = prior.map PageRecord.page := by
    rw [states]
    cases prior with
    | none => rfl
    | some record => exact (chained record rfl).stored
  have beside : write.written.changes.map (fun change => (change.version, change.target)) =
      write.written.states.map fun row => (row.version, row.target) := by
    rw [changes, states]
    cases prior with
    | none => rfl
    | some record => exact (chained record rfl).changes
  refine ⟨?_, ?_, ?_, ?_⟩
  · change write.written.page.version = (write.written.states ++ [_]).length
    rw [List.length_append, List.length_singleton, version, sizes]
  · refine Chain.concat.mpr ⟨isChain, ?_, ?_⟩
    · change write.written.page.version = 1 + write.written.states.length
      rw [version, sizes, Nat.add_comm]
    · exact state.trans leads.symm
  · simp [WikiStore.committed, endOf, StateRow.target, WikiStore.operationState]
  · change (write.written.changes ++ [_]).map _ = (write.written.states ++ [_]).map _
    rw [List.map_append, List.map_append, beside]
    rfl

/-- In every run the operation states of every page are chained. -/
theorem states_chained (rules : WikiRules) (calls : List WikiCall) :
    ∀ record ∈ (wikiAfter rules calls).pages, StatesChained record := by
  have kept : ∀ store call, (∀ record ∈ store.pages, StatesChained record) →
      ∀ record ∈ (stepWiki rules store call).pages, StatesChained record :=
    fun store call chained => (stepWiki_move rules store call).move.rows
      (fun _ _ _ continues => .commit continues) chained
  exact invariant_run kept (fun _ member => absurd member (Table.not_mem_empty _)) calls

/-! ## The change rows -/

/-- Every change has recorded the page its operation state starts from. -/
def ImagesAgree (record : PageRecord) : Prop :=
  record.changes.map PageChange.before = record.states.map StateRow.source

theorem ImagesAgree.commit {prior : Option PageRecord} {write : PageWrite}
    (continues : write.Continues rules images subjects store prior) (holds : images)
    (agree : ∀ record ∈ prior, ImagesAgree record) : ImagesAgree (store.committed write) := by
  obtain ⟨-, changes, states, -, state, image, -⟩ := continues
  have beside : write.written.changes.map PageChange.before =
      write.written.states.map StateRow.source := by
    rw [changes, states]
    cases prior with
    | none => rfl
    | some record => exact agree record rfl
  have recorded : write.change.before = write.beforeState.map OperationState.page :=
    (image holds).trans state.symm
  change (write.written.changes ++ [_]).map _ = (write.written.states ++ [_]).map _
  rw [List.map_append, List.map_append, beside, List.map_singleton, List.map_singleton, recorded]
  rfl

/-- The change rows of a page are its history: numbered from one to the version, each from the page the
one before it left, and the last one left the stored page. The operation states record the same. -/
structure Faithful (record : PageRecord) : Prop where
  count : record.page.version = record.changes.length
  numbered : record.changes.map PageChange.version = List.range' 1 record.page.version
  chain : Chain PageChange.version PageChange.before PageChange.target 1 none record.changes
  stored : endOf PageChange.target none record.changes = some record.page
  states : record.states.map (fun row => (row.version, row.source, row.target)) =
    record.changes.map fun change => (change.version, change.before, change.target)

theorem Faithful.of_images {record : PageRecord} (chained : StatesChained record)
    (agree : ImagesAgree record) : Faithful record := by
  obtain ⟨count, chain, stored, changes⟩ := chained
  have sizes : record.changes.length = record.states.length := by
    simpa using congrArg List.length changes
  have targets : record.changes.map PageChange.target = record.states.map StateRow.target := by
    simpa [List.map_map, Function.comp_def] using congrArg (List.map Prod.snd) changes
  have same : record.changes.map (fun change => (change.version, change.before, change.target)) =
      record.states.map fun row => (row.version, row.source, row.target) := by
    refine List.ext_getElem? fun place => ?_
    have one := congrArg (·[place]?) changes
    have two := congrArg (·[place]?) agree
    simp only [List.getElem?_map] at one two ⊢
    cases isChange : record.changes[place]? <;> cases isState : record.states[place]? <;>
      simp_all
  have isChain := Chain.of_same chain same
  refine ⟨count.trans sizes.symm, ?_, isChain, ?_, same.symm⟩
  · rw [isChain.numbers, count, sizes]
  · rw [endOf_of_same targets, stored]

/-! ## Calls that raise -/

theorem stalePatch_keeps {call : DecideSourcePatch} {after : WikiStore}
    (isDone : decideSourcePatch rules store call = .ok (after, .stale)) :
    after.pages = store.pages := by
  obtain ⟨⟨proposal, payload⟩, -, isDone⟩ := bind_eq_ok.mp isDone
  obtain ⟨-, isDone⟩ := ensure_then_eq_ok.mp isDone
  split at isDone
  · obtain ⟨-, isDone⟩ := ensure_then_eq_ok.mp isDone
    nomatch pure_eq_ok.mp isDone
  split at isDone
  case isFalse => nomatch pure_eq_ok.mp isDone
  unfold decidePending at isDone
  split at isDone
  · nomatch isDone
  split at isDone
  · obtain ⟨rfl, -⟩ := Prod.mk.inj (Except.ok.inj isDone)
    rfl
  · obtain ⟨published, -, isDone⟩ := bind_eq_ok.mp isDone
    nomatch pure_eq_ok.mp isDone

theorem staleMerge_keeps {call : DecideMerge} {after : WikiStore}
    (isDone : decideMerge rules store call = .ok (after, .stale)) : after.pages = store.pages := by
  unfold decideMerge at isDone
  split at isDone
  case h_1 => nomatch isDone
  split at isDone
  case h_1 => nomatch isDone
  obtain ⟨-, isDone⟩ := ensure_then_eq_ok.mp isDone
  split at isDone
  · obtain ⟨-, isDone⟩ := ensure_then_eq_ok.mp isDone
    nomatch pure_eq_ok.mp isDone
  split at isDone
  case isFalse => nomatch pure_eq_ok.mp isDone
  unfold decidePendingMerge at isDone
  split at isDone
  · obtain ⟨rfl, -⟩ := Prod.mk.inj (Except.ok.inj isDone)
    rfl
  split at isDone
  · nomatch isDone
  · obtain ⟨merged, -, isDone⟩ := bind_eq_ok.mp isDone
    nomatch pure_eq_ok.mp isDone

theorem raises_keeps_pages {call : WikiCall} (raises : call.raises rules store = true) :
    (stepWiki rules store call).pages = store.pages := by
  unfold WikiCall.raises at raises
  unfold stepWiki
  cases isDone : call.run rules store with
  | error failure => rfl
  | ok done =>
      obtain ⟨after, returns⟩ := done
      rw [isDone] at raises
      obtain rfl : returns = false := by simpa using raises
      cases call with
      | decideMerge call =>
          obtain ⟨⟨_, decision⟩, isDecided, same⟩ := map_eq_ok.mp isDone
          obtain ⟨rfl, isStale⟩ := Prod.mk.inj same
          obtain rfl : decision = .stale := by simpa using isStale
          exact staleMerge_keeps isDecided
      | decideSourcePatch call =>
          obtain ⟨⟨_, decision⟩, isDecided, same⟩ := map_eq_ok.mp isDone
          obtain ⟨rfl, isStale⟩ := Prod.mk.inj same
          obtain rfl : decision = .stale := by simpa using isStale
          exact stalePatch_keeps isDecided
      | saveDiscussion around call | reviseDerivedBlocks around call | revert around call
      | addPersonalNote validity call | rebindEquivalentSource around call =>
          obtain ⟨_, -, same⟩ := map_eq_ok.mp isDone
          nomatch same
      | editBlock call | managePage call | mergePages call | applyPatch call
      | validateSourceProposal call =>
          obtain ⟨_, -, same⟩ := map_eq_ok.mp isDone
          nomatch same

/-! ## Every run -/

/-- In every run whose calls leave the blocks of the images they record as they were, the changes of
every page are its history, and a call that raises leaves every page, change and operation state as it was. -/
theorem history_faithful (rules : WikiRules) (calls : List WikiCall)
    (each : EachStep (stepWiki rules) (fun store call => call.KeepsImages rules store)
      WikiStore.empty calls) :
    (∀ record ∈ (wikiAfter rules calls).pages, Faithful record) ∧
      ∀ call : WikiCall, call.raises rules (wikiAfter rules calls) = true →
        (stepWiki rules (wikiAfter rules calls) call).pages = (wikiAfter rules calls).pages := by
  have kept : ∀ store call, (∀ record ∈ store.pages, ImagesAgree record) →
      call.KeepsImages rules store →
        ∀ record ∈ (stepWiki rules store call).pages, ImagesAgree record :=
    fun store call agree keeps => (stepWiki_move rules store call).move.rows
      (fun _ _ _ continues => .commit continues keeps) agree
  have agree := invariant_run_of_each kept
    (fun _ member => absurd member (Table.not_mem_empty _)) each
  exact ⟨fun record member => .of_images (states_chained rules calls record member)
      (agree record member),
    fun _ => raises_keeps_pages⟩

/-- A digest that keeps texts apart, and letters as they are. -/
def plainRules : WikiRules := ⟨id, id⟩

def plainSurroundings : Surroundings := ⟨0, [(1, "r")], [1], fun _ => true⟩

/-- A source of one block, published as a new page. -/
def firstPublication : Publication where
  spaceId := 1
  videoId := 1
  revision := "r"
  expectedVersion := 0
  patch :=
    { title := "t"
      pageType := .topic
      summary := "s"
      aliases := []
      blocks := [⟨"h", "m", some ["r"], "", .sourceReported, "related", []⟩]
      localOperation := none
      targetBlockId := none
      replaceDerived := false }
  scopeVersion := 1
  around := plainSurroundings
  admittedVideos := [1]
  cardVideo := fun _ => some 1

def plainBasis : ReviewBasis where
  around := plainSurroundings
  scope := .ok ()
  originKept := true
  taskSubset := []
  snapshotCurrent := fun _ _ => true
  visible := fun record => record.page.blocks
  inputSuppressed := false
  admittedVideos := [1]
  cardVideo := fun _ => some 1

/-- The commit of a job that may write by itself. -/
def directPatch (publication : Publication) : WikiCall :=
  .applyPatch ⟨publication, .ok (), true, plainBasis, fun _ _ => ""⟩

def archivePage : WikiCall := .managePage ⟨"awiki_0", 1, .archive, 1, "archive", none, 1⟩

theorem history_faithful_archived :
    (∀ record ∈ (wikiAfter plainRules [directPatch firstPublication, archivePage]).pages,
      Faithful record) ∧
      ∀ call : WikiCall,
        call.raises plainRules
            (wikiAfter plainRules [directPatch firstPublication, archivePage]) = true →
          (stepWiki plainRules
              (wikiAfter plainRules [directPatch firstPublication, archivePage]) call).pages =
            (wikiAfter plainRules [directPatch firstPublication, archivePage]).pages :=
  history_faithful plainRules [directPatch firstPublication, archivePage]
    ⟨trivial, trivial, trivial⟩

/-- The identity of the one block. -/
def firstBlockId : String := "wblock_t:wiki-compiler-v7:0:r"

def editFirstBlock : WikiCall := .editBlock ⟨"awiki_0", firstBlockId, "new", 1, "edit", 1⟩

/-- The page before an edit shows the edit. -/
theorem edited_image_recorded :
    ¬∀ record ∈ (wikiAfter plainRules [directPatch firstPublication, editFirstBlock]).pages,
      Faithful record := by
  intro faithful
  have broken : ∃ record ∈ (wikiAfter plainRules [directPatch firstPublication, editFirstBlock]).pages.rows,
      ¬Chain PageChange.version PageChange.before PageChange.target 1 none record.changes := by
    decide +kernel
  obtain ⟨record, member, unchained⟩ := broken
  exact unchained (faithful record member).chain

end Shiliu.Wiki
