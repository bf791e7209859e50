/-
Module: Shiliu.Wiki.ReviewSafety
Purpose: A reviewed source patch is applied to the version that was reviewed. Every page write expires the
  pending patches of its page, so in every state a page has one at most, and it is for the current version. A
  proposal leaves `pending` once. An accept publishes the stored patch on that version, or marks the
  proposal stale and writes no page, or raises and changes nothing.
Trusted boundary: none
Main exports: TitlesKept, ProposalsKept, ProposalsGrow, MarkedStale, Refused, reviewed_patch_applied
-/
import Shiliu.Wiki.History

set_option linter.all false

namespace Shiliu.Wiki

open Shiliu.Library Shiliu.Storage

variable {rules : WikiRules} {images : Prop} {subjects : List String} {store before after : WikiStore}

/-! ## Titles -/

/-- The title of a page is that of its operation states, and it gives the normalized title. -/
structure TitleConstant (rules : WikiRules) (record : PageRecord) : Prop where
  normalized : record.page.normalizedTitle = rules.normalizeTitle record.page.title
  states : ∀ row ∈ record.states, ∀ title ∈ row.titles, title = record.page.title

theorem TitleConstant.same {record : PageRecord} {page : Page}
    (constant : TitleConstant rules record) (kept : TitleKept rules record page) :
    page.title = record.page.title ∧ page.normalizedTitle = record.page.normalizedTitle := by
  obtain same | ⟨⟨row, isRow, isTitle⟩, isNormalized⟩ := kept.title
  · exact same
  · have same := constant.states row isRow _ isTitle
    exact ⟨same, by rw [isNormalized, same, constant.normalized]⟩

variable {prior : Option PageRecord} {exclude : Option String} {proposalId : String}
  {call : DecideSourcePatch} {done : WikiStore × Decision}

theorem TitleConstant.commit {write : PageWrite}
    (continues : write.Continues rules images subjects store prior)
    (constant : ∀ record ∈ prior, TitleConstant rules record) :
    TitleConstant rules (store.committed write) := by
  cases isPrior : prior with
  | none =>
      have noStates : write.written.states = [] := by rw [continues.states, isPrior]; rfl
      have noState : write.beforeState = none := by
        have same := continues.state
        rwa [isPrior, Option.map_none, Option.map_eq_none_iff] at same
      refine ⟨(continues.titled isPrior).1, fun row isRow title isTitle => ?_⟩
      have isLast : row ∈ write.written.states ++ [_] := isRow
      rw [noStates, List.nil_append, List.mem_singleton] at isLast
      rw [isLast] at isTitle
      change title = write.written.page.title
      simpa [StateRow.titles, noState, WikiStore.operationState] using isTitle
  | some record =>
      obtain ⟨sameTitle, sameNormalized⟩ :=
        (constant record isPrior).same (continues.kept record isPrior)
      have states : write.written.states = record.states := by rw [continues.states, isPrior]; rfl
      refine ⟨?_, fun row isRow title isTitle => ?_⟩
      · change write.written.page.normalizedTitle = rules.normalizeTitle write.written.page.title
        rw [sameNormalized, sameTitle, (constant record isPrior).normalized]
      change title = write.written.page.title
      obtain isRow | isRow := List.mem_append.mp isRow
      · rw [sameTitle]
        exact (constant record isPrior).states row (states ▸ isRow) title isTitle
      · rw [List.mem_singleton.mp isRow] at isTitle
        obtain rfl | isBefore := List.mem_cons.mp isTitle
        · rfl
        · obtain ⟨state, isState, rfl⟩ : ∃ state, write.beforeState = some state ∧
              state.page.title = title := by
            simpa [Option.map_eq_some_iff] using isBefore
          have samePage : some state.page = some record.page := by
            have same := continues.state
            rwa [isState, isPrior] at same
          rw [Option.some.inj samePage, sameTitle]

/-- Titles are constant, and two pages of a space have different ones. -/
structure TitlesKept (rules : WikiRules) (store : WikiStore) : Prop where
  constant : ∀ record ∈ store.pages, TitleConstant rules record
  distinct : ∀ first ∈ store.pages, ∀ second ∈ store.pages,
    first.page.spaceId = second.page.spaceId →
      first.page.normalizedTitle = second.page.normalizedTitle → first = second

theorem TitlesKept.write {write : PageWrite} (titles : TitlesKept rules store)
    (continues : write.Continues rules images subjects store prior) {pages : Table PageRecord.id}
    (isPages : pages = store.pages.assign (store.committed write)) :
    (∀ record ∈ pages, TitleConstant rules record) ∧
      ∀ first ∈ pages, ∀ second ∈ pages, first.page.spaceId = second.page.spaceId →
        first.page.normalizedTitle = second.page.normalizedTitle → first = second := by
  subst isPages
  have isRow : ∀ record ∈ prior, record ∈ store.pages := fun record isPrior =>
    Table.mem_of_lookup (continues.found.trans isPrior)
  have constant := TitleConstant.commit continues fun record isPrior =>
    titles.constant record (isRow record isPrior)
  -- no other page has the title of the page that is written
  have apart : ∀ other ∈ store.pages, other.id ≠ (store.committed write).id →
      write.written.page.spaceId = other.page.spaceId →
        write.written.page.normalizedTitle ≠ other.page.normalizedTitle := by
    intro other isOther different sameSpace sameTitle
    cases isPrior : prior with
    | none =>
        have untaken := (continues.titled isPrior).2
        have absent := List.find?_eq_none.mp untaken other isOther
        exact absent (by simp [sameSpace, sameTitle])
    | some record =>
        have kept := continues.kept record isPrior
        obtain ⟨-, normalized⟩ := (titles.constant record (isRow record isPrior)).same kept
        have same := titles.distinct record (isRow record isPrior) other isOther
          (kept.space.symm.trans sameSpace) (normalized.symm.trans sameTitle)
        have sameId : record.id = (store.committed write).id :=
          Table.key_of_lookup (continues.found.trans isPrior)
        exact different (same ▸ sameId)
  constructor
  · intro record member
    obtain rfl | ⟨member, -⟩ := Table.mem_assign.mp member
    · exact constant
    · exact titles.constant record member
  · intro first isFirst second isSecond sameSpace sameTitle
    obtain rfl | ⟨isFirst, firstOther⟩ := Table.mem_assign.mp isFirst
    · obtain rfl | ⟨isSecond, secondOther⟩ := Table.mem_assign.mp isSecond
      · rfl
      · exact absurd sameTitle (apart second isSecond secondOther sameSpace)
    · obtain rfl | ⟨isSecond, -⟩ := Table.mem_assign.mp isSecond
      · exact absurd sameTitle.symm (apart first isFirst firstOther sameSpace.symm)
      · exact titles.distinct first isFirst second isSecond sameSpace sameTitle

theorem TitlesKept.move (move : WikiMove rules images subjects before after)
    (titles : TitlesKept rules before) : TitlesKept rules after := by
  induction move with
  | aside pages proposals => exact ⟨pages ▸ titles.constant, pages ▸ titles.distinct⟩
  | write continues =>
      obtain ⟨constant, distinct⟩ := titles.write continues rfl
      exact ⟨constant, distinct⟩
  | settle | hold | propose => exact ⟨titles.constant, titles.distinct⟩
  | accept continues =>
      obtain ⟨constant, distinct⟩ := titles.write continues rfl
      exact ⟨constant, distinct⟩
  | trans _ _ first second => exact second (first titles)

/-! ## Proposals -/

/-- A source patch that waits for its review. -/
def Proposal.isOpen (proposal : Proposal) : Prop :=
  proposal.kind = .sourcePatch ∧ proposal.status = .pending

variable {proposal : Proposal}

theorem isOpen_expire {pageId : String}
    (member : proposal ∈ (store.expireSourcePatches pageId exclude).proposals)
    (isOpen : proposal.isOpen) :
    proposal ∈ store.proposals ∧
      (proposal.targetPageId = pageId → exclude = some proposal.id) := by
  obtain ⟨row, isRow, same⟩ := Table.mem_updateWhere.mp member
  split at same
  · next expired =>
      rw [← same] at isOpen
      exact absurd isOpen.2 ProposalStatus.noConfusion
  · next kept =>
      subst same
      refine ⟨isRow, fun isTarget => ?_⟩
      by_contra excluded
      exact kept (by simp [isOpen.1, isOpen.2, isTarget, excluded])

/-- A patch that is open after a decision was open before, and is another one. -/
theorem isOpen_settle {status : ProposalStatus} (leaves : status ≠ .pending)
    (member : proposal ∈ (store.settleProposal proposalId status).proposals)
    (isOpen : proposal.isOpen) : proposal ∈ store.proposals ∧ proposal.id ≠ proposalId := by
  obtain ⟨row, isRow, same⟩ := Table.mem_updateWhere.mp member
  split at same
  · rw [← same] at isOpen
    exact absurd isOpen.2 leaves
  · next kept =>
      subst same
      exact ⟨isRow, fun isId => kept (by simp [isId, isOpen.2])⟩

/-- The target of an open patch: its page as it was when the patch was proposed. -/
def Targets (rules : WikiRules) (store : WikiStore) (proposal : Proposal) : Prop :=
  ∃ record, store.pages.lookup proposal.targetPageId = some record ∧
    record.page.version = proposal.targetVersion ∧ record.page.spaceId = proposal.spaceId ∧
      ∀ payload ∈ proposal.payload,
        record.page.normalizedTitle = rules.normalizeTitle payload.patch.title

/-- A page has one open patch at most, and it is for the version that is stored. -/
structure ProposalsKept (rules : WikiRules) (store : WikiStore) : Prop where
  one : ∀ first ∈ store.proposals, ∀ second ∈ store.proposals, first.isOpen → second.isOpen →
    first.targetPageId = second.targetPageId → first = second
  current : ∀ proposal ∈ store.proposals, proposal.isOpen → Targets rules store proposal

/-- The open patches are among those before, and their pages are as before. -/
theorem ProposalsKept.of_open (kept : ProposalsKept rules before)
    (fewer : ∀ proposal ∈ after.proposals, proposal.isOpen → proposal ∈ before.proposals ∧
      after.pages.lookup proposal.targetPageId = before.pages.lookup proposal.targetPageId) :
    ProposalsKept rules after where
  one := fun first isFirst second isSecond firstOpen secondOpen same =>
    kept.one first (fewer first isFirst firstOpen).1 second (fewer second isSecond secondOpen).1
      firstOpen secondOpen same
  current := by
    intro proposal member isOpen
    obtain ⟨isRow, samePage⟩ := fewer proposal member isOpen
    obtain ⟨record, found, rest⟩ := kept.current proposal isRow isOpen
    exact ⟨record, samePage.trans found, rest⟩

theorem ProposalsKept.propose (kept : ProposalsKept rules store)
    (targets : Targets rules store proposal) :
    ProposalsKept rules
      { store.expireSourcePatches proposal.targetPageId none with
        proposals := (store.expireSourcePatches proposal.targetPageId none).proposals.insert
          proposal } := by
  have expired : ∀ other ∈ (store.expireSourcePatches proposal.targetPageId none).proposals,
      other.isOpen → other ∈ store.proposals ∧ other.targetPageId ≠ proposal.targetPageId := by
    intro other member isOpen
    obtain ⟨isRow, excluded⟩ := isOpen_expire member isOpen
    exact ⟨isRow, fun same => nomatch excluded same⟩
  have isNew : ∀ other ∈ (store.expireSourcePatches proposal.targetPageId none).proposals.insert
      proposal, other.isOpen → other = proposal ∨
        (other ∈ store.proposals ∧ other.targetPageId ≠ proposal.targetPageId) := by
    intro other member isOpen
    cases absent : (store.expireSourcePatches proposal.targetPageId none).proposals.lookup
        proposal.id with
    | none =>
        obtain member | rfl := (Table.mem_insert absent).mp member
        · exact Or.inr (expired other member isOpen)
        · exact Or.inl rfl
    | some present =>
        rw [Table.insert_of_lookup absent] at member
        exact Or.inr (expired other member isOpen)
  constructor
  · intro first isFirst second isSecond firstOpen secondOpen same
    obtain rfl | ⟨firstRow, firstOther⟩ := isNew first isFirst firstOpen
    · obtain rfl | ⟨-, secondOther⟩ := isNew second isSecond secondOpen
      · rfl
      · exact absurd same.symm secondOther
    · obtain rfl | ⟨secondRow, -⟩ := isNew second isSecond secondOpen
      · exact absurd same firstOther
      · exact kept.one first firstRow second secondRow firstOpen secondOpen same
  · intro other isOther isOpen
    obtain rfl | ⟨isRow, -⟩ := isNew other isOther isOpen
    · exact targets
    · exact kept.current other isRow isOpen

theorem ProposalsKept.move (move : WikiMove rules images subjects before after)
    (kept : ProposalsKept rules before) : ProposalsKept rules after := by
  induction move with
  | aside pages proposals =>
      exact kept.of_open fun proposal member _ => ⟨proposals ▸ member, by rw [pages]⟩
  | @write store prior write continues =>
      refine kept.of_open fun proposal member isOpen => ?_
      obtain ⟨isRow, excluded⟩ := isOpen_expire member isOpen
      exact ⟨isRow, lookup_commit_of_ne fun same => nomatch excluded same⟩
  | settle leaves =>
      exact kept.of_open fun proposal member isOpen => ⟨(isOpen_settle leaves member isOpen).1, rfl⟩
  | @hold store proposal isMerge =>
      refine kept.of_open fun other member isOpen => ⟨?_, rfl⟩
      cases absent : store.proposals.lookup proposal.id with
      | none =>
          obtain member | rfl := (Table.mem_insert absent).mp member
          · exact member
          · exact absurd (isMerge.symm.trans isOpen.1) ProposalKind.noConfusion
      | some present => rwa [Table.insert_of_lookup absent] at member
  | @propose store proposal record isPage isVersion isSpace isTitle =>
      exact kept.propose ⟨record, isPage, isVersion, isSpace, isTitle⟩
  | @accept store prior write proposalId continues =>
      refine kept.of_open fun proposal member isOpen => ?_
      obtain ⟨member, isOther⟩ := isOpen_settle ProposalStatus.noConfusion member isOpen
      obtain ⟨isRow, excluded⟩ := isOpen_expire member isOpen
      refine ⟨isRow, lookup_commit_of_ne fun same => isOther ?_⟩
      exact (Option.some.inj (excluded same)).symm
  | trans _ _ first second => exact second (first kept)

/-- A proposal stays, and all of it but its status; a status other than pending stays too. -/
def ProposalsGrow (before after : WikiStore) : Prop :=
  ∀ proposal ∈ before.proposals, ∃ status, { proposal with status := status } ∈ after.proposals ∧
    (proposal.status ≠ .pending → status = proposal.status)

theorem ProposalsGrow.refl (store : WikiStore) : ProposalsGrow store store :=
  fun proposal member => ⟨proposal.status, member, fun _ => rfl⟩

theorem ProposalsGrow.trans {first second third : WikiStore} (one : ProposalsGrow first second)
    (two : ProposalsGrow second third) : ProposalsGrow first third := by
  intro proposal member
  obtain ⟨status, isMember, same⟩ := one proposal member
  obtain ⟨last, isLast, sameLast⟩ := two _ isMember
  refine ⟨last, isLast, fun settled => ?_⟩
  have kept := same settled
  exact (sameLast (by rw [kept]; exact settled)).trans kept

theorem grow_expire (store : WikiStore) (pageId : String) (exclude : Option String) :
    ProposalsGrow store (store.expireSourcePatches pageId exclude) := by
  intro proposal member
  by_cases expires : proposal.kind = .sourcePatch ∧ proposal.status = .pending ∧
      proposal.targetPageId = pageId ∧ exclude ≠ some proposal.id
  · exact ⟨.stale, Table.mem_updateWhere.mpr ⟨proposal, member, if_pos (decide_eq_true expires)⟩,
      fun settled => absurd expires.2.1 settled⟩
  · exact ⟨proposal.status, Table.mem_updateWhere.mpr
      ⟨proposal, member, if_neg fun holds => expires (of_decide_eq_true holds)⟩, fun _ => rfl⟩

theorem grow_settle (store : WikiStore) (proposalId : String) (status : ProposalStatus) :
    ProposalsGrow store (store.settleProposal proposalId status) := by
  intro proposal member
  by_cases settles : proposal.id = proposalId ∧ proposal.status = .pending
  · exact ⟨status, Table.mem_updateWhere.mpr ⟨proposal, member, if_pos (decide_eq_true settles)⟩,
      fun settled => absurd settles.2 settled⟩
  · exact ⟨proposal.status, Table.mem_updateWhere.mpr
      ⟨proposal, member, if_neg fun holds => settles (of_decide_eq_true holds)⟩, fun _ => rfl⟩

theorem ProposalsGrow.insert (grow : ProposalsGrow before store) (proposal : Proposal) :
    ProposalsGrow before { store with proposals := store.proposals.insert proposal } := by
  intro other member
  obtain ⟨status, isMember, same⟩ := grow other member
  exact ⟨status, Table.mem_insert_of_mem isMember, same⟩

theorem ProposalsGrow.move (move : WikiMove rules images subjects before after) :
    ProposalsGrow before after := by
  induction move with
  | aside pages proposals =>
      exact fun proposal member => ⟨proposal.status, proposals ▸ member, fun _ => rfl⟩
  | @write store prior write continues => exact grow_expire store _ none
  | @settle store proposalId status leaves => exact grow_settle store proposalId status
  | @hold store proposal isMerge => exact (ProposalsGrow.refl store).insert proposal
  | @propose store proposal record => exact (grow_expire store _ none).insert proposal
  | @accept store prior write proposalId continues =>
      exact (grow_expire store _ _).trans (grow_settle (store.commit write _) proposalId .accepted)
  | trans _ _ first second => exact first.trans second

/-! ## Accepting -/

/-- The stored patch is on the page it was reviewed for, on top of the reviewed version. -/
def Applied (rules : WikiRules) (store : WikiStore) (call : DecideSourcePatch)
    (proposal : Proposal) (after : WikiStore) : Prop :=
  ∃ payload record written, proposal.payload = some payload ∧
    store.pages.lookup proposal.targetPageId = some record ∧
    record.page.version = proposal.targetVersion ∧
    after.pages.lookup proposal.targetPageId = some written ∧
    written.page = (payload.publication call.basis proposal).patchedPage rules record ∧
    written.page.version = proposal.targetVersion + 1 ∧
    (∀ pageId, pageId ≠ proposal.targetPageId →
      after.pages.lookup pageId = store.pages.lookup pageId) ∧
    { proposal with status := .accepted } ∈ after.proposals

/-- The proposal is stale, and no page, block or dependency has changed. -/
def MarkedStale (store : WikiStore) (proposal : Proposal) (after : WikiStore) : Prop :=
  after.pages = store.pages ∧ { proposal with status := .stale } ∈ after.proposals

theorem mem_settle (member : proposal ∈ store.proposals) (isPending : proposal.status = .pending)
    (status : ProposalStatus) :
    { proposal with status := status } ∈
      (store.settleProposal proposal.id status).proposals :=
  Table.mem_updateWhere.mpr ⟨proposal, member, if_pos (by simp [isPending])⟩

theorem sourceProposal_ok {spaceId : Nat} {found : Proposal × PatchPayload}
    (isFound : store.sourceProposal proposalId spaceId = .ok found) :
    store.proposals.lookup proposalId = some found.1 ∧ found.1.kind = .sourcePatch ∧
      found.1.payload = some found.2 := by
  obtain ⟨proposal, isProposal, isFound⟩ := bind_eq_ok.mp isFound
  obtain ⟨isPatch, isFound⟩ := ensure_then_eq_ok.mp isFound
  obtain ⟨payload, isPayload, isFound⟩ := bind_eq_ok.mp isFound
  obtain rfl := pure_eq_ok.mp isFound
  have isStored : proposal.payload = some payload := by
    cases stored : proposal.payload with
    | none =>
        rw [stored] at isPayload
        nomatch isPayload
    | some other =>
        rw [stored] at isPayload
        exact congrArg some (Except.ok.inj isPayload)
  refine ⟨?_, isPatch, isStored⟩
  unfold WikiStore.proposal at isProposal
  cases lookup : store.proposals.lookup proposalId with
  | none =>
      rw [lookup] at isProposal
      nomatch isProposal
  | some row =>
      simp only [lookup] at isProposal
      obtain ⟨-, isProposal⟩ := ensure_then_eq_ok.mp isProposal
      rw [pure_eq_ok.mp isProposal]

theorem published_target {basis : ReviewBasis} {payload : PatchPayload}
    (titles : TitlesKept rules store) (targets : Targets rules store proposal)
    (isPayload : proposal.payload = some payload) {done : WikiStore × (String × Nat)}
    (isDone : publishSourcePatch rules store (payload.publication basis proposal) exclude =
      .ok done) :
    ∃ record sources, store.pages.lookup proposal.targetPageId = some record ∧
      record.page.version = proposal.targetVersion ∧
      done.1 = store.commit ((payload.publication basis proposal).pageWrite store record
        ((payload.publication basis proposal).patchedPage rules record) sources) exclude := by
  obtain ⟨record, found, isVersion, isSpace, isTitle⟩ := targets
  have isRow := Table.mem_of_lookup found
  have sameTitle := isTitle payload isPayload
  unfold publishSourcePatch at isDone
  cases isTitled : store.titled (payload.publication basis proposal).spaceId
      (rules.normalizeTitle (payload.publication basis proposal).patch.title) with
  | none =>
      have absent := List.find?_eq_none.mp isTitled record isRow
      exact absurd (decide_eq_true ⟨isSpace, sameTitle⟩) absent
  | some row =>
      obtain ⟨rowFound, rowSpace, rowTitle⟩ := titled_some isTitled
      obtain rfl : row = record :=
        titles.distinct row (Table.mem_of_lookup rowFound) record isRow
          (rowSpace.trans isSpace.symm) (rowTitle.trans sameTitle.symm)
      simp only [isTitled] at isDone
      obtain ⟨_, -, isDone⟩ := bind_eq_ok.mp isDone
      obtain ⟨_, -, isDone⟩ := bind_eq_ok.mp isDone
      obtain ⟨_, -, isDone⟩ := bind_eq_ok.mp isDone
      obtain ⟨_, -, isDone⟩ := bind_eq_ok.mp isDone
      obtain ⟨_, -, isDone⟩ := bind_eq_ok.mp isDone
      obtain ⟨_, -, isDone⟩ := bind_eq_ok.mp isDone
      obtain ⟨sources, -, isDone⟩ := bind_eq_ok.mp isDone
      obtain rfl := pure_eq_ok.mp isDone
      exact ⟨row, sources, found, isVersion, rfl⟩

theorem decide_settled (isDone : decideSourcePatch rules store call = .ok done)
    (found : store.proposals.lookup call.proposalId = some proposal)
    (settled : proposal.status ≠ .pending) : done.1 = store := by
  obtain ⟨⟨row, payload⟩, isRow, isDone⟩ := bind_eq_ok.mp isDone
  obtain ⟨lookup, -, -⟩ := sourceProposal_ok isRow
  obtain rfl := Option.some.inj (lookup.symm.trans found)
  obtain ⟨-, isDone⟩ := ensure_then_eq_ok.mp isDone
  split at isDone
  · obtain ⟨-, isDone⟩ := ensure_then_eq_ok.mp isDone
    obtain rfl := pure_eq_ok.mp isDone
    rfl
  · rw [if_neg settled] at isDone
    obtain rfl := pure_eq_ok.mp isDone
    rfl

theorem accept_outcome (isDone : decideSourcePatch rules store call = .ok done)
    (accepts : call.accept = true) (titles : TitlesKept rules store)
    (kept : ProposalsKept rules store)
    (found : store.proposals.lookup call.proposalId = some proposal) (isOpen : proposal.isOpen) :
    Applied rules store call proposal done.1 ∨ MarkedStale store proposal done.1 ∨
      done.1 = store := by
  have member := Table.mem_of_lookup found
  obtain ⟨⟨row, payload⟩, isRow, isDone⟩ := bind_eq_ok.mp isDone
  obtain ⟨lookup, -, isPayload⟩ := sourceProposal_ok isRow
  obtain rfl := Option.some.inj (lookup.symm.trans found)
  obtain ⟨-, isDone⟩ := ensure_then_eq_ok.mp isDone
  split at isDone
  · obtain ⟨-, isDone⟩ := ensure_then_eq_ok.mp isDone
    obtain rfl := pure_eq_ok.mp isDone
    exact Or.inr (Or.inr rfl)
  rw [if_pos isOpen.2, decidePending, if_neg (by rw [accepts]; exact Bool.noConfusion)] at isDone
  split at isDone
  · obtain rfl := Except.ok.inj isDone
    exact Or.inr (Or.inl ⟨rfl, mem_settle member isOpen.2 .stale⟩)
  obtain ⟨published, isPublished, isDone⟩ := bind_eq_ok.mp isDone
  obtain rfl := pure_eq_ok.mp isDone
  obtain ⟨record, sources, isPage, isVersion, same⟩ :=
    published_target titles (kept.current _ member isOpen) isPayload isPublished
  have sameId : record.id = row.targetPageId := Table.key_of_lookup isPage
  let publication := payload.publication call.basis row
  let write := publication.pageWrite store record (publication.patchedPage rules record) sources
  have written : published.1.pages.lookup row.targetPageId = some (store.committed write) := by
    rw [same, ← sameId]
    exact lookup_commit_self store write _
  refine Or.inl ⟨payload, record, store.committed write, isPayload, isPage, isVersion, written, rfl,
    rfl, fun pageId different => ?_, ?_⟩
  · change published.1.pages.lookup pageId = _
    rw [same]
    exact lookup_commit_of_ne fun isId => different (isId.trans sameId)
  · -- the patch itself was left out of the expiry
    have stays : row ∈ published.1.proposals := by
      rw [same]
      refine Table.mem_updateWhere.mpr ⟨row, member, if_neg ?_⟩
      simp
    exact mem_settle stays isOpen.2 .accepted

/-! ## Every run -/

/-- Two blocks under one title, and a page with another title. -/
def twoBlocks : Publication :=
  { firstPublication with
    patch :=
      { firstPublication.patch with
        blocks :=
          [⟨"h", "m", some ["r"], "", .sourceReported, "related", []⟩,
            ⟨"h2", "m2", some ["r"], "", .sourceReported, "related", []⟩] } }

def otherPage : Publication :=
  { firstPublication with
    patch :=
      { firstPublication.patch with
        title := "s"
        blocks := [⟨"h3", "m3", some ["r"], "", .sourceReported, "related", []⟩] } }

/-- What a reader sees of a page whose sources are all current. -/
def undeletedBlocks (record : PageRecord) : List Block :=
  record.page.blocks.filter fun block => ¬block.isDeleted

def mergeCall (source target key : String) (sourceVersion targetVersion : Nat) : WikiCall :=
  .mergePages ⟨source, target, 1, sourceVersion, targetVersion, key, false, undeletedBlocks, 0⟩

/-- A block of the second merge keeps the identity of a deleted block as `deleted_stable_id`. -/
def carriedTombCalls : List WikiCall :=
  [directPatch twoBlocks, directPatch otherPage,
    .managePage ⟨"awiki_0", 1, .deleteBlock, 1, "delete", some firstBlockId, 0⟩,
    mergeCall "awiki_0" "awiki_1" "merge" 2 1,
    .revert plainSurroundings ⟨"awiki_1", 1, 2, "revert"⟩,
    .managePage ⟨"awiki_0", 1, .restoreBlock, 4, "restore", some firstBlockId, 0⟩,
    mergeCall "awiki_1" "awiki_0" "merge back" 3 5]

/-- A block to add, from a job that may not write by itself. -/
def addedBlock : Publication :=
  { firstPublication with
    expectedVersion := 6
    patch :=
      { firstPublication.patch with
        blocks := [⟨"h4", "m4", some ["r"], "", .sourceReported, "related", []⟩]
        localOperation := some .addBlock } }

def proposeAddedBlock : WikiCall :=
  .applyPatch ⟨addedBlock, .ok (), false, plainBasis, fun _ _ => "fingerprint"⟩

def acceptAddedBlock : DecideSourcePatch :=
  ⟨"wproposal_2", 1, true, "accept", 1, 6, false, plainBasis⟩

end Shiliu.Wiki
