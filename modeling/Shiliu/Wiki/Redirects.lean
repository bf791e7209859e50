/-
Module: Shiliu.Wiki.Redirects
Purpose: Following redirects. Of all the writers only a merge adds a redirect, from one page that is there
  to another, and only undoing a merge takes one away; each sets the status of the page with it. So a page
  has a redirect exactly when it is merged, and following redirects from any page comes to an end in its
  space.
Trusted boundary: none
Main exports: WikiStore.getPage, WikiStore.Leads, Entries, EntryStep.of_write, CallMove, once_moves
-/
import Mathlib.Logic.Relation
import Shiliu.Library.Forwarding
import Shiliu.Wiki.Moves

namespace Shiliu.Wiki

open Shiliu.Library Shiliu.Storage

/-! ## `get_page` -/

/-- The page that was found, and `redirected_from`. -/
structure FoundPage where
  record : PageRecord
  redirectedFrom : Option String

/-- `get_page`, up to the projection of the page it finds. The pages behind a redirect are looked up in
the space of the page before, and never with `include_hidden`. -/
def WikiStore.getPage (store : WikiStore) :
    Nat → Bool → Option Nat → String → Option (Except Failure FoundPage)
  | 0, _, _, _ => none
  | fuel + 1, includeHidden, spaceId, pageId =>
      match store.pages.lookup pageId with
      | none => some (.error .keyError)
      | some record =>
          if spaceId.any (· ≠ record.page.spaceId) then some (.error .keyError)
          else
            match record.page.status, store.redirects.lookup pageId with
            | .merged, some redirect =>
                if redirect.spaceId ≠ record.page.spaceId then some (.error .keyError)
                else
                  (store.getPage fuel false (some record.page.spaceId) redirect.targetPageId).map
                    fun outcome => outcome.map fun found =>
                      { found with redirectedFrom := some pageId }
            | status, _ =>
                if status ≠ .active ∧ includeHidden = false then some (.error .keyError)
                else some (.ok ⟨record, none⟩)

/-- The page one redirect leads to. -/
def WikiStore.target (store : WikiStore) (pageId : String) : Option String :=
  (store.redirects.lookup pageId).map Redirect.targetPageId

/-- Following redirects. -/
def WikiStore.Leads (store : WikiStore) : String → String → Prop :=
  Relation.ReflTransGen fun pageId targetId => store.target pageId = some targetId

/-! ## Entries -/

/-- What redirects have to do with of a page: its space, and whether it is merged. -/
structure Standing where
  spaceId : Nat
  merged : Bool

/-- The pages with their standing, and the redirects. -/
structure Entries where
  standing : String → Option Standing
  redirect : String → Option Redirect

/-- One page is merged into another, a merge is undone, or pages change otherwise. -/
inductive EntryStep : Entries → Entries → Prop
  | keep {before after : Entries} (redirects : ∀ id, after.redirect id = before.redirect id)
      (pages : ∀ id, after.standing id = before.standing id ∨
        before.standing id = none ∧ ∃ spaceId, after.standing id = some ⟨spaceId, false⟩) :
      EntryStep before after
  | merge {before after : Entries} {source target : String} {spaceId : Nat}
      (different : source ≠ target)
      (isSource : before.standing source = some ⟨spaceId, false⟩)
      (isTarget : before.standing target = some ⟨spaceId, false⟩)
      (redirects : ∀ id, after.redirect id =
        if id = source then some ⟨source, target, spaceId⟩ else before.redirect id)
      (pages : ∀ id, after.standing id =
        if id = source then some ⟨spaceId, true⟩ else before.standing id) :
      EntryStep before after
  | undo {before after : Entries} {source : String} {spaceId : Nat}
      (isSource : before.standing source = some ⟨spaceId, true⟩)
      (redirects : ∀ id, after.redirect id = if id = source then none else before.redirect id)
      (pages : ∀ id, after.standing id =
        if id = source then some ⟨spaceId, false⟩ else before.standing id) :
      EntryStep before after

/-- Redirects stand for merged pages, stay in their space and come to an end. -/
structure Entries.Sound (entries : Entries) : Prop where
  merged : ∀ id standing, entries.standing id = some standing →
    (standing.merged = true ↔ (entries.redirect id).isSome = true)
  source : ∀ id redirect, entries.redirect id = some redirect →
    ∃ standing, entries.standing id = some standing ∧ standing.spaceId = redirect.spaceId
  target : ∀ id redirect, entries.redirect id = some redirect →
    ∃ standing, entries.standing redirect.targetPageId = some standing ∧
      standing.spaceId = redirect.spaceId
  resolves : Resolves fun id => (entries.redirect id).map Redirect.targetPageId

section Step

variable {before after : Entries}

theorem EntryStep.stays (step : EntryStep before after) {id : String} {standing : Standing}
    (isThere : before.standing id = some standing) :
    ∃ later, after.standing id = some later ∧ later.spaceId = standing.spaceId := by
  cases step with
  | keep redirects pages =>
      rcases pages id with same | ⟨absent, -⟩
      · exact ⟨standing, same.trans isThere, rfl⟩
      · rw [isThere] at absent
        cases absent
  | merge different isSource isTarget redirects pages =>
      rw [pages]
      split
      case isTrue here =>
          rw [here, isSource] at isThere
          cases isThere
          exact ⟨_, rfl, rfl⟩
      case isFalse => exact ⟨standing, isThere, rfl⟩
  | undo isSource redirects pages =>
      rw [pages]
      split
      case isTrue here =>
          rw [here, isSource] at isThere
          cases isThere
          exact ⟨_, rfl, rfl⟩
      case isFalse => exact ⟨standing, isThere, rfl⟩

theorem EntryStep.ends (step : EntryStep before after) {id : String} {spaceId : Nat}
    (isThere : ∃ standing, before.standing id = some standing ∧ standing.spaceId = spaceId) :
    ∃ standing, after.standing id = some standing ∧ standing.spaceId = spaceId := by
  obtain ⟨standing, isStanding, rfl⟩ := isThere
  exact step.stays isStanding

theorem EntryStep.known_or_added (step : EntryStep before after) {id : String}
    {redirect : Redirect} (isRedirect : after.redirect id = some redirect) :
    before.redirect id = some redirect ∨
      before.standing id = some ⟨redirect.spaceId, false⟩ ∧
        before.standing redirect.targetPageId = some ⟨redirect.spaceId, false⟩ := by
  cases step with
  | keep redirects pages =>
      left
      rwa [redirects] at isRedirect
  | merge different isSource isTarget redirects pages =>
      rw [redirects] at isRedirect
      split at isRedirect
      case isTrue here =>
          cases isRedirect
          rw [here]
          exact .inr ⟨isSource, isTarget⟩
      case isFalse => exact .inl isRedirect
  | undo isSource redirects pages =>
      rw [redirects] at isRedirect
      split at isRedirect
      case isTrue => cases isRedirect
      case isFalse => exact .inl isRedirect

theorem EntryStep.merged_iff (step : EntryStep before after) (sound : before.Sound) {id : String}
    {standing : Standing} (isStanding : after.standing id = some standing) :
    standing.merged = true ↔ (after.redirect id).isSome = true := by
  cases step with
  | keep redirects pages =>
      rw [redirects]
      rcases pages id with same | ⟨absent, spaceId, fresh⟩
      · rw [same] at isStanding
        exact sound.merged id standing isStanding
      · rw [fresh] at isStanding
        cases isStanding
        -- a page that is new has no redirect, as every redirect is that of a page
        cases isRedirect : before.redirect id with
        | none => simp
        | some redirect =>
            obtain ⟨old, isOld, -⟩ := sound.source id redirect isRedirect
            rw [absent] at isOld
            cases isOld
  | merge different isSource isTarget redirects pages =>
      rw [pages] at isStanding
      rw [redirects]
      split at isStanding
      case isTrue here =>
          cases isStanding
          simp [here]
      case isFalse elsewhere =>
          rw [if_neg elsewhere]
          exact sound.merged id standing isStanding
  | undo isSource redirects pages =>
      rw [pages] at isStanding
      rw [redirects]
      split at isStanding
      case isTrue here =>
          cases isStanding
          simp [here]
      case isFalse elsewhere =>
          rw [if_neg elsewhere]
          exact sound.merged id standing isStanding

theorem EntryStep.resolves (step : EntryStep before after) (sound : before.Sound) :
    Resolves fun id => (after.redirect id).map Redirect.targetPageId := by
  cases step with
  | keep redirects pages =>
      apply sound.resolves.of_subset
      intro id onward isOnward
      rwa [redirects] at isOnward
  | @merge source target spaceId different isSource isTarget redirects pages =>
      have targetRoot : before.redirect target = none := by
        have unmerged := sound.merged target _ isTarget
        simpa using unmerged
      refine @Resolves.forward _ _ _ _ sound.resolves source target ?_ ?_
      · simp [redirects, Ne.symm different, targetRoot]
      · intro id onward isOnward
        rw [redirects] at isOnward
        split at isOnward
        case isTrue here =>
            cases isOnward
            exact .inr ⟨here, rfl⟩
        case isFalse => exact .inl isOnward
  | undo isSource redirects pages =>
      apply sound.resolves.of_subset
      intro id onward isOnward
      rw [redirects] at isOnward
      split at isOnward
      case isTrue => cases isOnward
      case isFalse => exact isOnward

theorem EntryStep.sound (step : EntryStep before after) (sound : before.Sound) : after.Sound where
  merged := fun _ _ isStanding => step.merged_iff sound isStanding
  source := by
    intro id redirect isRedirect
    apply step.ends
    rcases step.known_or_added isRedirect with known | ⟨isSource, -⟩
    · exact sound.source id redirect known
    · exact ⟨_, isSource, rfl⟩
  target := by
    intro id redirect isRedirect
    apply step.ends
    rcases step.known_or_added isRedirect with known | ⟨-, isTarget⟩
    · exact sound.target id redirect known
    · exact ⟨_, isTarget, rfl⟩
  resolves := step.resolves sound

/-- A run of such steps. -/
def EntryRun : Entries → Entries → Prop := Relation.ReflTransGen EntryStep

theorem EntryRun.sound (run : EntryRun before after) (sound : before.Sound) : after.Sound := by
  induction run with
  | refl => exact sound
  | tail _ step inductionHypothesis => exact step.sound inductionHypothesis

end Step

/-! ## The store -/

def PageRecord.standing (record : PageRecord) : Standing :=
  ⟨record.page.spaceId, decide (record.page.status = .merged)⟩

def WikiStore.entries (store : WikiStore) : Entries where
  standing := fun id => (store.pages.lookup id).map PageRecord.standing
  redirect := store.redirects.lookup

theorem standing_commit (store : WikiStore) (write : PageWrite) (exclude : Option String)
    (id : String) : (store.commit write exclude).entries.standing id =
      if id = write.written.page.id then some write.written.standing
      else store.entries.standing id := by
  simp only [WikiStore.entries]
  split
  case isTrue here =>
      rw [here, lookup_commit_self]
      rfl
  case isFalse elsewhere => rw [lookup_commit_of_ne elsewhere]

theorem redirect_commit (store : WikiStore) (write : PageWrite) (exclude : Option String)
    (id : String) : (store.commit write exclude).entries.redirect id = store.entries.redirect id :=
  rfl

/-- A write that leaves a page as merged as it was, or makes one that is not. -/
theorem EntryStep.of_write {rules : WikiRules} {images : Prop} {subjects : List String}
    {store : WikiStore} {prior : Option PageRecord} {write : PageWrite} {exclude : Option String}
    (continues : write.Continues rules images subjects store prior)
    (merged : decide (write.written.page.status = .merged) =
      prior.any fun record => record.page.status = .merged) :
    EntryStep store.entries (store.commit write exclude).entries := by
  apply EntryStep.keep
  · exact redirect_commit store write exclude
  · intro id
    rw [standing_commit]
    split
    case isTrue here =>
        have found := continues.found
        rw [← here] at found
        cases prior with
        | none =>
            right
            refine ⟨by simp [WikiStore.entries, found], write.written.page.spaceId, ?_⟩
            rw [PageRecord.standing, merged]
            rfl
        | some record =>
            left
            rw [PageRecord.standing, merged, (continues.kept record rfl).space]
            simp [WikiStore.entries, found, PageRecord.standing]
    case isFalse => exact .inl rfl

/-! ## What a call does -/

/-- The moves a call is made of, and what they are to the redirects. -/
structure CallMove (rules : WikiRules) (images : Prop) (subjects : List String)
    (before after : WikiStore) : Prop where
  move : WikiMove rules images subjects before after
  entries : EntryRun before.entries after.entries

section CallMove

variable {rules : WikiRules} {images : Prop} {subjects : List String}
  {before after store : WikiStore}

theorem CallMove.aside (pages : after.pages = before.pages)
    (proposals : after.proposals = before.proposals)
    (redirects : after.redirects = before.redirects) :
    CallMove rules images subjects before after where
  move := .aside pages proposals
  entries := by
    have same : after.entries = before.entries := by
      rw [WikiStore.entries, pages, redirects]
      rfl
    rw [same]
    exact .refl

theorem CallMove.refl : CallMove rules images subjects store store := .aside rfl rfl rfl

theorem CallMove.counted {count : Nat} :
    CallMove rules images subjects store (store.counted count) := .aside rfl rfl rfl

theorem CallMove.trans (one : CallMove rules images subjects before store)
    (two : CallMove rules images subjects store after) :
    CallMove rules images subjects before after :=
  ⟨one.move.trans two.move, Relation.ReflTransGen.trans one.entries two.entries⟩

theorem CallMove.mono {stronger : Prop} (implies : stronger → images)
    (moves : CallMove rules images subjects before after) :
    CallMove rules stronger subjects before after := ⟨moves.move.mono implies, moves.entries⟩

theorem CallMove.of_proposals (move : WikiMove rules images subjects before after)
    (same : after.entries = before.entries) : CallMove rules images subjects before after :=
  ⟨move, same ▸ .refl⟩

theorem CallMove.settle {proposalId : String} {status : ProposalStatus}
    (leaves : status ≠ .pending) :
    CallMove rules images subjects store (store.settleProposal proposalId status) :=
  .of_proposals (.settle leaves) rfl

theorem CallMove.write {prior : Option PageRecord} {write : PageWrite}
    (continues : write.Continues rules images subjects store prior)
    (merged : decide (write.written.page.status = .merged) =
      prior.any fun record => record.page.status = .merged) :
    CallMove rules images subjects store (store.commit write none) :=
  ⟨.write continues, .single (.of_write continues merged)⟩

theorem CallMove.accept {prior : Option PageRecord} {write : PageWrite} {proposalId : String}
    (continues : write.Continues rules images subjects store prior)
    (merged : decide (write.written.page.status = .merged) =
      prior.any fun record => record.page.status = .merged) :
    CallMove rules images subjects store
      ((store.commit write (some proposalId)).settleProposal proposalId .accepted) :=
  ⟨.accept continues, .single (.of_write continues merged)⟩

/-- A call behind a receipt changes nothing, or its body runs. -/
theorem once_moves {operationKey : String} {body : Except Failure Written} {done : Written}
    (isDone : store.once operationKey body = .ok done)
    (moves : ∀ written, body = .ok written → store.receipt operationKey = none →
      CallMove rules images subjects store written.1) :
    CallMove rules images subjects store done.1 := by
  unfold WikiStore.once at isDone
  cases answered : store.receipt operationKey with
  | some result =>
      rw [answered] at isDone
      obtain rfl := Except.ok.inj isDone
      exact .refl
  | none =>
      rw [answered] at isDone
      obtain ⟨written, isWritten, result⟩ := bind_eq_ok.mp isDone
      obtain rfl := pure_eq_ok.mp result
      exact (moves written isWritten answered).trans (.aside rfl rfl rfl)

end CallMove

end Shiliu.Wiki
