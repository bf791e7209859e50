/-
Module: Shiliu.Wiki.RedirectRuns
Purpose: Where `get_page` ends in every store that calls lead to: at a page of the same space that is not
  merged.
Trusted boundary: none
Main exports: wikiAfter_sound, WikiStore.EndsAt, WikiStore.RedirectsResolve, redirects_resolve
-/
import Shiliu.Wiki.WriterMoves

namespace Shiliu.Wiki

open Shiliu.Library Shiliu.Storage

variable {rules : WikiRules} {store : WikiStore}

theorem stepWiki_sound (rules : WikiRules) (store : WikiStore) (call : WikiCall)
    (sound : store.entries.Sound) : (stepWiki rules store call).entries.Sound :=
  (stepWiki_move rules store call).entries.sound sound

theorem wikiAfter_sound (rules : WikiRules) (calls : List WikiCall) :
    (wikiAfter rules calls).entries.Sound := by
  apply invariant_run (stepWiki_sound rules)
  constructor
  case merged => intro id standing isStanding; cases isStanding
  case source => intro id redirect isRedirect; cases isRedirect
  case target => intro id redirect isRedirect; cases isRedirect
  case resolves => exact resolves_none

/-! ## Where `get_page` ends -/

/-- What `get_page` answers for a page that leads to another: the other page while it is active, and a
page that is not redirected also when hidden pages are asked for. -/
def PageRecord.answer (record : PageRecord) (includeHidden : Bool) (last : PageRecord) :
    Except Failure FoundPage :=
  if last.page.status = .active ∨ includeHidden = true ∧ record.page.status ≠ .merged then
    .ok ⟨last, if record.page.status = .merged then some record.page.id else none⟩
  else .error .keyError

/-- Following redirects from one page ends at the other. -/
structure WikiStore.EndsAt (store : WikiStore) (record last : PageRecord) : Prop where
  isPage : last ∈ store.pages
  leads : store.Leads record.page.id last.page.id
  unmerged : last.page.status ≠ .merged
  space : last.page.spaceId = record.page.spaceId
  answers : ∃ steps, ∀ fuel ≥ steps, ∀ (includeHidden : Bool) (spaceId : Option Nat),
    (spaceId = none ∨ spaceId = some record.page.spaceId) →
      store.getPage fuel includeHidden spaceId record.page.id =
        some (record.answer includeHidden last)

theorem any_ne_of_own {spaceId : Option Nat} {own : Nat} (asked : spaceId = none ∨ spaceId = some own) :
    spaceId.any (· ≠ own) = false := by
  rcases asked with rfl | rfl <;> simp

theorem WikiStore.EndsAt.here {record : PageRecord}
    (found : store.pages.lookup record.page.id = some record)
    (unmerged : record.page.status ≠ .merged)
    (unredirected : store.redirects.lookup record.page.id = none) : store.EndsAt record record where
  isPage := Table.mem_of_lookup found
  leads := Relation.ReflTransGen.refl
  unmerged := unmerged
  space := rfl
  answers := by
    refine ⟨1, fun fuel enough includeHidden spaceId asked => ?_⟩
    obtain ⟨rest, rfl⟩ := Nat.exists_eq_add_of_le' enough
    simp only [WikiStore.getPage, found, any_ne_of_own asked, unredirected, PageRecord.answer,
      if_neg unmerged]
    cases isStatus : record.page.status <;> cases includeHidden <;> simp_all

theorem WikiStore.EndsAt.redirected {record next last : PageRecord} {redirect : Redirect}
    (found : store.pages.lookup record.page.id = some record)
    (isMerged : record.page.status = .merged)
    (isRedirect : store.redirects.lookup record.page.id = some redirect)
    (inSpace : redirect.spaceId = record.page.spaceId)
    (isNext : redirect.targetPageId = next.page.id)
    (nextSpace : next.page.spaceId = record.page.spaceId)
    (ends : store.EndsAt next last) : store.EndsAt record last where
  isPage := ends.isPage
  leads := by
    apply Relation.ReflTransGen.head _ ends.leads
    simp [WikiStore.target, isRedirect, isNext]
  unmerged := ends.unmerged
  space := ends.space.trans nextSpace
  answers := by
    obtain ⟨steps, answers⟩ := ends.answers
    refine ⟨steps + 1, fun fuel enough includeHidden spaceId asked => ?_⟩
    obtain ⟨rest, rfl⟩ := Nat.exists_eq_add_of_le' enough
    have later := answers (rest + steps) (Nat.le_add_left steps rest) false
      (some record.page.spaceId) (.inr (congrArg some nextSpace.symm))
    have unfolded : store.getPage (rest + (steps + 1)) includeHidden spaceId record.page.id =
        (store.getPage (rest + steps) false (some record.page.spaceId) next.page.id).map
          fun outcome => outcome.map fun found =>
            { found with redirectedFrom := some record.page.id } := by
      rw [← Nat.add_assoc, WikiStore.getPage]
      simp only [found, any_ne_of_own asked, isMerged, isRedirect, inSpace, isNext]
      simp
    rw [unfolded, later]
    by_cases isActive : last.page.status = .active <;>
      simp [PageRecord.answer, isActive, isMerged, Except.map]

theorem Entries.Sound.ends (sound : store.entries.Sound) (pageId : String) :
    ∀ record, store.pages.lookup pageId = some record → ∃ last, store.EndsAt record last := by
  induction pageId using sound.resolves.induct with
  | step pageId inductionHypothesis =>
      intro record found
      have isKey : record.id = pageId := Table.key_of_lookup found
      subst isKey
      change store.pages.lookup record.page.id = some record at found
      have isStanding : store.entries.standing record.page.id = some record.standing := by
        simp [WikiStore.entries, found]
      have redirected := sound.merged record.page.id record.standing isStanding
      by_cases isMerged : record.page.status = .merged
      · obtain ⟨redirect, isRedirect⟩ :=
          Option.isSome_iff_exists.mp (redirected.mp (decide_eq_true isMerged))
        obtain ⟨own, isOwn, inSpace⟩ := sound.source record.page.id redirect isRedirect
        obtain ⟨onward, isOnward, nextSpace⟩ := sound.target record.page.id redirect isRedirect
        obtain ⟨next, isNext, rfl⟩ := Option.map_eq_some_iff.mp isOnward
        have sameSpace : redirect.spaceId = record.page.spaceId := by
          rw [← inSpace]
          cases isStanding.symm.trans isOwn
          rfl
        obtain ⟨last, ends⟩ :=
          inductionHypothesis redirect.targetPageId
            (congrArg (Option.map Redirect.targetPageId) isRedirect) next isNext
        have nextId : next.id = redirect.targetPageId := Table.key_of_lookup isNext
        exact ⟨last, .redirected found isMerged isRedirect sameSpace nextId.symm
          (nextSpace.trans sameSpace) ends⟩
      · have unredirected : store.redirects.lookup record.page.id = none := by
          have unmerged : record.standing.merged = false := decide_eq_false isMerged
          rw [unmerged] at redirected
          have unlisted : store.entries.redirect record.page.id = none := by simpa using redirected
          exact unlisted
        exact ⟨record, .here found isMerged unredirected⟩

theorem Entries.Sound.count (sound : store.entries.Sound) {record : PageRecord}
    (isPage : record ∈ store.pages) :
    (store.redirects.rows.map Redirect.oldPageId).count record.page.id =
      if record.page.status = .merged then 1 else 0 := by
  have isStanding : store.entries.standing record.page.id = some record.standing := by
    have found : store.pages.lookup record.page.id = some record := Table.lookup_of_mem isPage
    simp [WikiStore.entries, found]
  have redirected := sound.merged record.page.id record.standing isStanding
  rw [List.Nodup.count store.redirects.unique]
  have isListed : record.page.id ∈ store.redirects.rows.map Redirect.oldPageId ↔
      record.page.status = .merged := by
    rw [← decide_eq_true_iff (p := record.page.status = .merged)]
    apply Iff.trans _ redirected.symm
    rw [← Option.ne_none_iff_isSome, Ne, ← not_iff_not, not_not]
    simp [WikiStore.entries, Table.lookup_eq_none, Table.mem_rows]
  simp only [isListed]

/-- A page has one redirect when it is merged and none otherwise, and following redirects from it as
`get_page` does ends at a page of its space that is not merged. -/
structure WikiStore.RedirectsResolve (store : WikiStore) : Prop where
  counted : ∀ record ∈ store.pages,
    (store.redirects.rows.map Redirect.oldPageId).count record.page.id =
      if record.page.status = .merged then 1 else 0
  ends : ∀ record ∈ store.pages, ∃ last, store.EndsAt record last

/-- Redirects resolve in every store that calls lead to. -/
theorem redirects_resolve (rules : WikiRules) (calls : List WikiCall) :
    (wikiAfter rules calls).RedirectsResolve := by
  have sound := wikiAfter_sound rules calls
  constructor
  case counted => exact fun record isPage => sound.count isPage
  case ends =>
      intro record isPage
      exact sound.ends record.page.id record (Table.lookup_of_mem isPage)

end Shiliu.Wiki
