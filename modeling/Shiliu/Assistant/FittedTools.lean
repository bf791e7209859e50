/-
Module: Shiliu.Assistant.FittedTools
Purpose: What fitting the unfrozen results of a prepared candidate does. A trial sets every result
  that can be paged, so its answer depends on the sizes it is given and not on the trials before it;
  the sizes at the end were accepted when they were found, whatever the test, and the last trial
  puts their candidate together again.
Trusted boundary: none
Main exports: trialFits, trial_again, Fitted, fitUnfrozenTools_fitted
-/
import Shiliu.Assistant.WorkingContext
import Shiliu.Library.Allotment

set_option linter.all false

namespace Shiliu.Assistant.WorkingContext

open Shiliu.Library Shiliu.Storage

variable {composer : Composer} {provider : Provider} {suffix : Option String}
  {candidate : WorkingContextCandidate} {capabilities : EndpointCapabilities}
  {messages : List ModelMessage} {pageable : List String}

/-! ## The results that can be paged -/

variable {messageId : String} {projections : String → Option Projection}

theorem Prepared.isPageable_ok (prepared : Prepared provider candidate capabilities messages)
    (member : messageId ∈ messageIds candidate.state.entries) :
    ∃ pages, candidate.isPageable messageId = .ok pages := by
  by_cases frozen : messageId ∈ candidate.frozenIds
  · exact ⟨false, by rw [WorkingContextCandidate.isPageable, if_pos frozen]⟩
  · obtain ⟨item, -, -, isItem, -⟩ := prepared.unfrozen messageId member frozen
    simp only [WorkingContextCandidate.isPageable, if_neg frozen, isItem]
    exact ⟨_, rfl⟩

theorem pageable_ok {ids : List String}
    (known : ∀ messageId ∈ ids, ∃ pages, candidate.isPageable messageId = .ok pages) :
    candidate.pageable ids =
      .ok (ids.filter fun messageId => (candidate.isPageable messageId).toOption = some true) := by
  induction ids with
  | nil => rfl
  | cons messageId rest inductionHypothesis =>
      obtain ⟨pages, isPages⟩ := known messageId List.mem_cons_self
      have others := inductionHypothesis fun id member => known id (List.mem_cons_of_mem _ member)
      rw [WorkingContextCandidate.pageable, isPages, others]
      cases pages with
      | true => simp [isPages, Except.toOption, bind, Except.bind, pure, Except.pure]
      | false => simp [isPages, Except.toOption, bind, Except.bind, pure, Except.pure]

/-- What the fitting of a candidate works on: the messages that can be paged, in call order. -/
structure Pages (candidate : WorkingContextCandidate) (pageable : List String) : Prop where
  found : candidate.pageable (messageIds candidate.state.entries) = .ok pageable
  entries : ∀ messageId ∈ pageable, messageId ∈ messageIds candidate.state.entries
  distinct : pageable.Nodup
  unfrozen : ∀ messageId ∈ pageable, messageId ∉ candidate.frozenIds

theorem Prepared.pages (prepared : Prepared provider candidate capabilities messages) :
    ∃ pageable, Pages candidate pageable := by
  have found := pageable_ok fun messageId member => prepared.isPageable_ok member
  refine ⟨_, found, ?_, prepared.once.filter _, ?_⟩
  · intro messageId member
    exact (List.mem_filter.mp member).1
  · intro messageId member frozen
    have pages := (List.mem_filter.mp member).2
    simp [WorkingContextCandidate.isPageable, frozen, Except.toOption] at pages

/-! ## Paging a result -/

/-- A result that is not frozen can be shown with any number of characters, and stays the answer to
its call. -/
theorem Prepared.repage_ok (prepared : Prepared provider candidate capabilities messages)
    (composer : Composer) (member : messageId ∈ messageIds candidate.state.entries)
    (unfrozen : messageId ∉ candidate.frozenIds) (size : Nat) :
    ∃ projection shown, repage composer candidate messageId size = .ok projection ∧
      candidate.projections messageId = some shown ∧
      projection.message.protocol = shown.message.protocol := by
  obtain ⟨item, message, shown, isItem, fresh, isMessage, isShown, alike⟩ :=
    prepared.unfrozen messageId member unfrozen
  simp only [repage, isItem, Composer.projection, fresh, isMessage, bind, Except.bind]
  by_cases isTool : item.role = .tool
  · rw [if_pos isTool]
    exact ⟨_, shown, rfl, isShown, alike.symm⟩
  · rw [if_neg isTool]
    exact ⟨_, shown, rfl, isShown, alike.symm⟩

/-- The projections with the results of a list at the sizes they are allotted. -/
def pagedTo (composer : Composer) (candidate : WorkingContextCandidate) (allocations : String → Nat)
    (pageable : List String) (projections : String → Option Projection) :
    String → Option Projection := fun messageId =>
  if messageId ∈ pageable then
    (repage composer candidate messageId (allocations messageId)).toOption
  else projections messageId

theorem pagedTo_of_notMem {allocations : String → Nat} (absent : messageId ∉ pageable) :
    pagedTo composer candidate allocations pageable projections messageId =
      projections messageId :=
  if_neg absent

/-- The loop of a trial over the results. -/
theorem foldlM_repage {allocations : String → Nat} (shows : ∀ messageId ∈ pageable, ∃ projection,
      repage composer candidate messageId (allocations messageId) = .ok projection) :
    (pageable.foldlM (fun projections messageId => do
        let projection ← repage composer candidate messageId (allocations messageId)
        return Function.update projections messageId (some projection)) projections :
      Except ContextFailure _) =
      .ok (pagedTo composer candidate allocations pageable projections) := by
  induction pageable generalizing projections with
  | nil =>
      have unpaged : pagedTo composer candidate allocations [] projections = projections := by
        funext messageId
        exact pagedTo_of_notMem List.not_mem_nil
      rw [unpaged]
      rfl
  | cons messageId rest inductionHypothesis =>
      obtain ⟨projection, isProjection⟩ := shows messageId List.mem_cons_self
      rw [List.foldlM_cons]
      simp only [isProjection, bind, Except.bind, pure, Except.pure] at inductionHypothesis ⊢
      rw [inductionHypothesis fun id member => shows id (List.mem_cons_of_mem _ member)]
      congr 1
      funext other
      by_cases inRest : other ∈ rest
      · simp [pagedTo, inRest]
      · by_cases same : other = messageId
        · subst same
          simp [pagedTo, inRest, isProjection, Except.toOption]
        · simp [pagedTo, inRest, same]

/-! ## Trials -/

/-- The candidates the trials leave: as at the beginning, but for the projections of the results
that can be paged and for the request. -/
inductive Trialled (candidate : WorkingContextCandidate) (pageable : List String) :
    WorkingContextCandidate → Prop where
  | intro (projections : String → Option Projection) (request : PreparedRequest)
      (budget : RequestBudget)
      (same : ∀ messageId, messageId ∉ pageable →
        projections messageId = candidate.projections messageId) :
      Trialled candidate pageable
        { candidate with projections := projections, request := request, budget := budget }

/-- Whether the request fits with the sizes the results are allotted. -/
def trialFits (composer : Composer) (provider : Provider) (suffix : Option String)
    (candidate : WorkingContextCandidate) (pageable : List String) (allocations : String → Nat) :
    Bool :=
  match trial composer provider suffix candidate pageable allocations candidate with
  | .ok (fits, _) => fits
  | .error _ => false

theorem Shown.of_alike {others : String → Option Projection} {entries : List Entry}
    (shown : Shown projections entries messages)
    (alike : ∀ messageId ∈ messageIds entries, ∀ projection,
      projections messageId = some projection → ∃ other, others messageId = some other ∧
        other.message.protocol = projection.message.protocol) :
    ∃ paged, Shown others entries paged ∧
      paged.map ModelMessage.protocol = messages.map ModelMessage.protocol := by
  induction shown with
  | nil => exact ⟨[], .nil, rfl⟩
  | @cons entry message entries messages isMessage _ inductionHypothesis =>
      obtain ⟨paged, isPaged, sameShapes⟩ := inductionHypothesis fun messageId member =>
        alike messageId (by
          cases entry <;> simp only [messageIds, List.filterMap_cons, Entry.messageId?] at member ⊢
          · exact List.mem_cons_of_mem _ member
          · exact member)
      cases entry with
      | block block =>
          exact ⟨message :: paged, .cons isMessage isPaged, by rw [List.map_cons, sameShapes,
            List.map_cons]⟩
      | message messageId =>
          cases isShown : projections messageId with
          | none =>
              simp only [entryMessage, isShown] at isMessage
              nomatch isMessage
          | some projection =>
              simp only [entryMessage, isShown, Except.ok.injEq] at isMessage
              obtain ⟨other, isOther, sameShape⟩ := alike messageId
                (by simp [messageIds, Entry.messageId?]) projection isShown
              refine ⟨other.message :: paged, .cons (by simp [entryMessage, isOther]) isPaged, ?_⟩
              rw [List.map_cons, sameShapes, sameShape, isMessage, List.map_cons]

section Trials

variable (prepared : Prepared provider candidate capabilities messages)
  (pages : Pages candidate pageable)

include prepared pages

theorem Prepared.foldlM_repage (composer : Composer) (allocations : String → Nat)
    (projections : String → Option Projection) :
    (pageable.foldlM (fun projections messageId => do
        let projection ← repage composer candidate messageId (allocations messageId)
        return Function.update projections messageId (some projection)) projections :
      Except ContextFailure _) =
      .ok (pagedTo composer candidate allocations pageable projections) := by
  apply WorkingContext.foldlM_repage
  intro messageId member
  obtain ⟨projection, -, isProjection, -⟩ := prepared.repage_ok composer
    (pages.entries messageId member) (pages.unfrozen messageId member) (allocations messageId)
  exact ⟨projection, isProjection⟩

variable {result : WorkingContextCandidate}

/-- A trial does not see what the trials before it have left. -/
theorem Prepared.trial_again (composer : Composer) (suffix : Option String)
    (allocations : String → Nat) (trialled : Trialled candidate pageable result) :
    trial composer provider suffix candidate pageable allocations result =
      trial composer provider suffix candidate pageable allocations candidate := by
  obtain ⟨projections, request, budget, same⟩ := trialled
  have covered : pagedTo composer candidate allocations pageable projections =
      pagedTo composer candidate allocations pageable candidate.projections := by
    funext messageId
    by_cases member : messageId ∈ pageable
    · simp [pagedTo, member]
    · rw [pagedTo_of_notMem member, pagedTo_of_notMem member, same messageId member]
  simp only [trial, prepared.foldlM_repage pages, covered]

theorem Prepared.shown_paged (composer : Composer) (allocations : String → Nat) :
    ∃ paged, Shown (pagedTo composer candidate allocations pageable candidate.projections)
        candidate.state.entries paged ∧ ValidSequence paged := by
  have alike : ∀ messageId ∈ messageIds candidate.state.entries, ∀ projection,
      candidate.projections messageId = some projection → ∃ other,
        pagedTo composer candidate allocations pageable candidate.projections messageId =
          some other ∧ other.message.protocol = projection.message.protocol := by
    intro messageId member projection isShown
    by_cases inPageable : messageId ∈ pageable
    · obtain ⟨other, shown, isOther, isSame, sameShape⟩ := prepared.repage_ok composer member
        (pages.unfrozen messageId inPageable) (allocations messageId)
      obtain rfl := Option.some.inj (isShown.symm.trans isSame)
      exact ⟨other, by simp [pagedTo, inPageable, isOther, Except.toOption], sameShape⟩
    · exact ⟨projection, by rw [pagedTo_of_notMem inPageable, isShown], rfl⟩
  obtain ⟨paged, isPaged, sameShapes⟩ := prepared.shown.of_alike alike
  exact ⟨paged, isPaged, prepared.valid.of_alike sameShapes⟩

/-- No trial raises, and each leaves a candidate it says the truth about. -/
theorem Prepared.trial_ok (composer : Composer) (suffix : Option String)
    (allocations : String → Nat) :
    ∃ result, trial composer provider suffix candidate pageable allocations candidate =
        .ok (trialFits composer provider suffix candidate pageable allocations, result) ∧
      Trialled candidate pageable result ∧
      result.budget.fits = trialFits composer provider suffix candidate pageable allocations ∧
      result.budget.inputTokens = result.request.inputTokens := by
  obtain ⟨paged, isPaged, valid⟩ := prepared.shown_paged pages composer allocations
  suffices ran : ∃ result,
      trial composer provider suffix candidate pageable allocations candidate =
        .ok (result.budget.fits, result) ∧ Trialled candidate pageable result ∧
        result.budget.inputTokens = result.request.inputTokens by
    obtain ⟨result, isResult, trialled, counted⟩ := ran
    have fits : trialFits composer provider suffix candidate pageable allocations =
        result.budget.fits := by rw [trialFits, isResult]
    exact ⟨result, by rw [fits, isResult], trialled, fits.symm, counted⟩
  have same : ∀ messageId, messageId ∉ pageable →
      pagedTo composer candidate allocations pageable candidate.projections messageId =
        candidate.projections messageId := fun messageId => pagedTo_of_notMem
  rw [trial, prepared.foldlM_repage pages]
  simp only [bind, Except.bind, requestOf_ok prepared.accepts isPaged valid candidate.checkpoint]
  by_cases framed : truthy suffix = true
  · rw [if_pos framed]
    generalize isAfter : ({ candidate with
      projections := pagedTo composer candidate allocations pageable candidate.projections
      request := _, budget := _ } : WorkingContextCandidate) = after
    have accepts : provider.Accepts after.request.body.maxTokens after.budget.inputLimitTokens
        capabilities := isAfter ▸ prepared.accepts
    have shown : Shown after.projections after.state.entries paged := isAfter ▸ isPaged
    obtain ⟨request, budget, isReframed, -, -, -, counted, -, -⟩ :=
      @reframe_ok composer provider capabilities after accepts paged shown valid suffix
    rw [isReframed]
    subst isAfter
    exact ⟨_, rfl, .intro _ _ _ same, counted⟩
  · rw [if_neg framed]
    exact ⟨_, rfl, .intro _ _ _ same, rfl⟩

/-- The search for the common share. -/
theorem Prepared.seek_share (composer : Composer) (suffix : Option String) (upper : Nat)
    (trialled : Trialled candidate pageable result) :
    ∃ after, seekGreatest (fun share => trial composer provider suffix candidate pageable
          fun _ => share) 0 upper result =
        .ok (greatest (fun share => trialFits composer provider suffix candidate pageable
          fun _ => share) 0 upper, after) ∧ Trialled candidate pageable after := by
  apply seekGreatest_eq_greatest _ trialled
  intro share result trialled
  obtain ⟨after, isAfter, trialledAfter, -⟩ :=
    prepared.trial_ok pages composer suffix fun _ => share
  rw [prepared.trial_again pages composer suffix _ trialled, isAfter]
  exact ⟨after, rfl, trialledAfter⟩

/-- The search for what one result can have besides the others. -/
theorem Prepared.seek_extra (composer : Composer) (suffix : Option String)
    (allocations : String → Nat) (messageId : String) (share length : Nat)
    (trialled : Trialled candidate pageable result) :
    ∃ after, seekGreatest (fun extra => trial composer provider suffix candidate pageable
          (Function.update allocations messageId extra)) share length result =
        .ok (greatest (fun extra => trialFits composer provider suffix candidate pageable
          (Function.update allocations messageId extra)) share length, after) ∧
      Trialled candidate pageable after := by
  apply seekGreatest_eq_greatest _ trialled
  intro extra result trialled
  obtain ⟨after, isAfter, trialledAfter, -⟩ :=
    prepared.trial_ok pages composer suffix (Function.update allocations messageId extra)
  rw [prepared.trial_again pages composer suffix _ trialled, isAfter]
  exact ⟨after, rfl, trialledAfter⟩

theorem Prepared.foldlM_enlarge (composer : Composer) (suffix : Option String)
    {limit : String → Nat} {share : Nat} {turns : List String}
    (lengths : ∀ messageId ∈ turns, candidate.contentLength messageId = .ok (limit messageId))
    {allocations : String → Nat} (trialled : Trialled candidate pageable result) :
    ∃ after, turns.foldlM (enlarge composer provider suffix candidate pageable share)
          (allocations, result) =
        .ok (allot (trialFits composer provider suffix candidate pageable) limit share turns
          allocations, after) ∧ Trialled candidate pageable after := by
  induction turns generalizing allocations result with
  | nil => exact ⟨result, rfl, trialled⟩
  | cons messageId rest inductionHypothesis =>
      obtain ⟨found, isFound, trialledFound⟩ := prepared.seek_extra pages composer suffix
        allocations messageId share (limit messageId) trialled
      rw [List.foldlM_cons, enlarge, lengths messageId List.mem_cons_self]
      simp only [bind, Except.bind, isFound, pure, Except.pure]
      exact inductionHypothesis
        (fun id member => lengths id (List.mem_cons_of_mem _ member)) trialledFound

theorem Prepared.contentLength_ok {messageId : String} (member : messageId ∈ pageable) :
    ∃ length, candidate.contentLength messageId = .ok length := by
  obtain ⟨item, -, -, isItem, -⟩ := prepared.unfrozen messageId (pages.entries messageId member)
    (pages.unfrozen messageId member)
  exact ⟨item.content.length, by rw [WorkingContextCandidate.contentLength, isItem]; rfl⟩

/-- Only the sizes of the results that can be paged count. -/
theorem Prepared.trialFits_congr (composer : Composer) (suffix : Option String)
    {one other : String → Nat} (same : ∀ messageId ∈ pageable, one messageId = other messageId) :
    trialFits composer provider suffix candidate pageable one =
      trialFits composer provider suffix candidate pageable other := by
  have covered : pagedTo composer candidate one pageable candidate.projections =
      pagedTo composer candidate other pageable candidate.projections := by
    funext messageId
    by_cases member : messageId ∈ pageable
    · simp [pagedTo, member, same messageId member]
    · rw [pagedTo_of_notMem member, pagedTo_of_notMem member]
  rw [trialFits, trialFits, trial, trial, prepared.foldlM_repage pages,
    prepared.foldlM_repage pages, covered]

end Trials

/-! ## What fitting returns -/

/-- A request that fits with one result at some size fits with that result at any smaller size. -/
def FitsMonotone (composer : Composer) (provider : Provider) (suffix : Option String)
    (candidate : WorkingContextCandidate) (pageable : List String) : Prop :=
  ∀ (allocations : String → Nat) (messageId : String) (smaller larger : Nat),
    messageId ∈ pageable → smaller ≤ larger →
    trialFits composer provider suffix candidate pageable
      (Function.update allocations messageId larger) = true →
    trialFits composer provider suffix candidate pageable
      (Function.update allocations messageId smaller) = true

/-- No result could be larger while those before it in call order keep their sizes, whatever the
later ones get from the common share on. -/
def Maximal (composer : Composer) (provider : Provider) (suffix : Option String)
    (candidate : WorkingContextCandidate) (pageable : List String) (share : Nat)
    (allocations : String → Nat) : Prop :=
  ∀ (before : List String) (messageId : String) (after : List String) (length : Nat)
    (other : String → Nat), pageable = before ++ messageId :: after →
    candidate.contentLength messageId = .ok length →
    (∀ earlier ∈ before, other earlier = allocations earlier) →
    allocations messageId < other messageId → other messageId ≤ length →
    (∀ later ∈ after, share ≤ other later) →
    trialFits composer provider suffix candidate pageable other = false

/-- The sizes a candidate was put together with. -/
structure Allotted (composer : Composer) (provider : Provider) (suffix : Option String)
    (candidate : WorkingContextCandidate) (pageable : List String) (share : Nat)
    (allocations : String → Nat) (result : WorkingContextCandidate) : Prop where
  tried : trial composer provider suffix candidate pageable allocations candidate =
    .ok (true, result)
  shared : ∀ messageId ∈ pageable, share ≤ allocations messageId
  maximal : FitsMonotone composer provider suffix candidate pageable →
    Maximal composer provider suffix candidate pageable share allocations

/-- The rest of the fitting once the skeletons of all results fit. -/
theorem Prepared.allotted (prepared : Prepared provider candidate capabilities messages)
    (pages : Pages candidate pageable) {share : Nat} {limit : String → Nat}
    (lengths : ∀ messageId ∈ pageable, candidate.contentLength messageId = .ok (limit messageId))
    (accepted : trialFits composer provider suffix candidate pageable (fun _ => share) = true) :
    ∃ result, Allotted composer provider suffix candidate pageable share
      (allot (trialFits composer provider suffix candidate pageable) limit share pageable
        fun _ => share) result := by
  obtain ⟨result, isResult, -⟩ := prepared.trial_ok pages composer suffix
    (allot (trialFits composer provider suffix candidate pageable) limit share pageable
      fun _ => share)
  rw [allot_accepts pages.distinct (fun _ _ => rfl) accepted] at isResult
  refine ⟨result, isResult, fun messageId member => share_le_allot pages.distinct member, ?_⟩
  intro monotone before messageId after length other split isLength kept more within atLeast
  have member : messageId ∈ pageable := by simp [split]
  have sameLength : limit messageId = length :=
    Except.ok.inj ((lengths messageId member).symm.trans isLength)
  apply allot_maximal pages.distinct _ split (fun _ _ => rfl) kept more
    (sameLength ▸ within) atLeast
  intro smaller larger below
  exact antitone_of_coordinates (fun _ _ => prepared.trialFits_congr pages composer suffix)
    monotone below

/-- A candidate that was fitted. -/
structure Fitted (composer : Composer) (provider : Provider) (suffix : Option String)
    (candidate result : WorkingContextCandidate) : Prop where
  fits : result.budget.fits = true
  counted : result.budget.inputTokens = result.request.inputTokens
  state : result.state = candidate.state
  unpaged : ∀ messageId, ¬(messageId ∈ messageIds candidate.state.entries ∧
    candidate.isPageable messageId = .ok true) →
      result.projections messageId = candidate.projections messageId
  frozen : ∀ messageId ∈ candidate.frozenIds,
    result.projections messageId = candidate.projections messageId
  allotted : candidate.budget.fits = false → ∃ pageable share allocations,
    candidate.pageable (messageIds candidate.state.entries) = .ok pageable ∧
      Allotted composer provider suffix candidate pageable share allocations result

theorem Prepared.mem_pageable (prepared : Prepared provider candidate capabilities messages)
    (pages : Pages candidate pageable) {messageId : String} (member : messageId ∈ pageable) :
    candidate.isPageable messageId = .ok true := by
  have found := pages.found
  rw [pageable_ok fun _ member => prepared.isPageable_ok member, Except.ok.injEq] at found
  rw [← found, List.mem_filter, decide_eq_true_eq] at member
  cases isPages : candidate.isPageable messageId with
  | error failure => simp [isPages, Except.toOption] at member
  | ok paged => simpa [isPages, Except.toOption] using member.2

theorem Prepared.fitted_of_allotted (prepared : Prepared provider candidate capabilities messages)
    (pages : Pages candidate pageable) {share : Nat} {allocations : String → Nat}
    {result : WorkingContextCandidate}
    (allotted : Allotted composer provider suffix candidate pageable share allocations result) :
    Fitted composer provider suffix candidate result := by
  obtain ⟨same, isSame, trialled, fits, counted⟩ :=
    prepared.trial_ok pages composer suffix allocations
  rw [allotted.tried, Except.ok.injEq, Prod.mk.injEq] at isSame
  obtain ⟨isFit, rfl⟩ := isSame
  obtain ⟨projections, request, budget, unchanged⟩ := trialled
  exact {
    fits := fits.trans isFit.symm
    counted := counted
    state := rfl
    unpaged := fun messageId outside => unchanged messageId fun member =>
      outside ⟨pages.entries messageId member, prepared.mem_pageable pages member⟩
    frozen := fun messageId isFrozen => unchanged messageId fun member =>
      pages.unfrozen messageId member isFrozen
    allotted := fun _ => ⟨pageable, share, allocations, pages.found, allotted⟩ }

/-- Fitting a prepared candidate either raises `ContextBudgetExceeded` or returns a candidate that
fits, whatever the size of a request depends on. -/
theorem fitUnfrozenTools_fitted (prepared : Prepared provider candidate capabilities messages)
    (composer : Composer) (suffix : Option String) :
    (∃ message, fitUnfrozenTools composer provider suffix candidate =
        .error (.contextBudgetExceeded message)) ∨
      ∃ result, fitUnfrozenTools composer provider suffix candidate = .ok result ∧
        Fitted composer provider suffix candidate result := by
  by_cases already : candidate.budget.fits = true
  · refine .inr ⟨candidate, by rw [fitUnfrozenTools, if_pos already], ?_⟩
    exact {
      fits := already
      counted := prepared.counted
      state := rfl
      unpaged := fun _ _ => rfl
      frozen := fun _ _ => rfl
      allotted := fun unfitting => nomatch unfitting.symm.trans already }
  obtain ⟨pageable, pages⟩ := prepared.pages
  rw [fitUnfrozenTools, if_neg already, pages.found]
  simp only [bind, Except.bind]
  by_cases pageless : pageable = []
  · exact .inl ⟨_, by rw [ensure, if_neg (not_not.mpr pageless)]⟩
  rw [ensure, if_pos pageless]
  obtain ⟨skeletons, isSkeletons, trialledSkeletons, -⟩ :=
    prepared.trial_ok pages composer suffix fun _ => 0
  rw [isSkeletons]
  cases minimal : trialFits composer provider suffix candidate pageable fun _ => 0 with
  | false => exact .inl ⟨_, rfl⟩
  | true =>
      -- the contents can be measured, and then none of the trials raises
      choose! limit lengths using fun messageId (member : messageId ∈ pageable) =>
        prepared.contentLength_ok pages member
      have measured : pageable.mapM candidate.contentLength = .ok (pageable.map limit) := by
        rw [mapM_eq_ok, List.forall₂_map_right_iff, List.forall₂_same]
        exact lengths
      rw [measured]
      obtain ⟨shared, isShared, trialledShared⟩ := prepared.seek_share pages composer suffix
        ((pageable.map limit).foldr max 0) trialledSkeletons
      simp only [ensure, isShared]
      generalize isShare : greatest _ _ _ = share
      have accepted : trialFits composer provider suffix candidate pageable
          (fun _ => share) = true := by
        rcases @greatest_cases (fun share => trialFits composer provider suffix candidate pageable
          fun _ => share) 0 ((pageable.map limit).foldr max 0) with atZero | found
        · rw [← isShare, atZero, minimal]
        · rw [← isShare, found]
      obtain ⟨enlarged, isEnlarged, trialledEnlarged⟩ : ∃ enlarged,
          pageable.foldlM (enlarge composer provider suffix candidate pageable share)
              (fun _ => share, shared) =
            .ok (allot (trialFits composer provider suffix candidate pageable) limit share pageable
              fun _ => share, enlarged) ∧ Trialled candidate pageable enlarged :=
        prepared.foldlM_enlarge pages composer suffix lengths trialledShared
      obtain ⟨result, allotted⟩ := prepared.allotted pages lengths accepted
      rw [isEnlarged]
      refine .inr ⟨result, ?_, prepared.fitted_of_allotted pages allotted⟩
      simp only [if_true, prepared.trial_again pages composer suffix _ trialledEnlarged,
        allotted.tried]
      rfl

/-! ## A result that is cut to fit -/

/-- A composer that cuts a result to the characters it may have. -/
def cuttingComposer : Composer where
  systemRules := "rules"
  render := fun note => note.text
  fingerprint := fun item => item.id
  represented := fun item bodyCharacters =>
    ⟨String.ofList (item.content.toList.take (bodyCharacters.getD item.content.length)), [], [], []⟩

/-- A provider that counts the letters of the contents. -/
def letterProvider : Provider where
  baseUrl := "https://endpoint/"
  model := "model"
  capabilities := some ⟨"https://endpoint", "model", 1000, 100, 0⟩
  streams := false
  estimate := fun messages _ => (messages.map fun message => (message.content.getD "").length).sum

def readCall : ToolCall := ⟨some "call", "collection_read"⟩

def readAsked : RawMessage :=
  ⟨"m1", 1, some "run", .assistant, "", "now", [readCall], none, none, [], none⟩

def readResult : RawMessage :=
  ⟨"m2", 2, some "run", .tool, "0123456789", "now", [], some "call", some "collection_read", [],
    none⟩

/-- The projection a message has as long as it is whole. -/
def wholeProjection (item : RawMessage) : Option Projection :=
  (cuttingComposer.projection item none).toOption

def readMessages : List ModelMessage :=
  [⟨.assistant, none, [readCall], none, none⟩,
    ⟨.tool, some "0123456789", [], some "call", some "collection_read"⟩]

/-- A call and its result of ten letters, with room for six of them. -/
def readCandidate : WorkingContextCandidate where
  expectedRevision := 0
  state := ⟨[.message "m1", .message "m2"], [], none, none⟩
  projections := fun messageId =>
    if messageId = "m1" then wholeProjection readAsked
    else if messageId = "m2" then wholeProjection readResult else none
  request := ⟨"https://endpoint/", "model",
    ⟨systemMessage "rules" :: readMessages, [], 100, false⟩, 15⟩
  budget := ⟨15, 11, 1000, 100, 0, 11⟩
  messages := [readAsked, readResult]
  taskNote := none
  checkpoint := none
  frozenIds := []

theorem readMessages_unit : ProtocolUnit readMessages := by
  apply ProtocolUnit.exchange rfl (by decide)
  exact {
    named := by decide
    distinct := by decide
    tools := by decide
    count := rfl
    matched := by decide }

theorem readCandidate_prepared : Prepared letterProvider readCandidate
    ⟨"https://endpoint", "model", 1000, 100, 0⟩ readMessages where
  once := by decide
  unfrozen := by
    intro messageId member _
    have isOne : messageId = "m1" ∨ messageId = "m2" := by
      simpa [readCandidate, messageIds, Entry.messageId?] using member
    rcases isOne with rfl | rfl
    · exact ⟨readAsked, _, _, rfl, rfl, rfl, rfl, rfl⟩
    · exact ⟨readResult, _, _, rfl, rfl, rfl, rfl, rfl⟩
  shown := .cons rfl (.cons rfl .nil)
  valid := validSequence_nil.cons readMessages_unit
  accepts := ⟨rfl, by decide, rfl, by decide, by decide, by decide⟩
  counted := rfl

def readPreparation : Except ContextFailure WorkingContextCandidate :=
  prepareCandidate cuttingComposer letterProvider 0
    ⟨[.message "m1", .message "m2"], [], none, none⟩ [readAsked, readResult] none none [] 100 20

theorem prepareCandidate_prepared_read :
    ∃ candidate, readPreparation = .ok candidate ∧
      ∃ capabilities messages, Prepared letterProvider candidate capabilities messages := by
  have once : (messageIds [.message "m1", .message "m2"]).Nodup := by decide
  have prepares : readPreparation.toBool = true := by decide +kernel
  cases isCandidate : readPreparation with
  | error failure =>
      rw [isCandidate] at prepares
      cases prepares
  | ok candidate => exact ⟨candidate, rfl, prepareCandidate_prepared once isCandidate⟩

theorem fitUnfrozenTools_fitted_read :
    (∃ message, fitUnfrozenTools cuttingComposer letterProvider none readCandidate =
        .error (.contextBudgetExceeded message)) ∨
      ∃ result, fitUnfrozenTools cuttingComposer letterProvider none readCandidate = .ok result ∧
        Fitted cuttingComposer letterProvider none readCandidate result :=
  fitUnfrozenTools_fitted readCandidate_prepared cuttingComposer none

end Shiliu.Assistant.WorkingContext
