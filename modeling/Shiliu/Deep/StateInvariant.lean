/-
Module: Shiliu.Deep.StateInvariant
Purpose: The invariant of a research run. The budgets hold because a call is counted behind its
  check and a batch is reserved from a decision that was checked against the same state; the
  references hold because a result is recorded only when everything it retains is looked up in the
  store, and because a known citation is never given another identity.
Trusted boundary: none
Main exports: Grows, Grounded, Sound, step_sound, step_stable, deep_research_grounded
-/
import Shiliu.Library.Transition
import Shiliu.Deep.RunLoop

set_option linter.all false

namespace Shiliu.Deep

open Shiliu.Library

variable {graph : DeepV2Graph}

/-! ## What applying results can change -/

/-- A citation that is known keeps what it names. -/
def Stable (before after : Research) : Prop :=
  ∀ ref span, before.store.lookup ref = some span →
    ∃ later, after.store.lookup ref = some later ∧ later.identity = span.identity

variable {before after : Research}

theorem Stable.of_same (same : after.store = before.store) :
    Stable before after :=
  fun _ span isSpan => ⟨span, same ▸ isSpan, rfl⟩

theorem Stable.storeRefs (stable : Stable before after) :
    before.storeRefs ⊆ after.storeRefs := by
  intro ref isRef
  obtain ⟨span, isSpan⟩ := Research.mem_storeRefs.mp isRef
  obtain ⟨later, isLater, -⟩ := stable ref span isSpan
  exact Research.mem_storeRefs.mpr ⟨later, isLater⟩

instance : Std.Refl Stable :=
  ⟨fun _ => Stable.of_same rfl⟩

instance : IsTrans Research Stable :=
  ⟨fun first second third one two ref span isSpan => by
    obtain ⟨middle, isMiddle, same⟩ := one ref span isSpan
    obtain ⟨later, isLater, same'⟩ := two ref middle isMiddle
    exact ⟨later, isLater, same'.trans same⟩⟩

/-- What tools and reducers may do to the state: evidence, sources and sound results are added, and
what the controller decided is left alone. -/
structure Grows (before after : Research) : Prop where
  stable : Stable before after
  sources : before.sourceRecordIds ⊆ after.sourceRecordIds
  results : ∀ result ∈ after.queryResults,
    result ∈ before.queryResults ∨ result.retainedEvidenceRefs ⊆ after.storeRefs
  needs : after.needs = before.needs
  controllerCalls : after.controllerCalls = before.controllerCalls
  toolCalls : after.toolCalls = before.toolCalls
  finalRefs : after.finalRefs = before.finalRefs
  finalSourceIds : after.finalSourceIds = before.finalSourceIds

/-- Only records beside the evidence changed. -/
theorem Grows.of_same (store : after.store = before.store)
    (sources : before.sourceRecordIds ⊆ after.sourceRecordIds)
    (results : after.queryResults = before.queryResults) (needs : after.needs = before.needs)
    (controllerCalls : after.controllerCalls = before.controllerCalls)
    (toolCalls : after.toolCalls = before.toolCalls)
    (finalRefs : after.finalRefs = before.finalRefs)
    (finalSourceIds : after.finalSourceIds = before.finalSourceIds) : Grows before after :=
  { stable := Stable.of_same store
    sources := sources
    results := fun _ isResult => Or.inl (results ▸ isResult)
    needs := needs
    controllerCalls := controllerCalls
    toolCalls := toolCalls
    finalRefs := finalRefs
    finalSourceIds := finalSourceIds }

instance : Std.Refl Grows :=
  ⟨fun _ => Grows.of_same rfl (List.Subset.refl _) rfl rfl rfl rfl rfl rfl⟩

instance : IsTrans Research Grows where
  trans first second third one two :=
    { stable := IsTrans.trans _ _ _ one.stable two.stable
      sources := List.Subset.trans one.sources two.sources
      results := fun result isResult => by
        rcases two.results result isResult with old | sound
        · rcases one.results result old with older | sound
          · exact Or.inl older
          · exact Or.inr (List.Subset.trans sound two.stable.storeRefs)
        · exact Or.inr sound
      needs := two.needs.trans one.needs
      controllerCalls := two.controllerCalls.trans one.controllerCalls
      toolCalls := two.toolCalls.trans one.toolCalls
      finalRefs := two.finalRefs.trans one.finalRefs
      finalSourceIds := two.finalSourceIds.trans one.finalSourceIds }

theorem sourceRecordIds_assign (sources : List NavigationSource) (state : Research) :
    state.sourceRecordIds ⊆
      { state with sources := sources.foldl Table.assign state.sources }.sourceRecordIds := by
  induction sources generalizing state with
  | nil => exact List.Subset.refl _
  | cons source rest inductionHypothesis =>
      refine List.Subset.trans ?_
        (inductionHypothesis { state with sources := state.sources.assign source })
      intro id isId
      obtain ⟨old, isOld, rfl⟩ := List.mem_map.mp isId
      by_cases same : old.videoId = source.videoId
      · rw [same]
        exact List.mem_map_of_mem (Table.mem_assign.mpr (Or.inl rfl))
      · exact List.mem_map_of_mem (Table.mem_assign.mpr (Or.inr ⟨isOld, same⟩))

/-! ## The writes of a batch stay within that -/

theorem Grows.assign {state : Research} {span : TranscriptEvidenceSpan}
    (known : ∀ existing, state.store.lookup span.citationId = some existing →
      span.identity = existing.identity) :
    Grows state { state with store := state.store.assign span } where
  stable ref old isOld := by
    by_cases same : ref = span.citationId
    · subst same
      exact ⟨span, Table.lookup_assign_self, known old isOld⟩
    · exact ⟨old, (Table.lookup_assign_of_ne same).trans isOld, rfl⟩
  sources := List.Subset.refl _
  results _ isResult := Or.inl isResult
  needs := rfl
  controllerCalls := rfl
  toolCalls := rfl
  finalRefs := rfl
  finalSourceIds := rfl

theorem registerSpan_within (span : TranscriptEvidenceSpan) : Within Grows (registerSpan span) := by
  apply Within.get_bind
  intro state
  cases found : state.store.lookup span.citationId with
  | none =>
      apply Grows.assign
      intro existing isExisting
      rw [found] at isExisting
      cases isExisting
  | some existing =>
      have isKey : existing.citationId = span.citationId := Table.key_of_lookup found
      by_cases same : existing.identity = span.identity
      · simp only [same, ne_eq, not_true_eq_false, if_false]
        apply Grows.assign
        intro other isOther
        rw [isKey, found] at isOther
        obtain rfl := Option.some.inj isOther
        rfl
      · simp only [ne_eq, same, not_false_eq_true, if_true]
        exact refl state

theorem retainedEvidence_ok {store : Table TranscriptEvidenceSpan.citationId} {refs : List String}
    {evidence : List RetainedEvidence} (found : refs.mapM (retainedEvidence store) = .ok evidence) :
    ∀ ref ∈ refs, ∃ span, store.lookup ref = some span := by
  induction refs generalizing evidence with
  | nil => simp
  | cons ref rest inductionHypothesis =>
      rw [List.mapM_cons] at found
      obtain ⟨first, isFirst, found⟩ := bind_eq_ok.mp found
      obtain ⟨others, isRest, -⟩ := bind_eq_ok.mp found
      refine List.forall_mem_cons.mpr ⟨?_, inductionHypothesis isRest⟩
      unfold retainedEvidence at isFirst
      split at isFirst
      · exact ⟨_, ‹_›⟩
      · cases isFirst

theorem reduceResult_within (action : V2Action) (result : ToolResult) :
    Within Grows (reduceResult graph action result) := by
  apply Within.get_bind
  intro before
  refine Within.bind (Within.modify fun state => ?_) (fun _ => ?_) before
  · exact Grows.of_same rfl (List.Subset.refl _) rfl rfl rfl rfl rfl rfl
  refine Within.bind (Within.forM fun span _ => registerSpan_within span) fun _ => ?_
  refine Within.bind (Within.modify fun state => ?_) fun _ => ?_
  · exact Grows.of_same rfl (sourceRecordIds_assign _ state) rfl rfl rfl rfl rfl rfl
  apply Within.get_bind
  intro state
  cases found : (((result.queryReduction.getD (absentReduction action
      (result.spans.map TranscriptEvidenceSpan.citationId))).retainedEvidenceRefs.eraseDups).mapM
        (retainedEvidence state.store)) with
  | error failure =>
      simp only [orRaise]
      exact refl state
  | ok evidence =>
      simp only [orRaise]
      have inStore := retainedEvidence_ok found
      exact
        { Grows.of_same rfl (List.Subset.refl _) rfl rfl rfl rfl rfl rfl with
          results := fun other isOther => by
            rcases List.mem_append.mp isOther with old | new
            · exact Or.inl old
            · obtain rfl := List.mem_singleton.mp new
              refine Or.inr fun ref isRef => Research.mem_storeRefs.mpr (inStore ref isRef) }

theorem registerBatch_within (results : List ToolResult) :
    Within Grows (registerBatch results) := by
  apply Within.get_bind
  intro before
  refine Within.bind (Within.forM fun result _ => ?_) (fun _ => Within.pure _) before
  split
  · exact Within.forM fun span _ => registerSpan_within span
  · exact Within.pure _

theorem registerResults_within (results : List ToolResult) :
    Within Grows (registerResults results) := by
  unfold registerResults
  split
  · exact registerBatch_within results
  · exact Within.pure _

theorem applyBatchResults_within (actions : List V2Action) (results : List ToolResult)
    (changed : Bool) : Within Grows (applyBatchResults graph actions results changed) := by
  apply Within.get_bind
  intro before
  refine Within.bind (registerResults_within results) (fun results => ?_) before
  refine Within.bind (Within.forM fun entry _ => reduceResult_within entry.1 entry.2) fun _ => ?_
  apply Within.get_bind
  intro state
  exact Grows.of_same rfl (List.Subset.refl _) rfl rfl rfl rfl rfl rfl

theorem orRaise_within {Value : Type} (outcome : Except RunFailure Value) :
    Within Grows (orRaise outcome) := by
  cases outcome with
  | ok value => exact Within.pure value
  | error failure => exact Within.throw failure

theorem reduceResults_within (actions : List V2Action) (results : List ToolResult)
    (deadline : Rat) (answers : BatchAnswers) :
    Within Grows (reduceResults graph actions results deadline answers) := by
  apply Within.get_bind
  intro state
  have settled {Value : Type} (events : List ResearchEvent) (outcome : Except RunFailure Value)
      (next : Value → List ToolResult) :
      Grows state (leaves (do
        set { state with events := events }
        let value ← orRaise outcome
        pure (next value) : Writes (List ToolResult)) state) := by
    have rest : Within Grows (orRaise outcome >>= fun value => (pure (next value) :
        Writes (List ToolResult))) :=
      Within.bind (orRaise_within outcome) fun _ => Within.pure _
    exact IsTrans.trans _ _ _
      (Grows.of_same rfl (List.Subset.refl _) rfl rfl rfl rfl rfl rfl :
        Grows state { state with events := events }) (rest _)
  dsimp only
  split
  · split
    · exact settled _ _ _
    · exact settled _ _ _
  · exact settled _ _ _

theorem executeBatch_within (actions : List V2Action) (tools : Nat → ToolAnswer)
    (answers : BatchAnswers) : Within Grows (executeBatch graph actions tools answers) := by
  apply Within.get_bind
  intro state
  cases strategy : graph.reduceStrategy with
  | b0 => exact reduceResults_within _ _ _ _ state
  | s => exact Within.bind (orRaise_within _) (fun _ => Within.pure _) state

/-! ## The invariant -/

/-- The budgets, and what every reference of the state rests on. -/
structure Grounded (graph : DeepV2Graph) (state : Research) : Prop where
  controllerCalls : state.controllerCalls ≤ graph.budget.maxControllerCalls
  toolCalls : state.toolCalls ≤ graph.budget.maxToolCalls
  results : ∀ result ∈ state.queryResults, result.retainedEvidenceRefs ⊆ state.storeRefs
  needs : ∀ need ∈ state.needs, need.evidenceRefs ⊆ state.storeRefs
  finalRefs : state.finalRefs ⊆ state.retained
  finalSourceIds : state.finalSourceIds ⊆ state.sourceRecordIds

/-- No final decision has been written. -/
structure Undecided (state : Research) : Prop where
  finalRefs : state.finalRefs = []
  finalSourceIds : state.finalSourceIds = []

/-- What holds where the loop stands: a decision behind the attempts was checked against this very
state, and nothing is final before the loop is left. -/
def PhaseSound (graph : DeepV2Graph) (state : Research) : Phase → Prop
  | .head | .executing _ _ | .applying _ _ _ => Undecided state
  | .attempting _ error decision => Undecided state ∧ (error = none → decision = none)
  | .concluded error decision =>
      Undecided state ∧
        ∀ decided, error = none → decision = some decided → Vetted graph decided state
  | .finishing | .finished | .raised _ => True

structure Sound (graph : DeepV2Graph) (run : DeepRun) : Prop where
  grounded : Grounded graph run.state
  phase : PhaseSound graph run.state run.phase

theorem Grounded.retained_subset {state : Research} (grounded : Grounded graph state) :
    state.retained ⊆ state.storeRefs := by
  unfold Research.retained
  split
  · exact List.Subset.refl _
  · intro ref isRef
    obtain ⟨result, isResult, isRetained⟩ := List.mem_flatMap.mp isRef
    exact grounded.results result isResult isRetained

theorem Undecided.grows (undecided : Undecided before) (grows : Grows before after) :
    Undecided after :=
  ⟨grows.finalRefs.trans undecided.finalRefs, grows.finalSourceIds.trans undecided.finalSourceIds⟩

theorem Grounded.grows (grounded : Grounded graph before) (undecided : Undecided before)
    (grows : Grows before after) : Grounded graph after where
  controllerCalls := grows.controllerCalls ▸ grounded.controllerCalls
  toolCalls := grows.toolCalls ▸ grounded.toolCalls
  results result isResult := by
    rcases grows.results result isResult with old | sound
    · exact List.Subset.trans (grounded.results result old) grows.stable.storeRefs
    · exact sound
  needs need isNeed :=
    List.Subset.trans (grounded.needs need (grows.needs ▸ isNeed)) grows.stable.storeRefs
  finalRefs := (undecided.grows grows).finalRefs ▸ List.nil_subset _
  finalSourceIds := (undecided.grows grows).finalSourceIds ▸ List.nil_subset _

theorem begin_sound (query : String) (evidenceSpans : List TranscriptEvidenceSpan)
    (searchDeadline totalDeadline : Rat) :
    Sound graph (begin query evidenceSpans searchDeadline totalDeadline) where
  grounded :=
    { controllerCalls := Nat.zero_le _
      toolCalls := Nat.zero_le _
      results := by simp [begin, Research.initial]
      needs := fun need isNeed => absurd isNeed (Table.not_mem_empty need)
      finalRefs := List.nil_subset _
      finalSourceIds := List.nil_subset _ }
  phase := ⟨rfl, rfl⟩

/-! ## One step -/

section Step

variable {run : DeepRun}

variable {state : Research}

theorem nextAttempt_sound (undecided : Undecided state) (attempt : Nat) (error : String)
    (decision : Option V2Decision) :
    PhaseSound graph state (nextAttempt attempt error decision) := by
  unfold nextAttempt
  split
  · exact ⟨undecided, nofun⟩
  · exact ⟨undecided, fun _ noError => nomatch noError⟩

theorem stepAttempt_sound (grounded : Grounded graph state) (undecided : Undecided state)
    (open_ : state.controllerCalls < graph.budget.maxControllerCalls) (attempt : Nat)
    (error : Option String) (decision : Option V2Decision) (answer : ControllerAnswer) :
    Sound graph (stepAttempt graph state attempt error decision answer) := by
  have counted : Grounded graph { state with controllerCalls := state.controllerCalls + 1 } :=
    { grounded with controllerCalls := open_ }
  unfold stepAttempt
  cases attempted : controllerAttempt graph
      { state with controllerCalls := state.controllerCalls + 1 } error answer with
  | mk events outcome =>
      simp only [attempted]
      cases outcome with
      | accepted accepted =>
          have vetted := controllerAttempt_accepted attempted
          refine ⟨{ counted with }, ⟨undecided.finalRefs, undecided.finalSourceIds⟩, ?_⟩
          rintro decided - isDecided
          obtain rfl := Option.some.inj isDecided
          exact { vetted with }
      | refused text refused =>
          refine ⟨{ counted with }, ?_⟩
          apply nextAttempt_sound
          exact ⟨undecided.finalRefs, undecided.finalSourceIds⟩
      | failed failure =>
          dsimp only
          split
          · exact ⟨{ counted with }, ⟨undecided.finalRefs, undecided.finalSourceIds⟩,
              fun _ noError => nomatch noError⟩
          · split
            · exact ⟨{ counted with }, ⟨undecided.finalRefs, undecided.finalSourceIds⟩,
                fun _ noError => nomatch noError⟩
            · refine ⟨{ counted with }, ?_⟩
              apply nextAttempt_sound
              exact ⟨undecided.finalRefs, undecided.finalSourceIds⟩

theorem Grounded.update (grounded : Grounded graph state) {decision : V2Decision}
    (vetted : Vetted graph decision state) :
    ∀ need ∈ (updateNeeds decision state.needs).1, need.evidenceRefs ⊆ state.storeRefs := by
  intro need isNeed
  rcases mem_updateNeeds isNeed with old | new
  · exact grounded.needs need old
  · exact List.Subset.trans (vetted.needs need new) grounded.retained_subset

theorem stepConcluded_sound (grounded : Grounded graph state) (undecided : Undecided state)
    {error : Option String} {decision : Option V2Decision}
    (vetted : ∀ decided, error = none → decision = some decided → Vetted graph decided state)
    (now later : Rat) (cancelled : Bool) :
    Sound graph (stepConcluded state error decision now later cancelled) := by
  unfold stepConcluded
  split
  · rename_i decided
    have vetted := vetted decided rfl rfl
    have needs := grounded.update vetted
    dsimp only
    split
    · rename_i isFinish
      exact ⟨{ grounded with
          needs := needs
          finalRefs := vetted.answer isFinish
          finalSourceIds := vetted.sources isFinish }, trivial⟩
    · rename_i isContinue
      split
      · exact ⟨{ grounded with needs := needs }, trivial⟩
      · exact ⟨{ grounded with
            needs := needs
            toolCalls := vetted.budget isContinue }, undecided.finalRefs, undecided.finalSourceIds⟩
  · exact ⟨{ grounded with }, trivial⟩

theorem step_executing_sound (grounded : Grounded graph state) (undecided : Undecided state)
    (decision : V2Decision) (changed : Bool) (tools : Nat → ToolAnswer) (answers : BatchAnswers)
    (cancelled : Bool) :
    Sound graph (step graph ⟨state, .executing decision changed⟩
      (.batch tools answers cancelled)) := by
  have grows : Grows state (leaves (executeBatch graph decision.actions tools answers) state) :=
    executeBatch_within _ _ _ state
  simp only [step]
  cases executed : executeBatch graph decision.actions tools answers state with
  | error failure after =>
      simp only [leaves, executed] at grows
      exact ⟨grounded.grows undecided grows, trivial⟩
  | ok results after =>
      simp only [leaves, executed] at grows
      have reached := grounded.grows undecided grows
      dsimp only
      split
      · exact ⟨{ reached with }, trivial⟩
      · exact ⟨reached, undecided.grows grows⟩

theorem step_applying_sound (grounded : Grounded graph state) (undecided : Undecided state)
    (decision : V2Decision) (changed : Bool) (results : List ToolResult) (answer : Answer) :
    Sound graph (step graph ⟨state, .applying decision changed results⟩ answer) := by
  have grows : Grows state
      (leaves (applyBatchResults graph decision.actions results changed) state) :=
    applyBatchResults_within _ _ _ state
  simp only [step]
  cases applied : applyBatchResults graph decision.actions results changed state with
  | error failure after =>
      simp only [leaves, applied] at grows
      exact ⟨grounded.grows undecided grows, trivial⟩
  | ok noProgress after =>
      simp only [leaves, applied] at grows
      have reached := grounded.grows undecided grows
      dsimp only
      split
      · exact ⟨{ reached with }, trivial⟩
      · exact ⟨reached, undecided.grows grows⟩

theorem step_sound (sound : Sound graph run) (answer : Answer) :
    Sound graph (step graph run answer) := by
  obtain ⟨state, phase⟩ := run
  obtain ⟨grounded, phaseSound⟩ := sound
  cases phase with
  | head =>
      cases answer with
      | reading now later cancelled =>
          simp only [step]
          split
          · split
            · exact ⟨{ grounded with }, trivial⟩
            · exact ⟨grounded, phaseSound, fun _ => rfl⟩
          · exact ⟨grounded, trivial⟩
      | _ => exact ⟨grounded, phaseSound⟩
  | attempting attempt error decision =>
      cases answer with
      | controller now answer =>
          simp only [step]
          split
          · refine ⟨grounded, phaseSound.1, fun decided noError isDecided => ?_⟩
            rw [phaseSound.2 noError] at isDecided
            cases isDecided
          · rename_i open_
            refine stepAttempt_sound grounded phaseSound.1 ?_ attempt error decision answer
            exact Nat.lt_of_not_le fun full => open_ (Or.inr full)
      | _ => exact ⟨grounded, phaseSound⟩
  | concluded error decision =>
      cases answer with
      | reading now later cancelled =>
          exact stepConcluded_sound grounded phaseSound.1 phaseSound.2 now later cancelled
      | _ => exact ⟨grounded, phaseSound⟩
  | executing decision changed =>
      cases answer with
      | batch tools answers cancelled =>
          exact step_executing_sound grounded phaseSound decision changed tools answers cancelled
      | _ => exact ⟨grounded, phaseSound⟩
  | applying decision changed results =>
      exact step_applying_sound grounded phaseSound decision changed results answer
  | finishing =>
      cases answer with
      | reading now later cancelled => exact ⟨{ grounded with }, trivial⟩
      | _ => exact ⟨grounded, trivial⟩
  | finished => exact ⟨grounded, trivial⟩
  | raised failure => exact ⟨grounded, trivial⟩

/-! ## Citations over a run -/

theorem stepAttempt_store (attempt : Nat) (error : Option String) (decision : Option V2Decision)
    (answer : ControllerAnswer) :
    (stepAttempt graph state attempt error decision answer).state.store = state.store := by
  unfold stepAttempt
  dsimp only
  split
  · rfl
  · rfl
  · split
    · rfl
    · split <;> rfl

theorem stepConcluded_store (error : Option String) (decision : Option V2Decision) (now later : Rat)
    (cancelled : Bool) :
    (stepConcluded state error decision now later cancelled).state.store = state.store := by
  unfold stepConcluded
  split
  · dsimp only
    split
    · rfl
    · split <;> rfl
  · rfl

/-- No step gives a known citation another identity. -/
theorem step_stable (run : DeepRun) (answer : Answer) :
    Stable run.state (step graph run answer).state := by
  obtain ⟨state, phase⟩ := run
  have unchanged {after : DeepRun} (same : after.state.store = state.store) :
      Stable state after.state := Stable.of_same same
  cases phase with
  | head =>
      cases answer with
      | reading now later cancelled =>
          refine unchanged ?_
          simp only [step]
          split
          · split <;> rfl
          · rfl
      | _ => exact unchanged rfl
  | attempting attempt error decision =>
      cases answer with
      | controller now answer =>
          refine unchanged ?_
          simp only [step]
          split
          · rfl
          · exact stepAttempt_store attempt error decision answer
      | _ => exact unchanged rfl
  | concluded error decision =>
      cases answer with
      | reading now later cancelled =>
          exact unchanged (stepConcluded_store error decision now later cancelled)
      | _ => exact unchanged rfl
  | executing decision changed =>
      cases answer with
      | batch tools answers cancelled =>
          have grows : Grows state
              (leaves (executeBatch graph decision.actions tools answers) state) :=
            executeBatch_within _ _ _ state
          simp only [step]
          cases executed : executeBatch graph decision.actions tools answers state with
          | error failure after =>
              simp only [leaves, executed] at grows
              exact grows.stable
          | ok results after =>
              simp only [leaves, executed] at grows
              dsimp only
              split <;> exact grows.stable
      | _ => exact unchanged rfl
  | applying decision changed results =>
      have grows : Grows state
          (leaves (applyBatchResults graph decision.actions results changed) state) :=
        applyBatchResults_within _ _ _ state
      simp only [step]
      cases applied : applyBatchResults graph decision.actions results changed state with
      | error failure after =>
          simp only [leaves, applied] at grows
          exact grows.stable
      | ok noProgress after =>
          simp only [leaves, applied] at grows
          dsimp only
          split <;> exact grows.stable
  | finishing =>
      cases answer with
      | reading now later cancelled => exact unchanged rfl
      | _ => exact unchanged rfl
  | finished => exact unchanged rfl
  | raised failure => exact unchanged rfl

end Step

theorem Sound.run {start : DeepRun} (sound : Sound graph start) (answers : List Answer) :
    Sound graph (runFrom (step graph) start answers) := by
  have kept : ∀ (run : DeepRun) answer, Sound graph run → Sound graph (step graph run answer) :=
    fun _ answer sound => step_sound sound answer
  exact invariant_run kept sound answers

theorem Stable.run (start : DeepRun) (answers : List Answer) :
    Stable start.state (runFrom (step graph) start answers).state := by
  have kept : ∀ (run : DeepRun) answer, Stable start.state run.state →
      Stable start.state (step graph run answer).state :=
    fun run answer stable => IsTrans.trans _ _ _ stable (step_stable run answer)
  exact invariant_run kept (refl start.state) answers

/-! ## Main result -/

/-- In every run of the loop, after any list of answers: no budget is exceeded; what a query result
retains and what a need rests on is in the store; the final references were retained by a query, or
are in the store while no query has run; the final sources are recorded; and whatever comes next,
a citation in the store keeps its artifact, version, timeline, segments and quote. -/
theorem deep_research_grounded (graph : DeepV2Graph) (query : String)
    (evidenceSpans : List TranscriptEvidenceSpan) (searchDeadline totalDeadline : Rat)
    (answers : List Answer) :
    let run := runFrom (step graph) (begin query evidenceSpans searchDeadline totalDeadline) answers
    run.state.controllerCalls ≤ graph.budget.maxControllerCalls ∧
      run.state.toolCalls ≤ graph.budget.maxToolCalls ∧
      (∀ result ∈ run.state.queryResults,
        result.retainedEvidenceRefs ⊆ run.state.storeRefs) ∧
      (∀ need ∈ run.state.needs, need.evidenceRefs ⊆ run.state.storeRefs) ∧
      (∀ ref ∈ run.state.finalRefs,
        (∃ result ∈ run.state.queryResults, ref ∈ result.retainedEvidenceRefs) ∨
          (run.state.queryResults = [] ∧ ref ∈ run.state.storeRefs)) ∧
      (∀ sourceId ∈ run.state.finalSourceIds,
        ∃ source ∈ run.state.sources, sourceId = navigationSourceId source.videoId) ∧
      ∀ later : List Answer, ∀ ref span, run.state.store.lookup ref = some span →
        ∃ span', (runFrom (step graph) run later).state.store.lookup ref = some span' ∧
          span'.identity = span.identity := by
  intro run
  have start : Sound graph (begin query evidenceSpans searchDeadline totalDeadline) :=
    begin_sound query evidenceSpans searchDeadline totalDeadline
  have grounded : Grounded graph run.state := (start.run answers).grounded
  refine ⟨grounded.controllerCalls, grounded.toolCalls, grounded.results, grounded.needs,
    ?_, ?_, ?_⟩
  · intro ref isFinal
    have isRetained := grounded.finalRefs isFinal
    unfold Research.retained at isRetained
    split at isRetained
    · exact Or.inr ⟨List.isEmpty_iff.mp ‹_›, isRetained⟩
    · exact Or.inl (List.mem_flatMap.mp isRetained)
  · intro sourceId isFinal
    obtain ⟨source, isSource, same⟩ := List.mem_map.mp (grounded.finalSourceIds isFinal)
    exact ⟨source, isSource, same.symm⟩
  · intro later ref span isSpan
    exact Stable.run run later ref span isSpan

/-! ## A run on inherited evidence -/

/-- Rules under which every text fits and no text is blank. -/
def plainRules : DeepRules where
  isBlank _ := false
  listText := String.join
  filterRequest _ := none
  normalizedQuery := id
  keyText _ _ := ""
  controllerChars _ _ := 0
  queryReduceChars _ _ _ := 0
  compactChars _ _ := 0
  sharedInputChars _ _ _ := 0
  identText _ := ""
  displayChars _ := 0

def inheritedSpan : TranscriptEvidenceSpan where
  citationId := "cite-1"
  videoId := 7
  title := "t"
  sourceArtifactId := "artifact"
  sourceVersion := "v1"
  timelineRunId := "timeline"
  segmentIds := ["s1"]
  startTime := 0
  endTime := 1
  quoteText := "quote"
  parentChunkIds := []
  retrievalProvenance := []

/-- The controller finishes at once on the evidence it inherits. -/
def finishAtOnce : V2Decision where
  type := .finish
  needUpdates := []
  actions := []
  outcome := some .sufficient
  answerEvidenceRefs := ["cite-1"]
  answerSourceIds := []
  unresolvedItems := []
  continues := by decide
  finishes := by decide

/-- A decision made before any query has run may rest on inherited evidence, which no query result
retains. -/
theorem inherited_refs_unretained :
    let run := runFrom (step ⟨defaultBudget, .s, plainRules⟩) (begin "q" [inheritedSpan] 180 240)
      [.reading 0 0 false, .controller 0 (.decided finishAtOnce), .reading 0 0 false]
    ¬ ∀ ref ∈ run.state.finalRefs, ∃ result ∈ run.state.queryResults,
      ref ∈ result.retainedEvidenceRefs := by
  decide

end Shiliu.Deep
