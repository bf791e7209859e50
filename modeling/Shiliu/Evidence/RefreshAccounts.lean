/-
Module: Shiliu.Evidence.RefreshAccounts
Purpose: What a run of the targeted refresh accounts for, and when it returns. The callback is called
  within the budget and for open aspects only, in every run. What the callback returned reaches the
  result when the round that asked was complete; a round that is cut short drops it.
Trusted boundary: none
Main exports: CallsWithin, AccountsForCalls, KeepsAnswers, refresh_accounts_iff, refresh_returns_iff
-/
import Shiliu.Evidence.RefreshRuns

set_option linter.all false

namespace Shiliu.Evidence

open Shiliu.Library

/-! ## Accounting -/

/-- The answer to a call. -/
def RefreshCall.answer (refresh : RefreshCallback) (call : RefreshCall) : RefreshObservation :=
  refresh call.aspectId call.query call.roundNumber

/-- The calls of a run are for aspects that are open then, no two are the same, and the budget allows
them. -/
structure CallsWithin (envelope : ContinuationEnvelope) (run : RefreshRun) : Prop where
  opened : ∀ call ∈ run.calls, call.aspectId ∈ call.current.openAspects
  once : (run.calls.map fun call => (call.aspectId, call.query)).Nodup
  bounded : run.calls.length ≤ envelope.budget.remainingToolCalls

/-- A result accounts for the calls: each was taken from the budget, and what it returned is there. -/
structure AccountsForCalls (envelope : ContinuationEnvelope) (refresh : RefreshCallback)
    (run : RefreshRun) (result : ContinuationExecutionResult) : Prop where
  remaining : result.envelope.budget.remainingToolCalls + run.calls.length =
    envelope.budget.remainingToolCalls
  searches : ∀ call ∈ run.calls, (call.answer refresh).searchExecutions ⊆ result.searchExecutions
  contributions : ∀ call ∈ run.calls, ∀ reference ∈ (call.answer refresh).authorityReferences,
    eligible reference → reference.referenceId ∈
      result.contributions.map EvidenceContribution.referenceId

section Run

variable (digests : ContinuationDigests) (decision : EvidenceDecision)
  (envelope : ContinuationEnvelope) (refresh : RefreshCallback) (clock : RefreshClock)

/-- What a result has to keep of the answers. -/
def AnswersKept (searchExecutions : List SearchExecutionReference) (contributed : String → Prop) :
    Prop :=
  ∀ answer ∈ answers decision envelope refresh clock, answer.searchExecutions ⊆ searchExecutions ∧
    ∀ reference ∈ answer.authorityReferences, eligible reference → contributed reference.referenceId

/-- In a complete round, every eligible reference is one that was not known, or its id has a
contribution already or was dropped. A round that is cut short was told nothing that was not there. -/
def KeepsAnswers : Prop :=
  if Complete decision envelope refresh clock then
    AnswersKept decision envelope refresh clock
      (envelope.searchExecutions ++
        (answers decision envelope refresh clock).flatMap RefreshObservation.searchExecutions)
      (Contributed (allReferences decision.fields) decision.fields.contributions
        ((answers decision envelope refresh clock).flatMap RefreshObservation.droppedReferenceIds)
        ((answers decision envelope refresh clock).flatMap RefreshObservation.authorityReferences))
  else
    AnswersKept decision envelope refresh clock envelope.searchExecutions
      (· ∈ decision.fields.contributions.map EvidenceContribution.referenceId)

variable {digests decision envelope refresh clock}

variable {run : RefreshRun} {result : ContinuationExecutionResult} {state : Refreshing}

theorem callsWithin_of_asked (stands : DecisionStands decision)
    (calls : run.calls = (askedAspects decision envelope refresh clock).map
      (callFor decision.fields.requirements decision (firstRound envelope))) :
    CallsWithin envelope run := by
  have asked : askedAspects decision envelope refresh clock <+: decision.openAspects ∧
      (askedAspects decision envelope refresh clock).length ≤
        envelope.budget.remainingToolCalls := by
    rw [askedAspects]
    split
    · exact ⟨askedOf_isPrefix _ _, askedOf_length _ _⟩
    · exact ⟨List.nil_prefix, Nat.zero_le _⟩
  constructor
  · intro call member
    rw [calls] at member
    obtain ⟨aspectId, isAsked, rfl⟩ := List.mem_map.mp member
    exact asked.1.subset isAsked
  · have nodup := stands.open_once.sublist asked.1.sublist
    rw [calls, List.map_map]
    exact nodup.map_on fun _ _ _ _ same => (Prod.mk.inj same).1
  · rw [calls, List.length_map]
    exact asked.2

theorem accounts_iff (within : CallsWithin envelope run)
    (calls : run.calls = (askedAspects decision envelope refresh clock).map
      (callFor decision.fields.requirements decision (firstRound envelope)))
    (remaining : result.envelope.budget.remainingToolCalls =
      envelope.budget.remainingToolCalls - run.calls.length) :
    AccountsForCalls envelope refresh run result ↔
      AnswersKept decision envelope refresh clock result.searchExecutions
        (· ∈ result.contributions.map EvidenceContribution.referenceId) := by
  have answered (property : RefreshObservation → Prop) :
      (∀ call ∈ run.calls, property (call.answer refresh)) ↔
        ∀ answer ∈ answers decision envelope refresh clock, property answer := by
    rw [calls, answers, List.forall_mem_map, List.forall_mem_map]
    rfl
  constructor
  · intro accounts
    exact (answered _).mp fun call member =>
      ⟨accounts.searches call member, accounts.contributions call member⟩
  · intro kept
    have keeps := (answered _).mpr kept
    have enough := within.bounded
    exact ⟨by omega, fun call member => (keeps call member).1, fun call member => (keeps call member).2⟩

/-- The contributions are the same without repetition. -/
theorem mem_distinct_contributions {contributions : List EvidenceContribution} {referenceId : String} :
    referenceId ∈ (distinct contributions).map EvidenceContribution.referenceId ↔
      referenceId ∈ contributions.map EvidenceContribution.referenceId := by
  simp only [List.mem_map, mem_distinct]

/-! ## Results -/

theorem terminalResult_ok {reason : ContinuationStopReason}
    (isResult : terminalResult digests decision envelope reason = .ok result) :
    result.envelope.budget = envelope.budget ∧
      verifyEnvelope digests result.envelope = .ok () := by
  obtain ⟨updated, isSealed, result⟩ := bind_eq_ok.mp isResult
  cases pure_eq_ok.mp result
  have budget := congrArg EnvelopeFields.budget (sealEnvelope_ok isSealed).1
  exact ⟨budget, verify_of_sealed isSealed⟩

theorem finishedResult_ok (isResult : finishedResult digests envelope state = .ok result) :
    result.envelope.budget.remainingToolCalls = state.asking.remainingTools ∧
      result.searchExecutions = state.merging.searchRefs ∧
      result.contributions = distinct state.merging.contributions ∧
      verifyEnvelope digests result.envelope = .ok () := by
  obtain ⟨updated, isSealed, result⟩ := bind_eq_ok.mp isResult
  cases pure_eq_ok.mp result
  have budget := congrArg EnvelopeFields.budget (sealEnvelope_ok isSealed).1
  exact ⟨congrArg ContinuationBudgetState.remainingToolCalls budget, rfl, rfl,
    verify_of_sealed isSealed⟩

/-! ## Returning -/

theorem continued_valid (stands : DecisionStands decision)
    {searches : List SearchExecutionReference} {budget : ContinuationBudgetState}
    {failure : ContinuationFailureState} {stop : ContinuationStopReason}
    (budgeted : budget.refreshRoundsCompleted ≤ maxRefreshRounds ∧ budget.remainingToolCalls ≤ 64)
    (sideEffect : envelope.sideEffectState = .unknown →
      failure = .unknownSideEffect ∨ failure = .interrupted) :
    ((envelope.continued searches budget failure stop).fields decision).Valid ↔
      searches.length ≤ 64 := by
  refine ⟨fun valid => valid.searches, fun few => ?_⟩
  have declared : ((envelope.continued searches budget failure stop).fields decision).requirementIds =
      decision.fields.requirements.map EvidenceRequirement.aspectId := by
    simp [EnvelopeFields.requirementIds, EnvelopeRequest.fields]
  have covered : decision.coveredAspects ⊆
      decision.fields.requirements.map EvidenceRequirement.aspectId := by
    intro aspectId isCovered
    obtain ⟨item, isItem, rfl, -⟩ := (stands.mem_covered aspectId).mp isCovered
    exact (stands.same_aspects _).mp (List.mem_map_of_mem isItem)
  have opened : decision.openAspects ⊆
      decision.fields.requirements.map EvidenceRequirement.aspectId := by
    intro aspectId isOpen
    obtain ⟨item, isItem, rfl, -⟩ := (stands.mem_open aspectId).mp isOpen
    exact (stands.same_aspects _).mp (List.mem_map_of_mem isItem)
  have few_of {aspects : List String} (once : aspects.Nodup) (required : aspects ⊆
      decision.fields.requirements.map EvidenceRequirement.aspectId) : aspects.length ≤ 24 := by
    have bounded := (List.subperm_of_subset once required).length_le
    rw [List.length_map] at bounded
    exact bounded.trans stands.requirements.2
  exact {
    requirements := by
      have nonempty := stands.requirements
      simpa [EnvelopeRequest.fields, maxRequirements] using nonempty
    aspects := ⟨few_of stands.covered_once covered, few_of stands.open_once opened⟩
    inherited := envelope.valid.inherited
    searches := few
    reasons := (reasons_length stands.reasons_once).trans (by decide)
    budget := budgeted
    declared := by
      rw [declared]
      exact ⟨covered, opened⟩
    disjoint := by
      intro aspectId isCovered isOpen
      obtain ⟨item, isItem, rfl, good⟩ := (stands.mem_covered aspectId).mp isCovered
      obtain ⟨other, isOther, same, bad⟩ := (stands.mem_open _).mp isOpen
      exact bad (List.inj_on_of_nodup_map stands.coverage_unique isOther isItem same ▸ good)
    sideEffect := sideEffect }

theorem terminalResult_returns (stands : DecisionStands decision) (reason : ContinuationStopReason) :
    ∃ result, terminalResult digests decision envelope reason = .ok result := by
  have valid := (@continued_valid _ _ stands _ _ _ reason envelope.valid.budget
    envelope.valid.sideEffect).mpr envelope.valid.searches
  obtain ⟨updated, isSealed⟩ := (@sealEnvelope_valid digests _).mpr valid
  exact ⟨_, bind_eq_ok.mpr ⟨updated, isSealed, rfl⟩⟩

theorem finishedResult_returns (stands : DecisionStands state.current)
    (noEffect : envelope.sideEffectState ≠ .unknown)
    (remaining : state.asking.remainingTools ≤ envelope.budget.remainingToolCalls) :
    (∃ result, finishedResult digests envelope state = .ok result) ↔
      state.merging.searchRefs.length ≤ 64 := by
  let budget : ContinuationBudgetState :=
    { refreshRoundsCompleted :=
        min (envelope.budget.refreshRoundsCompleted + state.rounds.length) maxRefreshRounds
      remainingToolCalls := state.asking.remainingTools
      deadlineAt := envelope.budget.deadlineAt }
  have valid := @continued_valid state.current envelope stands state.merging.searchRefs budget
    state.failure state.stop
    ⟨Nat.min_le_right _ _, remaining.trans envelope.valid.budget.2⟩ fun unknown => absurd unknown noEffect
  rw [← valid, ← @sealEnvelope_valid digests]
  constructor
  · rintro ⟨result, isResult⟩
    obtain ⟨updated, isSealed, -⟩ := bind_eq_ok.mp isResult
    exact ⟨updated, isSealed⟩
  · rintro ⟨updated, isSealed⟩
    exact ⟨_, bind_eq_ok.mpr ⟨updated, isSealed, rfl⟩⟩

/-- A run returns a result, and its envelope is parsed back. -/
def Returns (digests : ContinuationDigests) (run : RefreshRun) : Prop :=
  ∃ result, run.outcome = .ok result ∧
    parseContinuationEnvelope digests result.envelope.toEnvelopeDocument = .ok result.envelope

/-- What a complete round was answered can be put into a decision and an envelope. -/
structure AnswersFit (decision : EvidenceDecision) (envelope : ContinuationEnvelope)
    (refresh : RefreshCallback) (clock : RefreshClock) : Prop where
  named : ∀ answer ∈ answers decision envelope refresh clock, DropsNamed answer
  searches : (envelope.searchExecutions ++
    (answers decision envelope refresh clock).flatMap RefreshObservation.searchExecutions).length ≤ 64
  decides :
    Drifts (allReferences decision.fields)
        ((answers decision envelope refresh clock).flatMap RefreshObservation.authorityReferences) ∨
      MayDecide decision (clock.roundRecorded (firstRound envelope)) (decision.fields.conflicts ++
        (answers decision envelope refresh clock).flatMap RefreshObservation.conflicts)

theorem semanticAdvice_of_verified {digests : DecisionDigests}
    (verified : verifyIntegrity digests decision = .ok ()) :
    decision.fields.semanticAdvice.length ≤ maxSemanticAdvice := by
  obtain ⟨value, isInput, -⟩ := bind_eq_ok.mp verified
  exact (evidenceDecisionInput_ok.mp ⟨value, isInput⟩).semanticAdvice

theorem settles_iff (stands : DecisionStands decision)
    (advice : decision.fields.semanticAdvice.length ≤ maxSemanticAdvice)
    (foreign : NoSelfParent digests decision.decisionId)
    {merged : Merging} (isMerged : mergeAnswers decision envelope refresh clock = .ok merged)
    (merges : MergedAll (mergeStart decision envelope) (answers decision envelope refresh clock) merged) :
    Settles digests decision envelope refresh clock merged ↔
      Drifts (allReferences decision.fields)
          ((answers decision envelope refresh clock).flatMap RefreshObservation.authorityReferences) ∨
        MayDecide decision (clock.roundRecorded (firstRound envelope)) (decision.fields.conflicts ++
          (answers decision envelope refresh clock).flatMap RefreshObservation.conflicts) := by
  have conflicts : merged.conflicts = decision.fields.conflicts ++
      (answers decision envelope refresh clock).flatMap RefreshObservation.conflicts :=
    merges.conflicts
  rw [Settles, merges.merged.drift, childDecision_ok stands advice merges.aspects foreign, conflicts]
  exact ⟨fun settles => settles.2, fun fits => ⟨isMerged, fits⟩⟩

/-! ## Runs -/

/-- In every run the calls are within the budget, and a result accounts for them exactly when it keeps
what was answered. -/
theorem refresh_accounts_iff
    (verified : verifyIntegrity digests.toDecisionDigests decision = .ok ())
    (bound : validateParentBinding digests decision envelope = .ok ()) :
    CallsWithin envelope (runTargetedRefresh digests decision envelope refresh clock) ∧
      ∀ result, (runTargetedRefresh digests decision envelope refresh clock).outcome = .ok result →
        (AccountsForCalls envelope refresh
            (runTargetedRefresh digests decision envelope refresh clock) result ↔
          KeepsAnswers decision envelope refresh clock) := by
  have stands := DecisionStands.of_verified verified
  obtain ⟨calls, ends⟩ := @run_cases digests decision envelope refresh clock stands bound
  have within := callsWithin_of_asked stands calls
  refine ⟨within, fun result isResult => ?_⟩
  have count : (runTargetedRefresh digests decision envelope refresh clock).calls.length =
      (askedAspects decision envelope refresh clock).length := by rw [calls, List.length_map]
  rcases ends with ⟨closed, reason, isTerminal⟩ | ⟨-, state, settled, isFinished⟩ |
    ⟨⟨failure, raised⟩, -⟩
  · -- nothing was asked
    have none_asked : askedAspects decision envelope refresh clock = [] := if_neg closed
    have none_answered : answers decision envelope refresh clock = [] := by
      rw [answers, none_asked, List.map_nil]
    rw [isTerminal] at isResult
    obtain ⟨budget, -⟩ := terminalResult_ok isResult
    rw [accounts_iff within calls (by simp [budget, count, none_asked]), KeepsAnswers,
      if_neg fun complete => closed complete.1]
    simp [AnswersKept, none_answered]
  · rw [isFinished] at isResult
    obtain ⟨remaining, searches, contributions, -⟩ := finishedResult_ok isResult
    rw [accounts_iff within calls (by rw [remaining, settled.remaining, count]), searches,
      contributions, KeepsAnswers]
    simp only [AnswersKept, mem_distinct_contributions]
    split
    next complete =>
        obtain ⟨merged, ⟨isMerged, -⟩, same⟩ := settled.complete complete
        rcases mergeAnswers_cases stands complete with
          ⟨-, other, isOther, merges⟩ | ⟨-, failure, raised⟩
        · cases isMerged.symm.trans isOther
          rw [same, merges.searchRefs]
          simp only [merges.merged.contributed]
          rfl
        · cases isMerged.symm.trans raised
    next cut =>
        obtain ⟨searchRefs, contributions⟩ := settled.cut cut
        rw [searchRefs, contributions]
  · cases raised.symm.trans isResult

/-- A run returns exactly when its round is cut short, or what it was answered fits. -/
theorem refresh_returns_iff
    (verified : verifyIntegrity digests.toDecisionDigests decision = .ok ())
    (bound : validateParentBinding digests decision envelope = .ok ())
    (asked : ∀ aspectId query roundNumber, (refresh aspectId query roundNumber).aspectId = aspectId)
    (foreign : NoSelfParent digests decision.decisionId) :
    Returns digests (runTargetedRefresh digests decision envelope refresh clock) ↔
      (Complete decision envelope refresh clock → AnswersFit decision envelope refresh clock) := by
  have stands := DecisionStands.of_verified verified
  have advice := semanticAdvice_of_verified verified
  obtain ⟨-, ends⟩ := @run_cases digests decision envelope refresh clock stands bound
  rcases ends with ⟨closed, reason, isTerminal⟩ | ⟨noEffect, state, settled, isFinished⟩ |
    ⟨⟨failure, raised⟩, escaped | ⟨complete, unsettled⟩⟩
  · refine iff_of_true ?_ fun complete => absurd complete.1 closed
    obtain ⟨result, isResult⟩ := @terminalResult_returns digests decision envelope stands reason
    exact ⟨result, isTerminal.trans isResult, parse_document.mpr (terminalResult_ok isResult).2⟩
  · have remaining : state.asking.remainingTools ≤ envelope.budget.remainingToolCalls :=
      settled.remaining.trans_le (Nat.sub_le _ _)
    have returns : Returns digests (runTargetedRefresh digests decision envelope refresh clock) ↔
        state.merging.searchRefs.length ≤ 64 := by
      rw [← @finishedResult_returns digests _ _ settled.stands noEffect remaining, Returns,
        isFinished]
      refine exists_congr fun result => and_iff_left_of_imp fun isResult => ?_
      exact parse_document.mpr (finishedResult_ok isResult).2.2.2
    rw [returns]
    by_cases complete : Complete decision envelope refresh clock
    · obtain ⟨merged, settles, same⟩ := settled.complete complete
      rcases mergeAnswers_cases stands complete with
        ⟨named, other, isOther, merges⟩ | ⟨-, failure, raised⟩
      · cases settles.1.symm.trans isOther
        have decides := (settles_iff stands advice foreign settles.1 merges).mp settles
        rw [same, merges.searchRefs]
        exact ⟨fun few _ => ⟨named, few, decides⟩, fun fits => (fits complete).searches⟩
      · cases settles.1.symm.trans raised
    · refine iff_of_true ?_ fun whole => absurd whole complete
      rw [(settled.cut complete).1]
      exact envelope.valid.searches
  · obtain ⟨aspectId, -, other⟩ := escaped
    exact absurd (asked _ _ _) other
  · refine iff_of_false ?_ fun fits => unsettled ?_
    · rintro ⟨result, isResult, -⟩
      cases raised.symm.trans isResult
    · rcases mergeAnswers_cases stands complete with
        ⟨-, merged, isMerged, merges⟩ | ⟨unnamed, -⟩
      · exact ⟨merged, (settles_iff stands advice foreign isMerged merges).mpr (fits complete).decides⟩
      · exact absurd (fits complete).named unnamed

end Run

/-! ## Two open aspects -/

/-- One aspect is covered in part and the other is open. -/
def partlyCovered : EvidenceDecisionInput :=
  { listedInOrder with
    coverage :=
      [⟨"a", .partiallyCovered, [.factRevision "known" ["segment"] ⟨.current, .inScope, .authorized⟩],
          "a part", fun _ => List.cons_ne_nil _ _⟩,
        ⟨"b", .open_, [], "nothing yet", by simp⟩]
    coverage_unique := by decide
    same_aspects := fun _ => Iff.rfl }

def askingDigests : ContinuationDigests where
  inputHash := fun _ => "input"
  authorityHash := fun _ => "authority"
  decisionId := fun parent _ _ => parent.getD "" ++ "d"
  decisionHash := fun _ => "decision"
  queryHash := fun _ _ => "query"
  envelopeId := fun _ => "envelope"
  envelopeHash := fun _ _ => "sealed"

def askingDecision : EvidenceDecision :=
  { decisionBody askingDigests.toDecisionDigests partlyCovered.toDecisionFields ⟨0, 0⟩ with
    decisionHash := "decision" }

def askingFields : EnvelopeFields :=
  EnvelopeRequest.fields
    { parentRunId := "run"
      target := .deep
      originalQuestion := askingDecision.fields.normalizedQuestion
      normalizedScope := []
      inheritedEvidence := []
      searchExecutions := []
      budget := ⟨0, 8, none⟩
      failureState := .none
      receiptState := .notApplicable
      sideEffectState := .none
      stopReason := none
      contributions := none } askingDecision

def askingEnvelope : ContinuationEnvelope :=
  ⟨⟨askingFields, "envelope", "sealed"⟩, by decide +kernel⟩

/-- An answer with one search and one reference that was not known. -/
def answering (failure : ContinuationFailureState) (conflicts : List ConflictObservation)
    (few : conflicts.length ≤ 16) (aspectId : String) : RefreshObservation where
  aspectId := aspectId
  aspectComplete := true
  authorityReferences := [.factRevision "new" ["segment"] ⟨.current, .inScope, .authorized⟩]
  droppedReferenceIds := []
  searchExecutions := [⟨none, "trace", aspectId, "targeted_refresh", false⟩]
  conflicts := conflicts
  failureState := failure
  receiptState := .notApplicable
  sideEffectState := .none
  references_bounded := by simp
  dropped_bounded := by simp
  searches_bounded := by simp
  conflicts_bounded := few
  references_named := by decide

/-- The first aspect is answered, and the provider fails at the second. -/
def failingAtSecond : RefreshCallback := fun aspectId _ _ =>
  answering (if aspectId = "a" then .none else .providerFailure) [] (Nat.zero_le _) aspectId

/-- Each answer has nine conflicts that are resolved. -/
def ninefold : RefreshCallback := fun aspectId _ _ =>
  answering .none
    (List.replicate 9 ⟨"conflict", .resolved, ["left"], ["right"], ⟨0, 0⟩, "both were settled"⟩)
    (by simp) aspectId

def stillClock : RefreshClock := ⟨⟨0, 0⟩, fun _ => ⟨0, 0⟩, fun _ => ⟨0, 0⟩⟩

/-- The search of the first answer is not in the result. -/
theorem cut_round_drops_answers :
    verifyIntegrity askingDigests.toDecisionDigests askingDecision = .ok () ∧
      validateParentBinding askingDigests askingDecision askingEnvelope = .ok () ∧
        let run := runTargetedRefresh askingDigests askingDecision askingEnvelope failingAtSecond
          stillClock
        ∃ result, run.outcome = .ok result ∧
          ¬AccountsForCalls askingEnvelope failingAtSecond run result := by
  refine ⟨by decide +kernel, by decide +kernel, ?_⟩
  intro run
  have kept : run.outcome.toOption.map ContinuationExecutionResult.searchExecutions = some [] := by
    decide +kernel
  have searched : ∃ call ∈ run.calls, (call.answer failingAtSecond).searchExecutions ≠ [] := by
    decide +kernel
  cases isOutcome : run.outcome with
  | error failure => simp [isOutcome, Except.toOption] at kept
  | ok result =>
      have empty : result.searchExecutions = [] := by simpa [isOutcome, Except.toOption] using kept
      obtain ⟨call, isCall, some⟩ := searched
      refine ⟨result, rfl, fun accounts => some ?_⟩
      have found := accounts.searches call isCall
      rw [empty] at found
      exact List.subset_nil.mp found

theorem refresh_accounts_iff_failing :
    CallsWithin askingEnvelope
        (runTargetedRefresh askingDigests askingDecision askingEnvelope failingAtSecond stillClock) ∧
      ∀ result, (runTargetedRefresh askingDigests askingDecision askingEnvelope failingAtSecond
          stillClock).outcome = .ok result →
        (AccountsForCalls askingEnvelope failingAtSecond (runTargetedRefresh askingDigests
            askingDecision askingEnvelope failingAtSecond stillClock) result ↔
          KeepsAnswers askingDecision askingEnvelope failingAtSecond stillClock) :=
  refresh_accounts_iff (by decide +kernel) (by decide +kernel)

theorem asking_noSelfParent : NoSelfParent askingDigests askingDecision.decisionId := by
  intro inputHash authorityHash
  change "dd" ≠ "d"
  decide

/-- Two answers of nine conflicts each are more than a decision takes. -/
theorem conflicts_overflow_decision :
    verifyIntegrity askingDigests.toDecisionDigests askingDecision = .ok () ∧
      validateParentBinding askingDigests askingDecision askingEnvelope = .ok () ∧
        (∀ aspectId query roundNumber, (ninefold aspectId query roundNumber).aspectId = aspectId) ∧
        (∀ aspectId query roundNumber, ∀ conflict ∈ (ninefold aspectId query roundNumber).conflicts,
          conflict.observedAt.instant ≤ stillClock.started.instant) ∧
        NoSelfParent askingDigests askingDecision.decisionId ∧
          ¬Returns askingDigests
            (runTargetedRefresh askingDigests askingDecision askingEnvelope ninefold stillClock) := by
  refine ⟨by decide +kernel, by decide +kernel, fun _ _ _ => rfl, ?_, asking_noSelfParent, ?_⟩
  · intro aspectId query roundNumber conflict member
    rw [List.eq_of_mem_replicate member]
    exact Int.le_refl 0
  rintro ⟨result, isResult, -⟩
  have raised : (runTargetedRefresh askingDigests askingDecision askingEnvelope ninefold
      stillClock).outcome.toOption.isSome = false := by decide +kernel
  simp [isResult, Except.toOption] at raised

theorem refresh_returns_iff_ninefold :
    Returns askingDigests
        (runTargetedRefresh askingDigests askingDecision askingEnvelope ninefold stillClock) ↔
      (Complete askingDecision askingEnvelope ninefold stillClock →
        AnswersFit askingDecision askingEnvelope ninefold stillClock) :=
  refresh_returns_iff (by decide +kernel) (by decide +kernel) (fun _ _ _ => rfl)
    asking_noSelfParent

end Shiliu.Evidence
