/-
Module: Shiliu.Evidence.RefreshRuns
Purpose: What a run of the targeted refresh returns. Only its first round asks: a decision that was made
  of what the round found has no open aspect that was not asked for, so every later round ends where it
  would ask the first of them again.
Trusted boundary: none
Main exports: Opens, Complete, Settled, run_cases
-/
import Shiliu.Evidence.RefreshRounds

set_option linter.all false

namespace Shiliu.Evidence

open Shiliu.Library

/-! ## Sealed envelopes -/

section Sealed

variable {digests : ContinuationDigests} {envelope : ContinuationEnvelope}

theorem sealEnvelope_ok {fields : EnvelopeFields}
    (isSealed : sealEnvelope digests fields = .ok envelope) : envelope.toEnvelopeFields = fields ∧
      envelope.envelopeId = digests.envelopeId fields.jsonable ∧
      envelope.envelopeHash = digests.envelopeHash fields.jsonable envelope.envelopeId := by
  rw [sealEnvelope, EnvelopeDocument.validated] at isSealed
  split at isSealed
  · cases isSealed
    exact ⟨rfl, rfl, rfl⟩
  · cases isSealed

theorem sealEnvelope_valid {fields : EnvelopeFields} :
    (∃ envelope, sealEnvelope digests fields = .ok envelope) ↔ fields.Valid := by
  rw [sealEnvelope, EnvelopeDocument.validated]
  by_cases valid : fields.Valid <;> simp [valid]

/-- An envelope is parsed back from what it is as a document, if its hashes are those of its fields. -/
theorem parse_document : parseContinuationEnvelope digests envelope.toEnvelopeDocument = .ok envelope ↔
    verifyEnvelope digests envelope = .ok () := by
  have validated : envelope.toEnvelopeDocument.validated = .ok envelope := dif_pos envelope.valid
  rw [parseContinuationEnvelope, validated]
  simp only [Except.mapError, bind_eq_ok, pure_eq_ok, Except.ok.injEq, exists_eq_left', and_true]
  exact ⟨fun verified => verified.elim fun done isDone => isDone, fun verified => ⟨(), verified⟩⟩

theorem verify_of_sealed {fields : EnvelopeFields}
    (isSealed : sealEnvelope digests fields = .ok envelope) :
    verifyEnvelope digests envelope = .ok () := by
  obtain ⟨rfl, isId, isHash⟩ := sealEnvelope_ok isSealed
  exact ensure_eq_ok.mpr ⟨isId, isHash⟩

end Sealed

/-! ## One round -/

section Run

variable (digests : ContinuationDigests) (decision : EvidenceDecision)
  (envelope : ContinuationEnvelope) (refresh : RefreshCallback) (clock : RefreshClock)

/-- The number of the first round of a run. -/
def firstRound : Nat := envelope.budget.refreshRoundsCompleted + 1

/-- The run gets to its first question. -/
def Opens : Prop :=
  unsafeReplayStop envelope.toEnvelopeFields clock.started = none ∧
    decision.action = .targetedRefresh ∧
    envelope.budget.expired (clock.roundBegan (firstRound envelope)) = false

instance : Decidable (Opens decision envelope clock) := inferInstanceAs (Decidable (_ ∧ _ ∧ _))

/-- What the callback answers for an aspect. -/
def answerFor (aspectId : String) : RefreshObservation :=
  answerTo refresh decision.fields.requirements (firstRound envelope) aspectId

/-- The aspects a run asks for. -/
def askedAspects : List String :=
  if Opens decision envelope clock then
    askedOf refresh decision.fields.requirements (firstRound envelope) decision.openAspects
      envelope.budget.remainingToolCalls
  else []

def answers : List RefreshObservation :=
  (askedAspects decision envelope refresh clock).map (answerFor decision envelope refresh)

/-- Every open aspect is asked for, and no answer stops the run. -/
def Complete : Prop :=
  Opens decision envelope clock ∧
    decision.openAspects.length ≤ envelope.budget.remainingToolCalls ∧
    ∀ aspectId ∈ decision.openAspects,
      endsAsking refresh decision.fields.requirements (firstRound envelope) aspectId = false

instance : Decidable (Complete decision envelope refresh clock) :=
  inferInstanceAs (Decidable (_ ∧ _ ∧ _))

/-- What the answers are merged into. -/
def mergeStart : Merging :=
  { (startRefreshing decision envelope).merging with conflicts := decision.fields.conflicts }

/-- The answers are merged. -/
def mergeAnswers : Except ContinuationFailure Merging :=
  (answers decision envelope refresh clock).foldlM mergeObservation (mergeStart decision envelope)

/-- A run gets to its result when its answers can be merged, and there is drift or a new decision. -/
def Settles (merged : Merging) : Prop :=
  mergeAnswers decision envelope refresh clock = .ok merged ∧
    (merged.lineageDrift = true ∨ ∃ child, childDecision digests decision (firstRound envelope)
      (clock.roundRecorded (firstRound envelope)) merged = .ok child)

/-- The state a run ends with. -/
structure Settled (state : Refreshing) : Prop where
  calls : state.asking.calls = (askedAspects decision envelope refresh clock).map
    (callFor decision.fields.requirements decision (firstRound envelope))
  remaining : state.asking.remainingTools = envelope.budget.remainingToolCalls -
    (askedAspects decision envelope refresh clock).length
  stands : DecisionStands state.current
  cut : ¬Complete decision envelope refresh clock →
    state.merging.searchRefs = envelope.searchExecutions ∧
      state.merging.contributions = decision.fields.contributions
  complete : Complete decision envelope refresh clock →
    ∃ merged, Settles digests decision envelope refresh clock merged ∧ state.merging = merged

/-- What the later rounds of a run leave as it is. -/
structure SameAccounts (before after : Refreshing) : Prop where
  current : after.current = before.current
  merging : after.merging = before.merging
  calls : after.asking.calls = before.asking.calls
  remaining : after.asking.remainingTools = before.asking.remainingTools

variable {digests decision envelope refresh clock}

theorem SameAccounts.settled {before after : Refreshing} (same : SameAccounts before after)
    (settled : Settled digests decision envelope refresh clock before) :
    Settled digests decision envelope refresh clock after where
  calls := same.calls.trans settled.calls
  remaining := same.remaining.trans settled.remaining
  stands := same.current ▸ settled.stands
  cut := same.merging ▸ settled.cut
  complete := same.merging ▸ settled.complete

/-- A round that would ask a question again ends the loop. -/
theorem refreshRounds_repeated {requirements : List EvidenceRequirement}
    {budget : ContinuationBudgetState} {numbers : List Nat} {state : Refreshing}
    {aspectId query : String} {rest : List String}
    (opens : state.current.openAspects = aspectId :: rest)
    (described : descriptionOf requirements aspectId = some query)
    (seen : (aspectId, query) ∈ state.asking.queryFingerprints) :
    ∃ after, refreshRounds digests refresh clock requirements budget numbers state = .breaks after ∧
      SameAccounts state after := by
  cases numbers with
  | nil => exact ⟨state, rfl, rfl, rfl, rfl, rfl⟩
  | cons roundNumber later =>
      have round : ∃ after, refreshRound digests refresh clock requirements budget roundNumber state =
          .breaks after ∧ SameAccounts state after := by
        rw [refreshRound]
        split
        · exact ⟨_, rfl, rfl, rfl, rfl, rfl⟩
        · have repeats : ∃ stop failure, askAspects refresh requirements state.current roundNumber
              (aspectId :: rest) { state.asking with observations := [] } =
                ({ state.asking with observations := [] }, .stops stop failure) :=
            askAspects_repeated described seen
          obtain ⟨stop, failure, repeats⟩ := repeats
          simp only [opens, repeats]
          exact ⟨_, rfl, rfl, rfl, rfl, rfl⟩
      obtain ⟨after, isRound, same⟩ := round
      exact ⟨after, by rw [refreshRounds, isRound], same⟩

theorem afterDecision_cases (state : Refreshing) (child : EvidenceDecision) :
    (∃ after, afterDecision state child = .breaks after ∧ SameAccounts state after) ∨
      ∃ after, afterDecision state child = .goesOn after ∧ SameAccounts state after ∧
        child.openAspects ≠ [] ∧ after.asking = state.asking := by
  simp only [afterDecision]
  repeat' split
  case isFalse.isFalse.isFalse.isFalse.isFalse =>
    exact .inr ⟨_, rfl, ⟨rfl, rfl, rfl, rfl⟩, ‹_›, rfl⟩
  all_goals exact .inl ⟨_, rfl, rfl, rfl, rfl, rfl⟩

theorem DecisionStands.described (stands : DecisionStands decision) {aspectId : String}
    (isOpen : aspectId ∈ decision.openAspects) :
    ∃ query, descriptionOf decision.fields.requirements aspectId = some query := by
  obtain ⟨item, isItem, rfl, -⟩ := (stands.mem_open aspectId).mp isOpen
  have required := (stands.same_aspects item.aspectId).mp (List.mem_map_of_mem isItem)
  obtain ⟨requirement, isLast⟩ := exists_lastWith.mpr required
  exact ⟨requirement.description, by rw [descriptionOf, isLast]; rfl⟩

/-- How the loop of a run that gets to its first question ends. -/
def LoopEnds (digests : ContinuationDigests) (decision : EvidenceDecision)
    (envelope : ContinuationEnvelope) (refresh : RefreshCallback) (clock : RefreshClock) :
    RoundEnd → Prop
  | .raises calls _ =>
      calls = (askedAspects decision envelope refresh clock).map
          (callFor decision.fields.requirements decision (firstRound envelope)) ∧
        ((∃ aspectId ∈ askedAspects decision envelope refresh clock,
            (answerFor decision envelope refresh aspectId).aspectId ≠ aspectId) ∨
          Complete decision envelope refresh clock ∧
            ¬∃ merged, Settles digests decision envelope refresh clock merged)
  | .goesOn state | .breaks state => Settled digests decision envelope refresh clock state

theorem Settled.of_child (stands : DecisionStands decision) {state : Refreshing}
    (settled : Settled digests decision envelope refresh clock state)
    (asked : state.asking.queryFingerprints = decision.openAspects.map fun aspectId =>
      (aspectId, queryOf decision.fields.requirements aspectId))
    (narrower : state.current.openAspects ⊆ decision.openAspects) (later : List Nat) :
    LoopEnds digests decision envelope refresh clock
      (match afterDecision state state.current with
        | .goesOn state =>
            refreshRounds digests refresh clock decision.fields.requirements envelope.budget later state
        | ending => ending) := by
  rcases afterDecision_cases state state.current with
    ⟨after, isAfter, same⟩ | ⟨after, isAfter, same, opens, sameAsking⟩
  · rw [isAfter]
    exact same.settled settled
  · rw [isAfter]
    obtain ⟨aspectId, rest, isOpen⟩ := List.exists_cons_of_ne_nil opens
    have wasOpen : aspectId ∈ decision.openAspects := narrower (isOpen ▸ List.mem_cons_self)
    obtain ⟨query, described⟩ := stands.described wasOpen
    have seen : (aspectId, query) ∈ after.asking.queryFingerprints := by
      rw [sameAsking, asked]
      exact List.mem_map.mpr ⟨aspectId, wasOpen, by rw [queryOf, described]; rfl⟩
    have repeats : ∃ final, refreshRounds digests refresh clock decision.fields.requirements
        envelope.budget later after = .breaks final ∧ SameAccounts after final :=
      refreshRounds_repeated (same.current ▸ isOpen) described seen
    obtain ⟨final, isFinal, sameFinal⟩ := repeats
    change LoopEnds digests decision envelope refresh clock (refreshRounds _ _ _ _ _ later after)
    rw [isFinal]
    exact sameFinal.settled (same.settled settled)

theorem askedAspects_of_complete (complete : Complete decision envelope refresh clock) :
    askedAspects decision envelope refresh clock = decision.openAspects := by
  rw [askedAspects, if_pos complete.1]
  exact askedOf_of_complete complete.2.1 complete.2.2

theorem answered_of_complete (complete : Complete decision envelope refresh clock) {aspectId : String}
    (isOpen : aspectId ∈ decision.openAspects) :
    (answerFor decision envelope refresh aspectId).aspectId = aspectId := by
  have answered := complete.2.2 aspectId isOpen
  simp only [endsAsking, decide_eq_false_iff_not, not_or, not_not] at answered
  exact answered.1

theorem map_answers_of_complete (complete : Complete decision envelope refresh clock) :
    (answers decision envelope refresh clock).map RefreshObservation.aspectId =
      decision.openAspects := by
  rw [answers, askedAspects_of_complete complete, List.map_map]
  calc decision.openAspects.map (RefreshObservation.aspectId ∘ answerFor decision envelope refresh)
      = decision.openAspects.map id := List.map_congr_left fun _ => answered_of_complete complete
    _ = decision.openAspects := List.map_id _

/-- The answers of a complete round can be merged when every id that is dropped can be contributed. -/
theorem mergeAnswers_cases (stands : DecisionStands decision)
    (complete : Complete decision envelope refresh clock) :
    ((∀ answer ∈ answers decision envelope refresh clock, DropsNamed answer) ∧
        ∃ merged, mergeAnswers decision envelope refresh clock = .ok merged ∧
          MergedAll (mergeStart decision envelope) (answers decision envelope refresh clock) merged) ∨
      (¬∀ answer ∈ answers decision envelope refresh clock, DropsNamed answer) ∧
        ∃ failure, mergeAnswers decision envelope refresh clock = .error failure := by
  refine mergeAll_cases (fun answer isAnswer => ?_) rfl
  have isOpen := List.mem_map_of_mem (f := RefreshObservation.aspectId) isAnswer
  rw [map_answers_of_complete complete] at isOpen
  obtain ⟨item, isItem, same, -⟩ := (stands.mem_open _).mp isOpen
  exact List.mem_map.mpr ⟨item, isItem, same⟩

theorem child_narrower (stands : DecisionStands decision)
    (complete : Complete decision envelope refresh clock) {merged : Merging}
    (merges : MergedAll (mergeStart decision envelope) (answers decision envelope refresh clock) merged)
    {child : EvidenceDecision} {roundNumber : Nat} {recordedAt : AwareTime}
    (decided : childDecision digests decision roundNumber recordedAt merged = .ok child) :
    child.openAspects ⊆ decision.openAspects := by
  obtain ⟨childStands, covered⟩ := childDecision_stands decided
  intro aspectId isOpen
  obtain ⟨item, isItem, rfl, bad⟩ := (childStands.mem_open aspectId).mp isOpen
  by_cases asked : item.aspectId ∈ decision.openAspects
  · exact asked
  · rw [← map_answers_of_complete complete] at asked
    have before := merges.untouched item (covered item isItem) asked
    exact (stands.mem_open _).mpr ⟨item, before, rfl, bad⟩

theorem decideRound_ends (stands : DecisionStands decision)
    (complete : Complete decision envelope refresh clock) {asking : Asking}
    (calls : asking.calls = (askedAspects decision envelope refresh clock).map
      (callFor decision.fields.requirements decision (firstRound envelope)))
    (remaining : asking.remainingTools = envelope.budget.remainingToolCalls -
      (askedAspects decision envelope refresh clock).length)
    (asked : asking.queryFingerprints = decision.openAspects.map fun aspectId =>
      (aspectId, queryOf decision.fields.requirements aspectId))
    (observed : asking.observations = answers decision envelope refresh clock) (later : List Nat) :
    LoopEnds digests decision envelope refresh clock
      (match decideRound digests clock (firstRound envelope)
          { startRefreshing decision envelope with asking := asking } with
        | .goesOn state =>
            refreshRounds digests refresh clock decision.fields.requirements envelope.budget later state
        | ending => ending) := by
  have merging : asking.observations.foldlM mergeObservation
      { (startRefreshing decision envelope).merging with
        newIds := []
        droppedIds := []
        lineageDrift := false
        conflicts := (startRefreshing decision envelope).current.fields.conflicts } =
      mergeAnswers decision envelope refresh clock := by
    rw [observed]
    rfl
  simp only [decideRound, merging]
  rcases mergeAnswers_cases stands complete with
    ⟨-, merged, isMerged, merges⟩ | ⟨-, failure, raised⟩
  · rw [isMerged]
    by_cases drift : merged.lineageDrift = true
    · simp only [if_pos drift]
      exact ⟨calls, remaining, stands, fun incomplete => absurd complete incomplete,
        fun _ => ⟨merged, ⟨isMerged, .inl drift⟩, rfl⟩⟩
    · simp only [if_neg drift]
      cases decided : childDecision digests (startRefreshing decision envelope).current
          (firstRound envelope) (clock.roundRecorded (firstRound envelope)) merged with
      | error failure =>
          refine ⟨calls, .inr ⟨complete, ?_⟩⟩
          rintro ⟨other, isOther, drifts | ⟨child, isChild⟩⟩
          all_goals obtain rfl := Except.ok.inj (isMerged.symm.trans isOther)
          · exact drift drifts
          · cases decided.symm.trans isChild
      | ok child =>
          have narrower := child_narrower stands complete merges decided
          refine Settled.of_child stands ?_ asked narrower later
          exact ⟨calls, remaining, (childDecision_stands decided).1,
            fun incomplete => absurd complete incomplete,
            fun _ => ⟨merged, ⟨isMerged, .inr ⟨child, decided⟩⟩, rfl⟩⟩
  · rw [raised]
    refine ⟨calls, .inr ⟨complete, ?_⟩⟩
    rintro ⟨merged, isMerged, -⟩
    cases raised.symm.trans isMerged

theorem firstRound_ends (stands : DecisionStands decision) (opens : Opens decision envelope clock)
    (later : List Nat) :
    LoopEnds digests decision envelope refresh clock
      (refreshRounds digests refresh clock decision.fields.requirements envelope.budget
        (firstRound envelope :: later) (startRefreshing decision envelope)) := by
  have asks : askedOf refresh decision.fields.requirements (firstRound envelope) decision.openAspects
      envelope.budget.remainingToolCalls = askedAspects decision envelope refresh clock :=
    (if_pos opens).symm
  have ended : Asked refresh decision.fields.requirements decision (firstRound envelope)
      decision.openAspects ⟨[], envelope.budget.remainingToolCalls, [], []⟩
      (askAspects refresh decision.fields.requirements decision (firstRound envelope)
        decision.openAspects ⟨[], envelope.budget.remainingToolCalls, [], []⟩) :=
    askAspects_asked _ (fun _ => stands.described) stands.open_once fun _ _ => List.not_mem_nil
  cases isEnded : askAspects refresh decision.fields.requirements
      (startRefreshing decision envelope).current (firstRound envelope)
      (startRefreshing decision envelope).current.openAspects
      { (startRefreshing decision envelope).asking with observations := [] } with
  | mk asking ending =>
      have ended : Asked refresh decision.fields.requirements decision (firstRound envelope)
          decision.openAspects ⟨[], envelope.budget.remainingToolCalls, [], []⟩ (asking, ending) :=
        isEnded ▸ ended
      have calls := ended.calls
      have remaining := ended.remaining
      have asked := ended.fingerprints
      simp only [asks, List.nil_append] at calls remaining asked
      have complete_iff : ending = .complete ↔ Complete decision envelope refresh clock :=
        ended.complete_iff.trans ⟨fun safe => ⟨opens, safe⟩, fun complete => complete.2⟩
      simp only [refreshRounds, refreshRound, opens.2.2, isEnded]
      cases ending with
      | raises failure =>
          obtain ⟨aspectId, member, escaped⟩ := ended.raises failure rfl
          exact ⟨calls, .inl ⟨aspectId, asks ▸ member, escaped⟩⟩
      | stops stop failure =>
          refine ⟨calls, remaining, stands, fun _ => ⟨rfl, rfl⟩, fun complete => ?_⟩
          cases complete_iff.mpr complete
      | complete =>
          have complete := complete_iff.mp rfl
          have observed := ended.observations rfl
          rw [askedAspects_of_complete complete] at asked
          refine decideRound_ends stands complete calls remaining asked ?_ later
          rw [observed, answers, askedAspects_of_complete complete]
          rfl

/-! ## The run -/

theorem roundsLeft_cons (left : envelope.budget.refreshRoundsCompleted < maxRefreshRounds) :
    ∃ later, roundsLeft envelope.budget = firstRound envelope :: later := by
  obtain ⟨count, isCount⟩ := Nat.exists_eq_add_of_lt left
  refine ⟨List.range' (firstRound envelope + 1) count, ?_⟩
  have rest : maxRefreshRounds - envelope.budget.refreshRoundsCompleted = count + 1 := by omega
  rw [roundsLeft, rest, List.range'_succ]
  rfl

theorem opens_left (safe : unsafeReplayStop envelope.toEnvelopeFields clock.started = none) :
    envelope.budget.refreshRoundsCompleted < maxRefreshRounds ∧
      envelope.sideEffectState ≠ .unknown := by
  simp only [unsafeReplayStop] at safe
  split at safe
  · cases safe
  next noEffect =>
  split at safe
  · cases safe
  split at safe
  · cases safe
  split at safe
  · cases safe
  split at safe
  · cases safe
  split at safe
  · cases safe
  next left =>
  exact ⟨not_le.mp left, fun unknown => noEffect (.inl unknown)⟩

/-- A bound run asks for its aspects, and ends early, or with a state its rounds have settled, or
raises. -/
theorem run_cases (stands : DecisionStands decision)
    (bound : validateParentBinding digests decision envelope = .ok ()) :
    (runTargetedRefresh digests decision envelope refresh clock).calls =
        (askedAspects decision envelope refresh clock).map
          (callFor decision.fields.requirements decision (firstRound envelope)) ∧
      ((¬Opens decision envelope clock ∧ ∃ reason,
          (runTargetedRefresh digests decision envelope refresh clock).outcome =
            terminalResult digests decision envelope reason) ∨
        (envelope.sideEffectState ≠ .unknown ∧ ∃ state,
          Settled digests decision envelope refresh clock state ∧
            (runTargetedRefresh digests decision envelope refresh clock).outcome =
              finishedResult digests envelope state) ∨
        ((∃ failure, (runTargetedRefresh digests decision envelope refresh clock).outcome =
            .error failure) ∧
          ((∃ aspectId ∈ askedAspects decision envelope refresh clock,
              (answerFor decision envelope refresh aspectId).aspectId ≠ aspectId) ∨
            Complete decision envelope refresh clock ∧
              ¬∃ merged, Settles digests decision envelope refresh clock merged))) := by
  have none_asked (closed : ¬Opens decision envelope clock) :
      askedAspects decision envelope refresh clock = [] := if_neg closed
  rw [runTargetedRefresh, bound]
  cases stopped : unsafeReplayStop envelope.toEnvelopeFields clock.started with
  | some reason =>
      have closed : ¬Opens decision envelope clock := fun opens => by
        cases stopped.symm.trans opens.1
      exact ⟨by rw [none_asked closed]; rfl, .inl ⟨closed, reason, rfl⟩⟩
  | none =>
      obtain ⟨left, noEffect⟩ := opens_left stopped
      by_cases refreshes : decision.action = .targetedRefresh
      · simp only [refreshes, ne_eq, not_true_eq_false, if_false]
        obtain ⟨later, isLeft⟩ := roundsLeft_cons left
        rw [isLeft]
        have ends : LoopEnds digests decision envelope refresh clock
            (refreshRounds digests refresh clock decision.fields.requirements envelope.budget
              (firstRound envelope :: later) (startRefreshing decision envelope)) := by
          by_cases expired : envelope.budget.expired (clock.roundBegan (firstRound envelope)) = true
          · have closed : ¬Opens decision envelope clock := fun opens => by
              cases expired.symm.trans opens.2.2
            rw [refreshRounds, refreshRound, if_pos expired]
            exact ⟨by rw [none_asked closed]; rfl, by rw [none_asked closed]; rfl, stands,
              fun _ => ⟨rfl, rfl⟩, fun complete => absurd complete.1 closed⟩
          · exact firstRound_ends stands ⟨stopped, refreshes, by simpa using expired⟩ later
        cases isEnd : refreshRounds digests refresh clock decision.fields.requirements
            envelope.budget (firstRound envelope :: later) (startRefreshing decision envelope) with
        | raises calls failure =>
            rw [isEnd] at ends
            exact ⟨ends.1, .inr (.inr ⟨⟨failure, rfl⟩, ends.2⟩)⟩
        | goesOn state | breaks state =>
            rw [isEnd] at ends
            exact ⟨ends.calls, .inr (.inl ⟨noEffect, state, ends, rfl⟩)⟩
      · have closed : ¬Opens decision envelope clock := fun opens => refreshes opens.2.1
        simp only [refreshes, ne_eq, not_false_eq_true, if_true]
        exact ⟨by rw [none_asked closed]; rfl, .inl ⟨closed, _, rfl⟩⟩

end Run

end Shiliu.Evidence
