/-
Module: Shiliu.Evidence.DecisionSafety
Purpose: Evidence decisions fail closed and ignore advice. Each gate that passes says something
  about the input; an action that answers passed all seven. The order in which aspects are listed
  is normalised only where the requirements are out of order, and the decisions over two orders
  agree exactly where the coverage ends up in one order.
Trusted boundary: none
Main exports: AnswersSafely, selectAction_answers, SameButOrder, evidence_decisions
-/
import Shiliu.Evidence.Decision

set_option linter.all false

namespace Shiliu.Evidence

open Shiliu.Library

/-! ## What a gate that passes says -/

/-- The reference is current, in scope and authorized. -/
def ReferenceStanding.Good (standing : ReferenceStanding) : Prop :=
  standing.sourceVersionStatus = .current ∧ standing.scopeStatus = .inScope ∧
    standing.authorizationStatus = .authorized

theorem reasons_eq_nil {standing : ReferenceStanding} :
    standing.reasons = [] ↔ standing.Good := by
  unfold ReferenceStanding.reasons ReferenceStanding.Good
  cases standing.sourceVersionStatus <;> cases standing.scopeStatus <;>
    cases standing.authorizationStatus <;> simp

theorem mem_reasons {standing : ReferenceStanding} {reason : DecisionReasonCode}
    (member : reason ∈ standing.reasons) :
    reason ∈ sourceReasonCodes ∨ reason ∈ authorityReasonCodes := by
  unfold ReferenceStanding.reasons at member
  cases isVersion : standing.sourceVersionStatus <;> cases isScope : standing.scopeStatus <;>
    cases isAuthorization : standing.authorizationStatus <;>
      simp only [isVersion, isScope, isAuthorization] at member <;>
        revert reason <;> decide

section Gates

variable {value : DecisionFields}

theorem mem_referenceReasons {kind : List DecisionReasonCode} {reason : DecisionReasonCode} :
    reason ∈ referenceReasons value kind ↔
      (∃ reference ∈ allReferences value, reason ∈ reference.standing.reasons) ∧
        reason ∈ kind := by
  simp only [referenceReasons, referenceEligibility, List.mem_eraseDups, List.mem_filter,
    List.mem_flatMap, decide_eq_true_eq]

theorem referenceGate_pass {gate : GateName} {kind : List DecisionReasonCode}
    {unknown clear : DecisionReasonCode}
    (passed : (referenceGate gate value kind unknown clear).outcome = .pass) :
    ∀ reference ∈ allReferences value, ∀ reason ∈ reference.standing.reasons, reason ∉ kind := by
  have none : referenceReasons value kind = [] := by
    by_contra reasons
    by_cases isUnknown : unknown ∈ referenceReasons value kind
    · simp [referenceGate, isUnknown] at passed
    · simp [referenceGate, isUnknown, reasons] at passed
  intro reference member reason isReason among
  have found : reason ∈ referenceReasons value kind :=
    mem_referenceReasons.mpr ⟨⟨reference, member, isReason⟩, among⟩
  rw [none] at found
  exact absurd found List.not_mem_nil

theorem references_good (source : (sourceGate value).outcome = .pass)
    (authority : (authorityGate value).outcome = .pass) :
    ∀ reference ∈ allReferences value, reference.standing.Good := by
  intro reference member
  refine reasons_eq_nil.mp (List.eq_nil_iff_forall_not_mem.mpr fun reason isReason => ?_)
  rcases mem_reasons isReason with ofSource | ofAuthority
  · exact referenceGate_pass source reference member reason isReason ofSource
  · exact referenceGate_pass authority reference member reason isReason ofAuthority

theorem requirementsGate_known (known : (requirementsGate value).outcome ≠ .unknown) :
    ∀ requirement ∈ value.requirements, requirement.origin ≠ .unknown := by
  intro requirement member isUnknown
  refine known (if_pos (List.any_eq_true.mpr ⟨requirement, member, ?_⟩))
  exact decide_eq_true isUnknown

theorem scopeGate_pass (known : (scopeGate value).outcome ≠ .unknown)
    (matched : (scopeGate value).outcome ≠ .fail) :
    value.scope.status = .exact ∨ value.scope.status = .compatible := by
  cases isStatus : value.scope.status <;> simp_all [scopeGate]

theorem coverageGate_pass (passed : (coverageGate value).outcome = .pass) :
    ∀ item ∈ value.coverage, item.status = .covered := by
  have complete : coverageComplete value = true := by
    by_contra incomplete
    simp only [coverageGate, if_neg incomplete] at passed
    split at passed <;> cases passed
  intro item member
  have all := (of_decide_eq_true complete).2
  exact of_decide_eq_true (List.all_eq_true.mp all item member)

theorem freshnessGate_pass (passed : (freshnessGate value).outcome = .pass) :
    value.libraryFreshness.freshness = .fresh := by
  cases isStatus : value.libraryFreshness.freshness <;> simp_all [freshnessGate]

theorem conflictGate_pass (passed : (conflictGate value).outcome ≠ .fail) :
    ∀ conflict ∈ value.conflicts, conflict.status ≠ .potential ∧ conflict.status ≠ .confirmed := by
  intro conflict member
  by_contra blocking
  have isBlocking : value.conflicts.any (fun conflict =>
      conflict.status = .potential ∨ conflict.status = .confirmed) = true :=
    List.any_eq_true.mpr ⟨conflict, member, by grind⟩
  exact passed (if_pos isBlocking)

/-- The result of each gate. -/
def gateOf (value : DecisionFields) : GateName → DeterministicGateResult
  | .requirements => requirementsGate value
  | .scope => scopeGate value
  | .coverage => coverageGate value
  | .sourceVersion => sourceGate value
  | .libraryFreshness => freshnessGate value
  | .conflict => conflictGate value
  | .authority => authorityGate value

theorem outcomeOf_evaluateGates (name : GateName) :
    outcomeOf (evaluateGates value) name = (gateOf value name).outcome := by
  cases name <;> rfl

end Gates

/-! ## Actions that answer -/

/-- The action answers from the evidence there is. -/
def EvidenceDecisionAction.answers (action : EvidenceDecisionAction) : Prop :=
  action = .answerFresh ∨ action = .directReuse

theorem refreshOrResearch_answers {value : DecisionFields} {reasons : List DecisionReasonCode} :
    ¬ (refreshOrResearch value reasons).action.answers := by
  unfold refreshOrResearch EvidenceDecisionAction.answers
  split <;> simp

/-- An action that answers went past every test of the cascade. -/
theorem selectAction_answers {value : DecisionFields} {gates : List DeterministicGateResult}
    (answers : (selectAction value gates).action.answers) :
    (outcomeOf gates .requirements ≠ .unknown ∧ outcomeOf gates .scope ≠ .unknown) ∧
      outcomeOf gates .conflict ≠ .fail ∧
      (outcomeOf gates .sourceVersion = .pass ∧ outcomeOf gates .authority = .pass) ∧
      outcomeOf gates .scope ≠ .fail ∧ outcomeOf gates .libraryFreshness = .pass ∧
      outcomeOf gates .coverage = .pass ∧
      ((selectAction value gates).action = .directReuse → value.scope.status = .exact) := by
  have research (reasons : List DecisionReasonCode) (outcome : FailClosedOutcome) :
      ¬ (Selection.mk .deepResearch reasons outcome).action.answers := by
    simp [EvidenceDecisionAction.answers]
  have clarify (reasons : List DecisionReasonCode) (outcome : FailClosedOutcome) :
      ¬ (Selection.mk .clarify reasons outcome).action.answers := by
    simp [EvidenceDecisionAction.answers]
  have refresh (reasons : List DecisionReasonCode) (outcome : FailClosedOutcome) :
      ¬ (Selection.mk .targetedRefresh reasons outcome).action.answers := by
    simp [EvidenceDecisionAction.answers]
  simp only [selectAction] at answers ⊢
  split at answers
  · exact absurd answers (clarify _ _)
  next known =>
  split at answers
  · exact absurd answers (research _ _)
  next noConflict =>
  split at answers
  · exact absurd answers (research _ _)
  next good =>
  split at answers
  · exact absurd answers (research _ _)
  next matched =>
  split at answers
  · exact absurd answers refreshOrResearch_answers
  next fresh =>
  split at answers
  · exact absurd answers refreshOrResearch_answers
  next complete =>
  split at answers
  · exact absurd answers (refresh _ _)
  next reusable =>
  push Not at known good fresh complete reusable
  refine ⟨known, noConflict, good, matched, fresh, complete, ?_⟩
  rw [if_neg (by push Not; exact known), if_neg noConflict, if_neg (by push Not; exact good),
    if_neg matched, if_neg (not_not_intro fresh), if_neg (not_not_intro complete),
    if_neg (by push Not; exact reusable)]
  split
  next reused => exact fun _ => by_contra fun inexact => reusable inexact reused
  · intro isReuse
    cases isReuse

/-- What an action that answers promises about the input. -/
structure AnswersSafely (value : DecisionFields) (action : EvidenceDecisionAction)
    (openAspects : List String) : Prop where
  covered : ∀ requirement ∈ value.requirements, ∃ item ∈ value.coverage,
    item.aspectId = requirement.aspectId ∧ item.status = .covered ∧
      item.authorityReferences ≠ []
  references : ∀ reference ∈ allReferences value, reference.standing.Good
  known : ∀ requirement ∈ value.requirements, requirement.origin ≠ .unknown
  scope : value.scope.status = .exact ∨ value.scope.status = .compatible
  scope_of_reuse : action = .directReuse → value.scope.status = .exact
  fresh : value.libraryFreshness.freshness = .fresh
  unopposed : ∀ conflict ∈ value.conflicts,
    conflict.status ≠ .potential ∧ conflict.status ≠ .confirmed
  nothing_open : openAspects = []

/-- Every aspect is open or covered; where all references are good, the covered ones are those the
coverage claims. -/
theorem openAspects_eq_nil {value : DecisionFields}
    (covered : ∀ item ∈ value.coverage, item.status = .covered)
    (good : ∀ reference ∈ allReferences value, reference.standing.Good) :
    (value.coverage.map AspectCoverage.aspectId).filter
      (· ∉ (value.coverage.filter isCovered).map AspectCoverage.aspectId) = [] := by
  refine List.filter_eq_nil_iff.mpr fun aspectId member => ?_
  obtain ⟨item, isItem, rfl⟩ := List.mem_map.mp member
  have eligible : ∀ reference ∈ item.authorityReferences,
      (referenceEligibility reference).eligible = true := by
    intro reference isReference
    have among : reference ∈ allReferences value :=
      List.mem_flatMap.mpr ⟨item, isItem, isReference⟩
    exact List.isEmpty_iff.mpr (reasons_eq_nil.mpr (good reference among))
  have isCovered : isCovered item = true :=
    decide_eq_true ⟨covered item isItem,
      item.references_of_claimed (.inl (covered item isItem)), List.all_eq_true.mpr eligible⟩
  have found := List.mem_map_of_mem (f := AspectCoverage.aspectId)
    (List.mem_filter.mpr ⟨isItem, isCovered⟩)
  simpa [and_assoc] using found

theorem decisionBody_answersSafely {digests : DecisionDigests} {value : DecisionFields}
    {recordedAt : AwareTime}
    (sameAspects : ∀ requirement ∈ value.requirements, ∃ item ∈ value.coverage,
      item.aspectId = requirement.aspectId)
    (answers : (decisionBody digests value recordedAt).action.answers) :
    AnswersSafely value (decisionBody digests value recordedAt).action
      (decisionBody digests value recordedAt).openAspects := by
  obtain ⟨⟨known, scopeKnown⟩, noConflict, ⟨source, authority⟩, matched, fresh, complete, reuse⟩ :=
    selectAction_answers answers
  rw [outcomeOf_evaluateGates] at known scopeKnown noConflict source authority
  rw [outcomeOf_evaluateGates] at matched fresh complete
  have covered := coverageGate_pass complete
  have good := references_good source authority
  exact {
    covered := by
      intro requirement member
      obtain ⟨item, isItem, sameAspect⟩ := sameAspects requirement member
      exact ⟨item, isItem, sameAspect, covered item isItem,
        item.references_of_claimed (.inl (covered item isItem))⟩
    references := good
    known := requirementsGate_known known
    scope := scopeGate_pass scopeKnown matched
    scope_of_reuse := reuse
    fresh := freshnessGate_pass fresh
    unopposed := conflictGate_pass noConflict
    nothing_open := openAspects_eq_nil covered good }

/-! ## The normalised input -/

variable {requirements : List EvidenceRequirement}

theorem foldl_selectRequirement {selected : List EvidenceRequirement}
    (unique : ((selected ++ requirements).map EvidenceRequirement.aspectId).Nodup) :
    requirements.foldl selectRequirement selected = selected ++ requirements := by
  induction requirements generalizing selected with
  | nil => exact (List.append_nil selected).symm
  | cons requirement rest inductionHypothesis =>
      have isNew : selected.any (fun current => current.aspectId = requirement.aspectId) =
          false := by
        rw [List.any_eq_false]
        intro current member same
        rw [List.map_append, List.nodup_append] at unique
        exact unique.2.2 current.aspectId (List.mem_map_of_mem member) requirement.aspectId
          (by simp) (of_decide_eq_true same)
      have appended : selectRequirement selected requirement = selected ++ [requirement] := by
        rw [selectRequirement, if_neg (by simp [isNew])]
      rw [List.foldl_cons, appended,
        inductionHypothesis (by rwa [List.append_assoc, List.singleton_append]),
        List.append_assoc, List.singleton_append]

instance : Std.Total requirementOrder where
  total first second := by
    rcases lt_trichotomy first.origin.precedence second.origin.precedence with lt | eq | gt
    · exact .inl (.inl lt)
    · rcases le_total first.aspectId second.aspectId with le | ge
      · exact .inl (.inr ⟨eq, le⟩)
      · exact .inr (.inr ⟨eq.symm, ge⟩)
    · exact .inr (.inl gt)

instance : IsTrans EvidenceRequirement requirementOrder where
  trans first second third := by
    rintro (lt | ⟨eq, le⟩) (lt' | ⟨eq', le'⟩)
    · exact .inl (lt.trans lt')
    · exact .inl (eq' ▸ lt)
    · exact .inl (eq ▸ lt')
    · exact .inr ⟨eq.trans eq', le.trans le'⟩

theorem resolvedOrder_eq (unique : (requirements.map EvidenceRequirement.aspectId).Nodup) :
    resolvedOrder requirements = requirements.insertionSort requirementOrder := by
  have kept : requirements.foldl selectRequirement [] = [] ++ requirements :=
    foldl_selectRequirement unique
  rw [resolvedOrder, kept, List.nil_append]

theorem resolvedOrder_perm (unique : (requirements.map EvidenceRequirement.aspectId).Nodup) :
    (resolvedOrder requirements).Perm requirements := by
  rw [resolvedOrder_eq unique]
  exact List.perm_insertionSort _ _

theorem resolvedOrder_of_perm {other : List EvidenceRequirement}
    (unique : (requirements.map EvidenceRequirement.aspectId).Nodup)
    (same : requirements.Perm other) : resolvedOrder requirements = resolvedOrder other := by
  have unique' : (other.map EvidenceRequirement.aspectId).Nodup :=
    (same.map _).nodup_iff.mp unique
  have perm : (resolvedOrder requirements).Perm (resolvedOrder other) :=
    (resolvedOrder_perm unique).trans (same.trans (resolvedOrder_perm unique').symm)
  rw [resolvedOrder_eq unique, resolvedOrder_eq unique'] at perm ⊢
  refine List.Perm.eq_of_pairwise (fun first second isFirst isSecond le ge => ?_)
    (List.pairwise_insertionSort _ _) (List.pairwise_insertionSort _ _) perm
  have sameAspect : first.aspectId = second.aspectId := by
    rcases le with lt | ⟨eq, le⟩ <;> rcases ge with gt | ⟨eq', ge⟩
    · omega
    · omega
    · omega
    · exact le_antisymm le ge
  have isFirst := (List.mem_insertionSort requirementOrder).mp isFirst
  have isSecond := same.mem_iff.mpr ((List.mem_insertionSort requirementOrder).mp isSecond)
  exact List.inj_on_of_nodup_map unique isFirst isSecond sameAspect

/-- The input as it is judged and hashed. -/
def normalized (value : DecisionFields) : DecisionFields :=
  normalizedFields value (resolvedOrder value.requirements)

theorem normalized_requirements (value : DecisionFields) :
    (normalized value).requirements = resolvedOrder value.requirements := by
  unfold normalized normalizedFields
  split
  · rfl
  next same => exact (not_not.mp same).symm

theorem map_filterMap_eq {Element Found Label : Type*} {elements : List Element}
    {find : Element → Option Found} {label : Element → Label} {labelOf : Found → Label}
    (each : ∀ element ∈ elements, ∃ found, find element = some found ∧
      labelOf found = label element) :
    (elements.filterMap find).map labelOf = elements.map label := by
  induction elements with
  | nil => rfl
  | cons element rest inductionHypothesis =>
      rw [List.forall_mem_cons] at each
      obtain ⟨⟨found, isFound, same⟩, eachRest⟩ := each
      rw [List.filterMap_cons_some isFound, List.map_cons, List.map_cons, same,
        inductionHypothesis eachRest]

section Input

variable (value : EvidenceDecisionInput)

theorem resolveRequirements_ok :
    resolveRequirements value.requirements = .ok (resolvedOrder value.requirements) := by
  have perm := resolvedOrder_perm value.requirements_unique
  have nonempty : resolvedOrder value.requirements ≠ [] := by
    intro none
    rw [none] at perm
    exact value.requirements_nonempty perm.nil_eq.symm
  have bounded : ¬ maxRequirements < (resolvedOrder value.requirements).length := by
    rw [perm.length_eq]
    exact value.requirements_bounded.not_gt
  have inferred : ¬ maxInferredRequirements < inferredCount (resolvedOrder value.requirements) := by
    rw [inferredCount, perm.countP_eq]
    exact value.inferred_bounded.not_gt
  rw [resolveRequirements]
  simp only [if_neg nonempty, if_neg bounded, if_neg inferred]

theorem exists_find_coverage {requirement : EvidenceRequirement}
    (member : requirement ∈ value.requirements) :
    ∃ item, value.coverage.find? (fun item => item.aspectId = requirement.aspectId) = some item ∧
      item.aspectId = requirement.aspectId := by
  have among := (value.same_aspects requirement.aspectId).mpr (List.mem_map_of_mem member)
  obtain ⟨item, isItem, same⟩ := List.mem_map.mp among
  have found : (value.coverage.find? fun item =>
      item.aspectId = requirement.aspectId).isSome = true :=
    List.find?_isSome.mpr ⟨item, isItem, decide_eq_true same⟩
  obtain ⟨item, isFound⟩ := Option.isSome_iff_exists.mp found
  have sameAspect := List.find?_some isFound
  exact ⟨item, isFound, of_decide_eq_true sameAspect⟩

/-- The coverage is found again, entry by entry. -/
theorem normalized_coverage_perm :
    (normalized value.toDecisionFields).coverage.Perm value.coverage := by
  unfold normalized normalizedFields
  split
  · have resolved := resolvedOrder_perm value.requirements_unique
    have aspects : (((resolvedOrder value.requirements).filterMap fun requirement =>
        value.coverage.find? fun item => item.aspectId = requirement.aspectId).map
          AspectCoverage.aspectId) =
        (resolvedOrder value.requirements).map EvidenceRequirement.aspectId := by
      refine map_filterMap_eq fun requirement member => ?_
      exact exists_find_coverage value (resolved.mem_iff.mp member)
    have unique : ((resolvedOrder value.requirements).filterMap fun requirement =>
        value.coverage.find? fun item => item.aspectId = requirement.aspectId).Nodup := by
      refine List.Nodup.of_map AspectCoverage.aspectId ?_
      rw [aspects]
      exact (resolved.map _).nodup_iff.mpr value.requirements_unique
    refine (List.perm_ext_iff_of_nodup unique value.coverage_unique.of_map).mpr fun item => ?_
    rw [List.mem_filterMap]
    constructor
    · rintro ⟨requirement, -, isFound⟩
      exact List.mem_of_find?_eq_some isFound
    · intro member
      have among := (value.same_aspects item.aspectId).mp (List.mem_map_of_mem member)
      obtain ⟨requirement, isRequirement, same⟩ := List.mem_map.mp among
      obtain ⟨other, isFound, sameAspect⟩ := exists_find_coverage value isRequirement
      have isOther := List.inj_on_of_nodup_map value.coverage_unique
        (List.mem_of_find?_eq_some isFound) member (sameAspect.trans same)
      exact ⟨requirement, resolved.mem_iff.mpr isRequirement, isOther ▸ isFound⟩
  · exact List.Perm.refl _

end Input

variable {digests : DecisionDigests} {recordedAt : Option AwareTime} {decision : EvidenceDecision}
  {other : EvidenceDecisionInput}

theorem createEvidenceDecision_ok {value : EvidenceDecisionInput} :
    createEvidenceDecision digests value recordedAt = .ok decision ↔
      ∃ instant, recordedAt = some instant ∧
        validateTimeCausality value.toDecisionFields instant = .ok () ∧
        value.parentDecisionId ≠
          some (decisionBody digests (normalized value.toDecisionFields) instant).decisionId ∧
        decision =
          { decisionBody digests (normalized value.toDecisionFields) instant with
            decisionHash := digests.decisionHash
              (decisionBody digests (normalized value.toDecisionFields) instant) } := by
  cases recordedAt with
  | none => simp [createEvidenceDecision]
  | some instant =>
      simp only [createEvidenceDecision, resolveRequirements_ok, bind_eq_ok, Except.ok.injEq,
        exists_eq_left', ensure_eq_ok, pure_eq_ok, Option.some.injEq]
      constructor
      · rintro ⟨_, timely, _, foreign, rfl⟩
        exact ⟨timely, foreign, rfl⟩
      · rintro ⟨timely, foreign, rfl⟩
        exact ⟨(), timely, (), foreign, rfl⟩

theorem AnswersSafely.of_normalized {value : EvidenceDecisionInput}
    {action : EvidenceDecisionAction} {openAspects : List String}
    (safe : AnswersSafely (normalized value.toDecisionFields) action openAspects) :
    AnswersSafely value.toDecisionFields action openAspects := by
  have sameRequirements (requirement : EvidenceRequirement) :
      requirement ∈ (normalized value.toDecisionFields).requirements ↔
        requirement ∈ value.requirements := by
    rw [normalized_requirements]
    exact (resolvedOrder_perm value.requirements_unique).mem_iff
  have sameCoverage (item : AspectCoverage) :
      item ∈ (normalized value.toDecisionFields).coverage ↔ item ∈ value.coverage :=
    (normalized_coverage_perm value).mem_iff
  have kept : (normalized value.toDecisionFields).scope = value.scope ∧
      (normalized value.toDecisionFields).libraryFreshness = value.libraryFreshness ∧
      (normalized value.toDecisionFields).conflicts = value.conflicts := by
    unfold normalized normalizedFields
    split <;> exact ⟨rfl, rfl, rfl⟩
  obtain ⟨sameScope, sameFreshness, sameConflicts⟩ := kept
  exact {
    covered := by
      intro requirement member
      obtain ⟨item, isItem, rest⟩ := safe.covered requirement ((sameRequirements _).mpr member)
      exact ⟨item, (sameCoverage item).mp isItem, rest⟩
    references := by
      intro reference member
      obtain ⟨item, isItem, isReference⟩ := List.mem_flatMap.mp member
      exact safe.references reference
        (List.mem_flatMap.mpr ⟨item, (sameCoverage item).mpr isItem, isReference⟩)
    known := fun requirement member => safe.known requirement ((sameRequirements _).mpr member)
    scope := sameScope ▸ safe.scope
    scope_of_reuse := sameScope ▸ safe.scope_of_reuse
    fresh := sameFreshness ▸ safe.fresh
    unopposed := sameConflicts ▸ safe.unopposed
    nothing_open := safe.nothing_open }

theorem answersSafely_of_created {value : EvidenceDecisionInput}
    (created : createEvidenceDecision digests value recordedAt = .ok decision)
    (answers : decision.action.answers) :
    AnswersSafely value.toDecisionFields decision.action decision.openAspects := by
  obtain ⟨instant, -, -, -, rfl⟩ := createEvidenceDecision_ok.mp created
  refine AnswersSafely.of_normalized (decisionBody_answersSafely (fun requirement member => ?_)
    answers)
  rw [normalized_requirements] at member
  obtain ⟨item, isFound, same⟩ := exists_find_coverage value
    ((resolvedOrder_perm value.requirements_unique).mem_iff.mp member)
  exact ⟨item, (normalized_coverage_perm value).mem_iff.mpr (List.mem_of_find?_eq_some isFound),
    same⟩

/-! ## Advice -/

/-- The inputs differ in their advice at most. -/
def SameButAdvice (value other : DecisionFields) : Prop :=
  authorityPayload value = authorityPayload other

/-- The parts of a decision that advice does not reach. -/
structure SameAuthority (first second : DecisionBody) : Prop where
  gates : first.deterministicGates = second.deterministicGates
  action : first.action = second.action
  outcome : first.failClosedOutcome = second.failClosedOutcome
  covered : first.coveredAspects = second.coveredAspects
  opened : first.openAspects = second.openAspects
  authorityHash : first.authorityHash = second.authorityHash

theorem selectAction_authorityPayload (value : DecisionFields)
    (gates : List DeterministicGateResult) :
    (selectAction (authorityPayload value) gates).action = (selectAction value gates).action ∧
      (selectAction (authorityPayload value) gates).outcome =
        (selectAction value gates).outcome := by
  have refresh (fields : DecisionFields) (reasons : List DecisionReasonCode) :
      (refreshOrResearch fields reasons).action =
          (if safeReferences fields ≠ [] then .targetedRefresh else .deepResearch) ∧
        (refreshOrResearch fields reasons).outcome =
          if safeReferences fields ≠ [] then .requireRefresh else .requireDeepResearch := by
    unfold refreshOrResearch
    split <;> exact ⟨rfl, rfl⟩
  have sameReferences : safeReferences (authorityPayload value) = safeReferences value := rfl
  have sameReuse : hasReused (authorityPayload value) = hasReused value := rfl
  have sameScope : (authorityPayload value).scope = value.scope := rfl
  simp only [selectAction, apply_ite Selection.action, apply_ite Selection.outcome, refresh,
    sameReferences, sameReuse, sameScope, and_self]

theorem authorityPayload_normalized (value : DecisionFields) :
    authorityPayload (normalized value) = normalized (authorityPayload value) := by
  by_cases moved : resolvedOrder value.requirements ≠ value.requirements
  · simp [normalized, normalizedFields, authorityPayload, moved]
  · simp [normalized, normalizedFields, authorityPayload, not_not.mp moved]

/-- A decision without its advice. -/
theorem decisionBody_sameAuthority (digests : DecisionDigests) (value : DecisionFields)
    (instant : AwareTime) :
    SameAuthority (decisionBody digests (authorityPayload value) instant)
      (decisionBody digests value instant) where
  gates := rfl
  action := (selectAction_authorityPayload value _).1
  outcome := (selectAction_authorityPayload value _).2
  covered := rfl
  opened := rfl
  authorityHash := rfl

theorem SameAuthority.of_advice {value : EvidenceDecisionInput} {decision' : EvidenceDecision}
    (same : SameButAdvice value.toDecisionFields other.toDecisionFields)
    (created : createEvidenceDecision digests value recordedAt = .ok decision)
    (created' : createEvidenceDecision digests other recordedAt = .ok decision') :
    SameAuthority decision.toDecisionBody decision'.toDecisionBody := by
  obtain ⟨instant, rfl, -, -, rfl⟩ := createEvidenceDecision_ok.mp created
  obtain ⟨instant', isInstant, -, -, rfl⟩ := createEvidenceDecision_ok.mp created'
  obtain rfl := Option.some.inj isInstant
  have samePayload : authorityPayload (normalized value.toDecisionFields) =
      authorityPayload (normalized other.toDecisionFields) := by
    rw [authorityPayload_normalized, authorityPayload_normalized]
    exact congrArg normalized same
  have first := decisionBody_sameAuthority digests (normalized value.toDecisionFields) instant
  have second := decisionBody_sameAuthority digests (normalized other.toDecisionFields) instant
  rw [samePayload] at first
  exact {
    gates := first.gates.symm.trans second.gates
    action := first.action.symm.trans second.action
    outcome := first.outcome.symm.trans second.outcome
    covered := first.covered.symm.trans second.covered
    opened := first.opened.symm.trans second.opened
    authorityHash := first.authorityHash.symm.trans second.authorityHash }

/-! ## Order -/

/-- The inputs list the same requirements and the same coverage, in whatever order, and agree in
everything else. -/
structure SameButOrder (value other : DecisionFields) : Prop where
  requirements : value.requirements.Perm other.requirements
  coverage : value.coverage.Perm other.coverage
  rest : { value with requirements := [], coverage := [] } =
    { other with requirements := [], coverage := [] }

/-- The parts of a decision that order should not reach. -/
structure SameDecision (first second : DecisionBody) : Prop where
  decisionId : first.decisionId = second.decisionId
  action : first.action = second.action
  gates : first.deterministicGates = second.deterministicGates
  covered : first.coveredAspects = second.coveredAspects
  opened : first.openAspects = second.openAspects

/-- The coverage in the order it is judged in: as listed if the requirements are listed in resolved
order, and in that order otherwise. -/
def usedCoverage (value : DecisionFields) : List AspectCoverage :=
  (normalized value).coverage

/-- Two orders of one input come to one normalised input if their coverage comes to one order. -/
theorem normalized_eq {value : EvidenceDecisionInput}
    (same : SameButOrder value.toDecisionFields other.toDecisionFields) :
    normalized value.toDecisionFields = normalized other.toDecisionFields ↔
      usedCoverage value.toDecisionFields = usedCoverage other.toDecisionFields := by
  have rest (fields : DecisionFields) :
      { fields with requirements := [], coverage := [] } =
        { normalized fields with requirements := [], coverage := [] } := by
    unfold normalized normalizedFields
    split <;> rfl
  have sameRequirements : (normalized value.toDecisionFields).requirements =
      (normalized other.toDecisionFields).requirements := by
    rw [normalized_requirements, normalized_requirements]
    exact resolvedOrder_of_perm value.requirements_unique same.requirements
  have sameRest := (rest value.toDecisionFields).symm.trans
    (same.rest.trans (rest other.toDecisionFields))
  refine ⟨fun equal => congrArg DecisionFields.coverage equal, fun sameCoverage => ?_⟩
  have rebuilt (fields : DecisionFields) : fields =
      { ({ fields with requirements := [], coverage := [] } : DecisionFields) with
        requirements := fields.requirements
        coverage := fields.coverage } := rfl
  rw [rebuilt (normalized value.toDecisionFields), rebuilt (normalized other.toDecisionFields),
    sameRest, sameRequirements]
  exact congrArg (fun coverage =>
    { ({ normalized other.toDecisionFields with requirements := [], coverage := [] } :
        DecisionFields) with
      requirements := (normalized other.toDecisionFields).requirements
      coverage := coverage }) sameCoverage

/-- Hashes that tell one input from all others, and an id from the id of its parent. -/
def tellingApart (value : DecisionFields) : DecisionDigests :=
  { inputHash := fun fields => if fields = value then "first" else "second"
    authorityHash := fun _ => ""
    decisionId := fun parentDecisionId inputHash _ => parentDecisionId.getD "" ++ inputHash
    decisionHash := fun _ => "" }

theorem tellingApart_decisionId (value : DecisionFields) (parentDecisionId : Option String)
    (fields : DecisionFields) (authorityHash : String) :
    parentDecisionId ≠ some ((tellingApart value).decisionId parentDecisionId
      ((tellingApart value).inputHash fields) authorityHash) := by
  cases parentDecisionId with
  | none => exact nofun
  | some parent =>
      intro same
      have lengths := congrArg String.length (Option.some.inj same)
      simp only [tellingApart, Option.getD_some, String.length_append] at lengths
      split at lengths <;> simp at lengths

theorem normalized_parentDecisionId (value : DecisionFields) :
    (normalized value).parentDecisionId = value.parentDecisionId := by
  unfold normalized normalizedFields
  split <;> rfl

theorem exists_decision {value : EvidenceDecisionInput} {instant : AwareTime}
    (fields : DecisionFields)
    (timely : validateTimeCausality value.toDecisionFields instant = .ok ()) :
    ∃ decision, createEvidenceDecision (tellingApart fields) value (some instant) = .ok decision ∧
      decision.toDecisionBody =
        decisionBody (tellingApart fields) (normalized value.toDecisionFields) instant := by
  refine ⟨_, createEvidenceDecision_ok.mpr ⟨instant, rfl, timely, ?_, rfl⟩, rfl⟩
  rw [← normalized_parentDecisionId]
  exact tellingApart_decisionId fields _ _ ""

/-- Whatever the hashes are, two orders of one input get one decision exactly if their coverage
comes to one order. -/
theorem sameDecision_iff {value : EvidenceDecisionInput} {instant : AwareTime}
    (same : SameButOrder value.toDecisionFields other.toDecisionFields)
    (timely : validateTimeCausality value.toDecisionFields instant = .ok ()) :
    (∀ (digests : DecisionDigests) (decision decision' : EvidenceDecision),
      createEvidenceDecision digests value (some instant) = .ok decision →
        createEvidenceDecision digests other (some instant) = .ok decision' →
          SameDecision decision.toDecisionBody decision'.toDecisionBody) ↔
      usedCoverage value.toDecisionFields = usedCoverage other.toDecisionFields := by
  rw [← normalized_eq same]
  constructor
  · intro agree
    obtain ⟨-, isParent, -, -, -, sameFreshness, sameConflicts, -, -⟩ :=
      DecisionFields.mk.inj same.rest
    have timely' : validateTimeCausality other.toDecisionFields instant = .ok () := by
      rwa [validateTimeCausality, ← sameFreshness, ← sameConflicts]
    obtain ⟨decision, created, isBody⟩ :=
      exists_decision (normalized value.toDecisionFields) timely
    obtain ⟨decision', created', isBody'⟩ :=
      exists_decision (normalized value.toDecisionFields) timely'
    have sameId := (agree _ decision decision' created created').decisionId
    have sameParent : (normalized value.toDecisionFields).parentDecisionId =
        (normalized other.toDecisionFields).parentDecisionId := by
      rw [normalized_parentDecisionId, normalized_parentDecisionId]
      exact isParent
    rw [isBody, isBody'] at sameId
    simp only [decisionBody, tellingApart, sameParent, String.append_right_inj, if_pos] at sameId
    by_contra different
    rw [if_neg (Ne.symm different)] at sameId
    exact absurd sameId (by decide)
  · intro equal digests decision decision' created created'
    obtain ⟨instant, isInstant, -, -, rfl⟩ := createEvidenceDecision_ok.mp created
    obtain ⟨instant', isInstant', -, -, rfl⟩ := createEvidenceDecision_ok.mp created'
    obtain rfl := Option.some.inj isInstant
    obtain rfl := Option.some.inj isInstant'
    rw [equal]
    exact ⟨rfl, rfl, rfl, rfl, rfl⟩

/-- For every input: a decision that answers is safe; decisions over inputs that differ in their
advice agree in gates, action, outcome, aspects and authority; and decisions over two orders of one
input agree, whatever the hashes, exactly if the coverage of both is judged in one order. -/
theorem evidence_decisions (value : EvidenceDecisionInput) :
    (∀ (digests : DecisionDigests) (recordedAt : Option AwareTime) (decision : EvidenceDecision),
      createEvidenceDecision digests value recordedAt = .ok decision →
        decision.action.answers →
          AnswersSafely value.toDecisionFields decision.action decision.openAspects) ∧
    (∀ (digests : DecisionDigests) (other : EvidenceDecisionInput)
        (recordedAt : Option AwareTime) (decision decision' : EvidenceDecision),
      SameButAdvice value.toDecisionFields other.toDecisionFields →
        createEvidenceDecision digests value recordedAt = .ok decision →
          createEvidenceDecision digests other recordedAt = .ok decision' →
            SameAuthority decision.toDecisionBody decision'.toDecisionBody) ∧
    ∀ (other : EvidenceDecisionInput) (instant : AwareTime),
      SameButOrder value.toDecisionFields other.toDecisionFields →
        validateTimeCausality value.toDecisionFields instant = .ok () →
          ((∀ (digests : DecisionDigests) (decision decision' : EvidenceDecision),
            createEvidenceDecision digests value (some instant) = .ok decision →
              createEvidenceDecision digests other (some instant) = .ok decision' →
                SameDecision decision.toDecisionBody decision'.toDecisionBody) ↔
            usedCoverage value.toDecisionFields = usedCoverage other.toDecisionFields) :=
  ⟨fun _ _ _ => answersSafely_of_created, fun _ _ _ _ _ => SameAuthority.of_advice,
    fun _ _ => sameDecision_iff⟩

/-! ## Requirements that are in order already -/

/-- An aspect with one good reference. -/
def coveredAspect (aspectId : String) : AspectCoverage :=
  { aspectId := aspectId
    status := .covered
    authorityReferences :=
      [.factRevision ("fact_" ++ aspectId) ["evidence"] ⟨.current, .inScope, .authorized⟩]
    explanation := "covered"
    references_of_claimed := fun _ => List.cons_ne_nil _ _ }

/-- A question with two requirements in resolved order, and the coverage in an order of its own. -/
def twoAspects (coverage : List String)
    (unique : ((coverage.map coveredAspect).map AspectCoverage.aspectId).Nodup)
    (same : ∀ aspectId, aspectId ∈ (coverage.map coveredAspect).map AspectCoverage.aspectId ↔
      aspectId ∈ ["a", "b"]) : EvidenceDecisionInput :=
  { normalizedQuestion := "which tea, and when?"
    parentDecisionId := none
    requirements := [⟨"a", "which tea", .explicitUser⟩, ⟨"b", "when", .explicitUser⟩]
    scope := ⟨.exact, "scope", some "scope", "the same scope", [], fun _ => nofun⟩
    coverage := coverage.map coveredAspect
    libraryFreshness :=
      { status := .noRelevantNewMaterial
        recordedCheckTime := ⟨0, 0⟩
        previousCheckTime := none
        boundedQueryHash := "query"
        candidateReferenceIds := []
        relevantMaterialReferenceIds := []
        previous_not_after := nofun
        relevant_of_new := nofun
        none_of_no_new := fun _ => rfl }
    conflicts := []
    contributions := []
    semanticAdvice := []
    requirements_nonempty := List.cons_ne_nil _ _
    requirements_bounded := by decide
    requirements_unique := by decide
    coverage_unique := unique
    same_aspects := same
    inferred_bounded := by decide }

def listedInOrder : EvidenceDecisionInput :=
  twoAspects ["a", "b"] (by decide) (fun _ => Iff.rfl)

def listedBackwards : EvidenceDecisionInput :=
  twoAspects ["b", "a"] (by decide) (by intro aspectId; simp [coveredAspect, or_comm])

/-- The coverage is listed forwards in one input and backwards in the other: the decisions have
different ids, and list the covered aspects in different orders. -/
theorem listing_order_reaches_decision :
    SameButOrder listedInOrder.toDecisionFields listedBackwards.toDecisionFields ∧
      let digests := tellingApart listedInOrder.toDecisionFields
      let seen (value : EvidenceDecisionInput) :=
        (createEvidenceDecision digests value (some ⟨0, 0⟩)).toOption.map fun decision =>
          (decision.action, decision.coveredAspects, decision.decisionId)
      seen listedInOrder = some (.answerFresh, ["a", "b"], "first") ∧
        seen listedBackwards = some (.answerFresh, ["b", "a"], "second") := by
  refine ⟨⟨List.Perm.refl _, ?_, rfl⟩, ?_⟩
  · exact List.Perm.swap _ _ _
  · decide +kernel

end Shiliu.Evidence
