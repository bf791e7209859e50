/-
Module: Shiliu.Evidence.DecisionIntegrity
Purpose: The contract of a decision's input as a check, and the check that a decision is what is decided
  over its own input. Of a decision that was created, and of one that passes the check, each aspect is
  covered or open, and none is both.
Trusted boundary: none
Main exports: evidenceDecisionInput, DecisionStands.of_verified, DecisionStands.of_created
-/
import Mathlib.Data.List.Perm.Subperm
import Shiliu.Library.Distinct
import Shiliu.Evidence.DecisionSafety

namespace Shiliu.Evidence

open Shiliu.Library

def maxConflicts : Nat := 16

def maxSemanticAdvice : Nat := 16

/-- `validate_identity_sets`, and the lengths of the lists of an input. -/
structure DecisionFields.Valid (fields : DecisionFields) : Prop where
  requirements : fields.requirements ≠ [] ∧ fields.requirements.length ≤ maxRequirements
  requirements_unique : (fields.requirements.map EvidenceRequirement.aspectId).Nodup
  coverage_unique : (fields.coverage.map AspectCoverage.aspectId).Nodup
  same_aspects :
    fields.coverage.map AspectCoverage.aspectId ⊆
        fields.requirements.map EvidenceRequirement.aspectId ∧
      fields.requirements.map EvidenceRequirement.aspectId ⊆
        fields.coverage.map AspectCoverage.aspectId
  inferred : inferredCount fields.requirements ≤ maxInferredRequirements
  conflicts : fields.conflicts.length ≤ maxConflicts
  semanticAdvice : fields.semanticAdvice.length ≤ maxSemanticAdvice

instance (fields : DecisionFields) : Decidable fields.Valid :=
  decidable_of_iff
    ((fields.requirements ≠ [] ∧ fields.requirements.length ≤ maxRequirements) ∧
      (fields.requirements.map EvidenceRequirement.aspectId).Nodup ∧
      (fields.coverage.map AspectCoverage.aspectId).Nodup ∧
      (fields.coverage.map AspectCoverage.aspectId ⊆
          fields.requirements.map EvidenceRequirement.aspectId ∧
        fields.requirements.map EvidenceRequirement.aspectId ⊆
          fields.coverage.map AspectCoverage.aspectId) ∧
      inferredCount fields.requirements ≤ maxInferredRequirements ∧
      fields.conflicts.length ≤ maxConflicts ∧ fields.semanticAdvice.length ≤ maxSemanticAdvice)
    ⟨fun ⟨one, two, three, four, five, six, seven⟩ => ⟨one, two, three, four, five, six, seven⟩,
      fun valid => ⟨valid.requirements, valid.requirements_unique, valid.coverage_unique,
        valid.same_aspects, valid.inferred, valid.conflicts, valid.semanticAdvice⟩⟩

/-- `EvidenceDecisionInput(…)`. -/
def evidenceDecisionInput (fields : DecisionFields) :
    Except DecisionFailure EvidenceDecisionInput :=
  if valid : fields.Valid then
    .ok
      { toDecisionFields := fields
        requirements_nonempty := valid.requirements.1
        requirements_bounded := valid.requirements.2
        requirements_unique := valid.requirements_unique
        coverage_unique := valid.coverage_unique
        same_aspects := fun _ =>
          ⟨fun covered => valid.same_aspects.1 covered, fun required => valid.same_aspects.2 required⟩
        inferred_bounded := valid.inferred }
  else .error (.invalid "EvidenceDecisionInput")

/-- `_verify_integrity`. -/
def verifyIntegrity (digests : DecisionDigests) (decision : EvidenceDecision) :
    Except DecisionFailure Unit := do
  let value ← evidenceDecisionInput decision.fields
  let expected ← createEvidenceDecision digests value (some decision.recordedAt)
  ensure
    (decision.decisionId = expected.decisionId ∧ decision.inputHash = expected.inputHash ∧
      decision.authorityHash = expected.authorityHash ∧
      decision.decisionHash = expected.decisionHash ∧
      decision.deterministicGates = expected.deterministicGates ∧
      decision.coveredAspects = expected.coveredAspects ∧
      decision.openAspects = expected.openAspects ∧ decision.action = expected.action ∧
      decision.reasonCodes = expected.reasonCodes ∧
      decision.failClosedOutcome = expected.failClosedOutcome)
    (.contract "EvidenceDecision integrity or deterministic interpretation drifted"
      "decision_integrity_failed")

variable {fields : DecisionFields}

theorem evidenceDecisionInput_ok :
    (∃ value, evidenceDecisionInput fields = .ok value) ↔ fields.Valid := by
  by_cases valid : fields.Valid <;> simp [evidenceDecisionInput, valid]

theorem evidenceDecisionInput_fields {value : EvidenceDecisionInput}
    (isInput : evidenceDecisionInput fields = .ok value) : value.toDecisionFields = fields := by
  rw [evidenceDecisionInput] at isInput
  split at isInput
  · cases isInput
    rfl
  · cases isInput

/-! ## What stands of a decision -/

/-- Every aspect that is required is covered or open, and is so once. -/
structure DecisionStands (decision : EvidenceDecision) : Prop where
  requirements : decision.fields.requirements ≠ [] ∧
    decision.fields.requirements.length ≤ maxRequirements
  requirements_unique : (decision.fields.requirements.map EvidenceRequirement.aspectId).Nodup
  coverage_unique : (decision.fields.coverage.map AspectCoverage.aspectId).Nodup
  same_aspects : ∀ aspectId, aspectId ∈ decision.fields.coverage.map AspectCoverage.aspectId ↔
    aspectId ∈ decision.fields.requirements.map EvidenceRequirement.aspectId
  inferred : inferredCount decision.fields.requirements ≤ maxInferredRequirements
  covered_once : decision.coveredAspects.Nodup
  open_once : decision.openAspects.Nodup
  mem_covered : ∀ aspectId, aspectId ∈ decision.coveredAspects ↔
    ∃ item ∈ decision.fields.coverage, item.aspectId = aspectId ∧ isCovered item
  mem_open : ∀ aspectId, aspectId ∈ decision.openAspects ↔
    ∃ item ∈ decision.fields.coverage, item.aspectId = aspectId ∧ ¬isCovered item
  reasons_once : decision.reasonCodes.Nodup

/-- There are thirty reasons. -/
theorem reasons_length {codes : List DecisionReasonCode} (nodup : codes.Nodup) :
    codes.length ≤ 30 := by
  have distinctIndices : (codes.map DecisionReasonCode.ctorIdx).Nodup :=
    nodup.map (Function.LeftInverse.injective DecisionReasonCode.ofNat_ctorIdx)
  have below : codes.map DecisionReasonCode.ctorIdx ⊆ List.range 30 := by
    intro index member
    obtain ⟨code, -, rfl⟩ := List.mem_map.mp member
    rw [List.mem_range]
    cases code <;> decide
  simpa using (List.subperm_of_subset distinctIndices below).length_le

theorem selectAction_reasons (value : DecisionFields) (gates : List DeterministicGateResult) :
    (selectAction value gates).reasonCodes.Nodup := by
  have refresh (reasons : List DecisionReasonCode) :
      (refreshOrResearch value reasons).reasonCodes.Nodup := by
    rw [refreshOrResearch]
    split <;> exact nodup_eraseDups _
  simp only [selectAction]
  repeat' split
  all_goals first | exact nodup_eraseDups _ | exact refresh _

namespace DecisionStands

variable {decision : EvidenceDecision} {digests : DecisionDigests}

/-- A decision over an input, whose aspects may be listed in another order. -/
theorem of_body (digests : DecisionDigests) (value : EvidenceDecisionInput) (instant : AwareTime)
    (requirements : decision.fields.requirements.Perm value.requirements)
    (coverage : decision.fields.coverage.Perm value.coverage) (covered : decision.coveredAspects =
      (decisionBody digests (normalized value.toDecisionFields) instant).coveredAspects)
    (opened : decision.openAspects =
      (decisionBody digests (normalized value.toDecisionFields) instant).openAspects)
    (reasons : decision.reasonCodes =
      (decisionBody digests (normalized value.toDecisionFields) instant).reasonCodes) :
    DecisionStands decision := by
  have judged : (normalized value.toDecisionFields).coverage.Perm decision.fields.coverage :=
    (normalized_coverage_perm value).trans coverage.symm
  have unique : ((normalized value.toDecisionFields).coverage.map AspectCoverage.aspectId).Nodup :=
    ((normalized_coverage_perm value).map _).nodup_iff.mpr value.coverage_unique
  have mem_covered (aspectId : String) : aspectId ∈ decision.coveredAspects ↔
      ∃ item ∈ decision.fields.coverage, item.aspectId = aspectId ∧ isCovered item := by
    rw [covered]
    simp only [decisionBody, List.mem_map, List.mem_filter, judged.mem_iff]
    constructor
    · rintro ⟨item, ⟨isItem, good⟩, same⟩
      exact ⟨item, isItem, same, good⟩
    · rintro ⟨item, isItem, same, good⟩
      exact ⟨item, ⟨isItem, good⟩, same⟩
  exact {
    requirements :=
      ⟨fun none => value.requirements_nonempty (none ▸ requirements).nil_eq.symm,
        requirements.length_eq ▸ value.requirements_bounded⟩
    requirements_unique := (requirements.map _).nodup_iff.mpr value.requirements_unique
    coverage_unique := (coverage.map _).nodup_iff.mpr value.coverage_unique
    same_aspects := by
      intro aspectId
      rw [(coverage.map _).mem_iff, (requirements.map _).mem_iff]
      exact value.same_aspects aspectId
    inferred := by
      rw [inferredCount, requirements.countP_eq]
      exact value.inferred_bounded
    covered_once := by
      rw [covered]
      exact unique.sublist (List.filter_sublist.map _)
    open_once := by
      rw [opened]
      exact unique.sublist List.filter_sublist
    mem_covered := mem_covered
    mem_open := by
      intro aspectId
      rw [opened]
      simp only [decisionBody, List.mem_filter, decide_eq_true_eq]
      have same : aspectId ∈ ((normalized value.toDecisionFields).coverage.filter isCovered).map
          AspectCoverage.aspectId ↔ aspectId ∈ decision.coveredAspects := by
        rw [covered]
        rfl
      rw [same, mem_covered, (judged.map _).mem_iff, List.mem_map]
      constructor
      · rintro ⟨⟨item, isItem, rfl⟩, uncovered⟩
        exact ⟨item, isItem, rfl, fun good => uncovered ⟨item, isItem, rfl, good⟩⟩
      · rintro ⟨item, isItem, rfl, bad⟩
        refine ⟨⟨item, isItem, rfl⟩, ?_⟩
        rintro ⟨other, isOther, same, good⟩
        have distinctAspects := (coverage.map _).nodup_iff.mpr value.coverage_unique
        exact bad (List.inj_on_of_nodup_map distinctAspects isOther isItem same ▸ good)
    reasons_once := by
      rw [reasons]
      exact selectAction_reasons _ _ }

theorem of_created {value : EvidenceDecisionInput} {recordedAt : Option AwareTime}
    (created : createEvidenceDecision digests value recordedAt = .ok decision) :
    DecisionStands decision := by
  obtain ⟨instant, -, -, -, rfl⟩ := createEvidenceDecision_ok.mp created
  refine of_body digests value instant ?_ (normalized_coverage_perm value) rfl rfl rfl
  change (normalized value.toDecisionFields).requirements.Perm _
  rw [normalized_requirements]
  exact resolvedOrder_perm value.requirements_unique

theorem of_verified (verified : verifyIntegrity digests decision = .ok ()) :
    DecisionStands decision := by
  simp only [verifyIntegrity, bind_eq_ok, ensure_eq_ok] at verified
  obtain ⟨value, isInput, expected, created, -, -, -, -, -, covered, opened, -, reasons, -⟩ :=
    verified
  obtain ⟨instant, -, -, -, rfl⟩ := createEvidenceDecision_ok.mp created
  have same := evidenceDecisionInput_fields isInput
  apply of_body digests value instant
  · rw [same]
  · rw [same]
  · exact covered
  · exact opened
  · exact reasons

end DecisionStands

end Shiliu.Evidence
