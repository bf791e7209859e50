/-
Module: Shiliu.Library.Allotment
Purpose: Amounts allotted to keys under a test of the whole allotment. Every key starts with one
  common share; then each key in turn gets the greatest amount the test accepts while the others
  stay. Any test keeps an accepted allotment accepted; under a test that accepts less wherever it
  accepts more, no key can get more while those before it keep theirs.
Trusted boundary: none
Main exports: allot, allot_accepts, share_le_allot, allot_maximal, antitone_of_coordinates
-/
import Mathlib.Data.List.Nodup
import Mathlib.Logic.Function.Basic
import Shiliu.Library.Bisection

namespace Shiliu.Library

variable {Key : Type} [DecidableEq Key]

/-- Each key in turn gets the greatest accepted amount between the share and its limit. -/
def allot (accepts : (Key → Nat) → Bool) (limit : Key → Nat) (share : Nat) :
    List Key → (Key → Nat) → Key → Nat
  | [], amounts => amounts
  | key :: rest, amounts =>
      allot accepts limit share rest (Function.update amounts key
        (greatest (fun amount => accepts (Function.update amounts key amount)) share (limit key)))

section Allot

variable {accepts : (Key → Nat) → Bool} {limit : Key → Nat} {share : Nat} {keys : List Key}
  {amounts : Key → Nat}

theorem allot_append (before after : List Key) :
    allot accepts limit share (before ++ after) amounts =
      allot accepts limit share after (allot accepts limit share before amounts) := by
  induction before generalizing amounts with
  | nil => rfl
  | cons key rest inductionHypothesis => exact inductionHypothesis

theorem allot_of_notMem {key : Key} (absent : key ∉ keys) :
    allot accepts limit share keys amounts key = amounts key := by
  induction keys generalizing amounts with
  | nil => rfl
  | cons first rest inductionHypothesis =>
      rw [List.mem_cons, not_or] at absent
      rw [allot, inductionHypothesis absent.2, Function.update_of_ne absent.1]

/-- What is accepted with the share for all keys in turn stays accepted. -/
theorem allot_accepts (distinct : keys.Nodup) (shared : ∀ key ∈ keys, amounts key = share)
    (accepted : accepts amounts = true) :
    accepts (allot accepts limit share keys amounts) = true := by
  induction keys generalizing amounts with
  | nil => exact accepted
  | cons key rest inductionHypothesis =>
      obtain ⟨fresh, distinct⟩ := List.nodup_cons.mp distinct
      apply inductionHypothesis distinct
      · intro other member
        have differs : other ≠ key := fun same => fresh (same ▸ member)
        rw [Function.update_of_ne differs]
        exact shared other (List.mem_cons_of_mem _ member)
      · -- either an amount was accepted, or the key keeps the share it has
        rcases @greatest_cases (fun amount => accepts (Function.update amounts key amount)) share
          (limit key) with atShare | found
        · rw [atShare, ← shared key List.mem_cons_self, Function.update_eq_self]
          exact accepted
        · exact found

theorem share_le_allot (distinct : keys.Nodup) {key : Key} (member : key ∈ keys) :
    share ≤ allot accepts limit share keys amounts key := by
  induction keys generalizing amounts with
  | nil => nomatch member
  | cons first rest inductionHypothesis =>
      obtain ⟨fresh, distinct⟩ := List.nodup_cons.mp distinct
      rw [allot]
      by_cases isFirst : key = first
      · subst isFirst
        rw [allot_of_notMem fresh, Function.update_self]
        exact le_greatest
      · exact inductionHypothesis distinct ((List.mem_cons.mp member).resolve_left isFirst)

/-- An allotment that leaves the keys before one as they are and the keys behind it at least the
share is not accepted if that key gets more than it was allotted. -/
theorem allot_maximal (distinct : keys.Nodup)
    (antitone : ∀ smaller larger : Key → Nat, (∀ key ∈ keys, smaller key ≤ larger key) →
      accepts larger = true → accepts smaller = true)
    {before after : List Key} {key : Key} (split : keys = before ++ key :: after)
    (shared : ∀ key ∈ keys, amounts key = share) {other : Key → Nat}
    (kept : ∀ earlier ∈ before, other earlier = allot accepts limit share keys amounts earlier)
    (more : allot accepts limit share keys amounts key < other key)
    (within : other key ≤ limit key) (atLeast : ∀ later ∈ after, share ≤ other later) :
    accepts other = false := by
  subst split
  obtain ⟨-, distinctTurn, apart⟩ := List.nodup_append.mp distinct
  obtain ⟨notLater, -⟩ := List.nodup_cons.mp distinctTurn
  have notEarlier : key ∉ before := fun member => apart key member key List.mem_cons_self rfl
  -- the amounts when the key has its turn
  generalize isThen : allot accepts limit share before amounts = current at *
  have unfolded : allot accepts limit share (before ++ key :: after) amounts =
      allot accepts limit share after (Function.update current key
        (greatest (fun amount => accepts (Function.update current key amount)) share
          (limit key))) := by
    rw [allot_append, isThen, allot]
  have currentLater : ∀ later ∈ key :: after, current later = share := by
    intro later member
    rw [← isThen, allot_of_notMem fun earlier => apart later earlier later member rfl]
    exact shared later (List.mem_append_right _ member)
  rw [unfolded, allot_of_notMem notLater, Function.update_self] at more
  have rejected : accepts (Function.update current key (other key)) = false := by
    refine @rejected_above_greatest (fun amount => accepts (Function.update current key amount))
      share (limit key) ?_ _ more within
    intro smaller larger _ ordered _
    apply antitone
    intro each _
    by_cases isKey : each = key
    · subst isKey
      simpa using ordered
    · simp [Function.update_of_ne isKey]
  by_contra isAccepted
  have accepted : accepts (Function.update current key (other key)) = true := by
    apply antitone _ other _ (by simpa using isAccepted)
    intro each member
    by_cases isKey : each = key
    · subst isKey
      simp
    · rw [Function.update_of_ne isKey]
      rcases List.mem_append.mp member with earlier | later
      · have notIn : each ∉ key :: after := fun member => apart each earlier each member rfl
        rw [kept each earlier, allot_append, allot_of_notMem notIn, isThen]
      · rw [currentLater each later]
        exact atLeast each ((List.mem_cons.mp later).resolve_left isKey)
  exact Bool.false_ne_true (rejected.symm.trans accepted)

end Allot

/-- A test that accepts less of one key wherever it accepts more of it accepts less of all keys. -/
theorem antitone_of_coordinates {accepts : (Key → Nat) → Bool} {keys : List Key}
    (depends : ∀ one other : Key → Nat, (∀ key ∈ keys, one key = other key) →
      accepts one = accepts other)
    (each : ∀ (amounts : Key → Nat) (key : Key) (smaller larger : Nat), key ∈ keys →
      smaller ≤ larger → accepts (Function.update amounts key larger) = true →
        accepts (Function.update amounts key smaller) = true)
    {smaller larger : Key → Nat} (below : ∀ key ∈ keys, smaller key ≤ larger key)
    (accepted : accepts larger = true) : accepts smaller = true := by
  -- the keys are lowered one by one
  suffices lowered : ∀ part : List Key, (∀ key ∈ part, key ∈ keys) →
      accepts (fun key => if key ∈ part then smaller key else larger key) = true by
    rw [← lowered keys fun _ member => member]
    exact depends _ _ fun key member => by rw [if_pos member]
  intro part members
  induction part with
  | nil => simpa using accepted
  | cons key rest inductionHypothesis =>
      have before := inductionHypothesis fun other member => members other (List.mem_cons_of_mem _ member)
      have isKey : key ∈ keys := members key List.mem_cons_self
      by_cases again : key ∈ rest
      · refine Eq.trans (congrArg accepts ?_) before
        funext other
        by_cases same : other = key
        · simp [same, again]
        · simp [same]
      · have raised : (fun other => if other ∈ rest then smaller other else larger other) =
            Function.update (fun other => if other ∈ rest then smaller other else larger other)
              key (larger key) := by
          rw [Function.eq_update_self_iff, if_neg again]
        rw [raised] at before
        refine Eq.trans (congrArg accepts ?_) (each _ key _ _ isKey (below key isKey) before)
        funext other
        by_cases same : other = key
        · subst same
          simp
        · simp [same]

end Shiliu.Library
