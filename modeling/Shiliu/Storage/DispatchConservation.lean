/-
Module: Shiliu.Storage.DispatchConservation
Purpose: The budget days and the dispatch receipts stay in step. A budget day is read as an account
  with one balance per meter (requests, responses, unknown responses, every usage key), a receipt
  as an entry that posts to those meters what its status says; each transaction is then a posting,
  a correction or nothing. What has been settled or released is never touched again.
Trusted boundary: none
Main exports: Meter, Balanced, DispatchLedger.Conserved, dispatch_ledger_conservation
-/
import Shiliu.Storage.DispatchLedger

set_option linter.all false

namespace Shiliu.Storage

open Shiliu.Library

/-! ## Meters -/

/-- What a budget day keeps a balance of. -/
inductive Meter where
  | requests
  | responses
  | unknownResponses
  | counter (name : String)

/-- The two keys of `usage_json` the ledger keeps for itself. -/
def reservedKey (name : String) : Prop := name = "responses" ∨ name = "unknown_responses"

/-- A usage key is metered as a counter unless the ledger keeps it for itself. -/
def Meter.Proper : Meter → Prop
  | .counter name => ¬ reservedKey name
  | _ => True

/-- The balance a budget day shows. -/
def BudgetDay.reading (day : BudgetDay) : Meter → ℚ
  | .requests => day.requestsUsed
  | .responses => day.usageJson.amount "responses"
  | .unknownResponses => day.usageJson.amount "unknown_responses"
  | .counter name => day.usageJson.amount name

/-- What a receipt holds under a usage key. -/
def Receipt.usageAmount (receipt : Receipt) (name : String) : ℚ :=
  (receipt.usage.map fun usage => Usage.amount usage name).getD 0

/-- The receipt counts as an answer of the provider. -/
def Receipt.answered (receipt : Receipt) : Bool :=
  receipt.status = .settled ∨ receipt.status = .unknown

/-- What a receipt posts. -/
def Receipt.charge (receipt : Receipt) : Meter → ℚ
  | .requests => if receipt.status ≠ .released then receipt.reservedRequests else 0
  | .responses => if receipt.answered then 1 else 0
  | .unknownResponses => if receipt.status = .unknown then 1 else 0
  | .counter name => if receipt.status = .settled then receipt.usageAmount name else 0

/-- A usage object that stays away from the ledger's own keys. -/
def PlainUsage (usage : Usage) : Prop := "responses" ∉ usage ∧ "unknown_responses" ∉ usage

theorem PlainUsage.amount_eq_zero {usage : Usage} (plain : PlainUsage usage) {name : String}
    (isReserved : reservedKey name) : Usage.amount usage name = 0 := by
  have absent : usage.lookup name = none := by
    rcases isReserved with rfl | rfl
    · exact AList.lookup_eq_none.mpr plain.1
    · exact AList.lookup_eq_none.mpr plain.2
  simp [Usage.amount, absent]

/-! ## The aggregates -/

@[simp] theorem truncated_intCast (value : Int) : truncated (value : ℚ) = value := by
  simp [truncated]

@[simp] theorem truncated_natCast (value : Nat) : truncated (value : ℚ) = value := by
  exact_mod_cast truncated_intCast value

variable {aggregate : Counters} {ledger after : DispatchLedger} {row result : Receipt}
  {now : Instant} {context : ResourceContext} {dispatchId : String}

theorem amount_settledAggregate {responses unknown : Nat}
    (isResponses : aggregate.amount "responses" = responses)
    (isUnknown : aggregate.amount "unknown_responses" = unknown) (usage : Option Usage)
    (plain : ∀ object ∈ usage, PlainUsage object) :
    (settledAggregate aggregate usage).amount "responses" = responses + 1 ∧
      (settledAggregate aggregate usage).amount "unknown_responses" =
        unknown + (if usage.isNone then 1 else 0) ∧
      ∀ name, ¬ reservedKey name → (settledAggregate aggregate usage).amount name =
        aggregate.amount name + (usage.map fun object => Usage.amount object name).getD 0 := by
  cases usage with
  | none =>
      refine ⟨?_, ?_, ?_⟩
      · rw [settledAggregate, amount_insert_of_ne _ _ (by decide), amount_insert_self, countOf,
          isResponses]
        simp
      · rw [settledAggregate, amount_insert_self, countOf, amount_insert_of_ne _ _ (by decide),
          isUnknown]
        simp
      · intro name proper
        rw [settledAggregate, amount_insert_of_ne _ _ (fun same => proper (Or.inr same)),
          amount_insert_of_ne _ _ (fun same => proper (Or.inl same))]
        simp
  | some object =>
      have plain := plain object rfl
      refine ⟨?_, ?_, ?_⟩
      · rw [settledAggregate, amount_addUsage, amount_insert_self, countOf, isResponses,
          plain.amount_eq_zero (Or.inl rfl)]
        simp
      · rw [settledAggregate, amount_addUsage, amount_insert_of_ne _ _ (by decide), isUnknown,
          plain.amount_eq_zero (Or.inr rfl)]
        simp
      · intro name proper
        rw [settledAggregate, amount_addUsage,
          amount_insert_of_ne _ _ (fun same => proper (Or.inl same))]
        simp

theorem amount_upgradedAggregate {unknown : Nat}
    (isUnknown : aggregate.amount "unknown_responses" = unknown) (counted : 1 ≤ unknown)
    {usage : Usage} (plain : PlainUsage usage) :
    (upgradedAggregate aggregate usage).amount "responses" = aggregate.amount "responses" ∧
      (upgradedAggregate aggregate usage).amount "unknown_responses" + 1 = unknown ∧
      ∀ name, ¬ reservedKey name → (upgradedAggregate aggregate usage).amount name =
        aggregate.amount name + Usage.amount usage name := by
  refine ⟨?_, ?_, ?_⟩
  · rw [upgradedAggregate, amount_addUsage, amount_insert_of_ne _ _ (by decide),
      plain.amount_eq_zero (Or.inl rfl), add_zero]
  · have least : max 0 ((unknown : Int) - 1) = unknown - 1 := by omega
    rw [upgradedAggregate, amount_addUsage, amount_insert_self, countOf, isUnknown,
      plain.amount_eq_zero (Or.inr rfl), truncated_natCast, least]
    simp
  · intro name proper
    rw [upgradedAggregate, amount_addUsage,
      amount_insert_of_ne _ _ (fun same => proper (Or.inr same))]

/-! ## The invariant -/

/-- What the status of a receipt says about its other columns. -/
def Receipt.WellFormed (receipt : Receipt) : Prop :=
  (receipt.settledAt = none ↔ receipt.status = .reserved) ∧
    (receipt.status ≠ .settled → receipt.usage = none) ∧ 1 ≤ receipt.reservedRequests

/-- The two tables are in step. -/
structure Balanced (ledger : DispatchLedger) : Prop where
  homed : ∀ receipt ∈ ledger.receipts, ∃ day, ledger.days.lookup receipt.dayKey = some day
  limited : ∀ day ∈ ledger.days, day.requestsUsed ≤ day.requestLimit
  wellFormed : ∀ receipt ∈ ledger.receipts, receipt.WellFormed
  reconciled : ∀ meter : Meter, meter.Proper →
    Reconciled Receipt.dayKey (fun day => day.reading meter) (fun receipt => receipt.charge meter)
      ledger.days ledger.receipts

theorem empty_balanced : Balanced DispatchLedger.empty where
  homed receipt member := absurd member (Table.not_mem_empty receipt)
  limited day member := absurd member (Table.not_mem_empty day)
  wellFormed receipt member := absurd member (Table.not_mem_empty receipt)
  reconciled _ _ := Reconciled.empty

theorem Balanced.openDay (balanced : Balanced ledger) {key : DayKey} {requestLimit : Int}
    (positive : 0 ≤ requestLimit) :
    Balanced { ledger with days := ledger.days.insert (freshDay key requestLimit) } := by
  cases found : ledger.days.lookup key with
  | some present =>
      have found : ledger.days.lookup (freshDay key requestLimit).key = some present := found
      rw [Table.insert_of_lookup found]
      exact balanced
  | none =>
      constructor
      case homed =>
          intro receipt member
          obtain ⟨day, isDay⟩ := balanced.homed receipt member
          exact ⟨day, Table.lookup_insert_of_lookup isDay⟩
      case limited =>
          intro day member
          rcases (Table.mem_insert found).mp member with old | rfl
          · exact balanced.limited day old
          · exact positive
      case wellFormed => exact balanced.wellFormed
      case reconciled =>
          intro meter proper
          refine (balanced.reconciled meter proper).openAccount found ?_ ?_
          · cases meter <;> simp [BudgetDay.reading, freshDay]
          · intro receipt member isHome
            obtain ⟨day, isDay⟩ := balanced.homed receipt member
            rw [isHome] at isDay
            exact Option.some_ne_none day (isDay.symm.trans found)

theorem Balanced.correct (balanced : Balanced ledger)
    (found : ledger.receipts.lookup row.key = some row) {amend : Change Receipt.key}
    {change : Change BudgetDay.key}
    (sameHome : ∀ receipt, (amend.apply receipt).dayKey = receipt.dayKey)
    (limited : ∀ day, day.requestsUsed ≤ day.requestLimit →
      (change.apply day).requestsUsed ≤ (change.apply day).requestLimit)
    (wellFormed : (amend.apply row).WellFormed)
    (moved : ∀ meter : Meter, meter.Proper → ∀ day ∈ ledger.days, day.key = row.dayKey →
      (change.apply day).reading meter + row.charge meter =
        day.reading meter + (amend.apply row).charge meter) :
    Balanced
      { days := ledger.days.modify row.dayKey change
        receipts := ledger.receipts.modify row.key amend } := by
  have onlyRow : ∀ receipt ∈ ledger.receipts, receipt.key = row.key → receipt = row :=
    fun receipt member same => Table.eq_of_key member (Table.mem_of_lookup found) same
  constructor
  case homed =>
      intro receipt member
      refine Table.exists_lookup_modify ?_ row.dayKey change
      rcases Table.mem_modify.mp member with ⟨before, isBefore, _, rfl⟩ | ⟨old, _⟩
      · rw [sameHome]
        exact balanced.homed before isBefore
      · exact balanced.homed receipt old
  case limited =>
      intro day member
      rcases Table.mem_modify.mp member with ⟨before, isBefore, _, rfl⟩ | ⟨old, _⟩
      · exact limited before (balanced.limited before isBefore)
      · exact balanced.limited day old
  case wellFormed =>
      intro receipt member
      rcases Table.mem_modify.mp member with ⟨before, isBefore, same, rfl⟩ | ⟨old, _⟩
      · rw [onlyRow before isBefore same]
        exact wellFormed
      · exact balanced.wellFormed receipt old
  case reconciled =>
      intro meter proper
      exact (balanced.reconciled meter proper).correct found amend (sameHome row) change
        (moved meter proper)

theorem Balanced.counted (balanced : Balanced ledger) {day : BudgetDay}
    (member : day ∈ ledger.days) :
    day.usageJson.amount "responses" =
        (ledger.receipts.count fun receipt => receipt.dayKey = day.key && receipt.answered : Nat) ∧
      day.usageJson.amount "unknown_responses" =
        (ledger.receipts.count fun receipt =>
          receipt.dayKey = day.key && receipt.status = .unknown : Nat) := by
  constructor
  · rw [Table.count_eq_total, ← Table.total_ite]
    exact balanced.reconciled .responses trivial day member
  · rw [Table.count_eq_total, ← Table.total_ite]
    simp only [decide_eq_true_eq]
    exact balanced.reconciled .unknownResponses trivial day member

/-! ## One transaction -/

/-- A settlement's updates, when the aggregate shows the difference the receipt makes. -/
theorem Balanced.recordSettlement (balanced : Balanced ledger) {budget : BudgetDay}
    {status : DispatchStatus} {usage : Option Usage} {settledAt : Option Instant}
    (found : ledger.receipts.lookup row.key = some row)
    (isBudget : ledger.days.lookup row.dayKey = some budget) (wellFormed : Receipt.WellFormed
      { row with status := status, usage := usage, settledAt := settledAt })
    (moved : ∀ meter : Meter, meter.Proper →
      BudgetDay.reading { budget with usageJson := aggregate } meter + row.charge meter =
        budget.reading meter +
          Receipt.charge { row with status := status, usage := usage, settledAt := settledAt }
            meter) :
    Balanced (recordSettlement ledger row aggregate status usage settledAt).1 := by
  refine balanced.correct found (fun _ => rfl) (fun _ within => within) wellFormed ?_
  intro meter proper day member isHome
  have isBudget' : ledger.days.lookup row.dayKey = some day := by
    rw [← isHome]
    exact Table.lookup_of_mem member
  obtain rfl : budget = day := Option.some.inj (isBudget.symm.trans isBudget')
  exact moved meter proper

theorem reserve_balanced {args : Reservation} (balanced : Balanced ledger)
    (done : reserveDispatch now ledger context dispatchId args = .ok (after, result)) :
    Balanced after := by
  obtain ⟨lane, day, isDay, atLeastOne, positive, outcome⟩ := reserveDispatch_ok done
  have opened : Balanced { ledger with days := ledger.days.insert day } := by
    rw [isDay]
    exact balanced.openDay (by omega)
  rcases outcome with ⟨days, receipts⟩ |
    ⟨absent, ⟨budget, isBudget, within⟩, key, dayKey, status, reserved, usage, settledAt, rfl⟩
  · have same : after = { ledger with days := ledger.days.insert day } := by
      cases after
      simp_all
    rw [same]
    exact opened
  · rw [← key] at absent
    constructor
    case homed =>
        intro receipt member
        refine Table.exists_lookup_modify ?_ _ _
        rcases (Table.mem_insert absent).mp member with old | rfl
        · exact opened.homed receipt old
        · exact ⟨budget, by rw [dayKey]; exact isBudget⟩
    case limited =>
        intro other member
        rcases Table.mem_modify.mp member with ⟨before, isBefore, same, rfl⟩ | ⟨old, _⟩
        · have isBudget' := Table.lookup_of_mem isBefore
          rw [same, dayKey, isBudget] at isBudget'
          obtain rfl := Option.some.inj isBudget'
          exact within
        · exact opened.limited other old
    case wellFormed =>
        intro receipt member
        rcases (Table.mem_insert absent).mp member with old | rfl
        · exact opened.wellFormed receipt old
        · exact ⟨by simp [status, settledAt], fun _ => usage, by rwa [reserved]⟩
    case reconciled =>
        intro meter proper
        refine (opened.reconciled meter proper).post absent _ fun other _ _ => ?_
        cases meter <;>
          simp [BudgetDay.reading, Receipt.charge, Receipt.answered, status, reserved]

theorem unknown_pos {budget : BudgetDay} (found : ledger.receipts.lookup row.key = some row)
    (isBudget : ledger.days.lookup row.dayKey = some budget) (isUnknown : row.status = .unknown) :
    1 ≤ ledger.receipts.count fun receipt =>
      receipt.dayKey = budget.key && receipt.status = .unknown := by
  refine List.length_pos_of_mem (List.mem_filter.mpr ⟨Table.mem_of_lookup found, ?_⟩)
  simp [isUnknown, Table.key_of_lookup isBudget]

theorem settle_balanced {usage : Option Usage} (balanced : Balanced ledger)
    (plain : ∀ object ∈ usage, PlainUsage object)
    (done : settleDispatch now ledger context dispatchId usage = .ok (after, result)) :
    Balanced after := by
  rcases settleDispatch_ok done with rfl | ⟨row, budget, found, isBudget, outcome⟩
  · exact balanced
  · obtain ⟨responses, unknown⟩ := balanced.counted (Table.mem_of_lookup isBudget)
    rcases outcome with ⟨object, isUnknown, noUsage, rfl, settledAt, rfl⟩ | ⟨unsettled, rfl⟩
    · obtain ⟨sameResponses, fewerUnknown, counters⟩ := amount_upgradedAggregate unknown
        (unknown_pos found isBudget isUnknown) (plain object rfl)
      have wellFormed := balanced.wellFormed row (Table.mem_of_lookup found)
      refine balanced.recordSettlement found isBudget
        ⟨?_, fun different => absurd rfl different, wellFormed.2.2⟩ ?_
      · simp [wellFormed.1, isUnknown]
      · intro meter proper
        cases meter with
        | requests => simp [BudgetDay.reading, Receipt.charge, isUnknown]
        | responses =>
            simp [BudgetDay.reading, Receipt.charge, Receipt.answered, isUnknown, sameResponses]
        | unknownResponses =>
            simp only [BudgetDay.reading, Receipt.charge, isUnknown, if_true, unknown]
            simpa using fewerUnknown
        | counter name =>
            simp [BudgetDay.reading, Receipt.charge, isUnknown, counters name proper,
              Receipt.usageAmount]
    · have wellFormed := balanced.wellFormed row (Table.mem_of_lookup found)
      have reserved : row.status = .reserved := wellFormed.1.mp unsettled
      obtain ⟨moreResponses, moreUnknown, counters⟩ :=
        amount_settledAggregate responses unknown usage plain
      refine balanced.recordSettlement found isBudget ⟨?_, ?_, wellFormed.2.2⟩ ?_
      · cases usage <;> simp
      · cases usage <;> simp
      · intro meter proper
        cases meter with
        | requests => cases usage <;> simp [BudgetDay.reading, Receipt.charge, reserved]
        | responses =>
            simp only [BudgetDay.reading, moreResponses, responses]
            cases usage <;> simp [Receipt.charge, Receipt.answered, reserved]
        | unknownResponses =>
            simp only [BudgetDay.reading, moreUnknown, unknown]
            cases usage <;> simp [Receipt.charge, reserved]
        | counter name =>
            simp only [BudgetDay.reading, counters name proper]
            cases usage <;> simp [Receipt.charge, Receipt.usageAmount, reserved]

theorem release_balanced (balanced : Balanced ledger)
    (done : releaseDispatch now ledger context dispatchId = .ok (after, result)) :
    Balanced after := by
  rcases releaseDispatch_ok done with rfl | ⟨row, found, reserved, rfl⟩
  · exact balanced
  · obtain ⟨_, noUsage, atLeastOne⟩ := balanced.wellFormed row (Table.mem_of_lookup found)
    have noUsage : row.usage = none := noUsage (by simp [reserved])
    refine balanced.correct found (fun _ => rfl) ?_ ⟨by simp, fun _ => noUsage, atLeastOne⟩ ?_
    · intro day within
      show day.requestsUsed - row.reservedRequests ≤ day.requestLimit
      omega
    · intro meter proper day member isHome
      cases meter <;> simp [BudgetDay.reading, Receipt.charge, Receipt.answered, reserved]

/-! ## Whole runs -/

/-- The usage objects of a transaction stay away from the ledger's own keys. -/
def LedgerAction.Plain : LedgerAction → Prop
  | .settle _ _ _ usage => ∀ object ∈ usage, PlainUsage object
  | _ => True

theorem stepLedger_balanced {action : LedgerAction} (balanced : Balanced ledger)
    (plain : action.Plain) : Balanced (stepLedger ledger action) := by
  unfold stepLedger
  cases outcome : performLedger ledger action with
  | error failure => exact balanced
  | ok returned =>
      obtain ⟨after, result⟩ := returned
      cases action with
      | reserve now context dispatchId args => exact reserve_balanced balanced outcome
      | settle now context dispatchId usage => exact settle_balanced balanced plain outcome
      | release now context dispatchId => exact release_balanced balanced outcome

/-- A receipt no transaction may touch any more. -/
def Receipt.final (receipt : Receipt) : Bool :=
  receipt.status = .settled ∨ receipt.status = .released

/-- A final receipt is still there, unchanged, after any transaction. -/
theorem stepLedger_final (action : LedgerAction) (balanced : Balanced ledger) {receipt : Receipt}
    (member : receipt ∈ ledger.receipts) (final : receipt.final = true) :
    receipt ∈ (stepLedger ledger action).receipts := by
  -- a transaction changes one receipt, and that one is not final
  have untouched : ∀ {row : Receipt} {amend : Change Receipt.key},
      ledger.receipts.lookup row.key = some row → row.final = false →
      receipt ∈ ledger.receipts.modify row.key amend := by
    intro row amend found open_
    refine Table.mem_modify.mpr (Or.inr ⟨member, fun same => ?_⟩)
    rw [Table.eq_of_key member (Table.mem_of_lookup found) same, open_] at final
    cases final
  unfold stepLedger
  cases outcome : performLedger ledger action with
  | error failure => exact member
  | ok returned =>
      obtain ⟨after, result⟩ := returned
      cases action with
      | reserve now context dispatchId args =>
          obtain ⟨_, _, _, _, _, cases⟩ := reserveDispatch_ok outcome
          rcases cases with ⟨_, receipts⟩ | ⟨_, _, _, _, _, _, _, _, rfl⟩
          · rw [settled_ok, receipts]
            exact member
          · exact Table.mem_insert_of_mem member
      | settle now context dispatchId usage =>
          rcases settleDispatch_ok outcome with rfl | ⟨row, budget, found, _, cases⟩
          · exact member
          · rcases cases with ⟨_, isUnknown, _, _, _, rfl⟩ | ⟨unsettled, rfl⟩
            · exact untouched found (by simp [Receipt.final, isUnknown])
            · have reserved :=
                (balanced.wellFormed row (Table.mem_of_lookup found)).1.mp unsettled
              exact untouched found (by simp [Receipt.final, reserved])
      | release now context dispatchId =>
          rcases releaseDispatch_ok outcome with rfl | ⟨row, found, reserved, rfl⟩
          · exact member
          · exact untouched found (by simp [Receipt.final, reserved])

/-- The conservation laws of the ledger. -/
structure DispatchLedger.Conserved (ledger : DispatchLedger) : Prop where
  /-- Every receipt is charged to a budget day that exists. -/
  homed : ∀ receipt ∈ ledger.receipts, ∃ day, ledger.days.lookup receipt.dayKey = some day
  requests : ∀ day ∈ ledger.days, day.requestsUsed =
    ledger.receipts.total
      (fun receipt => receipt.dayKey = day.key && receipt.status ≠ .released)
      (fun receipt => receipt.reservedRequests)
  limited : ∀ day ∈ ledger.days, day.requestsUsed ≤ day.requestLimit
  responses : ∀ day ∈ ledger.days, day.usageJson.amount "responses" =
    (ledger.receipts.count fun receipt =>
      receipt.dayKey = day.key && (receipt.status = .settled ∨ receipt.status = .unknown) : Nat)
  unknownResponses : ∀ day ∈ ledger.days, day.usageJson.amount "unknown_responses" =
    (ledger.receipts.count fun receipt =>
      receipt.dayKey = day.key && receipt.status = .unknown : Nat)
  counters : ∀ day ∈ ledger.days, ∀ name, name ≠ "responses" → name ≠ "unknown_responses" →
    day.usageJson.amount name =
      ledger.receipts.total
        (fun receipt => receipt.dayKey = day.key && receipt.status = .settled)
        (fun receipt => receipt.usageAmount name)

theorem Balanced.conserved (balanced : Balanced ledger) :
    ledger.Conserved where
  homed := balanced.homed
  requests day member := by
    have shown : (day.requestsUsed : ℚ) =
        ledger.receipts.total (fun receipt => receipt.dayKey = day.key)
          fun receipt => if receipt.status ≠ .released then (receipt.reservedRequests : ℚ) else 0 :=
      balanced.reconciled .requests trivial day member
    have selected := Table.total_ite ledger.receipts (fun receipt => receipt.dayKey = day.key)
      (fun receipt => receipt.status ≠ .released) fun receipt => (receipt.reservedRequests : ℚ)
    simp only [decide_eq_true_eq] at selected
    rw [selected] at shown
    have cast := Table.map_total (Int.castAddHom ℚ) ledger.receipts
      (fun receipt => receipt.dayKey = day.key && receipt.status ≠ .released)
      fun receipt => receipt.reservedRequests
    exact Int.cast_injective (shown.trans cast.symm)
  limited := balanced.limited
  responses day member := (balanced.counted member).1
  unknownResponses day member := (balanced.counted member).2
  counters day member name notResponses notUnknown := by
    rw [← Table.total_ite]
    simp only [decide_eq_true_eq]
    exact balanced.reconciled (.counter name) (fun either => either.elim notResponses notUnknown)
      day member

/-- A call whose outcome is first unknown and then reported, its replay, and a release. -/
def upgradedCall : List LedgerAction :=
  let context : ResourceContext := ⟨"workspace", "user"⟩
  let args : Reservation :=
    { lane := "foreground"
      requestLimit := 2
      requestHash := String.ofList (List.replicate 64 'a')
      requests := 1
      runId := none
      jobId := none
      day := some 0 }
  [.reserve 0 context "first" args, .settle 1 context "first" none,
    .settle 2 context "first" (some (AList.singleton "input_tokens" (.number 11))),
    .reserve 3 context "second" args, .release 4 context "second"]

/-- What the upgraded call leaves on its budget day. -/
example :
    ((runFrom stepLedger .empty upgradedCall).days.rows.map fun day =>
      (day.requestsUsed, day.usageJson.amount "responses",
        day.usageJson.amount "unknown_responses", day.usageJson.amount "input_tokens")) =
      [(1, 1, 0, 11)] := by decide +kernel

end Shiliu.Storage
