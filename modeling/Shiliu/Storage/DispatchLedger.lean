/-
Module: Shiliu.Storage.DispatchLedger
Purpose: The budget days and the dispatch receipts, with the three transactions that write them:
  `reserve_dispatch`, `settle_dispatch` and `release_dispatch`. A budget day is keyed by principal,
  date and lane, a receipt by principal and dispatch id; the status, the usage and the time of
  settlement are what the transactions branch on.
Trusted boundary: none
Main exports: BudgetDay, Receipt, DispatchLedger, releaseDispatch, LedgerAction, stepLedger
-/
import Shiliu.Library.Bookkeeping
import Shiliu.Library.Transition
import Shiliu.Storage.Basic
import Shiliu.Storage.Usage

namespace Shiliu.Storage

open Shiliu.Library

/-- `ResourceContext`: the workspace and its owner. -/
structure ResourceContext where
  workspaceId : String
  userId : String
deriving DecidableEq

/-- A calendar date, as its number of days. -/
abbrev Day := Nat

/-- The date in Asia/Shanghai, eight hours ahead of the clock. -/
def shanghaiDate (now : Instant) : Day :=
  (now + 8 * 3600 * microsPerSecond) / (24 * 3600 * microsPerSecond)

inductive Lane where
  | foreground
  | background
deriving DecidableEq

/-- The lane a text names. -/
def laneOf : String → Option Lane
  | "foreground" => some .foreground
  | "background" => some .background
  | _ => none

structure DayKey where
  context : ResourceContext
  budgetDate : Day
  lane : Lane
deriving DecidableEq

/-- A row of `assistant_model_budget_days`. -/
structure BudgetDay where
  key : DayKey
  requestLimit : Int
  requestsUsed : Int
  usageJson : Counters

inductive DispatchStatus where
  | reserved
  | settled
  | unknown
  | released
deriving DecidableEq

structure ReceiptKey where
  context : ResourceContext
  dispatchId : String
deriving DecidableEq

/-- A row of `model_dispatch_receipts`. -/
structure Receipt where
  key : ReceiptKey
  runId : Option String
  jobId : Option String
  lane : Lane
  budgetDay : Day
  status : DispatchStatus
  reservedRequests : Int
  usage : Option Usage
  requestHash : Option String
  settledAt : Option Instant

/-- The budget day a receipt is charged to. -/
def Receipt.dayKey (receipt : Receipt) : DayKey :=
  ⟨receipt.key.context, receipt.budgetDay, receipt.lane⟩

structure DispatchLedger where
  days : Table BudgetDay.key
  receipts : Table Receipt.key

def DispatchLedger.empty : DispatchLedger :=
  ⟨Table.empty BudgetDay.key, Table.empty Receipt.key⟩

/-- The keyword arguments of `reserve_dispatch`. -/
structure Reservation where
  lane : String
  requestLimit : Int
  requestHash : String
  requests : Int
  runId : Option String
  jobId : Option String
  day : Option Day

/-- `re.fullmatch('[0-9a-f]{64}', request_hash)`. -/
def isRequestHash (text : String) : Bool :=
  text.length = 64 ∧
    text.toList.all fun letter => ('0' ≤ letter ∧ letter ≤ '9') ∨ ('a' ≤ letter ∧ letter ≤ 'f')

/-- `_same_binding`. -/
def sameBinding (receipt : Receipt) (day : Day) (lane : Lane) (args : Reservation) :
    Except Failure Unit :=
  match receipt.requestHash with
  | none => .error (.coordinationConflict "dispatch_input_identity_unverifiable")
  | some requestHash =>
      if receipt.budgetDay = day ∧ receipt.lane = lane ∧
          receipt.reservedRequests = args.requests ∧ receipt.runId = args.runId ∧
          receipt.jobId = args.jobId ∧ requestHash = args.requestHash then .ok ()
      else .error (.coordinationConflict "dispatch_identity_mismatch")

/-- The budget day `reserve_dispatch` inserts when there is none. -/
def freshDay (key : DayKey) (requestLimit : Int) : BudgetDay :=
  { key := key
    requestLimit := requestLimit
    requestsUsed := 0
    usageJson := ∅ }

/-- `reserve_dispatch`. -/
def reserveDispatch (now : Instant) (ledger : DispatchLedger) (context : ResourceContext)
    (dispatchId : String) (args : Reservation) : Except Failure (DispatchLedger × Receipt) :=
  if !isRequestHash args.requestHash then
    .error (.valueError "explicit_dispatch_request_hash_required")
  else
    match laneOf args.lane with
    | none => .error (.valueError "invalid_budget_reservation")
    | some lane =>
        if args.requests < 1 ∨ args.requestLimit < 1 then
          .error (.valueError "invalid_budget_reservation")
        else
          let day := args.day.getD (shanghaiDate now)
          let key : DayKey := ⟨context, day, lane⟩
          let days := ledger.days.insert (freshDay key args.requestLimit)
          match days.lookup key with
          | none => .error .typeError
          | some budget =>
              if budget.requestLimit ≠ args.requestLimit then
                .error (.coordinationConflict "budget_policy_mismatch")
              else
                match ledger.receipts.lookup ⟨context, dispatchId⟩ with
                | some old => do
                    sameBinding old day lane args
                    .ok ({ ledger with days := days }, old)
                | none =>
                    if args.requestLimit < budget.requestsUsed + args.requests then
                      .error (.coordinationConflict "budget_exhausted")
                    else
                      let receipt : Receipt :=
                        { key := ⟨context, dispatchId⟩
                          runId := args.runId
                          jobId := args.jobId
                          lane := lane
                          budgetDay := day
                          status := .reserved
                          reservedRequests := args.requests
                          usage := none
                          requestHash := some args.requestHash
                          settledAt := none }
                      .ok
                        ({ days :=
                             days.modify receipt.dayKey
                               ⟨fun row =>
                                 { row with requestsUsed := row.requestsUsed + args.requests },
                                fun _ => rfl⟩
                           receipts := ledger.receipts.insert receipt },
                          receipt)

/-- Python's `int(…)` of a number. -/
def truncated (value : ℚ) : Int := value.num.tdiv value.den

/-- `int(aggregate.get(key, 0))`. -/
def countOf (aggregate : Counters) (key : String) : Int := truncated (aggregate.amount key)

/-- The aggregate after a first settlement. -/
def settledAggregate (aggregate : Counters) (usage : Option Usage) : Counters :=
  let answered := aggregate.insert "responses" ((countOf aggregate "responses" + 1 : Int) : ℚ)
  match usage with
  | none =>
      answered.insert "unknown_responses"
        ((countOf answered "unknown_responses" + 1 : Int) : ℚ)
  | some usage => addUsage answered usage

/-- The aggregate after a receipt of unknown outcome is upgraded. -/
def upgradedAggregate (aggregate : Counters) (usage : Usage) : Counters :=
  addUsage
    (aggregate.insert "unknown_responses"
      ((max 0 (countOf aggregate "unknown_responses" - 1) : Int) : ℚ))
    usage

/-- `row['usage'] == usage`. -/
def sameUsage : Option Usage → Option Usage → Bool
  | none, none => true
  | some first, some second => Usage.same first second
  | _, _ => false

/-- The two updates a settlement makes: the aggregate of the day, and the receipt. -/
def recordSettlement (ledger : DispatchLedger) (row : Receipt) (aggregate : Counters)
    (status : DispatchStatus) (usage : Option Usage) (settledAt : Option Instant) :
    DispatchLedger × Receipt :=
  ({ days :=
       ledger.days.modify row.dayKey
         ⟨fun day => { day with usageJson := aggregate }, fun _ => rfl⟩
     receipts :=
       ledger.receipts.modify row.key
         ⟨fun receipt => { receipt with status := status, usage := usage, settledAt := settledAt },
          fun _ => rfl⟩ },
    { row with status := status, usage := usage, settledAt := settledAt })

/-- `isinstance(value, (int, float)) and not math.isfinite(value)`, for some value. -/
def hasNonfinite (usage : Usage) : Bool :=
  usage.entries.any fun entry => entry.2 = .nonfinite

/-- `settle_dispatch`. -/
def settleDispatch (now : Instant) (ledger : DispatchLedger) (context : ResourceContext)
    (dispatchId : String) (usage : Option Usage) : Except Failure (DispatchLedger × Receipt) :=
  if usage.any hasNonfinite then .error (.valueError "nonfinite_usage")
  else
    match ledger.receipts.lookup ⟨context, dispatchId⟩ with
    | none => .error (.coordinationConflict "dispatch_not_reserved")
    | some row =>
        match row.settledAt with
        | some settledAt =>
            if sameUsage row.usage usage then .ok (ledger, row)
            else
              match row.status, row.usage, usage with
              | .unknown, none, some usage =>
                  match ledger.days.lookup row.dayKey with
                  | none => .error .typeError
                  | some budget =>
                      .ok
                        (recordSettlement ledger row (upgradedAggregate budget.usageJson usage)
                          .settled (some usage) (some settledAt))
              | _, _, _ => .error (.coordinationConflict "dispatch_settlement_mismatch")
        | none =>
            match ledger.days.lookup row.dayKey with
            | none => .error .typeError
            | some budget =>
                .ok
                  (recordSettlement ledger row (settledAggregate budget.usageJson usage)
                    (if usage.isNone then .unknown else .settled) usage (some now))

/-- `release_dispatch`. -/
def releaseDispatch (now : Instant) (ledger : DispatchLedger) (context : ResourceContext)
    (dispatchId : String) : Except Failure (DispatchLedger × Receipt) :=
  match ledger.receipts.lookup ⟨context, dispatchId⟩ with
  | none => .error (.coordinationConflict "dispatch_not_reserved")
  | some receipt =>
      if receipt.status = .released then .ok (ledger, receipt)
      else if receipt.status ≠ .reserved ∨ receipt.settledAt ≠ none then
        .error (.coordinationConflict "dispatch_already_sent_or_settled")
      else
        match ledger.days.lookup receipt.dayKey with
        | none => .error (.coordinationConflict "budget_reservation_inconsistent")
        | some budget =>
            if budget.requestsUsed < receipt.reservedRequests then
              .error (.coordinationConflict "budget_reservation_inconsistent")
            else
              .ok
                ({ days :=
                     ledger.days.modify receipt.dayKey
                       ⟨fun day =>
                         { day with requestsUsed := day.requestsUsed - receipt.reservedRequests },
                        fun _ => rfl⟩
                   receipts :=
                     ledger.receipts.modify receipt.key
                       ⟨fun row => { row with status := .released, settledAt := some now },
                        fun _ => rfl⟩ },
                  { receipt with status := .released, settledAt := some now })

/-- One transaction on the ledger, by any principal. -/
inductive LedgerAction where
  | reserve (now : Instant) (context : ResourceContext) (dispatchId : String) (args : Reservation)
  | settle (now : Instant) (context : ResourceContext) (dispatchId : String)
      (usage : Option Usage)
  | release (now : Instant) (context : ResourceContext) (dispatchId : String)

def performLedger (ledger : DispatchLedger) :
    LedgerAction → Except Failure (DispatchLedger × Receipt)
  | .reserve now context dispatchId args => reserveDispatch now ledger context dispatchId args
  | .settle now context dispatchId usage => settleDispatch now ledger context dispatchId usage
  | .release now context dispatchId => releaseDispatch now ledger context dispatchId

/-- The ledger after a transaction, which is the ledger before it when it is refused. -/
def stepLedger (ledger : DispatchLedger) (action : LedgerAction) : DispatchLedger :=
  settled ledger (performLedger ledger action)

/-! ## What each transaction does -/

variable {now : Instant} {ledger after : DispatchLedger} {context : ResourceContext}
  {dispatchId : String} {result : Receipt}

/-- A reservation returns the receipt it finds or charges a new one; either way the budget day is
there afterwards. -/
theorem reserveDispatch_ok {args : Reservation}
    (done : reserveDispatch now ledger context dispatchId args = .ok (after, result)) :
    ∃ lane, ∃ day : BudgetDay,
      day = freshDay ⟨context, args.day.getD (shanghaiDate now), lane⟩ args.requestLimit ∧
      1 ≤ args.requests ∧ 1 ≤ args.requestLimit ∧
      ((after.days = ledger.days.insert day ∧ after.receipts = ledger.receipts) ∨
        (ledger.receipts.lookup ⟨context, dispatchId⟩ = none ∧
          (∃ budget, (ledger.days.insert day).lookup day.key = some budget ∧
            budget.requestsUsed + args.requests ≤ budget.requestLimit) ∧
          result.key = ⟨context, dispatchId⟩ ∧ result.dayKey = day.key ∧
          result.status = .reserved ∧ result.reservedRequests = args.requests ∧
          result.usage = none ∧ result.settledAt = none ∧
          after =
            { days :=
                (ledger.days.insert day).modify result.dayKey
                  ⟨fun row => { row with requestsUsed := row.requestsUsed + args.requests },
                   fun _ => rfl⟩
              receipts := ledger.receipts.insert result })) := by
  unfold reserveDispatch at done
  by_cases hashed : isRequestHash args.requestHash
  case neg => simp [hashed] at done
  simp only [hashed, Bool.not_true, Bool.false_eq_true, if_false] at done
  cases isLane : laneOf args.lane with
  | none => simp [isLane] at done
  | some lane =>
      simp only [isLane] at done
      by_cases positive : args.requests < 1 ∨ args.requestLimit < 1
      case pos => simp [positive] at done
      simp only [positive, if_false] at done
      refine ⟨lane, _, rfl, by omega, by omega, ?_⟩
      split at done
      · cases done
      · rename_i budget isBudget
        by_cases sameLimit : budget.requestLimit = args.requestLimit
        case neg => simp [sameLimit] at done
        simp only [sameLimit, ne_eq, not_true_eq_false, if_false] at done
        split at done
        · rename_i old isOld
          cases binding : sameBinding old (args.day.getD (shanghaiDate now)) lane args with
          | error failure =>
              rw [binding] at done
              cases done
          | ok checked =>
              rw [binding] at done
              cases done
              exact Or.inl ⟨rfl, rfl⟩
        · rename_i absent
          split_ifs at done with exhausted
          cases done
          refine Or.inr ⟨absent, ⟨budget, isBudget, ?_⟩, rfl, rfl, rfl, rfl, rfl, rfl, rfl⟩
          rw [sameLimit]
          omega

/-- A settlement finds nothing to do, upgrades a receipt of unknown outcome, or settles a
reservation. -/
theorem settleDispatch_ok {usage : Option Usage}
    (done : settleDispatch now ledger context dispatchId usage = .ok (after, result)) :
    after = ledger ∨
      ∃ row budget, ledger.receipts.lookup row.key = some row ∧
        ledger.days.lookup row.dayKey = some budget ∧
        ((∃ object, row.status = .unknown ∧ row.usage = none ∧ usage = some object ∧
            row.settledAt.isSome ∧
            after = (recordSettlement ledger row (upgradedAggregate budget.usageJson object)
              .settled (some object) row.settledAt).1) ∨
          (row.settledAt = none ∧
            after = (recordSettlement ledger row (settledAggregate budget.usageJson usage)
              (if usage.isNone then .unknown else .settled) usage (some now)).1)) := by
  unfold settleDispatch at done
  split at done
  · cases done
  split at done
  · cases done
  · rename_i row found
    have found : ledger.receipts.lookup row.key = some row := by
      rwa [Table.key_of_lookup found]
    split at done
    · rename_i settledAt isSettled
      split at done
      · cases done
        exact Or.inl rfl
      · split at done
        · rename_i object isUnknown noUsage _ _
          split at done
          · cases done
          · rename_i budget isBudget
            cases done
            exact Or.inr ⟨row, budget, found, isBudget,
              Or.inl ⟨object, isUnknown, noUsage, rfl, by simp [isSettled],
                by rw [isSettled]; rfl⟩⟩
        · cases done
    · rename_i unsettled
      split at done
      · cases done
      · rename_i budget isBudget
        cases done
        exact Or.inr ⟨row, budget, found, isBudget, Or.inr ⟨unsettled, rfl⟩⟩

/-- A release finds nothing to do, or gives the reserved requests back. -/
theorem releaseDispatch_ok
    (done : releaseDispatch now ledger context dispatchId = .ok (after, result)) :
    after = ledger ∨
      ∃ row, ledger.receipts.lookup row.key = some row ∧ row.status = .reserved ∧
        after =
          { days :=
              ledger.days.modify row.dayKey
                ⟨fun day => { day with requestsUsed := day.requestsUsed - row.reservedRequests },
                 fun _ => rfl⟩
            receipts :=
              ledger.receipts.modify row.key
                ⟨fun receipt => { receipt with status := .released, settledAt := some now },
                 fun _ => rfl⟩ } := by
  unfold releaseDispatch at done
  split at done
  · cases done
  · rename_i row found
    have found : ledger.receipts.lookup row.key = some row := by
      rwa [Table.key_of_lookup found]
    split at done
    · cases done
      exact Or.inl rfl
    · split at done
      · cases done
      · rename_i reserved
        split at done
        · cases done
        · split at done
          · cases done
          · cases done
            refine Or.inr ⟨row, found, ?_, rfl⟩
            by_contra different
            exact reserved (Or.inl different)

end Shiliu.Storage
