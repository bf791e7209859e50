/-
Module: Shiliu.Storage.Usage
Purpose: Model usage as the stores keep it: JSON objects whose numeric entries are added up key by
  key. An object is an association list without repeated keys; numbers are exact. The loop that
  folds one response into an aggregate is shared by the dispatch ledger and by the runs of the
  assistant.
Trusted boundary: none
Main exports: UsageValue, Usage, Counters, Usage.same, addUsage, amount_addUsage
-/
import Mathlib.Algebra.Order.Ring.Rat
import Mathlib.Data.List.AList
import Mathlib.Tactic.Ring
import Shiliu.Storage.Basic

namespace Shiliu.Storage

/-- A value of a usage object, as far as Python's tests on it tell values apart. -/
inductive UsageValue where
  | number (value : ℚ)
  | boolean (value : Bool)
  /-- A float that is NaN or infinite. -/
  | nonfinite
  /-- Text, null, an array or an object, by its JSON text. -/
  | other (json : String)
deriving DecidableEq

/-- `usage`, a JSON object. -/
abbrev Usage := AList fun _ : String => UsageValue

/-- A JSON object all of whose entries are numbers. -/
abbrev Counters := AList fun _ : String => ℚ

/-- What Python's `==` compares: booleans are the numbers 0 and 1. -/
def UsageValue.asNumber : UsageValue → Option ℚ
  | .number value => some value
  | .boolean value => some (if value then 1 else 0)
  | _ => none

/-- Python's `==` on two values. -/
def UsageValue.same (first second : UsageValue) : Bool :=
  match first.asNumber, second.asNumber with
  | some one, some two => one = two
  | none, none => first = second ∧ first ≠ .nonfinite
  | _, _ => false

/-- Python's `==` on two objects. -/
def Usage.same (first second : Usage) : Bool :=
  (first.keys.all fun key =>
    match first.lookup key, second.lookup key with
    | some one, some two => one.same two
    | _, _ => false) ∧
  second.keys.all fun key => key ∈ first

/-- `aggregate.get(key, 0)`. -/
def Counters.amount (counters : Counters) (key : String) : ℚ :=
  (counters.lookup key).getD 0

/-- What a value adds to its key: `isinstance(value, (int, float))`, booleans left out. -/
def UsageValue.counted : UsageValue → ℚ
  | .number value => value
  | _ => 0

/-- What a usage object adds to a key. -/
def Usage.amount (usage : Usage) (key : String) : ℚ :=
  ((usage.lookup key).map UsageValue.counted).getD 0

/-- Python truth of a value. -/
def UsageValue.isTruthy : UsageValue → Bool
  | .number value => value ≠ 0
  | .boolean value => value
  | .nonfinite => true
  | .other json => json ∉ ["null", "\"\"", "[]", "\x7b\x7d"]

/-- The number a text of digits spells. -/
def digitsValue (digits : List Char) : Option Nat :=
  if digits ≠ [] ∧ digits.all Char.isDigit then
    some (digits.foldl (fun value digit => value * 10 + (digit.toNat - 48)) 0)
  else none

/-- `int(text)`: digits with an optional sign and white space around them; `none` if it raises. -/
def integerText (text : String) : Option Int :=
  match (strip text).toList with
  | '-' :: digits => (digitsValue digits).map fun value => -(value : Int)
  | '+' :: digits => (digitsValue digits).map fun value => (value : Int)
  | digits => (digitsValue digits).map fun value => (value : Int)

/-- `int(value)`; `none` if it raises. -/
def UsageValue.toInteger : UsageValue → Option Int
  | .number value => some (Int.tdiv value.num value.den)
  | .boolean value => some (if value then 1 else 0)
  | .nonfinite => none
  | .other json =>
      if json.toList.head? = some '"' then
        integerText (String.ofList json.toList.tail.dropLast)
      else none

/-- `aggregate[key] = aggregate.get(key, 0) + value`, for a number. -/
def addEntry (aggregate : Counters) (key : String) : UsageValue → Counters
  | .number value => aggregate.insert key (aggregate.amount key + value)
  | _ => aggregate

/-- `for key, value in usage.items()`: add every numeric entry. -/
def addUsage (aggregate : Counters) (usage : Usage) : Counters :=
  usage.foldl (fun counters key value => addEntry counters key value) aggregate

/-- An object of numbers, read as a usage object. -/
def Counters.asUsage (counters : Counters) : Usage where
  entries := counters.entries.map fun entry => ⟨entry.1, .number entry.2⟩
  nodupKeys := by
    have distinct := counters.nodupKeys
    rw [List.NodupKeys, List.keys] at distinct ⊢
    rwa [List.map_map]

@[simp] theorem amount_asUsage (counters : Counters) (key : String) :
    counters.asUsage.amount key = counters.amount key := by
  obtain ⟨entries, distinct⟩ := counters
  show (((entries.map fun entry => (⟨entry.1, .number entry.2⟩ : Sigma fun _ : String =>
    UsageValue)).dlookup key).map UsageValue.counted).getD 0 = (entries.dlookup key).getD 0
  clear distinct
  induction entries with
  | nil => rfl
  | cons entry rest inductionHypothesis =>
      obtain ⟨name, value⟩ := entry
      by_cases same : key = name
      · subst same
        simp [UsageValue.counted]
      · rw [List.dlookup_cons_ne rest ⟨name, value⟩ same, ← inductionHypothesis]
        exact congrArg (fun found => (found.map UsageValue.counted).getD 0)
          (List.dlookup_cons_ne _ (⟨name, .number value⟩ : Sigma fun _ : String => UsageValue) same)

@[simp] theorem amount_empty (key : String) : Counters.amount ∅ key = 0 := rfl

@[simp] theorem amount_insert_self (counters : Counters) (key : String) (value : ℚ) :
    Counters.amount (counters.insert key value) key = value := by
  simp [Counters.amount]

theorem amount_insert_of_ne (counters : Counters) {key other : String} (value : ℚ)
    (different : other ≠ key) :
    Counters.amount (counters.insert key value) other = counters.amount other := by
  simp [Counters.amount, AList.lookup_insert_ne different]

theorem amount_addEntry (aggregate : Counters) (key other : String) (value : UsageValue) :
    (addEntry aggregate key value).amount other =
      aggregate.amount other + if other = key then value.counted else 0 := by
  cases value with
  | number value =>
      by_cases same : other = key
      · subst same
        simp [addEntry, UsageValue.counted]
      · simp [addEntry, same, amount_insert_of_ne]
  | _ => simp [addEntry, UsageValue.counted]

/-- The loop adds to each key what the object holds under it, once. -/
theorem amount_addUsage (aggregate : Counters) (usage : Usage) (key : String) :
    (addUsage aggregate usage).amount key = aggregate.amount key + usage.amount key := by
  obtain ⟨entries, distinct⟩ := usage
  show Counters.amount (entries.foldl (fun counters entry =>
      addEntry counters entry.1 entry.2) aggregate) key =
    aggregate.amount key + ((entries.dlookup key).map UsageValue.counted).getD 0
  induction entries generalizing aggregate with
  | nil => simp
  | cons entry rest inductionHypothesis =>
      obtain ⟨fresh, distinct⟩ := List.nodupKeys_cons.mp distinct
      rw [List.foldl_cons, inductionHypothesis _ distinct, amount_addEntry]
      by_cases same : key = entry.1
      · have absent : List.dlookup entry.1 rest = none := List.dlookup_eq_none.mpr fresh
        obtain ⟨name, value⟩ := entry
        obtain rfl : key = name := same
        simp [absent]
      · rw [List.dlookup_cons_ne _ _ same]
        simp [same]

/-! ## Objects that count nothing, and objects that count the same -/

/-- No entry counts. -/
def Counters.IsZero (counters : Counters) : Prop :=
  ∀ key ∈ counters.keys, counters.amount key = 0

instance (counters : Counters) : Decidable counters.IsZero :=
  inferInstanceAs (Decidable (∀ key ∈ counters.keys, _))

/-- No entry counts. -/
def Usage.IsZero (usage : Usage) : Prop :=
  ∀ key ∈ usage.keys, usage.amount key = 0

instance (usage : Usage) : Decidable usage.IsZero :=
  inferInstanceAs (Decidable (∀ key ∈ usage.keys, _))

/-- Both objects count the same under every key of either. -/
def Counters.SameAmounts (first second : Counters) : Prop :=
  ∀ key ∈ first.keys ++ second.keys, first.amount key = second.amount key

instance (first second : Counters) : Decidable (first.SameAmounts second) :=
  inferInstanceAs (Decidable (∀ key ∈ first.keys ++ second.keys, _))

theorem Counters.amount_of_absent {counters : Counters} {key : String}
    (absent : key ∉ counters.keys) : counters.amount key = 0 := by
  rw [Counters.amount, AList.lookup_eq_none.mpr absent, Option.getD_none]

theorem Counters.IsZero.amount {counters : Counters} (zero : counters.IsZero) (key : String) :
    counters.amount key = 0 := by
  by_cases present : key ∈ counters.keys
  · exact zero key present
  · exact amount_of_absent present

theorem Usage.IsZero.amount {usage : Usage} (zero : usage.IsZero) (key : String) :
    usage.amount key = 0 := by
  by_cases present : key ∈ usage.keys
  · exact zero key present
  · rw [Usage.amount, AList.lookup_eq_none.mpr present, Option.map_none, Option.getD_none]

theorem Counters.SameAmounts.amount {first second : Counters} (same : first.SameAmounts second)
    (key : String) : first.amount key = second.amount key := by
  by_cases present : key ∈ first.keys ++ second.keys
  · exact same key present
  · rw [List.mem_append, not_or] at present
    rw [amount_of_absent present.1, amount_of_absent present.2]

end Shiliu.Storage
