/-
Module: Shiliu.Library.Bookkeeping
Purpose: Two tables kept in step: accounts that carry a running balance, and entries each of which
  belongs to one account. The books are reconciled when every balance is the sum of what the
  account's entries post. The rules say what a posting, a correction and a new account have to do
  to the balance for that to stay so; they hold for balances in any commutative monoid.
Trusted boundary: none
Main exports: Reconciled, Reconciled.openAccount, Reconciled.post, Reconciled.correct
-/
import Shiliu.Library.Table

namespace Shiliu.Library

variable {Account AccountKey Entry EntryKey Amount : Type*} [DecidableEq AccountKey]
  [DecidableEq EntryKey] [AddCommMonoid Amount] {accountKey : Account → AccountKey}
  {entryKey : Entry → EntryKey}

/-- Every balance is the sum of what the account's entries post. -/
def Reconciled (home : Entry → AccountKey) (balance : Account → Amount)
    (posting : Entry → Amount) (accounts : Table accountKey) (entries : Table entryKey) : Prop :=
  ∀ account ∈ accounts,
    balance account = entries.total (fun entry => home entry = accountKey account) posting

namespace Reconciled

variable {home : Entry → AccountKey} {balance : Account → Amount} {posting : Entry → Amount}
  {accounts : Table accountKey} {entries : Table entryKey}

omit [DecidableEq EntryKey] in
theorem empty : Reconciled home balance posting (Table.empty accountKey) (Table.empty entryKey) :=
  fun account member => absurd member (Table.not_mem_empty account)

omit [DecidableEq EntryKey] in
theorem openAccount (books : Reconciled home balance posting accounts entries) {account : Account}
    (absent : accounts.lookup (accountKey account) = none)
    (zero : balance account = 0) (unused : ∀ entry ∈ entries, home entry ≠ accountKey account) :
    Reconciled home balance posting (accounts.insert account) entries := by
  intro other member
  rcases (Table.mem_insert absent).mp member with old | rfl
  · exact books other old
  · have none : entries.rows.filter (fun entry => home entry = accountKey other) = [] := by
      refine List.filter_eq_nil_iff.mpr fun entry isEntry => ?_
      simpa using unused entry isEntry
    rw [zero, Table.total, none]
    rfl

theorem post (books : Reconciled home balance posting accounts entries) {entry : Entry}
    (absent : entries.lookup (entryKey entry) = none) (change : Change accountKey)
    (posted : ∀ account ∈ accounts, accountKey account = home entry →
      balance (change.apply account) = balance account + posting entry) :
    Reconciled home balance posting (accounts.modify (home entry) change)
      (entries.insert entry) := by
  intro account member
  rw [Table.total_insert absent]
  rcases Table.mem_modify.mp member with ⟨before, isBefore, isHome, rfl⟩ | ⟨old, elsewhere⟩
  · rw [posted before isBefore isHome, books before isBefore, change.keeps, isHome]
    simp
  · rw [books account old]
    simp [Ne.symm elsewhere]

theorem correct {Amount : Type*} [AddCancelCommMonoid Amount] {balance : Account → Amount}
    {posting : Entry → Amount} (books : Reconciled home balance posting accounts entries)
    {key : EntryKey} {entry : Entry} (found : entries.lookup key = some entry)
    (amend : Change entryKey) (stays : home (amend.apply entry) = home entry)
    (change : Change accountKey)
    (moved : ∀ account ∈ accounts, accountKey account = home entry →
      balance (change.apply account) + posting entry =
        balance account + posting (amend.apply entry)) :
    Reconciled home balance posting (accounts.modify (home entry) change)
      (entries.modify key amend) := by
  intro account member
  have shift := Table.total_modify found amend
    (fun other => home other = accountKey account) posting
  rw [stays] at shift
  rcases Table.mem_modify.mp member with ⟨before, isBefore, isHome, rfl⟩ | ⟨old, elsewhere⟩
  · have sameHome : home entry = accountKey (change.apply before) := by
      rw [change.keeps, isHome]
    simp only [sameHome, decide_true, if_true] at shift
    refine add_right_cancel (b := posting entry) ?_
    rw [shift, moved before isBefore isHome, books before isBefore, change.keeps]
  · simp only [Ne.symm elsewhere, decide_false, Bool.false_eq_true, if_false, add_zero] at shift
    rw [books account old, shift]

end Reconciled

end Shiliu.Library
