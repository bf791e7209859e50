/-
Module: Shiliu.Library.LeaseHolders
Purpose: Many workers over one fenced lease. Each worker remembers at most one token; a token is
  current while the lease still names its owner and epoch. As long as no token lies above the epoch
  of the lease and no two workers remember one epoch, at most one worker is current, so what a
  current worker knows can be kept as an invariant of that worker alone.
Trusted boundary: none
Main exports: Current, Fenced, Fenced.unique, Fenced.keep, Fenced.grant
-/
import Mathlib.Logic.Function.Basic
import Shiliu.Library.FencedLease

namespace Shiliu.Library

variable {Owner : Type}

/-- The lease still names the owner and the epoch of a token. -/
def Current (lease : Lease Owner) (token : Token Owner) : Prop :=
  lease.owner = some token.owner ∧ lease.epoch = token.epoch

theorem Current.of_holds {now : Nat} {lease : Lease Owner} {token : Token Owner}
    (holds : lease.Holds now token) : Current lease token :=
  ⟨holds.1, holds.2.1⟩

theorem not_current_of_unowned {lease : Lease Owner} (unowned : lease.owner = none)
    (token : Token Owner) : ¬ Current lease token := by
  rintro ⟨owned, -⟩
  rw [unowned] at owned
  cases owned

theorem not_current_of_epoch_lt {lease : Lease Owner} {token : Token Owner}
    (passed : token.epoch < lease.epoch) : ¬ Current lease token :=
  fun current => absurd current.2 (by omega)

/-- What the workers remember: no epoch above that of the lease, and no epoch twice. -/
structure Fenced (epoch : Nat) (held : Nat → Option (Token Owner)) : Prop where
  bounded : ∀ worker token, held worker = some token → token.epoch ≤ epoch
  distinct : ∀ first second one two, first ≠ second →
    held first = some one → held second = some two → one.epoch ≠ two.epoch

namespace Fenced

variable {epoch later : Nat} {held after : Nat → Option (Token Owner)}

theorem none (epoch : Nat) : Fenced epoch (fun _ => (Option.none : Option (Token Owner))) where
  bounded _ _ isHeld := nomatch isHeld
  distinct _ _ _ _ _ isHeld := nomatch isHeld

/-- At most one worker is current. -/
theorem unique {lease : Lease Owner} (fenced : Fenced lease.epoch held) {first second : Nat}
    {one two : Token Owner} (heldOne : held first = some one) (heldTwo : held second = some two)
    (currentOne : Current lease one) (currentTwo : Current lease two) : first = second := by
  by_contra different
  exact fenced.distinct first second one two different heldOne heldTwo
    (currentOne.2.symm.trans currentTwo.2)

/-- Tokens may be forgotten while the epoch grows. -/
theorem keep (fenced : Fenced epoch held) (grown : epoch ≤ later)
    (kept : ∀ worker token, after worker = some token → held worker = some token) :
    Fenced later after where
  bounded worker token isHeld :=
    Nat.le_trans (fenced.bounded worker token (kept worker token isHeld)) grown
  distinct first second one two different heldOne heldTwo :=
    fenced.distinct first second one two different (kept first one heldOne)
      (kept second two heldTwo)

theorem grant (fenced : Fenced epoch held) (worker : Nat) (token : Token Owner)
    (isNext : token.epoch = epoch + 1) (isHanded : after worker = some token)
    (others : ∀ other, other ≠ worker → after other = held other) :
    Fenced (epoch + 1) after where
  bounded other otherToken isHeld := by
    by_cases same : other = worker
    · subst same
      rw [isHanded] at isHeld
      obtain rfl := Option.some.inj isHeld
      omega
    · rw [others other same] at isHeld
      exact Nat.le_succ_of_le (fenced.bounded other otherToken isHeld)
  distinct := by
    -- the new token lies above every other one
    have above : ∀ other otherToken, other ≠ worker → after other = some otherToken →
        otherToken.epoch < token.epoch := by
      intro other otherToken different isHeld
      rw [others other different] at isHeld
      have := fenced.bounded other otherToken isHeld
      omega
    intro first second one two different heldOne heldTwo
    by_cases firstIs : first = worker
    · subst firstIs
      rw [isHanded] at heldOne
      obtain rfl := Option.some.inj heldOne
      have := above second two (Ne.symm different) heldTwo
      omega
    · by_cases secondIs : second = worker
      · subst secondIs
        rw [isHanded] at heldTwo
        obtain rfl := Option.some.inj heldTwo
        have := above first one firstIs heldOne
        omega
      · rw [others first firstIs] at heldOne
        rw [others second secondIs] at heldTwo
        exact fenced.distinct first second one two different heldOne heldTwo

theorem others_stale {lease : Lease Owner} (fenced : Fenced lease.epoch held) (worker other : Nat)
    (token otherToken : Token Owner) (isHeld : held worker = some token)
    (current : Current lease token) (different : other ≠ worker)
    (isOther : held other = some otherToken) : ¬ Current lease otherToken :=
  fun otherCurrent => different (fenced.unique isOther isHeld otherCurrent current)

end Fenced

end Shiliu.Library
