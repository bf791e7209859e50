/-
Module: Shiliu.Library.FencedLease
Purpose: Leases fenced by an epoch. A lease records at most one owner, an expiry and an epoch; a
  token is the pair of owner and epoch handed out by a grant. Granting and revoking raise the
  epoch, renewing and releasing keep it, so a token whose epoch has been passed is dead whatever
  happens to the owner or the expiry afterwards. Everything a system needs to know is stated for
  one move and for the history of the tokens granted so far.
Trusted boundary: none
Main exports: Lease, Token, Lease.Holds, Lease.Move, LeaseHistory
-/
import Mathlib.Data.List.Pairwise
import Mathlib.Tactic.Common

namespace Shiliu.Library

/-- A lease on one resource. The expiry outlives its owner's work, the owner outlives the expiry:
neither is cleared by the clock. -/
structure Lease (Owner : Type) where
  owner : Option Owner
  expiry : Option Nat
  epoch : Nat

/-- What a grant hands to the new owner. -/
structure Token (Owner : Type) where
  owner : Owner
  epoch : Nat

namespace Lease

variable {Owner : Type}

/-- The expiry lies in the future; a missing expiry is never live. -/
def live (now : Nat) (lease : Lease Owner) : Bool :=
  match lease.expiry with
  | some expiry => now < expiry
  | none => false

/-- The token names the recorded owner and epoch, and the lease has not expired. -/
def Holds (now : Nat) (lease : Lease Owner) (token : Token Owner) : Prop :=
  lease.owner = some token.owner ∧ lease.epoch = token.epoch ∧ lease.live now = true

instance [DecidableEq Owner] (now : Nat) (lease : Lease Owner) (token : Token Owner) :
    Decidable (lease.Holds now token) :=
  inferInstanceAs (Decidable (_ ∧ _))

/-- Record a new owner under the next epoch. -/
def grant (lease : Lease Owner) (owner : Owner) (expiry : Nat) : Lease Owner :=
  { owner := some owner, expiry := some expiry, epoch := lease.epoch + 1 }

/-- Move the expiry and nothing else. -/
def renew (lease : Lease Owner) (expiry : Nat) : Lease Owner :=
  { lease with expiry := some expiry }

/-- Forget owner and expiry, keeping the epoch. -/
def release (lease : Lease Owner) : Lease Owner :=
  { lease with owner := none, expiry := none }

/-- Forget owner and expiry under the next epoch, without granting. -/
def revoke (lease : Lease Owner) : Lease Owner :=
  { owner := none, expiry := none, epoch := lease.epoch + 1 }

@[simp] theorem grant_epoch (lease : Lease Owner) (owner : Owner) (expiry : Nat) :
    (lease.grant owner expiry).epoch = lease.epoch + 1 := rfl

@[simp] theorem renew_epoch (lease : Lease Owner) (expiry : Nat) :
    (lease.renew expiry).epoch = lease.epoch := rfl

@[simp] theorem release_epoch (lease : Lease Owner) : lease.release.epoch = lease.epoch := rfl

@[simp] theorem revoke_epoch (lease : Lease Owner) : lease.revoke.epoch = lease.epoch + 1 := rfl

theorem live_of_le {now later : Nat} {lease : Lease Owner} (order : now ≤ later)
    (live : lease.live later = true) : lease.live now = true := by
  unfold Lease.live at live ⊢
  cases expiry : lease.expiry with
  | none => simp [expiry] at live
  | some instant =>
      simp only [expiry, decide_eq_true_eq] at live ⊢
      omega

theorem Holds.unique {now : Nat} {lease : Lease Owner} {first second : Token Owner}
    (one : lease.Holds now first) (two : lease.Holds now second) : first = second := by
  obtain ⟨ownerOne, epochOne, _⟩ := one
  obtain ⟨ownerTwo, epochTwo, _⟩ := two
  have sameOwner : first.owner = second.owner := by
    rw [ownerOne] at ownerTwo
    exact Option.some.inj ownerTwo
  have sameEpoch : first.epoch = second.epoch := by rw [← epochOne, epochTwo]
  cases first
  cases second
  simp_all

theorem not_holds_of_epoch_lt {now : Nat} {lease : Lease Owner} {token : Token Owner}
    (passed : token.epoch < lease.epoch) : ¬ lease.Holds now token := by
  rintro ⟨_, same, _⟩
  omega

/-- One move of a lease, together with the token it hands out, if any. -/
inductive Move (now : Nat) : Lease Owner → Option (Token Owner) → Lease Owner → Prop where
  | keep (lease : Lease Owner) : Move now lease none lease
  | grant (lease : Lease Owner) (owner : Owner) (expiry : Nat) :
      Move now lease (some ⟨owner, lease.epoch + 1⟩) (lease.grant owner expiry)
  | renew (lease : Lease Owner) (token : Token Owner) (expiry : Nat)
      (held : lease.Holds now token) : Move now lease none (lease.renew expiry)
  | release (lease : Lease Owner) (token : Token Owner) (held : lease.Holds now token) :
      Move now lease none lease.release
  | revoke (lease : Lease Owner) : Move now lease none lease.revoke

theorem Move.epoch_mono {now : Nat} {before after : Lease Owner} {handed : Option (Token Owner)}
    (move : Move now before handed after) : before.epoch ≤ after.epoch := by
  cases move <;> simp

theorem Move.handed_epoch {now : Nat} {before after : Lease Owner} {token : Token Owner}
    (move : Move now before (some token) after) :
    token.epoch = before.epoch + 1 ∧ after.epoch = token.epoch := by
  cases move
  simp

end Lease

/-- The tokens granted so far, newest first, in step with the lease they were granted on. -/
structure LeaseHistory {Owner : Type} (lease : Lease Owner) (granted : List (Token Owner)) :
    Prop where
  increasing : granted.Pairwise fun later earlier => earlier.epoch < later.epoch
  bounded : ∀ token ∈ granted, token.epoch ≤ lease.epoch

namespace LeaseHistory

variable {Owner : Type}

theorem empty (lease : Lease Owner) : LeaseHistory lease [] :=
  ⟨List.Pairwise.nil, by simp⟩

theorem move {now : Nat} {before after : Lease Owner} {granted : List (Token Owner)}
    {handed : Option (Token Owner)} (history : LeaseHistory before granted)
    (moved : Lease.Move now before handed after) :
    LeaseHistory after (handed.toList ++ granted) := by
  cases handed with
  | none =>
      refine ⟨history.increasing, fun token member => ?_⟩
      exact Nat.le_trans (history.bounded token member) moved.epoch_mono
  | some token =>
      obtain ⟨handedEpoch, afterEpoch⟩ := moved.handed_epoch
      constructor
      · refine List.Pairwise.cons (fun earlier member => ?_) history.increasing
        have := history.bounded earlier member
        omega
      · intro other member
        rcases List.mem_cons.mp member with rfl | old
        · omega
        · have := history.bounded other old
          omega

end LeaseHistory

end Shiliu.Library
