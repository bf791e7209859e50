/-
Module: Shiliu.Wiki.Service
Purpose: The writers of the wiki as the actions of one workspace. Transactions are serialized by the
  workspace lock, so a run is a list of calls. A call that raises is rolled back; a stale decision raises
  too, after its mark on the proposal is committed.
Trusted boundary: none
Main exports: WikiCall, WikiCall.run, stepWiki, WikiCall.raises, wikiAfter
-/
import Shiliu.Library.Transition
import Shiliu.Wiki.Reverting

namespace Shiliu.Wiki

open Shiliu.Library Shiliu.Storage

inductive WikiCall where
  | saveDiscussion (around : Surroundings) (call : SaveDiscussion)
  | addPersonalNote (validity : String → Instant → List (String × String))
      (call : AddPersonalNote)
  | editBlock (call : EditBlock)
  | reviseDerivedBlocks (around : Surroundings) (call : ReviseDerivedBlocks)
  | managePage (call : ManagePage)
  | mergePages (call : MergePages)
  | decideMerge (call : DecideMerge)
  | revert (around : Surroundings) (call : RevertPage)
  | applyPatch (call : ApplyPatch)
  | decideSourcePatch (call : DecideSourcePatch)
  | validateSourceProposal (call : ValidateSourceProposal)
  | rebindEquivalentSource (around : Surroundings) (call : RebindEquivalentSource)

namespace WikiCall

variable (rules : WikiRules) (store : WikiStore)

/-- The rows a call leaves and whether it returns, or what it raises before anything is committed. -/
def run : WikiCall → Except Failure (WikiStore × Bool)
  | .saveDiscussion around call =>
      (Wiki.saveDiscussion rules around store call).map fun done => (done.1, true)
  | .addPersonalNote validity call =>
      (Wiki.addPersonalNote validity store call).map fun done => (done.1, true)
  | .editBlock call => (Wiki.editBlock store call).map fun done => (done.1, true)
  | .reviseDerivedBlocks around call =>
      (Wiki.reviseDerivedBlocks around store call).map fun done => (done.1, true)
  | .managePage call => (Wiki.managePage store call).map fun done => (done.1, true)
  | .mergePages call => (Wiki.mergePages rules store call).map fun done => (done.1, true)
  | .decideMerge call =>
      (Wiki.decideMerge rules store call).map fun done => (done.1, decide (done.2 ≠ .stale))
  | .revert around call => (Wiki.revert rules around store call).map fun done => (done.1, true)
  | .applyPatch call => (Wiki.applyPatch rules store call).map fun done => (done.1, true)
  | .decideSourcePatch call =>
      (Wiki.decideSourcePatch rules store call).map fun done => (done.1, decide (done.2 ≠ .stale))
  | .validateSourceProposal call =>
      (Wiki.validateSourceProposal store call).map fun done => (done.1, true)
  | .rebindEquivalentSource around call =>
      (Wiki.rebindEquivalentSource around store call).map fun after => (after, true)

/-- The call raises. -/
def raises (call : WikiCall) : Bool :=
  match call.run rules store with
  | .error _ => true
  | .ok (_, returns) => !returns

end WikiCall

/-- One call. -/
def stepWiki (rules : WikiRules) (store : WikiStore) (call : WikiCall) : WikiStore :=
  match call.run rules store with
  | .error _ => store
  | .ok (after, _) => after

/-- The store a list of calls leads to from an empty space. -/
def wikiAfter (rules : WikiRules) (calls : List WikiCall) : WikiStore :=
  runFrom (stepWiki rules) WikiStore.empty calls

end Shiliu.Wiki
