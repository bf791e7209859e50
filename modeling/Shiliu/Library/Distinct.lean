/-
Module: Shiliu.Library.Distinct
Purpose: The first occurrences of a list, in order, the last value under a key, and a list sorted by
  a key. Taking the first occurrences again changes nothing, and a total of positive weights is the
  same over a list and over its first occurrences only if nothing occurs twice.
Trusted boundary: none
Main exports: addDistinct, distinct, mem_distinct, lastWith, sortedBy_of_perm, minBy, minBy_le
-/
import Mathlib.Algebra.Order.BigOperators.Group.List
import Mathlib.Data.List.Induction
import Mathlib.Data.List.Nodup
import Mathlib.Data.List.Sort
import Mathlib.Tactic.Linarith

namespace Shiliu.Library

variable {Value : Type*} [DecidableEq Value] {values more : List Value} {value : Value}

/-- Go on with the values that have not occurred yet. -/
def addDistinct (seen : List Value) (values : List Value) : List Value :=
  values.foldl (fun seen value => if value ∈ seen then seen else seen ++ [value]) seen

/-- `list(dict.fromkeys(values))`. -/
def distinct (values : List Value) : List Value := addDistinct [] values

theorem addDistinct_nil (seen : List Value) : addDistinct seen [] = seen := rfl

theorem addDistinct_cons (seen : List Value) (value : Value) (rest : List Value) :
    addDistinct seen (value :: rest) =
      if value ∈ seen then addDistinct seen rest else addDistinct (seen ++ [value]) rest := by
  rw [addDistinct, List.foldl_cons]
  split <;> rfl

theorem distinct_append : distinct (values ++ more) = addDistinct (distinct values) more :=
  List.foldl_append

theorem mem_addDistinct {seen : List Value} :
    value ∈ addDistinct seen values ↔ value ∈ seen ∨ value ∈ values := by
  induction values generalizing seen with
  | nil => simp [addDistinct_nil]
  | cons first rest inductionHypothesis =>
      rw [addDistinct_cons]
      split
      case isTrue present =>
          rw [inductionHypothesis, List.mem_cons]
          constructor
          · rintro (seen | later)
            · exact .inl seen
            · exact .inr (.inr later)
          · rintro (seen | rfl | later)
            · exact .inl seen
            · exact .inl present
            · exact .inr later
      case isFalse absent =>
          rw [inductionHypothesis, List.mem_append, List.mem_singleton, List.mem_cons, or_assoc]

theorem mem_distinct : value ∈ distinct values ↔ value ∈ values := by
  simp [distinct, mem_addDistinct]

theorem nodup_addDistinct {seen : List Value} (nodup : seen.Nodup) :
    (addDistinct seen values).Nodup := by
  induction values generalizing seen with
  | nil => exact nodup
  | cons first rest inductionHypothesis =>
      rw [addDistinct_cons]
      split
      case isTrue present => exact inductionHypothesis nodup
      case isFalse absent =>
          refine inductionHypothesis (List.nodup_append.mpr ⟨nodup, List.nodup_singleton _, ?_⟩)
          rintro value isSeen other isFirst rfl
          rw [List.mem_singleton] at isFirst
          exact absent (isFirst ▸ isSeen)

theorem nodup_distinct (values : List Value) : (distinct values).Nodup :=
  nodup_addDistinct List.nodup_nil

theorem nodup_eraseDups (values : List Value) : values.eraseDups.Nodup := by
  induction isLength : values.length using Nat.strongRecOn generalizing values with
  | ind length inductionHypothesis =>
      cases values with
      | nil => exact List.nodup_nil
      | cons first rest =>
          rw [List.eraseDups_cons, List.nodup_cons]
          constructor
          · simp
          · apply inductionHypothesis _ _ _ rfl
            rw [← isLength]
            exact Nat.lt_succ_of_le (List.length_filter_le _ _)

theorem addDistinct_of_nodup {seen : List Value} (nodup : (seen ++ values).Nodup) :
    addDistinct seen values = seen ++ values := by
  induction values generalizing seen with
  | nil => rw [addDistinct_nil, List.append_nil]
  | cons first rest inductionHypothesis =>
      have absent : first ∉ seen := fun present =>
        (List.nodup_append.mp nodup).2.2 first present first List.mem_cons_self rfl
      rw [addDistinct_cons, if_neg absent]
      rw [← List.singleton_append, ← List.append_assoc] at nodup
      rw [inductionHypothesis nodup, List.append_assoc, List.singleton_append]

theorem distinct_of_nodup (nodup : values.Nodup) : distinct values = values :=
  addDistinct_of_nodup nodup

theorem distinct_concat (values : List Value) (value : Value) :
    distinct (values ++ [value]) =
      if value ∈ values then distinct values else distinct values ++ [value] := by
  rw [distinct_append, addDistinct_cons]
  simp only [mem_distinct, addDistinct_nil]

/-- Taking the first occurrences twice is taking them once, whatever follows. -/
theorem distinct_distinct_append : distinct (distinct values ++ more) = distinct (values ++ more) := by
  rw [distinct_append, distinct_append, distinct_of_nodup (nodup_distinct values)]

/-! ## Totals -/

section Total

variable {Weight : Type*} [AddCommMonoid Weight] [LinearOrder Weight] [IsOrderedCancelAddMonoid Weight]
  {weight : Value → Weight}

/-- The total of what is added is at most the total of what is offered, and equals it only if
nothing is offered twice. -/
theorem sum_addDistinct {seen : List Value} (nodup : seen.Nodup)
    (positive : ∀ value, 0 < weight value) :
    ((addDistinct seen values).map weight).sum ≤ ((seen ++ values).map weight).sum ∧
      (((addDistinct seen values).map weight).sum = ((seen ++ values).map weight).sum →
        (seen ++ values).Nodup) := by
  induction values generalizing seen with
  | nil =>
      rw [addDistinct_nil, List.append_nil]
      exact ⟨le_refl _, fun _ => nodup⟩
  | cons first rest inductionHypothesis =>
      rw [addDistinct_cons]
      split
      case isTrue present =>
          have below := (inductionHypothesis nodup).1
          have more : ((seen ++ rest).map weight).sum < ((seen ++ first :: rest).map weight).sum := by
            simp only [List.map_append, List.map_cons, List.sum_append, List.sum_cons]
            exact add_lt_add_right (lt_add_of_pos_left _ (positive first)) _
          have less := lt_of_le_of_lt below more
          exact ⟨le_of_lt less, fun same => absurd same (ne_of_lt less)⟩
      case isFalse absent =>
          have grown : (seen ++ [first]).Nodup := by
            rw [List.nodup_append]
            refine ⟨nodup, List.nodup_singleton _, ?_⟩
            rintro value isSeen other isFirst rfl
            rw [List.mem_singleton] at isFirst
            exact absent (isFirst ▸ isSeen)
          have step := inductionHypothesis grown
          rwa [List.append_assoc, List.singleton_append] at step

theorem sum_distinct_eq_iff (positive : ∀ value, 0 < weight value) :
    ((distinct values).map weight).sum = (values.map weight).sum ↔ values.Nodup := by
  constructor
  · intro same
    exact (sum_addDistinct List.nodup_nil positive).2 same
  · intro nodup
    rw [distinct_of_nodup nodup]

end Total

/-! ## The last value under a key -/

section Keyed

variable {Entry Key : Type*} [DecidableEq Key] {keyOf : Entry → Key} {entries : List Entry} {key : Key}

/-- `{keyOf(entry): entry for entry in entries}` read at a key. -/
def lastWith (keyOf : Entry → Key) (entries : List Entry) (key : Key) : Option Entry :=
  entries.reverse.find? fun entry => keyOf entry = key

theorem lastWith_some {entry : Entry} (found : lastWith keyOf entries key = some entry) :
    entry ∈ entries ∧ keyOf entry = key :=
  ⟨List.mem_reverse.mp (List.mem_of_find?_eq_some found), by simpa using List.find?_some found⟩

theorem lastWith_eq_none : lastWith keyOf entries key = none ↔ key ∉ entries.map keyOf := by
  simp [lastWith]

theorem exists_lastWith : (∃ entry, lastWith keyOf entries key = some entry) ↔
    key ∈ entries.map keyOf := by
  rw [← Option.isSome_iff_exists, Option.isSome_iff_ne_none, Ne, lastWith_eq_none, not_not]

end Keyed

/-! ## Sorting by a key -/

section Sorted

variable {Element Key : Type*} [LinearOrder Key] {elements : List Element}

/-- `sorted(elements, key=key)`. -/
def sortedBy (key : Element → Key) (elements : List Element) : List Element :=
  elements.insertionSort fun left right => key left ≤ key right

variable (key : Element → Key)

theorem sortedBy_perm (elements : List Element) : (sortedBy key elements).Perm elements :=
  List.perm_insertionSort _ _

theorem mem_sortedBy {element : Element} : element ∈ sortedBy key elements ↔ element ∈ elements :=
  (sortedBy_perm key elements).mem_iff

theorem pairwise_sortedBy (elements : List Element) :
    (sortedBy key elements).Pairwise fun left right => key left ≤ key right := by
  have : Std.Total fun left right : Element => key left ≤ key right :=
    ⟨fun left right => le_total (key left) (key right)⟩
  have : IsTrans Element fun left right => key left ≤ key right :=
    ⟨fun first second third => le_trans⟩
  exact List.pairwise_insertionSort _ elements

theorem sortedBy_of_pairwise
    (pairwise : elements.Pairwise fun left right => key left ≤ key right) :
    sortedBy key elements = elements :=
  pairwise.insertionSort_eq

theorem le_getLast?_of_pairwise
    (pairwise : elements.Pairwise fun left right => key left ≤ key right) {last : Element}
    (isLast : elements.getLast? = some last) {element : Element} (member : element ∈ elements) :
    key element ≤ key last := by
  obtain ⟨before, rfl⟩ := List.getLast?_eq_some_iff.mp isLast
  rcases List.mem_append.mp member with earlier | same
  · exact (List.pairwise_append.mp pairwise).2.2 element earlier last (List.mem_singleton_self last)
  · rw [List.mem_singleton.mp same]

/-- The last match in a sorted list has the highest key of all matches. -/
theorem le_find?_reverse_of_pairwise
    (pairwise : elements.Pairwise fun left right => key left ≤ key right)
    {select : Element → Bool} {found : Element}
    (isFound : elements.reverse.find? select = some found) {element : Element}
    (member : element ∈ elements) (selected : select element = true) :
    key element ≤ key found := by
  obtain ⟨-, later, earlier, split, unselected⟩ := List.find?_eq_some_iff_append.mp isFound
  have split : elements = earlier.reverse ++ found :: later.reverse := by
    rw [← List.reverse_reverse elements, split]
    simp
  rw [split] at member pairwise
  rcases List.mem_append.mp member with before | after
  · exact (List.pairwise_append.mp pairwise).2.2 element before found List.mem_cons_self
  · rcases List.mem_cons.mp after with rfl | after
    · exact le_refl _
    · have refused := unselected element (List.mem_reverse.mp after)
      rw [selected] at refused
      cases refused

/-- A list in another order sorts to the same list when different elements have different keys. -/
theorem sortedBy_of_perm {others : List Element} (perm : elements.Perm others)
    (apart : ∀ one ∈ elements, ∀ other ∈ elements, key one = key other → one = other) :
    sortedBy key elements = sortedBy key others := by
  have same : (sortedBy key elements).Perm (sortedBy key others) :=
    ((sortedBy_perm key elements).trans perm).trans (sortedBy_perm key others).symm
  refine same.eq_of_pairwise ?_ (pairwise_sortedBy key elements) (pairwise_sortedBy key others)
  intro one other isOne isOther below above
  have isThere : other ∈ elements := perm.mem_iff.mpr ((mem_sortedBy key).mp isOther)
  exact apart one ((mem_sortedBy key).mp isOne) other isThere (le_antisymm below above)

/-- `min([first, *rest], key=key)`. -/
def minBy (first : Element) (rest : List Element) : Element :=
  rest.foldl (fun least element => if key element < key least then element else least) first

theorem minBy_concat (first : Element) (rest : List Element) (element : Element) :
    minBy key first (rest ++ [element]) =
      if key element < key (minBy key first rest) then element else minBy key first rest := by
  rw [minBy, List.foldl_append]
  rfl

theorem minBy_mem (first : Element) (rest : List Element) : minBy key first rest ∈ first :: rest := by
  induction rest using List.reverseRecOn with
  | nil => exact List.mem_cons_self
  | append_singleton rest element inductionHypothesis =>
      rw [minBy_concat]
      split
      · simp
      · rw [← List.cons_append]
        exact List.mem_append_left _ inductionHypothesis

theorem minBy_le {first : Element} {rest : List Element} {element : Element}
    (member : element ∈ first :: rest) : key (minBy key first rest) ≤ key element := by
  induction rest using List.reverseRecOn with
  | nil =>
      rw [List.mem_singleton.mp member]
      exact le_refl _
  | append_singleton rest last inductionHypothesis =>
      rw [← List.cons_append, List.mem_append, List.mem_singleton] at member
      rw [minBy_concat]
      split
      case isTrue less =>
          rcases member with earlier | rfl
          · exact (le_of_lt less).trans (inductionHypothesis earlier)
          · exact le_refl _
      case isFalse notLess =>
          rcases member with earlier | rfl
          · exact inductionHypothesis earlier
          · exact not_lt.mp notLess

end Sorted

end Shiliu.Library
