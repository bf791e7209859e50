/-
Module: Shiliu.Library.Keyset
Purpose: Keyset pagination. A page is the first items of what lies behind a cursor, and its own
  cursor encodes its last item. Following the cursors reads a complete order without loss exactly
  when the cursor of every page boundary leads back to that boundary; a cursor that loses
  precision skips items, it never repeats any.
Trusted boundary: none
Main exports: Page, cut, follow, follow_below_iff, drain, drain_ascending, mem_take_iff_before
-/
import Mathlib.Data.List.Basic
import Mathlib.Data.List.Pairwise
import Mathlib.Data.List.Sort
import Mathlib.Tactic.Ring
import Mathlib.Tactic.Linarith

set_option linter.all false

namespace Shiliu.Library.Keyset

variable {Item Cursor : Type*}

/-- One answer: the items and the cursor of the next request, if there is more. -/
structure Page (Item Cursor : Type*) where
  items : List Item
  next : Option Cursor

/-- The page that starts a list of rows: at most `limit` of them, and the cursor of the last one
when rows are left over. -/
def cut (limit : Nat) (encode : Item → Cursor) (rows : List Item) : Page Item Cursor where
  items := rows.take limit
  next := if limit < rows.length then (rows.take limit).getLast?.map encode else none

/-- Ask for page after page, with the cursor of the page before, until there is none. The answer
to a request may depend on its number, since the rows may change between requests. -/
def follow (fetch : Nat → Option Cursor → Page Item Cursor) :
    (fuel : Nat) → (request : Nat) → Option Cursor → Option (List Item)
  | 0, _, _ => none
  | fuel + 1, request, cursor =>
      let page := fetch request cursor
      match page.next with
      | none => some page.items
      | some next => (follow fetch fuel (request + 1) (some next)).map (page.items ++ ·)

theorem cut_next_of_le {limit : Nat} {encode : Item → Cursor} {rows : List Item}
    (fits : rows.length ≤ limit) : cut limit encode rows = ⟨rows, none⟩ := by
  simp [cut, List.take_of_length_le fits, Nat.not_lt.mpr fits]

theorem cut_of_lt {limit : Nat} (positive : 0 < limit) {encode : Item → Cursor}
    {rows : List Item} (more : limit < rows.length) :
    ∃ last, (rows.take limit).getLast? = some last ∧
      cut limit encode rows = ⟨rows.take limit, some (encode last)⟩ := by
  have filled : rows.take limit ≠ [] := by
    intro isEmpty
    have := congrArg List.length isEmpty
    rw [List.length_take, List.length_nil] at this
    omega
  refine ⟨(rows.take limit).getLast filled, List.getLast?_eq_some_getLast filled, ?_⟩
  simp [cut, more, List.getLast?_eq_some_getLast filled]

theorem follow_of_le {fetch : Nat → Option Cursor → Page Item Cursor} {limit : Nat}
    {encode : Item → Cursor} {rows : List Item} {request : Nat} {cursor : Option Cursor}
    (answer : fetch request cursor = cut limit encode rows) (fits : rows.length ≤ limit)
    (fuel : Nat) : follow fetch (fuel + 1) request cursor = some rows := by
  rw [follow, answer, cut_next_of_le fits]

theorem follow_of_lt {fetch : Nat → Option Cursor → Page Item Cursor} {limit : Nat}
    (positive : 0 < limit) {encode : Item → Cursor} {rows : List Item} {request : Nat}
    {cursor : Option Cursor} (answer : fetch request cursor = cut limit encode rows)
    (more : limit < rows.length) :
    ∃ last, (rows.take limit).getLast? = some last ∧ ∀ fuel,
      follow fetch (fuel + 1) request cursor =
        (follow fetch fuel (request + 1) (some (encode last))).map (rows.take limit ++ ·) := by
  obtain ⟨last, isLast, page⟩ := cut_of_lt positive more
  refine ⟨last, isLast, fun fuel => ?_⟩
  rw [follow, answer, page]

/-! ## Boundaries

The boundary `k` of an order lies after its first `k` pages. -/

theorem getLast?_take_boundary {order : List Item} {limit boundary : Nat} (positive : 0 < limit)
    (inside : boundary * limit < order.length) :
    (order.take ((boundary + 1) * limit)).getLast? =
      ((order.drop (boundary * limit)).take limit).getLast? := by
  have split : order.take ((boundary + 1) * limit) =
      order.take (boundary * limit) ++ (order.drop (boundary * limit)).take limit := by
    rw [Nat.succ_mul, List.take_add]
  have filled : (order.drop (boundary * limit)).take limit ≠ [] := by
    intro isEmpty
    have := congrArg List.length isEmpty
    rw [List.length_take, List.length_drop, List.length_nil] at this
    omega
  rw [split, List.getLast?_append_of_ne_nil _ filled]

theorem drop_boundary_succ (order : List Item) (limit boundary : Nat) :
    (order.drop (boundary * limit)).drop limit = order.drop ((boundary + 1) * limit) := by
  rw [List.drop_drop, Nat.succ_mul]

/-- The cursor of every boundary leads back to it. -/
def Resumes (fetch : Nat → Option Cursor → Page Item Cursor) (encode : Nat → Item → Cursor)
    (limit : Nat) (order : List Item) : Prop :=
  ∀ boundary, (boundary + 1) * limit < order.length →
    ∀ last, (order.take ((boundary + 1) * limit)).getLast? = some last →
      fetch (boundary + 1) (some (encode boundary last)) =
        cut limit (encode (boundary + 1)) (order.drop ((boundary + 1) * limit))

theorem follow_boundary {fetch : Nat → Option Cursor → Page Item Cursor}
    {encode : Nat → Item → Cursor} {limit : Nat} {order : List Item} (positive : 0 < limit)
    (resumes : Resumes fetch encode limit order) (fuel : Nat) :
    ∀ boundary cursor, (order.drop (boundary * limit)).length < fuel →
      fetch boundary cursor = cut limit (encode boundary) (order.drop (boundary * limit)) →
      follow fetch fuel boundary cursor = some (order.drop (boundary * limit)) := by
  induction fuel with
  | zero => intro boundary cursor enough; exact absurd enough (Nat.not_lt_zero _)
  | succ fuel inductionHypothesis =>
      intro boundary cursor enough answer
      by_cases fits : (order.drop (boundary * limit)).length ≤ limit
      · exact follow_of_le answer fits fuel
      · rw [not_le] at fits
        obtain ⟨last, isLast, pages⟩ := follow_of_lt positive answer fits
        rw [List.length_drop] at fits enough
        have inside : (boundary + 1) * limit < order.length := by rw [Nat.succ_mul]; omega
        have next := resumes boundary inside last
          ((getLast?_take_boundary positive (by omega)).trans isLast)
        rw [pages, inductionHypothesis (boundary + 1) _ _ next, Option.map_some,
          ← drop_boundary_succ, List.take_append_drop]
        rw [List.length_drop, Nat.succ_mul]
        omega

theorem follow_lossless {fetch : Nat → Option Cursor → Page Item Cursor}
    {encode : Nat → Item → Cursor} {limit : Nat} {order : List Item} (positive : 0 < limit)
    (start : fetch 0 none = cut limit (encode 0) order)
    (resumes : Resumes fetch encode limit order) {fuel : Nat} (enough : order.length < fuel) :
    follow fetch fuel 0 none = some order := by
  have whole := follow_boundary positive resumes fuel 0 none
  simp only [Nat.zero_mul, List.drop_zero] at whole
  exact whole enough start

/-! ## Rows that stay as they are

What lies behind a cursor is fixed, and an item's cursor never leads back before the item. -/

section Fixed

variable {behind : Option Cursor → List Item} {encode : Item → Cursor} {limit : Nat}
  {order : List Item}

/-- The rows behind the cursor of an item are among the rows after it. -/
def Advances (behind : Option Cursor → List Item) (encode : Item → Cursor)
    (order : List Item) : Prop :=
  ∀ before item after, order = before ++ item :: after → behind (some (encode item)) <:+ after

theorem follow_behind_of_lt (positive : 0 < limit) (encode : Item → Cursor) (request : Nat)
    {cursor : Option Cursor} (more : limit < (behind cursor).length) :
    ∃ last, ((behind cursor).take limit).getLast? = some last ∧ ∀ fuel,
      follow (fun _ cursor => cut limit encode (behind cursor)) (fuel + 1) request cursor =
        (follow (fun _ cursor => cut limit encode (behind cursor)) fuel (request + 1)
          (some (encode last))).map ((behind cursor).take limit ++ ·) :=
  follow_of_lt positive rfl more

theorem follow_sublist (positive : 0 < limit) (advances : Advances behind encode order)
    (fuel : Nat) :
    ∀ request cursor, behind cursor <:+ order → (behind cursor).length < fuel →
      ∃ items, items.Sublist (behind cursor) ∧
        follow (fun _ cursor => cut limit encode (behind cursor)) fuel request cursor =
          some items := by
  induction fuel with
  | zero => intro request cursor _ enough; exact absurd enough (Nat.not_lt_zero _)
  | succ fuel inductionHypothesis =>
      intro request cursor suffix enough
      by_cases fits : (behind cursor).length ≤ limit
      · exact ⟨behind cursor, List.Sublist.refl _, follow_of_le rfl fits fuel⟩
      · rw [not_le] at fits
        obtain ⟨last, isLast, pages⟩ := follow_behind_of_lt positive encode request fits
        obtain ⟨front, isFront⟩ := List.getLast?_eq_some_iff.mp isLast
        obtain ⟨earlier, isEarlier⟩ := suffix
        have shape : order = (earlier ++ front) ++ last :: (behind cursor).drop limit := by
          rw [← isEarlier]
          conv_lhs => rw [← List.take_append_drop limit (behind cursor), isFront]
          simp
        have ahead := advances _ last _ shape
        have shorter := ahead.length_le
        rw [List.length_drop] at shorter
        obtain ⟨items, among, read⟩ := inductionHypothesis (request + 1) (some (encode last))
          (ahead.trans ⟨earlier ++ front ++ [last], by rw [shape]; simp⟩) (by omega)
        refine ⟨(behind cursor).take limit ++ items, ?_, by rw [pages, read, Option.map_some]⟩
        conv_rhs => rw [← List.take_append_drop limit (behind cursor)]
        exact List.Sublist.append (List.Sublist.refl _) (among.trans ahead.sublist)

theorem resumes_of_follow (positive : 0 < limit) (advances : Advances behind encode order)
    (fuel : Nat) :
    ∀ request cursor boundary, behind cursor = order.drop (boundary * limit) →
      (behind cursor).length < fuel →
      follow (fun _ cursor => cut limit encode (behind cursor)) fuel request cursor =
        some (behind cursor) →
      ∀ later, boundary ≤ later → (later + 1) * limit < order.length →
        ∀ last, (order.take ((later + 1) * limit)).getLast? = some last →
          behind (some (encode last)) = order.drop ((later + 1) * limit) := by
  induction fuel with
  | zero => intro request cursor boundary _ enough; exact absurd enough (Nat.not_lt_zero _)
  | succ fuel inductionHypothesis =>
      intro request cursor boundary here enough read later beyond inside last isLast
      have position : boundary * limit ≤ later * limit := Nat.mul_le_mul_right limit beyond
      rw [Nat.succ_mul] at inside
      have more : limit < (behind cursor).length := by
        rw [here, List.length_drop]
        omega
      obtain ⟨final, isFinal, pages⟩ := follow_behind_of_lt positive encode request more
      have atFinal : (order.take ((boundary + 1) * limit)).getLast? = some final := by
        rw [getLast?_take_boundary positive (by omega), ← here, isFinal]
      obtain ⟨front, isFront⟩ := List.getLast?_eq_some_iff.mp atFinal
      have shape : order = front ++ final :: order.drop ((boundary + 1) * limit) := by
        conv_lhs => rw [← List.take_append_drop ((boundary + 1) * limit) order, isFront]
        simp
      have ahead := advances _ final _ shape
      have shorter := ahead.length_le
      have remaining : (behind cursor).drop limit = order.drop ((boundary + 1) * limit) := by
        rw [here, drop_boundary_succ]
      have isLonger : (order.drop ((boundary + 1) * limit)).length < (behind cursor).length := by
        rw [← remaining, List.length_drop]
        omega
      -- what is read behind the page is a sublist of what its cursor leads to, and is all of it
      obtain ⟨items, among, reading⟩ := follow_sublist positive advances fuel (request + 1)
        (some (encode final)) (ahead.trans (List.drop_suffix _ _)) (by omega)
      rw [pages, reading, Option.map_some, Option.some_inj] at read
      have isRest : items = order.drop ((boundary + 1) * limit) := by
        have whole := read.trans (List.take_append_drop limit (behind cursor)).symm
        rw [List.append_cancel_left whole, remaining]
      subst isRest
      have resumed : behind (some (encode final)) = order.drop ((boundary + 1) * limit) :=
        ahead.eq_of_length_le among.length_le
      rcases Nat.eq_or_lt_of_le beyond with rfl | beyond
      · rw [atFinal, Option.some_inj] at isLast
        rw [← isLast, resumed]
      · refine inductionHypothesis (request + 1) (some (encode final)) (boundary + 1) resumed
          (by omega) (by rw [reading, resumed]) later beyond ?_ last isLast
        rw [Nat.succ_mul]
        omega

theorem follow_eq_some_iff (positive : 0 < limit) (advances : Advances behind encode order)
    (start : behind none = order) {fuel : Nat} (enough : order.length < fuel) :
    follow (fun _ cursor => cut limit encode (behind cursor)) fuel 0 none = some order ↔
      ∀ boundary, (boundary + 1) * limit < order.length →
        ∀ last, (order.take ((boundary + 1) * limit)).getLast? = some last →
          behind (some (encode last)) = order.drop ((boundary + 1) * limit) := by
  constructor
  · intro read boundary inside
    exact resumes_of_follow positive advances fuel 0 none 0 (by simpa using start)
      (by rwa [start]) (by rwa [start]) boundary (Nat.zero_le _) inside
  · intro resumes
    have resumed : Resumes (fun _ cursor => cut limit encode (behind cursor)) (fun _ => encode)
        limit order := fun boundary inside last isLast =>
      congrArg (cut limit encode) (resumes boundary inside last isLast)
    exact follow_lossless positive (by rw [start]) resumed enough

end Fixed

/-! ## Sorted rows -/

section Order

variable {Key : Type*} [LinearOrder Key]

/-- `ORDER BY key DESC`. -/
def descending (key : Item → Key) (rows : List Item) : List Item :=
  rows.insertionSort fun first second => key second ≤ key first

@[simp] theorem mem_descending {key : Item → Key} {rows : List Item} {item : Item} :
    item ∈ descending key rows ↔ item ∈ rows :=
  List.mem_insertionSort _

theorem descending_sorted {key : Item → Key} {rows : List Item} (distinct : (rows.map key).Nodup) :
    (descending key rows).Pairwise fun first second => key second < key first := by
  have total : Std.Total fun first second : Item => key second ≤ key first :=
    ⟨fun first second => le_total (key second) (key first)⟩
  have transitive : IsTrans Item fun first second => key second ≤ key first :=
    ⟨fun _ _ _ first second => second.trans first⟩
  have weak := List.pairwise_insertionSort (fun first second => key second ≤ key first) rows
  have different : ((descending key rows).map key).Nodup :=
    (((List.perm_insertionSort _ rows).map key).nodup_iff).mpr distinct
  rw [List.Nodup, List.pairwise_map] at different
  exact (weak.and different).imp fun ⟨atMost, differ⟩ => lt_of_le_of_ne atMost differ.symm

theorem descending_filter {key : Item → Key} {rows : List Item}
    (distinct : (rows.map key).Nodup) (select : Item → Bool) :
    descending key (rows.filter select) = (descending key rows).filter select := by
  have irreflexive : Std.Asymm fun first second : Item => key second < key first :=
    ⟨fun _ _ less more => lt_asymm less more⟩
  have kept : ((rows.filter select).map key).Nodup :=
    distinct.sublist (List.filter_sublist.map key)
  refine List.Pairwise.eq_of_mem_iff (descending_sorted kept)
    ((descending_sorted distinct).filter select) fun item => ?_
  simp [List.mem_filter]

end Order

theorem filter_below_eq_drop {Key : Type*} [LinearOrder Key] {key : Item → Key}
    {rows : List Item} (sorted : rows.Pairwise fun first second => key second < key first)
    (bound : Key) :
    ∃ skipped, rows.filter (fun item => key item < bound) = rows.drop skipped ∧
      ∀ item ∈ rows.take skipped, bound ≤ key item := by
  induction rows with
  | nil => exact ⟨0, rfl, by simp⟩
  | cons head rest inductionHypothesis =>
      rw [List.pairwise_cons] at sorted
      obtain ⟨skipped, isDrop, isAbove⟩ := inductionHypothesis sorted.2
      by_cases below : key head < bound
      · refine ⟨0, List.filter_eq_self.mpr ?_, by simp⟩
        intro item member
        rcases List.mem_cons.mp member with rfl | member
        · exact decide_eq_true below
        · exact decide_eq_true ((sorted.1 item member).trans below)
      · refine ⟨skipped + 1, ?_, ?_⟩
        · rw [List.filter_cons_of_neg (by simpa using below), isDrop, List.drop_succ_cons]
        · intro item member
          rw [List.take_succ_cons, List.mem_cons] at member
          rcases member with rfl | member
          · exact not_lt.mp below
          · exact isAbove item member

section Sorted

variable {Key : Type*} [LinearOrder Key] {key : Item → Key} {bound : Cursor → Key}
  {encode : Item → Cursor} {limit : Nat} {order : List Item}

/-- What lies behind a cursor: the items below its bound, or everything. -/
def below (key : Item → Key) (bound : Cursor → Key) (order : List Item) :
    Option Cursor → List Item
  | none => order
  | some cursor => order.filter fun item => key item < bound cursor

/-- A cursor that is not above the item it encodes never leads back before the item. -/
theorem below_advances (sorted : order.Pairwise fun first second => key second < key first)
    (rounds : ∀ item, bound (encode item) ≤ key item) :
    Advances (below key bound order) encode order := by
  intro before item after shape
  obtain ⟨skipped, isDrop, isAbove⟩ := filter_below_eq_drop sorted (bound (encode item))
  have isEnd : order.drop (before.length + 1) = after := by
    rw [shape, ← List.drop_drop]
    simp
  have beyond : before.length + 1 ≤ skipped := by
    by_contra early
    rw [not_le] at early
    -- the item itself would lie below its own bound
    have kept : item ∈ order.drop skipped := by
      have : item ∈ (order.drop before.length).take 1 := by rw [shape]; simp
      obtain ⟨more, isMore⟩ := Nat.exists_eq_add_of_le (Nat.lt_succ_iff.mp early)
      rw [isMore, ← List.drop_drop] at this
      exact List.mem_of_mem_drop (List.mem_of_mem_take this)
    rw [← isDrop, List.mem_filter, decide_eq_true_eq] at kept
    exact absurd kept.2 (not_lt.mpr (rounds item))
  obtain ⟨more, isMore⟩ := Nat.exists_eq_add_of_le beyond
  rw [below, isDrop, isMore, ← List.drop_drop, isEnd]
  exact List.drop_suffix more after

/-- A boundary resumes when the item behind it lies below the bound of the item before it. -/
theorem filter_below_eq_drop_iff
    (sorted : order.Pairwise fun first second => key second < key first) {position : Nat}
    {last : Item} (isLast : (order.take position).getLast? = some last) {limitKey : Key}
    (rounds : limitKey ≤ key last) :
    order.filter (fun item => key item < limitKey) = order.drop position ↔
      ∀ next, order[position]? = some next → key next < limitKey := by
  obtain ⟨front, isFront⟩ := List.getLast?_eq_some_iff.mp isLast
  have shape : order = (front ++ [last]) ++ order.drop position := by
    rw [← isFront, List.take_append_drop]
  rw [shape, List.pairwise_append] at sorted
  obtain ⟨inFront, behind, across⟩ := sorted
  have outside : ∀ item ∈ front ++ [last], ¬ key item < limitKey := by
    intro item member
    rw [not_lt]
    rcases List.mem_append.mp member with isEarlier | isSame
    · exact rounds.trans ((List.pairwise_append.mp inFront).2.2 item isEarlier last
        List.mem_cons_self).le
    · rw [List.mem_singleton.mp isSame]
      exact rounds
  have kept : order.filter (fun item => key item < limitKey) =
      (order.drop position).filter fun item => key item < limitKey := by
    conv_lhs => rw [shape]
    rw [List.filter_append, List.filter_eq_nil_iff.mpr, List.nil_append]
    intro item member
    simpa using outside item member
  rw [kept, List.filter_eq_self]
  have first : (order.drop position)[0]? = order[position]? := by simp
  cases rest : order.drop position with
  | nil =>
      rw [rest, List.getElem?_nil] at first
      simp [← first]
  | cons next remaining =>
      rw [rest, List.getElem?_cons_zero] at first
      rw [rest, List.pairwise_cons] at behind
      simp only [← first, Option.some_inj, forall_eq', List.mem_cons, decide_eq_true_eq,
        forall_eq_or_imp, and_iff_left_iff_imp]
      intro isBelow item member
      exact (behind.1 item member).trans isBelow

/-- Following cursors that round down reads a sorted order exactly when no boundary is rounded
past the item behind it. -/
theorem follow_below_iff (positive : 0 < limit)
    (sorted : order.Pairwise fun first second => key second < key first)
    (rounds : ∀ item, bound (encode item) ≤ key item) {fuel : Nat}
    (enough : order.length < fuel) :
    follow (fun _ cursor => cut limit encode (below key bound order cursor)) fuel 0 none =
        some order ↔
      ∀ boundary last next, (order.take ((boundary + 1) * limit)).getLast? = some last →
        order[(boundary + 1) * limit]? = some next → key next < bound (encode last) := by
  rw [follow_eq_some_iff positive (below_advances sorted rounds) rfl enough]
  constructor
  · intro resumes boundary last next isLast isNext
    obtain ⟨inside, -⟩ := List.getElem?_eq_some_iff.mp isNext
    exact (filter_below_eq_drop_iff sorted isLast (rounds last)).mp
      (resumes boundary inside last isLast) next isNext
  · intro above boundary inside last isLast
    exact (filter_below_eq_drop_iff sorted isLast (rounds last)).mpr
      fun next isNext => above boundary last next isLast isNext

end Sorted

/-! ## Reading until an answer is empty -/

/-- Ask again with the cursor of the answer before, until an answer has no items. -/
def drain (fetch : Cursor → List Item × Cursor) : (fuel : Nat) → Cursor → Option (List Item)
  | 0, _ => none
  | fuel + 1, cursor =>
      let answer := fetch cursor
      if answer.1 = [] then some [] else (drain fetch fuel answer.2).map (answer.1 ++ ·)

section Drain

variable {Key : Type*} [LinearOrder Key] {key : Item → Key} {rows : List Item} {limit : Nat}

theorem filter_beyond_page (sorted : rows.Pairwise fun first second => key first < key second)
    {last : Item} (isLast : (rows.take limit).getLast? = some last) :
    rows.filter (fun item => key last < key item) = rows.drop limit := by
  obtain ⟨front, isFront⟩ := List.getLast?_eq_some_iff.mp isLast
  have shape : rows = (front ++ [last]) ++ rows.drop limit := by
    rw [← isFront, List.take_append_drop]
  rw [shape, List.pairwise_append, List.pairwise_append] at sorted
  obtain ⟨⟨-, -, before⟩, -, behind⟩ := sorted
  conv_lhs => rw [shape]
  rw [List.filter_append]
  have noneBefore : (front ++ [last]).filter (fun item => key last < key item) = [] := by
    refine List.filter_eq_nil_iff.mpr fun item member => ?_
    rw [decide_eq_true_eq, not_lt]
    rcases List.mem_append.mp member with member | member
    · exact (before item member last (List.mem_singleton_self last)).le
    · rw [List.mem_singleton.mp member]
  have allBehind : (rows.drop limit).filter (fun item => key last < key item) =
      rows.drop limit := by
    refine List.filter_eq_self.mpr fun item member => ?_
    exact decide_eq_true (behind last (by simp) item member)
  rw [noneBefore, allBehind, List.nil_append]

/-- Asking for what lies above the last key read, until nothing does, reads a sorted order. -/
theorem drain_ascending (positive : 0 < limit)
    (sorted : rows.Pairwise fun first second => key first < key second)
    {fetch : Key → List Item × Key}
    (items : ∀ cursor,
      (fetch cursor).1 = (rows.filter fun item => cursor < key item).take limit)
    (next : ∀ cursor last, (fetch cursor).1.getLast? = some last →
      (fetch cursor).2 = key last) (fuel : Nat) :
    ∀ cursor, (rows.filter fun item => cursor < key item).length < fuel →
      drain fetch fuel cursor = some (rows.filter fun item => cursor < key item) := by
  induction fuel with
  | zero => intro cursor enough; exact absurd enough (Nat.not_lt_zero _)
  | succ fuel inductionHypothesis =>
      intro cursor enough
      rw [drain]
      by_cases isEmpty : (fetch cursor).1 = []
      · have nothing : (rows.filter fun item => cursor < key item) = [] := by
          rw [items, List.take_eq_nil_iff] at isEmpty
          exact isEmpty.resolve_left positive.ne'
        simp only [isEmpty, if_true, nothing]
      · have filled := isEmpty
        rw [items] at filled
        obtain ⟨last, isLast⟩ : ∃ last, (fetch cursor).1.getLast? = some last :=
          ⟨_, List.getLast?_eq_some_getLast isEmpty⟩
        have isNext := next cursor last isLast
        have isLastItem := isLast
        rw [items] at isLastItem
        have above : cursor < key last := by
          have member := List.mem_of_mem_take (List.mem_of_getLast? isLastItem)
          simpa using (List.mem_filter.mp member).2
        have beyond : (rows.filter fun item => key last < key item) =
            (rows.filter fun item => cursor < key item).drop limit := by
          rw [← filter_beyond_page (sorted.filter _) isLastItem, List.filter_filter]
          refine List.filter_congr fun item _ => ?_
          rw [Bool.eq_iff_iff, Bool.and_eq_true, decide_eq_true_eq, decide_eq_true_eq]
          exact ⟨fun more => ⟨more, above.trans more⟩, fun both => both.1⟩
        have fewer : (rows.filter fun item => key last < key item).length < fuel := by
          have := List.length_pos_iff.mpr filled
          rw [List.length_take] at this
          rw [beyond, List.length_drop]
          omega
        simp only [isEmpty, if_false, isNext, inductionHypothesis (key last) fewer,
          Option.map_some, beyond]
        rw [items, List.take_append_drop]

end Drain

/-! ## The first items of an order -/

/-- An item is among the first of a strict order exactly when fewer items come before it. -/
theorem mem_take_iff_before {before : Item → Item → Bool} {order : List Item} {item : Item}
    (sorted : order.Pairwise fun first second => before first second = true)
    (asymmetric : ∀ first second, before first second = true → before second first = false)
    (count : Nat) :
    item ∈ order.take count ↔
      item ∈ order ∧ (order.filter fun other => before other item).length < count := by
  induction order generalizing count with
  | nil => simp
  | cons head rest inductionHypothesis =>
      obtain ⟨first, sorted⟩ := List.pairwise_cons.mp sorted
      cases count with
      | zero => simp
      | succ count =>
          have itself : before head head = false := by
            cases isBefore : before head head with
            | false => rfl
            | true => exact isBefore.symm.trans (asymmetric head head isBefore)
          by_cases same : item = head
          · have noneBefore : (head :: rest).filter (fun other => before other head) = [] := by
              apply List.filter_eq_nil_iff.mpr
              intro other isOther
              rcases List.mem_cons.mp isOther with rfl | isOther
              · simp [itself]
              · simp [asymmetric head other (first other isOther)]
            rw [same, noneBefore]
            simp
          · by_cases inRest : item ∈ rest
            · simp [same, inRest, inductionHypothesis sorted count, first item inRest]
            · have notTaken : item ∉ rest.take count := fun taken =>
                inRest (List.mem_of_mem_take taken)
              simp [same, inRest, notTaken]

end Shiliu.Library.Keyset
