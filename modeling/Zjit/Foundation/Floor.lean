import Mathlib.Data.List.Basic
import Zjit.Foundation.Search

/-!
# The last element up to a bound

Where a property holds of an initial segment of a sequence only, as "not beyond a bound" does of a
sorted one, the last element that has it is found by its position, by bisection, or part by part.
-/
namespace Foundation

variable {α β : Type} {p : α → Bool} {list : List α} {a : α} {i : Nat}

/-- Behind an element without the property no element has it. -/
def Initial (p : α → Bool) (list : List α) : Prop :=
  list.Pairwise fun a b => p b = true → p a = true

/-- The last element with the property. -/
def floor (p : α → Bool) (list : List α) : Option α := (list.filter p).getLast?

namespace Initial

theorem tail (initial : Initial p (a :: list)) : Initial p list := (List.pairwise_cons.mp initial).2

theorem count_of_head (initial : Initial p (a :: list)) (lacks : p a = false) :
    list.countP p = 0 := by
  refine List.countP_eq_zero.mpr fun b member holds => ?_
  exact absurd ((List.pairwise_cons.mp initial).1 b member holds) (Bool.eq_false_iff.mp lacks)

/-- The elements with the property are the first ones. -/
theorem iff_lt_count (initial : Initial p list) (found : list[i]? = some a) :
    p a = true ↔ i < list.countP p := by
  induction list generalizing i with
  | nil => cases found
  | cons first rest ih =>
    cases holds : p first with
    | true =>
      rw [List.countP_cons_of_pos holds]
      cases i with
      | zero =>
        obtain rfl : first = a := Option.some.inj found
        exact iff_of_true holds (Nat.succ_pos _)
      | succ i => exact (ih initial.tail found).trans Nat.succ_lt_succ_iff.symm
    | false =>
      have empty := initial.count_of_head holds
      rw [List.countP_cons_of_neg (Bool.eq_false_iff.mp holds), empty]
      refine iff_of_false (fun holds' => ?_) (Nat.not_lt_zero i)
      cases i with
      | zero =>
        obtain rfl : first = a := Option.some.inj found
        exact Bool.false_ne_true (holds.symm.trans holds')
      | succ i =>
        have inside := (ih initial.tail found).mp holds'
        rw [empty] at inside
        exact Nat.not_lt_zero i inside

theorem filter_eq_take (initial : Initial p list) :
    list.filter p = list.take (list.countP p) := by
  induction list with
  | nil => rfl
  | cons first rest ih =>
    cases holds : p first with
    | true =>
      rw [List.filter_cons_of_pos holds, List.countP_cons_of_pos holds, List.take_succ_cons,
        ih initial.tail]
    | false =>
      rw [List.filter_cons_of_neg (Bool.eq_false_iff.mp holds),
        List.countP_cons_of_neg (Bool.eq_false_iff.mp holds), ih initial.tail,
        initial.count_of_head holds, List.take_zero, List.take_zero]

/-- The last element with the property, by its position. -/
theorem floor_eq (initial : Initial p list) (some_ : 0 < list.countP p) :
    floor p list = list[list.countP p - 1]? := by
  have bounded : list.countP p ≤ list.length := List.countP_le_length
  rw [floor, initial.filter_eq_take, List.getLast?_eq_getElem?, List.length_take,
    Nat.min_eq_left bounded, List.getElem?_take_of_lt (by omega)]

end Initial

theorem floor_eq_none (none_ : list.countP p = 0) : floor p list = none := by
  have empty : list.filter p = [] := List.filter_eq_nil_iff.mpr (List.countP_eq_zero.mp none_)
  rw [floor, empty]
  rfl

/-- An element of the last part counts more than all before. -/
theorem floor_append (before after : List α) :
    floor p (before ++ after) = (floor p after).or (floor p before) := by
  rw [floor, List.filter_append, List.getLast?_append]
  rfl

theorem floor_snoc (front : List α) (a : α) :
    floor p (front ++ [a]) = if p a = true then some a else floor p front := by
  rw [floor_append]
  cases holds : p a with
  | true =>
    rw [floor, List.filter_cons_of_pos holds, if_pos rfl]
    rfl
  | false =>
    rw [floor, List.filter_cons_of_neg (Bool.eq_false_iff.mp holds), if_neg Bool.false_ne_true]
    rfl

theorem floor_map (f : β → α) (list : List β) :
    floor p (list.map f) = (floor (fun b => p (f b)) list).map f := by
  rw [floor, List.filter_map, List.getLast?_map]
  rfl

/-- Bisection for the last element with the property. The probe looks at one element, or at one
and the next, and points to where the property ends. -/
theorem search_floor {probe : Nat → Side} (initial : Initial p list)
    (lacks : ∀ i a, list[i]? = some a → p a = false → probe i = .before)
    (last : ∀ i, i < list.length → i + 1 = list.countP p → probe i ≠ .after)
    (inner : ∀ i, i + 1 < list.countP p → probe i = .after) :
    search probe list.length = list.countP p - 1 := by
  have bounded : list.countP p ≤ list.length := List.countP_le_length
  have beyond (j : Nat) (above : list.countP p ≤ j) (inside : j < list.length) :
      probe j = .before := by
    have found : list[j]? = some list[j] := List.getElem?_eq_getElem inside
    refine lacks j list[j] found (Bool.eq_false_iff.mpr fun holds => ?_)
    have below := (initial.iff_lt_count found).mp holds
    omega
  refine search_eq (by omega) ⟨fun j _ below => inner j (by omega), fun inside => ?_, ?_⟩
  · rcases Nat.eq_zero_or_pos (list.countP p) with none_ | some_
    · rw [beyond _ (by omega) inside]
      decide
    · exact last _ inside (by omega)
  · exact fun j above inside => beyond j (by omega) inside

/-- Bisection for the place behind the elements with the property. -/
theorem search_count {probe : Nat → Side} (initial : Initial p list)
    (lacks : ∀ i a, list[i]? = some a → p a = false → probe i = .before)
    (has : ∀ i a, list[i]? = some a → p a = true → probe i = .after) :
    search probe list.length = list.countP p := by
  have bounded : list.countP p ≤ list.length := List.countP_le_length
  have beyond (j : Nat) (above : list.countP p ≤ j) (inside : j < list.length) :
      probe j = .before := by
    have found : list[j]? = some list[j] := List.getElem?_eq_getElem inside
    refine lacks j list[j] found (Bool.eq_false_iff.mpr fun holds => ?_)
    have below := (initial.iff_lt_count found).mp holds
    omega
  refine search_eq bounded ⟨fun j _ below => ?_, fun inside => ?_, ?_⟩
  · have found : list[j]? = some list[j] := List.getElem?_eq_getElem (by omega)
    exact has j list[j] found ((initial.iff_lt_count found).mpr below)
  · rw [beyond _ (Nat.le_refl _) inside]
    decide
  · exact fun j above inside => beyond j (by omega) inside

end Foundation
