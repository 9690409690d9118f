import Mathlib.Data.List.Basic
import Mathlib.Data.List.Perm.Basic

/-!
# Tables of buckets

A hash table as the list of its buckets. Each element has a slot, the number of the bucket it
belongs to. A search in that bucket alone is as good as a search in the whole table.
-/
namespace Foundation

namespace Buckets

variable {α : Type} {slot slot' : α → Nat} {buckets : List (List α)} {a : α}

/-- Every element is in the bucket of its slot. -/
def Placed (slot : α → Nat) (buckets : List (List α)) : Prop :=
  ∀ (i : Nat) (bucket : List α), buckets[i]? = some bucket → ∀ a ∈ bucket, slot a = i

/-- Slots only matter for the elements of the table. -/
theorem Placed.congr (placed : Placed slot buckets)
    (same : ∀ a ∈ buckets.flatten, slot' a = slot a) : Placed slot' buckets := by
  intro i bucket found a member
  have inside : a ∈ buckets.flatten :=
    List.mem_flatten.mpr ⟨bucket, List.mem_of_getElem? found, member⟩
  exact (same a inside).trans (placed i bucket found a member)

theorem placed_replicate (slot : α → Nat) (count : Nat) : Placed slot (List.replicate count []) := by
  intro i bucket found a member
  rw [List.eq_of_mem_replicate (List.mem_of_getElem? found)] at member
  cases member

/-- An element goes to the front of its bucket. -/
theorem placed_put (placed : Placed slot buckets) (a : α) :
    Placed slot (buckets.modify (slot a) (a :: ·)) := by
  intro i bucket found b member
  rw [List.getElem?_modify] at found
  obtain ⟨before, isBucket, rfl⟩ := Option.map_eq_some_iff.mp found
  split at member
  next here =>
    rcases List.mem_cons.mp member with rfl | old
    · exact here
    · exact placed i before isBucket b old
  next => exact placed i before isBucket b member

/-- The bucket has one element more, and no other element has come or gone. -/
theorem perm_put (a : α) {i : Nat} (inside : i < buckets.length) :
    (buckets.modify i (a :: ·)).flatten.Perm (a :: buckets.flatten) := by
  induction buckets generalizing i with
  | nil => cases inside
  | cons first rest ih =>
    cases i with
    | zero => exact List.Perm.refl _
    | succ i =>
      have later := ih (Nat.lt_of_succ_lt_succ inside)
      simp only [List.modify_succ_cons, List.flatten_cons]
      exact (later.append_left first).trans List.perm_middle

/-- Elements are put into the table one after the other. -/
theorem refill (elements : List α) (placed : Placed slot buckets)
    (bounded : ∀ a ∈ elements, slot a < buckets.length) :
    let table := elements.foldl (fun table a => table.modify (slot a) (a :: ·)) buckets
    Placed slot table ∧ table.length = buckets.length ∧
      table.flatten.Perm (elements ++ buckets.flatten) := by
  induction elements generalizing buckets with
  | nil => exact ⟨placed, rfl, List.Perm.refl _⟩
  | cons first rest ih =>
    have length : (buckets.modify (slot first) (first :: ·)).length = buckets.length :=
      List.length_modify ..
    obtain ⟨placed', length', perm⟩ := ih (placed_put placed first) fun a member =>
      length.symm ▸ bounded a (List.mem_cons_of_mem first member)
    refine ⟨placed', length'.trans length, perm.trans ?_⟩
    have put := perm_put first (bounded first List.mem_cons_self)
    exact (put.append_left rest).trans List.perm_middle

theorem mem_bucket (placed : Placed slot buckets) (member : a ∈ buckets.flatten) :
    a ∈ buckets.getD (slot a) [] := by
  obtain ⟨bucket, inTable, inBucket⟩ := List.mem_flatten.mp member
  obtain ⟨i, found⟩ := List.mem_iff_getElem?.mp inTable
  rw [placed i bucket found a inBucket, List.getD_eq_getElem?_getD, found]
  exact inBucket

theorem mem_of_bucket {i : Nat} (member : a ∈ buckets.getD i []) : a ∈ buckets.flatten := by
  rw [List.getD_eq_getElem?_getD] at member
  cases found : buckets[i]? with
  | none =>
    rw [found] at member
    cases member
  | some bucket =>
    rw [found] at member
    exact List.mem_flatten.mpr ⟨bucket, List.mem_of_getElem? found, member⟩

/-- Where at most one element of the table passes a test, the search in a bucket finds the one
that passes it and belongs there. -/
theorem find_eq_some_iff (placed : Placed slot buckets) {test : α → Bool} {i : Nat}
    (here : ∀ a ∈ buckets.flatten, test a = true → slot a = i)
    (unique : ∀ a ∈ buckets.flatten, ∀ b ∈ buckets.flatten, test a = true → test b = true → a = b) :
    (buckets.getD i []).find? test = some a ↔ a ∈ buckets.flatten ∧ test a = true := by
  constructor
  · intro found
    exact ⟨mem_of_bucket (List.mem_of_find?_eq_some found), List.find?_some found⟩
  · rintro ⟨member, passed⟩
    have inBucket : a ∈ buckets.getD i [] := here a member passed ▸ mem_bucket placed member
    cases found : (buckets.getD i []).find? test with
    | none => exact absurd passed (List.find?_eq_none.mp found a inBucket)
    | some b =>
      have other := mem_of_bucket (List.mem_of_find?_eq_some found)
      rw [unique b other a member (List.find?_some found) passed]

end Buckets

end Foundation
