import Mathlib.Data.List.Nodup
import Mathlib.Logic.Function.Basic

/-!
# Chains of cells in a heap

A heap gives every cell an optional successor. A chain is the list of cells that one visits from
a start to the end. Chains are determined by their start, so no cell occurs twice; changing the
successor of a cell outside leaves a chain alone, and of a cell inside replaces what follows it.
-/
namespace Foundation

variable {κ : Type}

theorem mem_middle {cell other : κ} {before after : List κ} (member : other ∈ before ++ after) :
    other ∈ before ++ cell :: after := by
  rcases List.mem_append.mp member with member | member
  · exact List.mem_append_left _ member
  · exact List.mem_append_right _ (List.mem_cons_of_mem cell member)

theorem mem_without {cell other : κ} {before after : List κ} (member : other ∈ before ++ cell :: after)
    (different : other ≠ cell) : other ∈ before ++ after := by
  rcases List.mem_append.mp member with member | member
  · exact List.mem_append_left _ member
  · exact List.mem_append_right _ ((List.mem_cons.mp member).resolve_left different)

/-- Following `next` from `start` one visits `cells` and comes to the end. -/
def Chain (next : κ → Option κ) : Option κ → List κ → Prop
  | start, [] => start = none
  | start, cell :: rest => start = some cell ∧ Chain next (next cell) rest

instance decidableChain [DecidableEq κ] (next : κ → Option κ) :
    (start : Option κ) → (cells : List κ) → Decidable (Chain next start cells)
  | start, [] => inferInstanceAs (Decidable (start = none))
  | start, cell :: rest =>
    have := decidableChain next (next cell) rest
    inferInstanceAs (Decidable (start = some cell ∧ Chain next (next cell) rest))

namespace Chain

variable {next next' : κ → Option κ} {start : Option κ} {cells cells' : List κ} {cell : κ}

theorem nil_iff : Chain next start [] ↔ start = none := Iff.rfl

theorem cons_iff :
    Chain next start (cell :: cells) ↔ start = some cell ∧ Chain next (next cell) cells := Iff.rfl

theorem start_eq (chain : Chain next start cells) : start = cells.head? := by
  cases cells with
  | nil => exact chain
  | cons cell rest => exact chain.1

theorem unique (one : Chain next start cells) (other : Chain next start cells') :
    cells = cells' := by
  induction cells generalizing start cells' with
  | nil =>
    cases cells' with
    | nil => rfl
    | cons cell' rest' =>
      rw [nil_iff] at one
      exact absurd (one.symm.trans other.1) (by simp)
  | cons cell rest ih =>
    cases cells' with
    | nil =>
      rw [nil_iff] at other
      exact absurd (other.symm.trans one.1) (by simp)
    | cons cell' rest' =>
      obtain rfl : cell = cell' := Option.some.inj (one.1.symm.trans other.1)
      rw [ih one.2 other.2]

/-- From any cell of a chain on, the rest of it is a chain. -/
theorem suffix {before after : List κ} (chain : Chain next start (before ++ cell :: after)) :
    Chain next (some cell) (cell :: after) := by
  induction before generalizing start with
  | nil => exact ⟨rfl, chain.2⟩
  | cons first before ih => exact ih chain.2

theorem nodup (chain : Chain next start cells) : cells.Nodup := by
  induction cells generalizing start with
  | nil => exact List.nodup_nil
  | cons cell rest ih =>
    refine List.nodup_cons.mpr ⟨fun again => ?_, ih chain.2⟩
    -- The chain would go on after the second visit as it did after the first, and never end.
    obtain ⟨before, after, rfl⟩ := List.append_of_mem again
    have first : Chain next (some cell) (cell :: (before ++ cell :: after)) := ⟨rfl, chain.2⟩
    have second : Chain next (some cell) (cell :: after) := @suffix _ _ _ _ (cell :: before) _ first
    have lengths := congrArg List.length (unique first second)
    simp only [List.length_cons, List.length_append] at lengths
    omega

/-- A chain that ends at one of its cells from now on. -/
theorem cut {front back : List κ} (chain : Chain next start (front ++ cell :: back))
    (same : ∀ other ∈ front, next' other = next other) (ends : next' cell = none) :
    Chain next' start (front ++ [cell]) := by
  induction front generalizing start with
  | nil => exact ⟨chain.1, ends⟩
  | cons first front ih =>
    refine ⟨chain.1, ?_⟩
    rw [same first List.mem_cons_self]
    exact ih chain.2 fun other member => same other (List.mem_cons_of_mem first member)

theorem congr (chain : Chain next start cells) (same : ∀ cell ∈ cells, next' cell = next cell) :
    Chain next' start cells := by
  induction cells generalizing start with
  | nil => exact chain
  | cons cell rest ih =>
    refine ⟨chain.1, ?_⟩
    rw [same cell List.mem_cons_self]
    exact ih chain.2 fun other member => same other (List.mem_cons_of_mem _ member)

/-- A cell is put in front. -/
theorem push (chain : Chain next start cells) (same : ∀ other ∈ cells, next' other = next other)
    (follow : next' cell = start) : Chain next' (some cell) (cell :: cells) :=
  ⟨rfl, follow ▸ chain.congr same⟩

/-- What leads to a cell stays; what follows it is replaced. -/
theorem splice {before after after' : List κ}
    (chain : Chain next start (before ++ cell :: after))
    (same : ∀ other ∈ before, next' other = next other)
    (follow : Chain next' (next' cell) after') :
    Chain next' start (before ++ cell :: after') := by
  induction before generalizing start with
  | nil => exact ⟨chain.1, follow⟩
  | cons first before ih =>
    refine ⟨chain.1, ?_⟩
    rw [same first List.mem_cons_self]
    exact ih chain.2 fun other member => same other (List.mem_cons_of_mem _ member)

/-- The way on from a cell of a chain. -/
theorem next_eq {before after : List κ} (chain : Chain next start (before ++ cell :: after)) :
    next cell = after.head? :=
  (cons_iff.mp (suffix chain)).2.start_eq

/-- The rest of a chain is a chain. -/
theorem rest {before after : List κ} (chain : Chain next start (before ++ after)) :
    Chain next after.head? after := by
  cases after with
  | nil => exact rfl
  | cons cell after => exact chain.suffix

theorem next_mem {other : κ} (chain : Chain next start cells) (member : cell ∈ cells)
    (follow : next cell = some other) : other ∈ cells.tail := by
  obtain ⟨before, after, rfl⟩ := List.append_of_mem member
  rw [chain.next_eq] at follow
  have inside : other ∈ after := List.mem_of_mem_head? follow
  cases before with
  | nil => exact inside
  | cons first before => exact List.mem_append_right before (List.mem_cons_of_mem cell inside)

/-- A cell has one place on a chain. -/
theorem split_unique {before after before' after' : List κ} (chain : Chain next start cells)
    (split : cells = before ++ cell :: after) (split' : cells = before' ++ cell :: after') :
    before = before' ∧ after = after' := by
  subst split
  have rest := unique chain.suffix (split' ▸ chain).suffix
  rw [rest] at split'
  exact ⟨List.append_cancel_right split', (List.cons.inj rest).2⟩

/-- No two cells of a chain have the same successor. -/
theorem next_inj {one other target : κ} (chain : Chain next start cells) (member : one ∈ cells)
    (member' : other ∈ cells) (follow : next one = some target) (follow' : next other = some target) :
    one = other := by
  obtain ⟨before, after, rfl⟩ := List.append_of_mem member
  obtain ⟨before', after', split⟩ := List.append_of_mem member'
  have first := chain.suffix.2
  have second := (split ▸ chain).suffix.2
  rw [follow] at first
  rw [follow'] at second
  obtain rfl := unique first second
  have whole : (before ++ [one]) ++ after = (before' ++ [other]) ++ after := by simpa using split
  have fronts : before ++ [one] = before' ++ [other] := List.append_cancel_right whole
  exact List.head_eq_of_cons_eq (List.append_inj' fronts rfl).2

/-- Without a cell, what was before it leads elsewhere, and no other cell led to it. -/
theorem next_mem_erase {before after : List κ} {prev other target : κ}
    (chain : Chain next start (before ++ cell :: after))
    (behind : prev = cell ∧ before = [] ∨ ∃ front, before = front ++ [prev])
    (member : other ∈ before ++ after) (noPrev : other ≠ prev) (follow : next other = some target) :
    target ∈ before ++ after := by
  have inside : other ∈ before ++ cell :: after := mem_middle member
  have found : target ∈ before ++ cell :: after := List.mem_of_mem_tail (chain.next_mem inside follow)
  have noCell : target ≠ cell := by
    rintro rfl
    rcases behind with ⟨rfl, rfl⟩ | ⟨front, rfl⟩
    · exact (List.nodup_cons.mp chain.nodup).1 (chain.next_mem inside follow)
    · rw [List.append_assoc, List.singleton_append] at chain inside
      exact noPrev (chain.next_inj inside (by simp) follow chain.next_eq)
  exact mem_without found noCell

end Chain

end Foundation
