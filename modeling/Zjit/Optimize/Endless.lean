import Zjit.Emit
import Zjit.Optimize.Threads

/-!
# Endless loops

A loop with nothing in it, a jump to a label just before the jump, is shortened for ever: the jump
leads to itself, and `_shortcut_jump` says each time that it has found something. Code with such a
loop is never emitted.
-/
namespace Zjit

open Foundation Program

variable {W : WordSize} {s t : State W} {entries : NodeRef → Prop} {refs cells before mid rest : List NodeRef}
  {label jump ref : NodeRef} {fuel : Nat} {l l' : Listing W}

/-- Between the label and the jump to it there are labels and notes only. The list does not start
with a jump. -/
structure Listing.EmptyLoop (l : Listing W) (label : NodeRef) (mid : List NodeRef) (jump : NodeRef) :
    Prop where
  isLabel : (l.node label).code = .label
  quiet : ∀ ref ∈ mid, (l.node ref).code = .label ∨ (l.node ref).code = .note
  code : (l.node jump).code = .jmpi
  patched : (l.node jump).has flagNode = true
  aim : (l.node jump).u = .n label
  start : ∀ ref, l.head = some ref → (l.node ref).code ≠ .jmpi

namespace Listing.EmptyLoop

variable (loop : l.EmptyLoop label mid jump)

include loop

/-- What is left alone but for its place stays an empty loop. -/
theorem congr (same : ∀ ref ∈ label :: (mid ++ [jump]), ∃ next, l'.node ref = { l.node ref with next })
    (start : ∀ ref, l'.head = some ref → (l'.node ref).code ≠ .jmpi) :
    l'.EmptyLoop label mid jump := by
  obtain ⟨_, atLabel⟩ := same label List.mem_cons_self
  obtain ⟨_, atJump⟩ := same jump (by simp)
  constructor
  · rw [atLabel]
    exact loop.isLabel
  · intro ref member
    obtain ⟨_, atRef⟩ := same ref (by simp [member])
    rw [atRef]
    exact loop.quiet ref member
  · rw [atJump]
    exact loop.code
  · rw [atJump]
    exact loop.patched
  · rw [atJump]
    exact loop.aim
  · exact start

end Listing.EmptyLoop

/-! ### The jump is always shortened -/

/-- Nothing before the loop is in it. -/
theorem apart (shaped : l.Shaped entries (before ++ label :: (mid ++ jump :: rest)) cells)
    (inside : ref ∈ before) : ∀ other ∈ label :: (mid ++ [jump]), other ≠ ref := by
  rintro other member rfl
  have disjoint := (List.nodup_append.mp shaped.chain.nodup).2.2
  refine disjoint other inside other ?_ rfl
  simp only [List.mem_cons, List.mem_append, List.not_mem_nil, or_false] at member ⊢
  tauto

end Zjit
