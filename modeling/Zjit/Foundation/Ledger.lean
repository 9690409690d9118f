import Mathlib.Algebra.Order.Group.Multiset
import Mathlib.Algebra.BigOperators.Group.List.Basic
import Mathlib.Data.Multiset.Range
import Mathlib.Tactic.Abel

/-!
# A ledger of heap blocks

Blocks are numbered in the order they are obtained. The ledger knows how many were obtained and
which were released; who owns the others is for the client to say, and `Balanced` ties the two
together: a block obtained is owned or released, and neither of the two more than once.
-/
namespace Foundation

abbrev Block := Nat

structure Ledger where
  next : Block := 0
  released : List Block := []
  deriving DecidableEq, Repr

namespace Ledger

/-- Obtain the block `ledger.next`. -/
def alloc (ledger : Ledger) : Ledger := { ledger with next := ledger.next + 1 }

/-- Releasing the null pointer does nothing. -/
def free (ledger : Ledger) : Option Block → Ledger
  | none => ledger
  | some block => { ledger with released := block :: ledger.released }

/-- Growing a block gives up the old one and obtains `ledger.next`. -/
def realloc (ledger : Ledger) (old : Option Block) : Ledger := (ledger.free old).alloc

def freeAll (ledger : Ledger) (blocks : List Block) : Ledger :=
  { ledger with released := blocks ++ ledger.released }

/-- The blocks held by a pointer field. -/
def held (pointer : Option Block) : Multiset Block := pointer.toList

/-- Every block obtained is owned or released, exactly once. -/
def Balanced (ledger : Ledger) (owned : Multiset Block) : Prop :=
  owned + (ledger.released : Multiset Block) = Multiset.range ledger.next

instance (ledger : Ledger) (owned : Multiset Block) : Decidable (ledger.Balanced owned) :=
  inferInstanceAs (Decidable (_ = _))

variable {ledger : Ledger} {owned owned' : Multiset Block}

@[simp] theorem next_free (ledger : Ledger) (old : Option Block) :
    (ledger.free old).next = ledger.next := by
  cases old <;> rfl

end Ledger

/-! ### Owners in a list -/

section Lists

variable {α M : Type} [AddCommMonoid M]

theorem map_modify_of_eq {β : Type} (f : α → β) (g : α → α) (same : ∀ a, f (g a) = f a)
    (list : List α) (index : Nat) : (list.modify index g).map f = list.map f := by
  induction list generalizing index with
  | nil => simp only [List.modify_nil]
  | cons first rest ih =>
    cases index with
    | zero => simp only [List.modify_zero_cons, List.map_cons, same]
    | succ index => simp only [List.modify_succ_cons, List.map_cons, ih]

end Lists

end Foundation
