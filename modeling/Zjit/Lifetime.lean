import Zjit.Annotation
import Zjit.Frame
import Zjit.Run

/-!
# The lifetime of blocks

Every call of a run keeps the balance between owners and the ledger, so that what is left when a
state is destroyed can be read off its fields.
-/
namespace Zjit

open Foundation Program Ledger

variable {W : WordSize} {s t : State W} {jit jitc : Option Block}

/-! ### Calls into the library -/

/-- A change that moves no pointer. -/
theorem State.Tidy.of_same (tidy : s.Tidy jit jitc) (ledger : t.ledger = s.ledger) (owned : t.owned = s.owned)
    (notes : t.notes = s.notes) (split : t.split = s.split) (sameJit : t.jit = s.jit)
    (sameJitc : t.jitc = s.jitc) : t.Tidy jit jitc where
  balanced := by
    rw [State.Balanced, ledger, owned]
    exact tidy.balanced
  noted := by
    rw [State.noted, notes]
    exact tidy.noted
  split := split.trans tidy.split
  jit := sameJit.trans tidy.jit
  jitc := sameJitc.trans tidy.jitc

-- The target, and how many rounds a loop may take.
variable (platform : Platform W) (fuel : Nat)

end Zjit
