import Zjit.Position

/-!
# Notes without a data buffer

With `JIT_DISABLE_DATA` alone, notes are still laid out, but their strings are not copied. They stay in
the pool, which `_jit_emit` releases when it is done.
-/
namespace Zjit

open Foundation Program Ledger

variable {W : WordSize} {s t : State W}

/-! ### The strings found -/

end Zjit
