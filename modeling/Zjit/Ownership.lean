import Zjit.Optimize.Pass
import Zjit.Lifecycle
import Mathlib.Tactic.Abel

/-!
# Who owns which block

The blocks that the fields of the state point to, and the balance between them and the ledger,
which every instruction of backends and of the optimizer keeps.
-/
namespace Zjit

open Foundation Program Ledger

variable {W : WordSize} {s t : State W}

/-! ### Owners -/

def Line.owned (line : Line) : Multiset Block := held line.linenosPtr + held line.offsetsPtr

def Note.owned (note : Note) : Multiset Block :=
  held note.linesPtr + (note.lines.map Line.owned).sum

/-- What the annotations own. -/
def State.noted (s : State W) : Multiset Block := (s.notes.map Note.owned).sum

/-- What the two records own, themselves included. -/
def State.owned (s : State W) : Multiset Block :=
  held s.jit + held s.jitc + held s.data.ptr + held s.data.table + held s.spillPtr +
    held s.genPtr + held s.valuesPtr + held s.blocks.ptr + held s.split.ptr + held s.patches.ptr +
    held s.functions.ptr + (s.functions.regoffs : Multiset Block) + held s.pool.ptr +
    (s.pool.chunks : Multiset Block) + s.noted

/-- Every block obtained is owned by the state or has been released, exactly once. -/
def State.Balanced (s : State W) : Prop := s.ledger.Balanced s.owned

end Zjit
