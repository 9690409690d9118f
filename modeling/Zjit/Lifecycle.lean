import Zjit.Node

/-!
# The life of a state

`jit_new_state`, `_jit_clear_state` and `_jit_destroy_state`, and the blocks a state owns.
-/
namespace Zjit

open Foundation Program

variable {W : WordSize}

def wordBytes (W : WordSize) : Nat := W.bits / 8

/-- `sizeof(jit_note_t)`: five words. -/
def sizeofNote (W : WordSize) : Nat := 5 * wordBytes W

/-- `sizeof(jit_line_t)`: four words. -/
def sizeofLine (W : WordSize) : Nat := 4 * wordBytes W

/-- `jit_new_state`, its nine blocks numbered in the order they are allocated. -/
def jitNewState (W : WordSize) : State W where
  ledger := { next := 9 }
  jit := some 0
  jitc := some 1
  spillPtr := some 2
  genPtr := some 3
  valuesPtr := some 4
  patches := { ptr := some 5, length := 1024 }
  functions := { ptr := some 6, length := 16 }
  pool := { ptr := some 7, length := 16 }
  blocks := { ptr := some 8, length := 16 }
  note := { size := sizeofNote W }

/-- `jit_free` of a pointer field. -/
def State.release (s : State W) (pointer : Option Block) : State W :=
  { s with ledger := s.ledger.free pointer }

def State.releaseAll (s : State W) (blocks : List Block) : State W :=
  { s with ledger := s.ledger.freeAll blocks }

/-- `_jit_clear_state`. It leaves `_jitc->data.ptr` alone. -/
def State.clear (s : State W) : State W :=
  let s := s.release s.data.table
  let s := { s with data := { s.data with table := none, buckets := [], count := 0 } }
  let s := { s.release s.spillPtr with spillPtr := none }
  let s := { s.release s.genPtr with genPtr := none }
  let s := { s.release s.valuesPtr with valuesPtr := none }
  let s := { s.release s.blocks.ptr with blocks := {} }
  let s := { s.release s.patches.ptr with patches := {} }
  let s := s.releaseAll s.functions.regoffs
  let s := { s.release s.functions.ptr with functions := {}, function := none }
  let s := s.releaseAll s.pool.chunks
  let s := { s.release s.pool.ptr with pool := {}, list := none }
  let s := { s with head := none, tail := none, note := { size := s.note.size } }
  { s.release s.jitc with jitc := none }

end Zjit
