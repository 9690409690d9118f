import Zjit.Code
import Zjit.Word
import Zjit.Foundation.Ledger
import Zjit.Foundation.Program
import Mathlib.Logic.Function.Basic

/-!
# The compiler state

`jit_state_t` and `jit_compiler_t` as one record. IR nodes live in memory and are reached through
references, so that the node list, the free list and dangling pointers are all what the C code
makes of them. The pool of constants and the list of note nodes are kept as records beside it:
after their creation only the functions modelled here touch them.
-/
namespace Zjit

open Foundation

/-- A node of a pool chunk. -/
structure NodeRef where
  chunk : Block
  index : Nat
  deriving DecidableEq, Repr

/-- `jit_data_t`, tagged with the union member that was stored. -/
inductive Data (W : WordSize)
  | q (l h : CInt)
  | w (value : Word W)
  | f (value : Float32Bits)
  | d (value : Float64Bits)
  | p (value : Pointer W)
  | n (node : NodeRef)
  deriving DecidableEq, Repr

/-- `node->u.w` of what was stored as a word. -/
def Data.toWord {W : WordSize} : Data W → Word W
  | .w value => value
  | .p value => value
  | .q l h => match W with
    | .w32 => l
    | .w64 => h ++ l
  | .f value => value.setWidth W.bits
  | .d value => value.setWidth W.bits
  | .n _ => 0

/-- What a node says beside its opcode and its place in the list. -/
structure Body (W : WordSize) where
  flag : BitVec 16 := 0
  u : Data W := .w 0
  v : Data W := .w 0
  w : Data W := .w 0
  link : Option NodeRef := none
  deriving DecidableEq, Repr

/-- `jit_node_t`; a new chunk is zeroed memory. -/
structure Node (W : WordSize) extends Body W where
  next : Option NodeRef := none
  code : Code := .data
  deriving DecidableEq, Repr

/-! ### Flags of a node -/

def flagNode : BitVec 16 := 0x0001
def flagPatch : BitVec 16 := 0x0002
def flagData : BitVec 16 := 0x0004
def flagUse : BitVec 16 := 0x0008
def flagSynth : BitVec 16 := 0x0010
def flagHead : BitVec 16 := 0x1000
def flagVarargs : BitVec 16 := 0x2000

/-- `node->flag & mask`. -/
def Body.has {W : WordSize} (body : Body W) (mask : BitVec 16) : Bool := body.flag &&& mask != 0

/-- `node->flag |= mask`. -/
def Body.raise {W : WordSize} (body : Body W) (mask : BitVec 16) : Body W :=
  { body with flag := body.flag ||| mask }

/-! ### Constants and notes -/

/-- A zero-terminated string, without its terminator. -/
structure CString where
  bytes : List UInt8
  no_nul : 0 ∉ bytes

/-- The `strlen(s) + 1` bytes of the string in memory. -/
def CString.stored (text : CString) : List UInt8 := text.bytes ++ [0]

instance : DecidableEq CString := fun a b =>
  decidable_of_iff (a.bytes = b.bytes) (by cases a; cases b; simp only [CString.mk.injEq])

/-- A `jit_code_data` node: where its bytes are in the buffer. -/
structure DataEntry where
  node : NodeRef
  offset : Nat
  length : Nat
  deriving DecidableEq, Repr

/-- `_jitc->data`; `bytes` are the first `data.offset` bytes behind `ptr`. -/
structure DataPool where
  ptr : Option Block := none
  table : Option Block := none
  buckets : List (List DataEntry) := []
  count : Nat := 0
  bytes : List UInt8 := []
  deriving DecidableEq, Repr

def DataPool.offset (pool : DataPool) : Nat := pool.bytes.length

/-- A `jit_code_name` or `jit_code_note` node on the list that starts at `_jitc->note.head`. -/
structure NoteNode where
  node : NodeRef
  isName : Bool
  text : DataEntry
  line : CInt
  deriving DecidableEq, Repr

/-- `_jitc->note`; `note` is the last note since the last name. -/
structure NoteList where
  nodes : List NoteNode := []
  size : Nat
  name : Option NoteNode := none
  note : Option NoteNode := none
  deriving DecidableEq, Repr

/-- Where a string lives once the data set is laid out. -/
inductive DataBase
  | compiler (block : Option Block)
  | buffer
  deriving DecidableEq, Repr

/-- A `char *` into one of the two buffers. -/
structure StringRef where
  base : DataBase
  offset : Nat
  deriving DecidableEq, Repr

/-- `jit_line_t`. Both arrays have `length` entries. -/
structure Line where
  file : StringRef
  linenosPtr : Option Block
  offsetsPtr : Option Block
  linenos : List CInt
  offsets : List CInt
  deriving DecidableEq, Repr

/-- `jit_note_t`; a code address is a number here. -/
structure Note where
  code : Nat
  name : Option StringRef
  linesPtr : Option Block := none
  lines : List Line := []
  size : Int := 0
  deriving DecidableEq, Repr

/-! ### Functions -/

/-- `jit_function_t`, without its register set and its table of spill slots. -/
structure Frame where
  argi : Int := 0
  argf : Int := 0
  size : Int := 0
  aoff : Int := 0
  alen : Int := 0
  varargs : Bool := false
  argn : Int := 0
  callArgi : Int := 0
  callArgf : Int := 0
  callSize : Int := 0
  callVarargs : Bool := false
  prolog : Option NodeRef := none
  epilog : Option NodeRef := none
  alist : Option NodeRef := none
  regoff : Nat → Int := fun _ => 0
  frame : Int := 0
  defineFrame : Bool := false
  assumeFrame : Bool := false
  needFrame : Bool := false
  needReturn : Bool := false
  aoffoff : Int := 0
  allocar : Bool := false
  cvtOffset : Int := 0
  swfOffset : Bool := false
  saveRegArgs : Bool := false
  vaoff : Int := 0
  vagp : Int := 0
  vafp : Int := 0

/-- The kinds of `jit_value_t` that hold a constant. -/
inductive ValueKind
  | word
  | float32
  | float64
  deriving DecidableEq, Repr

/-- `jit_value_t`: what a register is known to hold. -/
inductive Value (W : WordSize)
  | unknown
  | register (reg : Nat) (gen : CInt)
  | code (code : Code) (reg : Nat) (gen : CInt) (disp : Data W)
  | constant (kind : ValueKind) (value : Data W)
  deriving DecidableEq, Repr

/-- `jit_block_t`, the live registers of a block. -/
structure BlockLive where
  reglive : BitVec 64 := 0
  regmask : BitVec 64 := 0
  again : Bool := false
  deriving DecidableEq, Repr

/-- The live registers, here and at the start of each block. -/
structure Liveness where
  reglive : BitVec 64 := 0
  regmask : BitVec 64 := 0
  explive : BitVec 64 := 0
  live : Nat → BlockLive := fun _ => {}

/-! ### The state -/

/-- The fields of the compiler record that own no memory and that any code may write. -/
structure Scratch (W : WordSize) extends Liveness where
  prepare : Option NodeRef := none
  synth : Nat := 0
  again : Bool := false
  regarg : BitVec 64 := 0
  regsav : BitVec 64 := 0
  spill : Nat → Option NodeRef := fun _ => none
  gen : Nat → CInt := fun _ => 0
  values : Nat → Value W := fun _ => .unknown
  function : Option Nat := none
  frames : Nat → Frame := fun _ => {}

/-- The pool of node chunks; `offset` is the number of chunks. -/
structure Pool where
  ptr : Option Block := none
  chunks : List Block := []
  length : Nat := 0
  deriving DecidableEq, Repr

/-- `_jitc->blocks`, of each block its label. -/
structure BlockVector where
  ptr : Option Block := none
  labels : List (Option NodeRef) := []
  length : Nat := 0
  deriving DecidableEq, Repr

/-- The vector that `split_branches` builds. -/
structure SplitVector where
  ptr : Option Block := none
  blocks : List (Option NodeRef × BlockLive) := []
  length : Nat := 0
  deriving DecidableEq, Repr

structure PatchVector where
  ptr : Option Block := none
  offset : Nat := 0
  length : Nat := 0
  deriving DecidableEq, Repr

/-- `_jitc->functions`, of each function its table of spill slots. -/
structure FunctionVector where
  ptr : Option Block := none
  regoffs : List Block := []
  length : Nat := 0
  deriving DecidableEq, Repr

structure State (W : WordSize) extends Scratch W where
  ledger : Ledger := {}
  /-- The state record `_jit`. -/
  jit : Option Block := none
  /-- The compiler record `_jitc`, null once the state is cleared. -/
  jitc : Option Block := none
  memory : NodeRef → Node W := fun _ => {}
  head : Option NodeRef := none
  tail : Option NodeRef := none
  list : Option NodeRef := none
  realize : Bool := false
  dataset : Bool := false
  done : Bool := false
  emit : Bool := false
  noData : Bool := false
  noNote : Bool := false
  data : DataPool := {}
  spillPtr : Option Block := none
  genPtr : Option Block := none
  valuesPtr : Option Block := none
  blocks : BlockVector := {}
  split : SplitVector := {}
  patches : PatchVector := {}
  functions : FunctionVector := {}
  pool : Pool := {}
  note : NoteList := { size := 0 }
  userCode : Bool := false
  userData : Bool := false
  /-- `_jit->code.length`. -/
  codeLength : Nat := 0
  /-- `_jit->data.length`. -/
  dataLength : Nat := 0
  /-- What `_jitc->data.ptr + u.w` of a constant is relative to, once laid out. -/
  database : Option DataBase := none
  /-- The constants in the buffer behind `_jit->data.ptr`. -/
  buffer : List UInt8 := []
  /-- `_jit->pc`. -/
  pc : Nat := 0
  /-- `_jit->note`, the annotations. -/
  notes : List Note := []
  /-- `_jitc->note.base`, from the start of the data buffer. -/
  noteBase : Nat := 0

/-- How a call into the library stops other than by returning. -/
inductive Fault
  | assertion
  | typeCheck
  | abort
  | nullDereference
  | outOfBounds
  | outOfFuel
  deriving DecidableEq, Repr

abbrev Jit (W : WordSize) := Program (State W) Fault

/-! ### Access to nodes -/

section Access

variable {W : WordSize}

/-- `node->…` through a pointer that may be null. -/
def Jit.deref (pointer : Option NodeRef) : Jit W NodeRef := Program.expect .nullDereference pointer

def readNode (ref : NodeRef) : Jit W (Node W) := Program.reads fun s => s.memory ref

def State.setNode (s : State W) (ref : NodeRef) (f : Node W → Node W) : State W :=
  { s with memory := Function.update s.memory ref (f (s.memory ref)) }

def writeNode (ref : NodeRef) (f : Node W → Node W) : Jit W Unit :=
  Program.update fun s => s.setNode ref f

def Jit.assert (c : Prop) [Decidable c] : Jit W Unit := Program.check .assertion c

@[simp] theorem returns_deref (pointer : Option NodeRef) (s t : State W) (ref : NodeRef) :
    Program.Returns (Jit.deref pointer) s ref t ↔ pointer = some ref ∧ s = t :=
  Program.returns_expect ..

@[simp] theorem returns_readNode (ref : NodeRef) (s t : State W) (node : Node W) :
    Program.Returns (readNode ref) s node t ↔ s.memory ref = node ∧ s = t :=
  Program.returns_reads ..

@[simp] theorem returns_writeNode (ref : NodeRef) (f : Node W → Node W) (s t : State W)
    (result : Unit) : Program.Returns (writeNode ref f) s result t ↔ s.setNode ref f = t :=
  Program.returns_update ..

@[simp] theorem returns_assert (c : Prop) [Decidable c] (s t : State W) (result : Unit) :
    Program.Returns (Jit.assert c) s result t ↔ c ∧ s = t :=
  Program.returns_check ..

@[simp] theorem setNode_memory_same (s : State W) (ref : NodeRef) (f : Node W → Node W) :
    (s.setNode ref f).memory ref = f (s.memory ref) :=
  Function.update_self ..

theorem setNode_memory_of_ne (s : State W) {ref other : NodeRef} (f : Node W → Node W)
    (different : other ≠ ref) : (s.setNode ref f).memory other = s.memory other :=
  Function.update_of_ne different ..

end Access

end Zjit
