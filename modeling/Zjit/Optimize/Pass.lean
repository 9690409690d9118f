import Zjit.Build
import Zjit.Data

/-!
# What the optimizer can do

The optimizer has the instructions that backends have, and with them those of the core that
unlink, recycle and recode nodes.
-/
namespace Zjit

open Foundation Program

variable {W : WordSize}

/-! ### The new vector of blocks -/

/-- `split_branches` starts with a vector as large as the old one. The pointer is null outside of
it, so that a block is obtained and none given up. -/
def State.openSplit (s : State W) : State W :=
  { s with
    ledger := s.ledger.realloc s.split.ptr
    split := { ptr := some s.ledger.next, length := s.blocks.length } }

/-- One block more, after room for 16 if the vector is full. -/
def State.pushSplit (s : State W) (label : Option NodeRef) (live : BlockLive) : State W :=
  let s :=
    if s.split.blocks.length ≥ s.split.length then
      { s with
        ledger := s.ledger.realloc s.split.ptr
        split := { s.split with ptr := some s.ledger.next, length := s.split.length + 16 } }
    else s
  { s with split := { s.split with blocks := s.split.blocks ++ [(label, live)] } }

/-- The new vector replaces the old one. -/
def State.closeSplit (s : State W) : State W :=
  { s with
    ledger := s.ledger.free s.blocks.ptr
    blocks :=
      { ptr := s.split.ptr, labels := s.split.blocks.map Prod.fst, length := s.split.length }
    live := fun offset => (s.split.blocks.getD offset (none, {})).2
    split := {} }

/-! ### The instructions -/

inductive RawOp (W : WordSize) : Type → Type
  | newNode (code : Code) : RawOp W NodeRef
  /-- `node->next = next`. -/
  | next (ref : NodeRef) (next : Option NodeRef) : RawOp W Unit
  /-- `node->code = code`. -/
  | code (ref : NodeRef) (code : Code) : RawOp W Unit
  | free (ref : NodeRef) : RawOp W Unit
  /-- `_jitc->head = head`. -/
  | head (head : Option NodeRef) : RawOp W Unit
  /-- `block->label = NULL`. -/
  | unlabel (offset : Nat) : RawOp W Unit
  /-- `_jit_data`. -/
  | data (bytes : List UInt8) (align : Nat) : RawOp W NodeRef

def RawOp.run : {α : Type} → RawOp W α → Jit W α
  | _, .newNode opcode => Zjit.newNode opcode
  | _, .next ref link => writeNode ref fun node => { node with next := link }
  | _, .code ref opcode => writeNode ref fun node => { node with code := opcode }
  | _, .free ref => update fun s => s.freeNode ref
  | _, .head first => update fun s => { s with head := first }
  | _, .unlabel offset => update fun s =>
    { s with blocks := { s.blocks with labels := s.blocks.labels.set offset none } }
  | _, .data bytes align => do
    let entry ← jitData bytes align
    pure entry.node

abbrev PassOp (W : WordSize) (α : Type) : Type := Op W α ⊕ RawOp W α

def PassOp.run {α : Type} : PassOp W α → Jit W α
  | .inl op => op.run
  | .inr op => op.run

abbrev Pass (W : WordSize) := Script (PassOp W) Fault

def Pass.run {α : Type} (x : Pass W α) : Jit W α := Script.run PassOp.run x

/-- `split_branches` alone builds a vector of blocks. -/
inductive VectorOp (W : WordSize) : Type → Type
  | openSplit : VectorOp W Unit
  | pushSplit (label : Option NodeRef) (live : BlockLive) : VectorOp W Unit
  | closeSplit : VectorOp W Unit

def VectorOp.run : {α : Type} → VectorOp W α → Jit W α
  | _, .openSplit => update fun s => s.openSplit
  | _, .pushSplit label live => update fun s => s.pushSplit label live
  | _, .closeSplit => update fun s => s.closeSplit

abbrev SplitOp (W : WordSize) (α : Type) : Type := PassOp W α ⊕ VectorOp W α

def SplitOp.run {α : Type} : SplitOp W α → Jit W α
  | .inl op => op.run
  | .inr op => op.run

abbrev Split (W : WordSize) := Script (SplitOp W) Fault

def Split.run {α : Type} (x : Split W α) : Jit W α := Script.run SplitOp.run x

namespace Split

def pass {α : Type} (x : Pass W α) : Split W α := x.embed .inl

def vector {α : Type} (op : VectorOp W α) : Split W α := Script.perform (.inr op)

end Split

namespace Pass

/-- What a backend does, the optimizer may do. -/
def build {α : Type} (x : Build W α) : Pass W α := x.embed .inl

def look : Pass W (State W) := Script.perform (.inl .look)

def scratch (f : Scratch W → Scratch W) : Pass W Unit := Script.perform (.inl (.scratch f))

def body (ref : NodeRef) (f : Body W → Body W) : Pass W Unit := Script.perform (.inl (.body ref f))

def raw {α : Type} (op : RawOp W α) : Pass W α := Script.perform (.inr op)

def node (ref : NodeRef) : Pass W (Node W) := do
  return (← look).memory ref

def deref {α : Type} : Option α → Pass W α
  | some a => pure a
  | none => Script.fault .nullDereference

def assert (c : Prop) [Decidable c] : Pass W Unit :=
  if c then pure () else Script.fault .assertion

def ofExcept {α : Type} : Except Fault α → Pass W α
  | .ok a => pure a
  | .error e => Script.fault e

def classify (code : Code) : Pass W (List Cc) :=
  match jitClassify code with
  | some mask => pure mask
  | none => Script.fault .abort

/-- The node that an operand points to. -/
def target : Data W → Pass W NodeRef
  | .n ref => pure ref
  | _ => Script.fault .nullDereference

/-- `_del_node`. The caller passes the node itself as `prev` to drop the head. -/
def delNode (prev : Option NodeRef) (ref : NodeRef) : Pass W Unit := do
  let s ← look
  let next := (s.memory ref).next
  if prev = some ref then
    assert (s.head = prev)
    raw (.head next)
  else
    raw (.next (← deref prev) next)
  raw (.free ref)

end Pass

end Zjit
