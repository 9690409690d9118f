import Zjit.Foundation.Meeting
import Zjit.Optimize.Branches
import Zjit.Optimize.Liveness

/-!
# What IR means

How the node list is executed. Control flow is spelled out: falling through, jumps, branches,
calls within the code and returns. What an instruction does to registers and memory, and where an
address leads, is left to the processor.
-/
namespace Zjit

open StateTransition

variable {W : WordSize} {M : Type}

/-- Registers and memory of a target, as far as control flow depends on them. -/
structure Processor (W : WordSize) (M : Type) where
  get : M → Nat → Word W
  set : M → Nat → Word W → M
  /-- How the operands of a branch on floats compare. -/
  order : (double immediate : Bool) → M → Data W → Data W → FloatOrder
  /-- Every instruction but labels, jumps and branches. -/
  act : Code → Data W → Data W → Data W → M → M
  /-- The label or prolog at an address, if it is one of this code. -/
  place : Word W → Option NodeRef

section Branch

variable (p : Processor W M) (branch : CondJump)

/-- The last operand of a branch. -/
def Processor.right (m : M) (w : Data W) : Word W :=
  if branch.immediate then w.toWord else p.get m (jitRegno w.low)

def compareWords (signed : Bool) (a b : Word W) : Ordering :=
  if signed then compare a.toInt b.toInt else compare a.toNat b.toNat

def overflows (add signed : Bool) (a b : Word W) : Bool :=
  match add, signed with
  | true, true => a.saddOverflow b
  | true, false => a.uaddOverflow b
  | false, true => a.ssubOverflow b
  | false, false => a.usubOverflow b

def Processor.taken (v w : Data W) (m : M) : Bool :=
  let left := p.get m (jitRegno v.low)
  let right := p.right branch m w
  match branch.condition with
  | .integer signed test => test.holds (compareWords signed left right)
  | .mask set => (left &&& right != 0) == set
  | .float double test => test.holds (p.order double branch.immediate m v w)
  | .overflow add signed taken => overflows add signed left right == taken

/-- What a branch does before it is taken or not. -/
def Processor.update (v w : Data W) (m : M) : M :=
  let left := p.get m (jitRegno v.low)
  let right := p.right branch m w
  match branch.condition with
  | .overflow add _ _ => p.set m (jitRegno v.low) (if add then left + right else left - right)
  | _ => m

theorem beq_negate (a b : Bool) : (a == !b) = !(a == b) := by
  cases a <;> cases b <;> rfl

theorem taken_negate (v w : Data W) (m : M) :
    p.taken branch.negate v w m = !p.taken branch v w m := by
  obtain ⟨condition, immediate⟩ := branch
  cases condition with
  | integer signed test => exact test.negate_holds _
  | mask set => exact beq_negate _ set
  | float double test => exact test.negate_holds _
  | overflow add signed taken => exact beq_negate _ taken

theorem update_negate (v w : Data W) (m : M) :
    p.update branch.negate v w m = p.update branch v w m := by
  obtain ⟨condition, immediate⟩ := branch
  cases condition <;> rfl

end Branch

/-! ### Nodes -/

/-- How execution leaves the code. -/
inductive Exit (W : WordSize)
  /-- Behind the last node. -/
  | fell
  | returned
  | jumped (address : Word W)
  deriving DecidableEq, Repr

/-- Where execution goes from a node, and the machine then. -/
inductive Transfer (W : WordSize) (M : Type)
  | next (machine : M)
  | goto (label : Option NodeRef) (machine : M)
  | call (label : Option NodeRef) (machine : M)
  | back (machine : M)
  | leave (exit : Exit W) (machine : M)

/-- The node an operand points to. -/
def Data.label : Data W → Option NodeRef
  | .n ref => some ref
  | _ => none

/-- A jump or a branch that is taken leads to its label, or to an address outside. -/
def Node.jump (node : Node W) (m : M) : Transfer W M :=
  if node.has flagNode then .goto node.u.label m else .leave (.jumped node.u.toWord) m

/-- What a single node does. -/
def Processor.move (p : Processor W M) (node : Node W) (m : M) : Transfer W M :=
  let address := p.get m (jitRegno node.u.low)
  match node.code with
  | .label | .name | .note => .next m
  | .jmpi => node.jump m
  | .jmpr =>
    match p.place address with
    | some label => .goto (some label) m
    | none => .leave (.jumped address) m
  | .calli =>
    if node.has flagNode then .call node.u.label m
    else .next (p.act .calli node.u node.v node.w m)
  | .callr =>
    match p.place address with
    | some label => .call (some label) m
    | none => .next (p.act .callr node.u node.v node.w m)
  | .prolog => .next (p.act .prolog (.w 0) (.w 0) node.w m)
  | .epilog => .back (p.act .epilog (.w 0) (.w 0) node.w m)
  | code =>
    match condJump code with
    | some branch =>
      let n := p.update branch node.v node.w m
      if p.taken branch node.v node.w m then node.jump n else .next n
    | none => .next (p.act code node.u node.v node.w m)

/-! ### The list -/

/-- The nodes without their lists of jumps, and where the list and the free list begin. -/
structure Listing (W : WordSize) where
  node : NodeRef → Node W
  head : Option NodeRef
  list : Option NodeRef

/-- A node beside its place on the list of a label. -/
def Node.bare (node : Node W) : Node W := { node with link := none }

def State.listing (s : State W) : Listing W where
  node ref := (s.memory ref).bare
  head := s.head
  list := s.list

/-- The next node, the calls that have not returned, and the machine. -/
inductive Config (W : WordSize) (M : Type)
  | at_ (ref : Option NodeRef) (callers : List NodeRef) (machine : M)
  | left (exit : Exit W) (machine : M)

namespace Listing

variable (p : Processor W M) (l : Listing W)

def next (ref : NodeRef) : Option NodeRef := (l.node ref).next

def follow (ref : NodeRef) (callers : List NodeRef) : Transfer W M → Config W M
  | .next m => .at_ (l.next ref) callers m
  | .goto label m => .at_ label callers m
  | .call label m => .at_ label (ref :: callers) m
  | .back m =>
    match callers with
    | [] => .left .returned m
    | caller :: callers => .at_ (l.next caller) callers m
  | .leave exit m => .left exit m

def step : Config W M → Option (Config W M)
  | .left _ _ => none
  | .at_ none _ m => some (.left .fell m)
  | .at_ (some ref) callers m => some (l.follow ref callers (p.move (l.node ref) m))

/-- How execution ends that starts at `entry`, if it does. -/
noncomputable def outcome (entry : Option NodeRef) (m : M) : Part (Config W M) :=
  eval (l.step p) (.at_ entry [] m)

end Listing

end Zjit
