import Zjit.Node

/-!
# Calls from Zig into C

A wrapper passes its arguments to a constructor declared with C types. Zig coerces each argument
to the type of its parameter, refuses to compile a call where it cannot, and checks an `@intCast`
at run time.
-/
namespace Zjit

open Foundation Program

variable {W : WordSize}

/-- Why a wrapper never reaches its constructor. -/
inductive ZigError
  /-- The argument does not coerce to the parameter type: the method does not compile. -/
  | typeMismatch
  /-- `@intCast` of a value the result type cannot hold. -/
  | castOverflow
  deriving DecidableEq, Repr

/-- An argument as a wrapper writes it. -/
inductive Arg (W : WordSize)
  | int (value : CInt)
  | word (value : Word W)
  | f32 (value : Float32Bits)
  | f64 (value : Float64Bits)
  | pointer (address : Pointer W)
  | null
  /-- The literal `0`. -/
  | zero
  /-- `@intCast(@intFromPtr(p))`. -/
  | intCast (address : Pointer W)
  deriving DecidableEq, Repr

namespace Arg

/-- Coercion to `jit_word_t`. The target of `@intCast` is this signed type. -/
def toWord : Arg W → Except ZigError (Word W)
  | int value => .ok value
  | word value => .ok value
  | zero => .ok 0
  | intCast address => if address.fitsWord then .ok address else .error .castOverflow
  | f32 _ | f64 _ | pointer _ | null => .error .typeMismatch

/-- Coercion to `jit_int32_t`, of the arguments the wrappers pass there. -/
def toInt32 : Arg W → Except ZigError CInt
  | int value => .ok value
  | zero => .ok 0
  | _ => .error .typeMismatch

/-- Coercion to `jit_float32_t`, of the arguments the wrappers pass there. -/
def toFloat32 : Arg W → Except ZigError Float32Bits
  | f32 value => .ok value
  | zero => .ok 0
  | _ => .error .typeMismatch

/-- Coercion to `jit_float64_t`, of the arguments the wrappers pass there. -/
def toFloat64 : Arg W → Except ZigError Float64Bits
  | f64 value => .ok value
  | zero => .ok 0
  | _ => .error .typeMismatch

/-- Coercion to `jit_pointer_t`. -/
def toPointer : Arg W → Except ZigError (Pointer W)
  | pointer address => .ok address
  | null => .ok 0
  | _ => .error .typeMismatch

theorem toWord_intCast (address : Pointer W) :
    (intCast address).toWord =
      if address.fitsWord then .ok (castWord address) else .error .castOverflow := rfl

end Arg

/-! ### The constructors as Zig calls them -/

namespace Zig

abbrev Call (W : WordSize) := Except ZigError (NewNode W)

def newNodeW (code : Code) (u : Arg W) : Call W := return .w code (← u.toWord)

def newNodeP (code : Code) (u : Arg W) : Call W := return .p code (← u.toPointer)

def newNodeWw (code : Code) (u v : Arg W) : Call W := return .ww code (← u.toWord) (← v.toWord)

def newNodeWp (code : Code) (u v : Arg W) : Call W := return .wp code (← u.toWord) (← v.toPointer)

def newNodePw (code : Code) (u v : Arg W) : Call W := return .pw code (← u.toPointer) (← v.toWord)

def newNodeWf (code : Code) (u v : Arg W) : Call W := return .wf code (← u.toWord) (← v.toFloat32)

def newNodeWd (code : Code) (u v : Arg W) : Call W := return .wd code (← u.toWord) (← v.toFloat64)

def newNodeWww (code : Code) (u v w : Arg W) : Call W :=
  return .www code (← u.toWord) (← v.toWord) (← w.toWord)

def newNodeQww (code : Code) (l h v w : Arg W) : Call W :=
  return .qww code (← l.toInt32) (← h.toInt32) (← v.toWord) (← w.toWord)

def newNodeWqw (code : Code) (u l h w : Arg W) : Call W :=
  return .wqw code (← u.toWord) (← l.toInt32) (← h.toInt32) (← w.toWord)

def newNodeWwq (code : Code) (u v l h : Arg W) : Call W :=
  return .wwq code (← u.toWord) (← v.toWord) (← l.toInt32) (← h.toInt32)

def newNodeWwf (code : Code) (u v w : Arg W) : Call W :=
  return .wwf code (← u.toWord) (← v.toWord) (← w.toFloat32)

def newNodeWwd (code : Code) (u v w : Arg W) : Call W :=
  return .wwd code (← u.toWord) (← v.toWord) (← w.toFloat64)

def newNodePww (code : Code) (u v w : Arg W) : Call W :=
  return .pww code (← u.toPointer) (← v.toWord) (← w.toWord)

def newNodePwf (code : Code) (u v w : Arg W) : Call W :=
  return .pwf code (← u.toPointer) (← v.toWord) (← w.toFloat32)

def newNodePwd (code : Code) (u v w : Arg W) : Call W :=
  return .pwd code (← u.toPointer) (← v.toWord) (← w.toFloat64)

end Zig

/-- The body of an instruction method. -/
inductive Wrapper (W : WordSize)
  /-- `self.last_node = c._jit_new_node_…(…).?;` -/
  | sets (call : Zig.Call W)
  /-- `return c._jit_new_node_…(…).?;` -/
  | returns (call : Zig.Call W)

namespace Wrapper

def call : Wrapper W → Zig.Call W
  | sets call | returns call => call

def setsLast : Wrapper W → Bool
  | sets _ => true
  | returns _ => false

end Wrapper

/-! ### The wrapper's state -/

/-- `State` of the wrapper: what `ptr` refers to, and `last_node`. -/
structure ZigState (W : WordSize) where
  jit : State W
  lastNode : Option NodeRef := none

/-- How a method stops other than by returning. -/
inductive Trap
  | zig (error : ZigError)
  | lightning (fault : Fault)
  deriving DecidableEq, Repr

abbrev ZigM (W : WordSize) := Program (ZigState W) Trap

/-- A call into the library. -/
def callC {α : Type} (x : Jit W α) : ZigM W α :=
  Program.focus (·.jit) (fun s z => { z with jit := s }) .lightning x

@[simp] theorem returns_callC {α : Type} (x : Jit W α) (z z' : ZigState W) (a : α) :
    Returns (callC x) z a z' ↔
      ∃ s, Returns x z.jit a s ∧ { z with jit := s } = z' :=
  Program.returns_focus ..

/-- An instruction method: it keeps the new node in `last_node` or returns it. -/
def Wrapper.run (method : Wrapper W) : ZigM W (Option NodeRef) := do
  let call ← ofExcept .zig method.call
  let ref ← callC call.run
  if method.setsLast then
    update fun z => { z with lastNode := some ref }
    pure none
  else
    pure (some ref)

theorem Wrapper.returns_run (method : Wrapper W) (z z' : ZigState W) (result : Option NodeRef) :
    Returns method.run z result z' ↔
      ∃ call ref s, method.call = .ok call ∧ Returns call.run z.jit ref s ∧
        if method.setsLast then result = none ∧ z' = { jit := s, lastNode := some ref }
        else result = some ref ∧ z' = { z with jit := s } := by
  unfold Wrapper.run
  cases method.setsLast with
  | true =>
    simp only [if_true, returns_bind, returns_ofExcept, returns_callC, returns_update, returns_pure]
    constructor
    · rintro ⟨call, _, ⟨called, rfl⟩, ref, _, ⟨s, ran, rfl⟩, -, _, rfl, rfl, rfl⟩
      exact ⟨call, ref, s, called, ran, rfl, rfl⟩
    · rintro ⟨call, ref, s, called, ran, rfl, rfl⟩
      exact ⟨call, z, ⟨called, rfl⟩, ref, _, ⟨s, ran, rfl⟩, (), _, rfl, rfl, rfl⟩
  | false =>
    simp only [Bool.false_eq_true, if_false, returns_bind, returns_ofExcept, returns_callC,
      returns_pure]
    constructor
    · rintro ⟨call, _, ⟨called, rfl⟩, ref, _, ⟨s, ran, rfl⟩, rfl, rfl⟩
      exact ⟨call, ref, s, called, ran, rfl, rfl⟩
    · rintro ⟨call, ref, s, called, ran, rfl, rfl⟩
      exact ⟨call, z, ⟨called, rfl⟩, ref, _, ⟨s, ran, rfl⟩, rfl, rfl⟩

/-! ### Immediate addresses -/

/-- The union of the node that holds an address. -/
inductive Slot
  | u
  | v
  deriving DecidableEq, Repr

def Node.slot (node : Node W) : Slot → Data W
  | .u => node.u
  | .v => node.v

/-- An address operand: where the node holds it, and whether it goes through `@intCast`. -/
structure Immediate (W : WordSize) where
  address : Pointer W
  slot : Slot
  cast : Bool
  deriving DecidableEq, Repr

/-- `@intCast` refuses the address. -/
def Immediate.traps (imm : Immediate W) : Bool := imm.cast && !decide imm.address.fitsWord

theorem Immediate.not_traps_iff (imm : Immediate W) :
    imm.traps = false ↔ imm.cast = false ∨ imm.address.fitsWord := by
  cases cast : imm.cast <;> simp [traps, cast]

end Zjit
