import Zjit.Emit
import Zjit.Lowering
import Zjit.Protocol

/-!
# Runs

Every method of `State` that changes something, and sequences of calls of them from
`State.init()` on.
-/
namespace Zjit

open Foundation Program

variable {W : WordSize}

/-- `_jit_trampoline`. -/
def jitTrampoline (frame : Int) (prolog : Bool) : Build W Unit := do
  let s ← look
  let tail ← match s.tail with
    | some tail => node tail
    | none => Script.fault .assertion
  assert (tail.code = .prolog)
  -- 24 for three temporaries that might be spilled.
  setFrame fun f =>
    let f := { f with frame := frame + 24 - f.aoff }
    if prolog then { f with defineFrame := true } else { f with assumeFrame := true }

/-- `_jit_frame`. -/
def jitFrame (frame : Int) : Build W Unit := jitTrampoline frame true

/-- `_jit_tramp`. -/
def jitTramp (frame : Int) : Build W Unit := jitTrampoline frame false

/-- A call of a method that passes its arguments on to a function of the library. -/
inductive LibCall (W : WordSize)
  /-- A call of the protocol; `args` are the nodes that it refers to by number. -/
  | protocol (args : List NodeRef) (call : ProtocolCall W)
  | label
  | forward
  | indirect
  | link (node : NodeRef)
  | patch (node : NodeRef)
  | patchAt (node target : NodeRef)
  | patchAbs (node : NodeRef) (ptr : Pointer W)
  | getReg (spec : CInt)
  | ungetReg (reg : CInt)
  | allocai (size : CInt)
  | allocar (off len : CInt)
  | ellipsis
  | vaPush (u : Gpr)
  | frame (size : CInt)
  | tramp (size : CInt)
  | name (str : CString)
  | note (file : CString) (line : CInt)
  | realize
  | setCode (size : Word W)
  | setData (size : Word W) (flags : CInt)
  | emit
  | clear

/-- A call of a method of `State`. -/
inductive Call (W : WordSize)
  | instr (m : Method W)
  | lib (call : LibCall W)
  | deinit

def LibCall.isClear : LibCall W → Bool
  | clear => true
  | _ => false

def Call.isClear : Call W → Bool
  | lib call => call.isClear
  | _ => false

/-- The call neither clears nor destroys the state. -/
def Call.builds : Call W → Bool
  | instr _ => true
  | lib call => !call.isClear
  | deinit => false

/-- `State.init`. -/
def ZigState.init (W : WordSize) : ZigState W := { jit := jitNewState W }

-- The target, and how many rounds a loop may take.
variable (platform : Platform W) (fuel : Nat)

/-- The functions behind most methods go through `_jitc`. -/
def compiling : Jit W Unit := do
  let s ← fetch
  check .nullDereference (s.jit.isSome ∧ s.jitc.isSome)

/-- Nothing is returned. -/
def unit {α : Type} (x : Jit W α) : Jit W (Option NodeRef) := do
  let _ ← x
  pure none

/-- A node is returned. -/
def made (x : Jit W NodeRef) : Jit W (Option NodeRef) := some <$> x

/-- What the method calls. -/
def LibCall.body : LibCall W → Jit W (Option NodeRef)
  | protocol args call => (call.zig platform.toBackend args).run
  | label => made jitLabel.run
  | forward => made jitForward.run
  | indirect => made jitIndirect.run
  | link node => unit (Zjit.link node).run
  | patch node => unit (jitPatch node).run
  | patchAt node target => unit (jitPatchAt node target).run
  | patchAbs node ptr => unit (jitPatchAbs node ptr).run
  | getReg spec => unit (jitGetReg platform.toMachine spec).run
  | ungetReg reg => unit (jitUngetReg platform.toMachine reg).run
  | allocai size => unit (platform.allocai size.toInt).run
  | allocar off len => unit (platform.allocar off len).run
  | ellipsis => unit platform.ellipsis.run
  | vaPush u => unit (platform.vaPush u).run
  | frame size => unit (jitFrame size.toInt).run
  | tramp size => unit (jitTramp size.toInt).run
  | name str => made (jitName str)
  | note file line => made (jitNote file line)
  | realize => unit (jitRealize platform fuel)
  | setCode size => unit (jitSetCode size)
  | setData size flags => unit (jitSetData size flags)
  | emit => unit (jitEmit platform fuel)
  | clear => unit (update State.clear)

/-- The method. -/
def Call.run : Call W → ZigM W (Option NodeRef)
  | instr m => do
    callC compiling
    m.wrapper.run
  | lib call => do
    callC compiling
    callC (call.body platform fuel)
  | deinit => do
    check (.lightning .nullDereference) ((← fetch).jit.jit.isSome)
    callC (unit jitDestroyState)

/-- The calls one after the other. -/
def runCalls : List (Call W) → ZigM W Unit
  | [] => pure ()
  | call :: rest => do
    let _ ← call.run platform fuel
    runCalls rest

end Zjit
