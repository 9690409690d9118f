import Zjit.Classify
import Zjit.Foundation.Script
import Zjit.Node

/-!
# Building IR

The instructions through which everything outside the core reaches the compiler state, and the
functions of the core that are written with them: labels and patching, register allocation,
frames of functions.
-/
namespace Zjit

open Foundation Program

variable {W : WordSize}

/-! ### The instructions -/

/-- Room for 16 more blocks once the vector is full. -/
def State.growBlocks (s : State W) : State W :=
  if s.blocks.labels.length ≥ s.blocks.length then
    { s with
      ledger := s.ledger.realloc s.blocks.ptr
      blocks := { s.blocks with ptr := some s.ledger.next, length := s.blocks.length + 16 } }
  else s

def State.pushBlock (s : State W) (label : NodeRef) : State W :=
  { s with blocks := { s.blocks with labels := s.blocks.labels ++ [some label] } }

/-- `_jit_link`. -/
def jitLink (ref : NodeRef) : Jit W Unit := do
  let node ← readNode ref
  Jit.assert ((node.code = .label ∨ node.code = .prolog ∨ node.code = .epilog) ∧ node.next = none)
  let _ ← jitLinkNode ref
  update State.growBlocks
  let offset ← reads (·.blocks.labels.length)
  update (·.pushBlock ref)
  writeNode ref fun node => { node with v := .w offset }

/-- Room for 16 more functions once the vector is full. -/
def State.growFunctions (s : State W) : State W :=
  if s.functions.regoffs.length ≥ s.functions.length then
    { s with
      ledger := s.ledger.realloc s.functions.ptr
      functions :=
        { s.functions with ptr := some s.ledger.next, length := s.functions.length + 16 } }
  else s

/-- The next function and its table of spill slots. -/
def State.pushFunction (s : State W) : State W :=
  { s with
    ledger := s.ledger.alloc
    functions := { s.functions with regoffs := s.functions.regoffs ++ [s.ledger.next] } }

/-- Room for 1024 more patches once the vector is full, and one patch more. -/
def State.pushPatch (s : State W) : State W :=
  let s :=
    if s.patches.offset ≥ s.patches.length then
      { s with
        ledger := s.ledger.realloc s.patches.ptr
        patches := { s.patches with ptr := some s.ledger.next, length := s.patches.length + 1024 } }
    else s
  { s with patches := { s.patches with offset := s.patches.offset + 1 } }

/-- What a backend can do. It reads everything and writes what owns no memory; it appends nodes
through the constructors but cannot unlink or free one. -/
inductive Op (W : WordSize) : Type → Type
  | look : Op W (State W)
  | scratch (f : Scratch W → Scratch W) : Op W Unit
  | body (ref : NodeRef) (f : Body W → Body W) : Op W Unit
  | append (call : NewNode W) : Op W NodeRef
  | appendNoLink (code : Code) : Op W NodeRef
  | link (ref : NodeRef) : Op W Unit
  /-- A new entry of the function vector. -/
  | function : Op W Nat
  /-- A new entry of the patch vector. -/
  | patch : Op W Unit

def Op.run : {α : Type} → Op W α → Jit W α
  | _, .look => fetch
  | _, .scratch f => update fun s => { s with toScratch := f s.toScratch }
  | _, .body ref f => writeNode ref fun node => { node with toBody := f node.toBody }
  | _, .append call => call.run
  | _, .appendNoLink code => jitNewNodeNoLink code
  | _, .link ref => jitLink ref
  | _, .function => do
    update fun s => s.growFunctions
    let offset ← reads (·.functions.regoffs.length)
    update (·.pushFunction)
    pure offset
  | _, .patch => update fun s => s.pushPatch

abbrev Build (W : WordSize) := Script (Op W) Fault

def Build.run {α : Type} (x : Build W α) : Jit W α := Script.run Op.run x

def look : Build W (State W) := Script.perform .look

def scratch (f : Scratch W → Scratch W) : Build W Unit := Script.perform (.scratch f)

def body (ref : NodeRef) (f : Body W → Body W) : Build W Unit := Script.perform (.body ref f)

def append (call : NewNode W) : Build W NodeRef := Script.perform (.append call)

def node (ref : NodeRef) : Build W (Node W) := do
  return (← look).memory ref

def deref {α : Type} : Option α → Build W α
  | some a => pure a
  | none => Script.fault .nullDereference

def assert (c : Prop) [Decidable c] : Build W Unit :=
  if c then pure () else Script.fault .assertion

/-! ### The current function -/

/-- `assert(_jitc->function)`. -/
def assertFunction : Build W Unit := do
  assert ((← look).function.isSome)

/-- `*_jitc->function`. -/
def frame : Build W Frame := do
  let s ← look
  return s.frames (← deref s.function)

def setFrame (f : Frame → Frame) : Build W Unit := do
  let function ← deref (← look).function
  scratch fun s => { s with frames := Function.update s.frames function (f (s.frames function)) }

def jitCheckFrame : Build W Unit := do
  unless (← frame).needFrame do
    scratch fun s => { s with again := true }
    setFrame fun f => { f with needFrame := true }

/-! ### Synthesized nodes -/

def jitSynthInc : Build W Unit := do
  assert ((← look).synth < 8)
  scratch fun s => { s with synth := s.synth + 1 }

def jitSynthDec : Build W Unit := do
  assert ((← look).synth > 0)
  scratch fun s => { s with synth := s.synth - 1 }

/-- `jit_inc_synth*`: the node of the call itself; those that follow are synthesized. -/
def jitIncSynth (call : NewNode W) : Build W Unit := do
  let _ ← append call
  jitSynthInc

/-- The tail joins the list of nodes at `anchor`. -/
def linkTail (anchor : NodeRef) : Build W Unit := do
  let tail ← deref (← look).tail
  let first := (← node anchor).link
  body tail fun node => { node with link := first }
  body anchor fun node => { node with link := some tail }

def jitLinkProlog : Build W Unit := do
  linkTail (← deref (← frame).prolog)

def jitLinkPrepare : Build W Unit := do
  linkTail (← deref (← look).prepare)

def jitLinkAlist (ref : NodeRef) : Build W Unit := do
  let alist := (← frame).alist
  body ref fun node => { node with link := alist }
  setFrame fun f => { f with alist := some ref }

/-! ### Labels -/

def link (ref : NodeRef) : Build W Unit := Script.perform (.link ref)

def jitForward : Build W NodeRef := Script.perform (.appendNoLink .label)

def jitLabel : Build W NodeRef := do
  let s ← look
  match s.tail with
  | some tail =>
    if (s.memory tail).code = .label then return tail
  | none => pure ()
  let label ← jitForward
  link label
  return label

def jitIndirect : Build W NodeRef := do
  let label ← jitLabel
  body label fun node => node.raise flagUse
  return label

def jitForwardP (ref : NodeRef) : Build W Bool := do
  let s ← look
  return (s.memory ref).code = .label ∧ (s.memory ref).next = none ∧ s.tail ≠ some ref

def jitIndirectP (ref : NodeRef) : Build W Bool := do
  let node ← node ref
  return node.code = .label ∧ node.has flagUse

def jitTargetP (ref : NodeRef) : Build W Bool := do
  let node ← node ref
  return node.code = .label ∧ node.link.isSome

def classify (code : Code) : Build W (List Cc) :=
  match jitClassify code with
  | some mask => pure mask
  | none => Script.fault .abort

/-- The default case of the patch functions: the first operand is a jump target. -/
def assertJump (code : Code) : Build W Unit := do
  let mask ← classify code
  assert (.a0Jmp ∈ mask ∧ .a0Reg ∉ mask)

/-- `_jit_patch_abs`. -/
def jitPatchAbs (instr : NodeRef) (address : Pointer W) : Build W Unit := do
  match (← node instr).code with
  | .movi | .ldi_c | .ldi_uc | .ldi_s | .ldi_us | .ldi_i | .ldi_ui | .ldi_l | .ldi_f | .ldi_d =>
    body instr fun node => { node with v := .p address }
  | .sti_c | .sti_s | .sti_i | .sti_l | .sti_f | .sti_d =>
    body instr fun node => { node with u := .p address }
  | code =>
    assertJump code
    body instr fun node => { node with u := .p address }

/-- `_jit_patch_at`. -/
def jitPatchAt (instr label : NodeRef) : Build W Unit := do
  assert (¬ (← node instr).has flagNode)
  body instr fun node => node.raise flagNode
  let target := (← node label).code
  match (← node instr).code with
  | .movi =>
    assert (target = .label ∨ target = .data)
    body instr fun node => { node with v := .n label }
    if target = .data then body instr fun node => node.raise flagData
  | .jmpi =>
    assert (target = .label ∨ target = .epilog)
    body instr fun node => { node with u := .n label }
  | code =>
    assertJump code
    assert (target = .label)
    body instr fun node => { node with u := .n label }
  let first := (← node label).link
  body instr fun node => { node with link := first }
  body label fun node => { node with link := some instr }

def jitPatch (instr : NodeRef) : Build W Unit := do
  jitPatchAt instr (← jitLabel)

/-! ### Functions -/

def jitEpilog : Build W Unit := do
  assertFunction
  let epilog ← deref (← frame).epilog
  assert ((← node epilog).next = none)
  link epilog
  scratch fun s => { s with function := none }

/-- `_jit_prolog`; `start` is what the backend sets in the record of the new function and
`forced` says whether it forces a frame pointer. -/
def jitProlog (start : Frame → Frame) (forced : Bool) : Build W Unit := do
  if (← look).function.isSome then jitEpilog
  assert ((← look).regarg = 0)
  scratch fun s => { s with regsav := 0 }
  let offset ← Script.perform .function
  scratch fun s => { s with function := some offset }
  setFrame start
  if forced then jitCheckFrame
  let prolog ← Script.perform (.appendNoLink .prolog)
  setFrame fun f => { f with prolog := some prolog }
  link prolog
  body prolog fun node => { node with w := .w offset }
  let epilog ← Script.perform (.appendNoLink .epilog)
  setFrame fun f => { f with epilog := some epilog }
  body epilog fun node => { node with w := .w offset }

def jitPrepare : Build W Unit := do
  assertFunction
  setFrame fun f => { f with callVarargs := false, callArgi := 0, callArgf := 0, callSize := 0 }
  let prepare ← append (.plain .prepare)
  scratch fun s => { s with prepare := some prepare }

end Zjit
