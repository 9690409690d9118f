import Zjit.Backend.Basic
import Zjit.Lifecycle
import Zjit.Optimize.Blocks

/-!
# Registers that were handed out

`patch_registers` resolves the save and load nodes around the use of a register that
`_jit_get_reg` took: the pair goes away where the register is not live, another register of the
class takes its place, or it is kept on the stack.
-/
namespace Zjit

open Foundation

variable {W : WordSize}

/-- A register operand that names `regno` names `patch` instead. -/
def Data.patch (regno patch : CInt) : Data W → Data W
  | .q l h => .q (if l = regno then patch else l) (if h = regno then patch else h)
  | .w value => .w (if value = (regno : Word W) then (patch : Word W) else value)
  | data => data

/-- The register operands of a node, by its classification. -/
def Body.mapRegs (cc : List Cc) (f : Data W → Data W) (body : Body W) : Body W :=
  { body with
    u := if .a0Reg ∈ cc then f body.u else body.u
    v := if .a1Reg ∈ cc then f body.v else body.v
    w := if .a2Reg ∈ cc then f body.w else body.w }

/-- The word a backend stores by default, and loads. -/
def stxiCode : WordSize → Code
  | .w32 => .stxi_i
  | .w64 => .stxi_l

def ldxiCode : WordSize → Code
  | .w32 => .ldxi_i
  | .w64 => .ldxi_l

namespace Pass

-- The target, and how many rounds a loop may take.
variable (platform : Platform W) (fuel : Nat)

/-- `_patch_register`, in the nodes from `first` up to `link`. -/
def patchRegister (first link : Option NodeRef) (regno patch : CInt) : Pass W Unit :=
  Script.loop .outOfFuel (fun current => do
    if current = link then return .inr ()
    let ref ← deref current
    let before ← node ref
    let cc ← classify before.code
    body ref fun node => node.mapRegs cc (Data.patch regno patch)
    return .inl before.next) fuel first

/-- `_jit_regarg_set`. -/
def regargSet (ref : NodeRef) (cc : List Cc) : Pass W Unit := do
  let before ← node ref
  scratch fun s => { s with regarg := (namedRegs cc before).foldl setBit s.regarg }
  setLiveness fun s => jumpLiveness s before

/-- `_jit_regarg_clr`. -/
def regargClr (ref : NodeRef) (cc : List Cc) : Pass W Unit := do
  let before ← node ref
  scratch fun s => { s with regarg := (namedRegs cc before).foldl clrBit s.regarg }

/-- `_spill_reglive_p`. -/
def spillReglive (ref : NodeRef) (regno : Nat) : Pass W Bool := do
  let (isLive, liveness) ←
    ofExcept (Zjit.spillReglive platform.toMachine (← look) fuel ref regno)
  scratch fun s => { s with toLiveness := liveness }
  return isLive

/-- The first register among `values` that can stand in for `regno` behind a save node. -/
def findFree (ref : NodeRef) (regno : Nat) (spec : CInt) : List Nat → Pass W (Option Nat)
  | [] => return none
  | value :: rest => do
    let s ← look
    if value ≠ regno ∧ jitClass (platform.spec value) &&& spec &&& ~~~classArg = spec ∧
        ¬ s.regarg.getLsbD value then
      if ← spillReglive platform fuel ref value then findFree ref regno spec rest
      else return some value
    else findFree ref regno spec rest

/-- `_jitc->function->regoff[regno]`, allocated where it is still 0. -/
def regoff (regno : Nat) (size : Int) : Pass W Int := do
  let frame ← build frame
  if frame.regoff regno = 0 then
    let offset ← build (platform.allocai size)
    build (setFrame fun f => { f with regoff := Function.update f.regoff regno offset })
    return offset
  else return frame.regoff regno

/-- A save node becomes a store to the stack. -/
def spillNode (ref : NodeRef) (regno : Nat) (spec : CInt) : Pass W Unit := do
  let offset ←
    if spec &&& classGpr ≠ 0 then do
      let offset ← regoff platform regno (wordBytes W)
      raw (.code ref (stxiCode W))
      pure offset
    else do
      raw (.code ref .stxi_d)
      regoff platform regno 8
  body ref fun node =>
    { node with
      u := .w (offset : Word W)
      v := .w (platform.fp : Word W)
      w := .w (regno : Word W)
      link := none }

/-- `patch_registers` at a save node. Whether the node stays. -/
def resolveSave (prev : Option NodeRef) (ref : NodeRef) (cc : List Cc) : Pass W Bool := do
  let before ← node ref
  let regno := jitRegno before.u.low
  if ← spillReglive platform fuel ref regno then
    let spec := jitClass (platform.spec regno) &&& ~~~classArg
    match ← findFree platform fuel ref regno spec (List.range platform.rvs.length) with
    | some value =>
      regargClr ref cc
      patchRegister fuel before.next before.link (regnoPatch ||| before.u.low)
        (regnoPatch ||| (value : CInt))
      -- Nested patches are not to use the same register.
      scratch fun s => { s with reglive := setBit s.reglive value }
      body (← deref before.link) fun node => { node with v := .w 2 }
      delNode prev ref
      return false
    | none =>
      spillNode platform ref regno spec
      return true
  else
    -- The register is not live: the pair is just removed.
    regargClr ref cc
    body (← deref before.link) fun node => { node with v := .w 1 }
    delNode prev ref
    return false

/-- `patch_registers` at a load node. Whether the node stays. -/
def resolveLoad (prev : Option NodeRef) (ref : NodeRef) : Pass W Bool := do
  let before ← node ref
  let regno := jitRegno before.u.low
  if before.v.toWord ≠ 0 then
    if before.v.toWord = 2 then
      scratch fun s => { s with reglive := clrBit s.reglive regno }
    delNode prev ref
    return false
  let spec := jitClass (platform.spec regno)
  raw (.code ref (if spec &&& classGpr ≠ 0 then ldxiCode W else .ldxi_d))
  let frame ← build frame
  body ref fun node =>
    { node with
      v := .w (platform.fp : Word W)
      w := .w (frame.regoff regno : Word W)
      link := none }
  return true

/-- The switch of `patch_registers`. Whether the node stays. -/
def resolveNode (prev : Option NodeRef) (ref : NodeRef) (cc : List Cc) : Pass W Bool := do
  let before ← node ref
  match before.code with
  | .save => resolveSave platform fuel prev ref cc
  | .load => resolveLoad platform prev ref
  | .prolog =>
    scratch fun s => { s with function := some before.w.toWord.toNat }
    return true
  | .epilog =>
    scratch fun s => { s with function := none }
    return true
  | _ => return true

/-- One round of `_patch_registers`, at the node after `prev`. -/
def patchStep (at_ : Option NodeRef × Option NodeRef) :
    Pass W ((Option NodeRef × Option NodeRef) ⊕ Unit) := do
  let (prev, current) := at_
  match current with
  | none => return .inr ()
  | some ref =>
    let before ← node ref
    let cc ← classify before.code
    regargSet ref cc
    if ← resolveNode platform fuel prev ref cc then
      regargClr ref cc
      setLiveness fun s => jitReglive platform.toMachine s fuel ref
      return .inl (some ref, before.next)
    else return .inl (prev, before.next)

/-- `_patch_registers`. -/
def patchRegisters : Pass W Unit := do
  scratch fun s => { s with function := none, reglive := 0, regmask := 0 }
  Script.loop .outOfFuel (patchStep platform fuel) fuel (none, (← look).head)

end Pass

end Zjit
