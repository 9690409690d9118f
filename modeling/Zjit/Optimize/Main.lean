import Zjit.Optimize.Jumps
import Zjit.Optimize.Values

/-!
# The optimizer

`_jit_optimize` runs its passes one after the other over the list of nodes.
-/
namespace Zjit

open Foundation

variable {W : WordSize}

/-- The mark of a register that was handed out is taken off. -/
def Data.unmark : Data W → Data W
  | .q l h => .q (l &&& ~~~regnoPatch) h
  | .w value => .w (value &&& ~~~(0x8000 : Word W))
  | data => data

/-- The node changes the register. -/
def changes (cc : List Cc) (node : Node W) (regno : Nat) : Bool :=
  (.a0Reg ∈ cc ∧ .a0Chg ∈ cc ∧
      if .a0Rlh ∈ cc then regno = jitRegno node.u.low ∨ regno = jitRegno node.u.high
      else regno = jitRegno node.u.low) ∨
    (.a1Reg ∈ cc ∧ .a1Chg ∈ cc ∧ regno = jitRegno node.v.low) ∨
    (.a2Reg ∈ cc ∧ .a2Chg ∈ cc ∧ regno = jitRegno node.w.low)

/-- The bytes of a number in memory, the lowest first. -/
def littleEndian {n : Nat} (value : BitVec n) : List UInt8 :=
  (List.range (n / 8)).map fun index => UInt8.ofBitVec ((value >>> (8 * index)).setWidth 8)

namespace Pass

-- The target, and how many rounds a loop may take.
variable (platform : Platform W) (fuel : Nat)

/-! ### Redundant stores -/

/-- The loop of `_redundant_store`: behind `prev`, moves of `word` to `regno` go away. -/
def redundantFrom (regno : Nat) (word : Word W) (prev : NodeRef) : Pass W Bool :=
  Script.loop .outOfFuel (fun (prev, result) => do
    match (← node prev).next with
    | none => return .inr result
    | some iter =>
      let at_ ← node iter
      match at_.code with
      | .label | .prolog | .epilog => return .inr result
      | .movi =>
        if regno ≠ jitRegno at_.u.low then return .inl (iter, result)
        else if at_.flag ≠ 0 ∨ at_.v.toWord ≠ word then return .inr result
        else
          delNode (some prev) iter
          return .inl (prev, true)
      | code =>
        let cc ← classify code
        if .a0Jmp ∈ cc ∨ changes cc at_ regno then return .inr result
        else return .inl (iter, result)) fuel (prev, false)

/-- `_redundant_store`: after a comparison with a constant, the register holds it, behind a
`bnei` or where a `beqi` jumps to. -/
def redundantStore (ref : NodeRef) (jump : Bool) : Pass W Bool := do
  let before ← node ref
  let regno := jitRegno before.v.low
  if jump then
    let prev ← target before.u
    let label ← node prev
    if label.code = .epilog then return false
    assert (label.code = .label)
    if label.has flagHead ∨ before.link ≠ none ∨ label.link ≠ some ref then return false
    redundantFrom fuel regno before.w.toWord prev
  else redundantFrom fuel regno before.w.toWord ref

/-- The block that a branch leads to has changed. -/
def changedBlock (ref : NodeRef) : Pass W Unit := do
  let offset := (← node (← target (← node ref).u)).block
  scratch fun s =>
    { s with live := Function.update s.live offset { s.live offset with again := true } }

/-- One round of the loop behind `simplify`; the flag is `todo`. -/
def storeStep (at_ : Option NodeRef × Bool) : Pass W ((Option NodeRef × Bool) ⊕ Bool) := do
  let (current, todo) := at_
  match current with
  | none => return .inr todo
  | some ref =>
    let before ← node ref
    let cc ← classify before.code
    body ref fun node => node.mapRegs cc Data.unmark
    let removed ←
      match before.code with
      | .beqi => redundantStore fuel ref true
      | .bnei => redundantStore fuel ref false
      | _ => pure false
    if removed then changedBlock ref
    return .inl ((← node ref).next, todo || removed)

/-! ### Constants -/

/-- A float operand becomes a pointer to its bytes in the pool of constants. -/
def hashOperands (ref : NodeRef) (cc : List Cc) : Pass W Unit := do
  let before ← node ref
  let single (data : Data W) : Pass W (Data W) := do
    match ValueKind.float32.read data with
    | .f value => return .n (← raw (.data (littleEndian value) 4))
    | _ => return data
  let double (data : Data W) : Pass W (Data W) := do
    match ValueKind.float64.read data with
    | .d value => return .n (← raw (.data (littleEndian value) 8))
    | _ => return data
  let store (f : Body W → Body W) : Pass W Unit :=
    body ref fun node => (f node).raise (flagNode ||| flagData)
  if .a0Flt ∈ cc then
    let u ← single before.u
    store fun node => { node with u := u }
  else if .a0Dbl ∈ cc then
    let u ← double before.u
    store fun node => { node with u := u }
  else if .a1Flt ∈ cc then
    let v ← single before.v
    store fun node => { node with v := v }
  else if .a1Dbl ∈ cc then
    let v ← double before.v
    store fun node => { node with v := v }
  else if .a2Flt ∈ cc then
    let w ← single before.w
    store fun node => { node with w := w }
  else if .a2Dbl ∈ cc then
    let w ← double before.w
    store fun node => { node with w := w }

/-- One round of the last loop. -/
def finalStep (current : Option NodeRef) : Pass W (Option NodeRef ⊕ Unit) := do
  match current with
  | none => return .inr ()
  | some ref =>
    let before ← node ref
    let cc ← classify before.code
    body ref fun node => node.mapRegs cc Data.unmark
    match before.code with
    | .prolog => scratch fun s => { s with function := some before.w.toWord.toNat }
    | .epilog => scratch fun s => { s with function := none }
    | _ => if platform.hashConsts then hashOperands ref cc
    return .inl before.next

/-! ### All passes -/

/-- The live registers are computed again where instructions were removed. Both loops around
`_check_block_again` end at once, as it returns 0. -/
def settleLiveness (todo : Bool) : Pass W Unit := do
  let todo ←
    if todo then pure true
    else
      setLiveness fun s => checkBlockAgain s fuel
      pure false
  if todo then
    setLiveness fun s => doSetup platform.toMachine s fuel
    setLiveness fun s => doFollow platform.toMachine s false fuel
    setLiveness fun s => checkBlockAgain s fuel

/-- The passes before the blocks are split. -/
def joinBlocks : Pass W Unit := do
  scratch fun s => { s with function := none }
  threadJumps fuel
  sequentialLabels fuel

/-- The passes after that. -/
def simplifyBlocks : Pass W Unit := do
  setLiveness fun s => doSetup platform.toMachine s fuel
  setLiveness fun s => doFollow platform.toMachine s true fuel
  markHeads fuel platform.toMachine
  patchRegisters platform fuel
  let simplified ← simplify platform.toMachine fuel
  let todo ← Script.loop .outOfFuel (storeStep fuel) fuel ((← look).head, simplified)
  settleLiveness platform fuel todo
  Script.loop .outOfFuel (finalStep platform) fuel (← look).head

end Pass

/-- `_jit_optimize`. -/
def jitOptimize (platform : Platform W) (fuel : Nat) : Jit W Unit := do
  (Pass.joinBlocks fuel).run
  (splitBranches fuel).run
  (Pass.simplifyBlocks platform fuel).run

end Zjit
