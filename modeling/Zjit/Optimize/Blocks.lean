import Zjit.Optimize.Liveness
import Zjit.Optimize.Pass

/-!
# Blocks

Labels next to each other are merged, blocks are split behind branches, and the blocks that are
entered from above are marked.
-/
namespace Zjit

open Foundation

variable {W : WordSize}

namespace Pass

-- How many rounds a loop may take.
variable (fuel : Nat)

/-- `_del_label`, which leaves an empty block index. -/
def delLabel (prev : Option NodeRef) (ref : NodeRef) : Pass W Unit := do
  let s ← look
  let offset := (s.memory ref).block
  assert (s.blocks.labels[offset]? = some (some ref))
  scratch fun s =>
    { s with
      live := Function.update s.live offset { s.live offset with reglive := 0, regmask := 0 } }
  raw (.unlabel offset)
  assert ((s.memory ref).link = none)
  delNode prev ref

/-- The jumps on a list lead to `label` from now on. -/
def moveJumps (label : NodeRef) (jump : Option NodeRef) : Pass W Unit :=
  Script.loop .outOfFuel (fun jump => do
    match jump with
    | none => return .inr ()
    | some jump =>
      let before ← node jump
      let first := (← node label).link
      if before.code = .movi then body jump fun node => { node with v := .n label }
      else body jump fun node => { node with u := .n label }
      body jump fun node => { node with link := first }
      body label fun node => { node with link := some jump }
      return .inl before.link) fuel jump

/-- The jumps to `ref` lead to `label`, and `ref` is no label any more. -/
def mergeLabel (label : NodeRef) (prev : Option NodeRef) (ref : NodeRef) : Pass W Unit := do
  if let some jump := (← node ref).link then
    moveJumps fuel label (some jump)
    body ref fun node => { node with link := none }
  delLabel prev ref

/-- The opcode of a node that may be missing. -/
def codeOf (ref : Option NodeRef) : Pass W Code := do
  return (← node (← deref ref)).code

/-- The node after the label `ref` is a label that nothing but jumps refers to. -/
def followedByLabel (next : Option NodeRef) : Pass W Bool := do
  match next with
  | none => return false
  | some next =>
    let after ← node next
    return after.code = .label ∧ after.flag = 0

/-- One round of `_sequential_labels`, at the node after `prev`. -/
def sequentialStep (at_ : Option NodeRef × Option NodeRef) :
    Pass W ((Option NodeRef × Option NodeRef) ⊕ Unit) := do
  let (prev, current) := at_
  match current with
  | none => return .inr ()
  | some ref =>
    let before ← node ref
    let keep : Pass W ((Option NodeRef × Option NodeRef) ⊕ Unit) := do
      if ← followedByLabel before.next then
        mergeLabel fuel ref (some ref) (← deref before.next)
        -- The loop goes on behind the label with `prev` as it was.
        return .inl (prev, (← node ref).next)
      else return .inl (some ref, before.next)
    if before.code ≠ .label then return .inl (some ref, before.next)
    else if before.flag ≠ 0 then keep
    else if before.link = none then
      delLabel prev ref
      return .inl (prev, before.next)
    else if prev ≠ some ref then
      if (← codeOf prev) = .label then
        mergeLabel fuel (← deref prev) prev ref
        return .inl (prev, before.next)
      else keep
    else keep

/-- `_sequential_labels`. -/
def sequentialLabels : Pass W Unit := do
  let head := (← look).head
  Script.loop .outOfFuel (sequentialStep fuel) fuel (head, head)

end Pass

namespace Split

/-- The block of a label moves to the new vector. -/
def copyBlock (ref : NodeRef) : Split W Unit := do
  let s ← pass Pass.look
  let offset := (s.memory ref).block
  vector (.pushSplit (s.blocks.labels.getD offset none) (s.live offset))
  pass (Pass.body ref fun node => { node with v := .w s.split.blocks.length })

/-- A block of its own begins behind the branch `ref`. -/
def splitAt_ (ref next : NodeRef) : Split W Unit := do
  let label ← pass (Pass.raw (.newNode .label))
  pass do
    Pass.raw (.next label (some next))
    Pass.raw (.next ref (some label))
  let offset := (← pass Pass.look).split.blocks.length
  vector (.pushSplit (some label) {})
  pass (Pass.body label fun node => { node with v := .w offset })

/-- One round of `_split_branches`. -/
def splitStep (current : Option NodeRef) : Split W (Option NodeRef ⊕ Unit) := do
  match current with
  | none => return .inr ()
  | some ref =>
    let before ← pass (Pass.node ref)
    match before.next with
    | none => return .inl none
    | some next =>
      if (← pass (Pass.node next)).code.startsBlock then copyBlock next
      else if .a0Jmp ∈ (← pass (Pass.classify before.code)) then splitAt_ ref next
      return .inl (some next)

/-- The new vector of blocks. -/
def buildBlocks (fuel : Nat) : Split W Unit := do
  vector .openSplit
  let head := (← pass Pass.look).head
  if let some first := head then
    let code := (← pass (Pass.node first)).code
    if code = .label ∨ code = .prolog then copyBlock first
  Script.loop .outOfFuel splitStep fuel head

end Split

/-- `_split_branches`. -/
def splitBranches (fuel : Nat) : Split W Unit := do
  Split.buildBlocks fuel
  Split.vector .closeSplit

namespace Pass

variable (fuel : Nat)

/-- The liveness computed from the current state. -/
def setLiveness (analysis : State W → Analysis Liveness) : Pass W Unit := do
  let liveness ← ofExcept (analysis (← look))
  scratch fun s => { s with toLiveness := liveness }

/-- One round of the loop in `_jit_optimize` that finds the labels only reached with a jump. -/
def markStep (machine : Machine W) (at_ : Option NodeRef × Bool) :
    Pass W ((Option NodeRef × Bool) ⊕ Unit) := do
  let (current, jump) := at_
  match current with
  | none => return .inr ()
  | some ref =>
    let before ← node ref
    match before.code with
    | .label =>
      unless jump do
        body ref fun node => node.raise flagHead
        if before.link = none then
          -- Dead code or only reachable with an indirect jump.
          let offset := before.block
          scratch fun s =>
            let block := s.live offset
            let block := { block with reglive := block.reglive ||| machine.saved }
            { s with
              live := Function.update s.live offset ((blockUpdateSet block block).getD block) }
      return .inl (before.next, jump)
    | .jmpi | .jmpr | .epilog => return .inl (before.next, true)
    | .data | .note => return .inl (before.next, jump)
    | _ => return .inl (before.next, false)

def markHeads (machine : Machine W) : Pass W Unit := do
  Script.loop .outOfFuel (markStep machine) fuel ((← look).head, true)

end Pass

end Zjit
