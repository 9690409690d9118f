import Zjit.Optimize.Pass

/-!
# Jumps

`thread_jumps`: jumps to the next instruction go away, jumps to jumps lead to the final target,
and a conditional jump over a jump is reversed.
-/
namespace Zjit

open Foundation

variable {W : WordSize}

namespace Pass

-- How many rounds a loop may take.
variable (fuel : Nat)

/-- The jump leaves the list of those that lead to `label`. -/
def unlinkJump (label jump : NodeRef) : Pass W Unit := do
  let rest := (← node jump).link
  if (← node label).link = some jump then body label fun node => { node with link := rest }
  else
    Script.loop .outOfFuel (fun temp => do
      let temp ← deref temp
      let link := (← node temp).link
      if link = some jump then
        body temp fun node => { node with link := rest }
        return .inr ()
      else return .inl link) fuel (← node label).link

/-- The jump leads to `label` from now on. -/
def linkJump (label jump : NodeRef) : Pass W Unit := do
  let first := (← node label).link
  body jump fun node => { node with u := .n label, link := first }
  body label fun node => { node with link := some jump }

/-- `_shortcut_jump`. -/
def shortcutJump (ref : NodeRef) : Pass W Bool := do
  let before ← node ref
  if ¬ before.has flagNode then return false
  assert (before.code ≠ .jmpr)
  let jump ← target before.u
  Script.loop .outOfFuel (fun next => do
    match next with
    | none => return .inr false
    | some next =>
      let after ← node next
      match after.code with
      | .jmpi =>
        if ¬ after.has flagNode then return .inr false
        unlinkJump fuel jump ref
        linkJump (← target after.u) ref
        return .inr true
      | .jmpr =>
        if before.code ≠ .jmpi then return .inr false
        raw (.code ref .jmpr)
        body ref fun node =>
          { node with u := after.u, link := none, flag := node.flag &&& ~~~flagNode }
        return .inr true
      | .note | .label => return .inl after.next
      | _ => return .inr false) fuel (← node jump).next

/-- `_redundant_jump`. -/
def redundantJump (prev : Option NodeRef) (ref : NodeRef) : Pass W Bool := do
  let before ← node ref
  if ¬ before.has flagNode then return false
  Script.loop .outOfFuel (fun next => do
    match next with
    | none => return .inr false
    | some next =>
      let after ← node next
      match after.code with
      | .label | .epilog =>
        if before.u = .n next then
          unlinkJump fuel next ref
          delNode prev ref
          return .inr true
        else return .inl after.next
      | .name | .note => return .inl after.next
      | _ => return .inr false) fuel before.next

end Pass

/-- `reverse_jump_code`, none where it aborts. -/
def reverseJumpCode : Code → Option Code
  | .bltr => some .bger
  | .blti => some .bgei
  | .bltr_u => some .bger_u
  | .blti_u => some .bgei_u
  | .bler => some .bgtr
  | .blei => some .bgti
  | .bler_u => some .bgtr_u
  | .blei_u => some .bgti_u
  | .beqr => some .bner
  | .beqi => some .bnei
  | .bger => some .bltr
  | .bgei => some .blti
  | .bger_u => some .bltr_u
  | .bgei_u => some .blti_u
  | .bgtr => some .bler
  | .bgti => some .blei
  | .bgtr_u => some .bler_u
  | .bgti_u => some .blei_u
  | .bner => some .beqr
  | .bnei => some .beqi
  | .bmsr => some .bmcr
  | .bmsi => some .bmci
  | .bmcr => some .bmsr
  | .bmci => some .bmsi
  | .bltr_f => some .bunger_f
  | .blti_f => some .bungei_f
  | .bler_f => some .bungtr_f
  | .blei_f => some .bungti_f
  | .beqr_f => some .bner_f
  | .beqi_f => some .bnei_f
  | .bger_f => some .bunltr_f
  | .bgei_f => some .bunlti_f
  | .bgtr_f => some .bunler_f
  | .bgti_f => some .bunlei_f
  | .bner_f => some .beqr_f
  | .bnei_f => some .beqi_f
  | .bunltr_f => some .bger_f
  | .bunlti_f => some .bgei_f
  | .bunler_f => some .bgtr_f
  | .bunlei_f => some .bgti_f
  | .buneqr_f => some .bltgtr_f
  | .buneqi_f => some .bltgti_f
  | .bunger_f => some .bltr_f
  | .bungei_f => some .blti_f
  | .bungtr_f => some .bler_f
  | .bungti_f => some .blei_f
  | .bltgtr_f => some .buneqr_f
  | .bltgti_f => some .buneqi_f
  | .bordr_f => some .bunordr_f
  | .bordi_f => some .bunordi_f
  | .bunordr_f => some .bordr_f
  | .bunordi_f => some .bordi_f
  | .bltr_d => some .bunger_d
  | .blti_d => some .bungei_d
  | .bler_d => some .bungtr_d
  | .blei_d => some .bungti_d
  | .beqr_d => some .bner_d
  | .beqi_d => some .bnei_d
  | .bger_d => some .bunltr_d
  | .bgei_d => some .bunlti_d
  | .bgtr_d => some .bunler_d
  | .bgti_d => some .bunlei_d
  | .bner_d => some .beqr_d
  | .bnei_d => some .beqi_d
  | .bunltr_d => some .bger_d
  | .bunlti_d => some .bgei_d
  | .bunler_d => some .bgtr_d
  | .bunlei_d => some .bgti_d
  | .buneqr_d => some .bltgtr_d
  | .buneqi_d => some .bltgti_d
  | .bunger_d => some .bltr_d
  | .bungei_d => some .blti_d
  | .bungtr_d => some .bler_d
  | .bungti_d => some .blei_d
  | .bltgtr_d => some .buneqr_d
  | .bltgti_d => some .buneqi_d
  | .bordr_d => some .bunordr_d
  | .bordi_d => some .bunordi_d
  | .bunordr_d => some .bordr_d
  | .bunordi_d => some .bordi_d
  | .boaddr => some .bxaddr
  | .boaddi => some .bxaddi
  | .boaddr_u => some .bxaddr_u
  | .boaddi_u => some .bxaddi_u
  | .bxaddr => some .boaddr
  | .bxaddi => some .boaddi
  | .bxaddr_u => some .boaddr_u
  | .bxaddi_u => some .boaddi_u
  | .bosubr => some .bxsubr
  | .bosubi => some .bxsubi
  | .bosubr_u => some .bxsubr_u
  | .bosubi_u => some .bxsubi_u
  | .bxsubr => some .bosubr
  | .bxsubi => some .bosubi
  | .bxsubr_u => some .bosubr_u
  | .bxsubi_u => some .bosubi_u
  | _ => none

namespace Pass

variable (fuel : Nat)

/-- `_reverse_jump`: `<cond_jump L0> <jump L1> <label L0>` becomes `<reverse_cond_jump L1>`. -/
def reverseJump (ref : NodeRef) : Pass W Bool := do
  let before ← node ref
  if ¬ before.has flagNode then return false
  let skipped ← deref before.next
  let jump ← node skipped
  if jump.code ≠ .jmpi ∨ ¬ jump.has flagNode then return false
  let label ← target jump.u
  Script.loop .outOfFuel (fun next => do
    match next with
    | none => return .inr false
    | some next =>
      let after ← node next
      match after.code with
      | .label | .epilog =>
        if before.u = .n next then
          unlinkJump fuel next ref
          delNode (some ref) skipped
          match reverseJumpCode before.code with
          | none => Script.fault .abort
          | some code =>
            raw (.code ref code)
            linkJump label ref
            return .inr true
        else return .inl after.next
      | .note => return .inl after.next
      | _ => return .inr false) fuel jump.next

/-- One round of `_thread_jumps`, at the node after `prev`. -/
def threadStep (at_ : Option NodeRef × Option NodeRef) :
    Pass W ((Option NodeRef × Option NodeRef) ⊕ Unit) := do
  let (prev, current) := at_
  match current with
  | none => return .inr ()
  | some ref =>
    let before ← node ref
    match before.code with
    | .jmpi =>
      if ← redundantJump fuel prev ref then return .inl (prev, prev)
      if ← shortcutJump fuel ref then return .inl (prev, some ref)
      return .inl (some ref, before.next)
    -- Like jumps, but nothing can be done about them.
    | .jmpr | .callr | .calli => return .inl (some ref, before.next)
    | code =>
      if .a0Jmp ∈ (← classify code) then
        if ← reverseJump fuel ref then return .inl (prev, some ref)
        if ← shortcutJump fuel ref then return .inl (prev, some ref)
      return .inl (some ref, before.next)

/-- `_thread_jumps`. -/
def threadJumps : Pass W Unit := do
  let head := (← look).head
  Script.loop .outOfFuel (threadStep fuel) fuel (head, head)

end Pass

end Zjit
