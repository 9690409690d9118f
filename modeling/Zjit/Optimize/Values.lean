import Zjit.Optimize.Registers

/-!
# Known values

`simplify` keeps track of what the registers hold and removes instructions that set a register to
the value it already holds.
-/
namespace Zjit

open Foundation

variable {W : WordSize}

/-- The bytes of an operand that `memcmp` looks at for a constant of the kind. -/
def ValueKind.read : ValueKind → Data W → Data W
  | .word, data => .w data.toWord
  | .float32, .f value => .f value
  | .float32, data => .f (data.toWord.setWidth 32)
  | .float64, .d value => .d value
  | .float64, data => .d (data.toWord.setWidth 64)

/-- The move between registers that a move of a constant becomes. -/
def ValueKind.movr : ValueKind → Code
  | .word => .movr
  | .float32 => .movr_f
  | .float64 => .movr_d

/-- The registers among which a constant of the kind is looked for. -/
def ValueKind.spec (kind : ValueKind) (spec : CInt) : CInt :=
  match kind with
  | .word => spec &&& classGpr
  | .float32 | .float64 => spec &&& (classXpr ||| classFpr)

section Values

variable (machine : Machine W) (s : State W)

/-- Neither an integer nor a float register. -/
def Machine.reserved (machine : Machine W) (regno : Nat) : Bool :=
  jitClass (machine.spec regno) &&& (classGpr ||| classFpr) = 0

/-- The register operands of a move. -/
def Node.regno (node : Node W) : Nat := jitRegno node.u.low

def Node.right (node : Node W) : Nat := jitRegno node.v.low

/-- The register `regno` is set, to a value of which `value` is known. -/
def Scratch.assign (s : Scratch W) (regno : Nat) (value : Value W) : Scratch W :=
  { s with
    values := Function.update s.values regno value
    gen := Function.update s.gen regno (s.gen regno + 1) }

/-! ### Redundancy -/

/-- Both registers of a move hold the same value. -/
def movrRedundant (node : Node W) (kind : ValueKind) : Bool :=
  let value := s.values node.regno
  !machine.reserved node.regno &&
    (decide (value = .register node.right (s.gen node.right)) ||
      match value, s.values node.right with
      | .constant left one, .constant right other =>
        decide (left = kind ∧ right = kind ∧ one = other)
      | _, _ => false)

/-- The register holds the constant. -/
def moviRedundant (node : Node W) (kind : ValueKind) : Bool :=
  !node.has flagNode && !machine.reserved node.regno &&
    decide (s.values node.regno = .constant kind (kind.read node.v))

/-- The register holds what was loaded with the same instruction. -/
def ldxiRedundant (node : Node W) : Bool :=
  decide (node.regno ≠ node.right ∧
    s.values node.regno =
      .code node.code node.right (s.gen node.right) (.w node.w.toWord))

/-- The register was loaded with the same instruction. -/
def stxiRedundant (node : Node W) : Bool :=
  decide (jitRegno node.w.low ≠ node.right ∧
    s.values (jitRegno node.w.low) =
      .code node.code node.right (s.gen node.right) (.w node.u.toWord))

/-- The loads and stores that are looked at. -/
def tracksLoad : WordSize → Code → Bool
  | .w32, code => code = .ldxi_i ∨ code = .ldxi_f
  | .w64, code => code = .ldxi_l ∨ code = .ldxi_d

def tracksStore : WordSize → Code → Bool
  | .w32, code => code = .stxi_i ∨ code = .stxi_f
  | .w64, code => code = .stxi_l ∨ code = .stxi_d

/-- `_simplify` removes a move, a load or a store. -/
def redundant (node : Node W) : Bool :=
  match node.code with
  | .movr => movrRedundant machine s node .word
  | .movr_f => movrRedundant machine s node .float32
  | .movr_d => movrRedundant machine s node .float64
  | .movi => moviRedundant machine s node .word
  | .movi_f => moviRedundant machine s node .float32
  | .movi_d => moviRedundant machine s node .float64
  | code =>
    if tracksLoad W code then ldxiRedundant s node
    else if tracksStore W code then stxiRedundant s node
    else false

end Values

namespace Pass

-- The target, and how many rounds a loop may take.
variable (machine : Machine W) (fuel : Nat)

/-! ### Recording -/

/-- The end of `_simplify_movr`, for a move that stays. -/
def recordMovr (node : Node W) : Pass W Unit := do
  if machine.reserved node.regno then scratch fun s => s.assign node.regno .unknown
  else
    scratch fun s =>
      s.assign node.regno <|
        match s.values node.right with
        | .constant .word value => .constant .word value
        | _ => .register node.right (s.gen node.right)

/-- The end of `_simplify_movi`, for a move that stays. -/
def recordMovi (ref : NodeRef) (node : Node W) (kind : ValueKind) : Pass W Unit := do
  let s ← look
  let regno := node.regno
  let value : Value W := .constant kind (kind.read node.v)
  if node.has flagNode ∨ machine.reserved regno then
    scratch fun s => s.assign regno .unknown
  else
    let holdsKind : Bool :=
      match s.values regno with
      | .constant other _ => other = kind
      | _ => false
    let spec := kind.spec (jitClass (machine.spec regno))
    let other :=
      if holdsKind then
        (List.range machine.rvs.length).find? fun offset =>
          s.values offset = value ∧ jitClass (machine.spec offset) &&& spec = spec
      else none
    if let some offset := other then
      raw (.code ref kind.movr)
      body ref fun node => { node with v := .w offset }
    scratch fun s => s.assign regno value

/-- The end of `_simplify_ldxi`, for a load that stays. -/
def recordLdxi (node : Node W) : Pass W Unit :=
  scratch fun s =>
    s.assign node.regno (.code node.code node.right (s.gen node.right) (.w node.w.toWord))

/-- Anything may alias what is stored. -/
def forgetLoads (machine : Machine W) (s : Scratch W) : Scratch W :=
  (List.range machine.rvs.length).foldl (fun s offset =>
    match s.values offset with
    | .code _ _ _ _ => s.assign offset .unknown
    | _ => s) s

/-- The load that reads back what a store wrote. -/
def loadOf : WordSize → Code → Option Code
  | .w32, .stxi_i => some .ldxi_i
  | .w32, .stxi_f => some .ldxi_f
  | .w64, .stxi_l => some .ldxi_l
  | .w64, .stxi_d => some .ldxi_d
  | _, _ => none

/-- The end of `_simplify_stxi`, for a store that stays. -/
def recordStxi (node : Node W) : Pass W Unit := do
  let regno := jitRegno node.w.low
  scratch (forgetLoads machine)
  if (← look).values regno = .unknown then
    match loadOf W node.code with
    | none => Script.fault .abort
    | some code =>
      scratch fun s =>
        { s with
          values := Function.update s.values regno
            (.code code node.right (s.gen node.right) (.w node.u.toWord)) }

/-- Nothing is known at the start of a block. -/
def forgetAll : Pass W Unit :=
  scratch fun s => { s with gen := fun _ => 0, values := fun _ => .unknown }

/-- The registers that a node changes, without a pair in the second or third operand. -/
def changedRegs (cc : List Cc) (node : Node W) : List Nat :=
  (if .a0Chg ∈ cc then
      if .a0Rlh ∈ cc then [jitRegno node.u.low, jitRegno node.u.high] else [node.regno]
    else []) ++
  (if .a1Chg ∈ cc then [node.right] else []) ++
  if .a2Chg ∈ cc then [jitRegno node.w.low] else []

/-! ### Removing -/

/-- `_simplify_spill`: the node behind the one noted for `regno` moves behind `ref`. -/
def simplifySpill (ref : Option NodeRef) (regno : Nat) : Pass W Unit := do
  match (← look).spill regno with
  | none => return
  | some temp =>
    let save := (← node temp).next
    if save ≠ ref then
      let save ← deref save
      raw (.next temp (← node save).next)
      let ref ← deref ref
      raw (.next save (← node ref).next)
      raw (.next ref (some save))
      scratch fun s => { s with spill := Function.update s.spill regno (some ref) }

/-- A redundant node goes away. -/
def dropNode (prev : Option NodeRef) (ref : NodeRef) (regno : Nat) : Pass W Unit := do
  delNode prev ref
  simplifySpill prev regno

/-- `_simplify` at a load node, which goes away with its save node where the register does not
change between the two. Whether the node stays. -/
def simplifyLoad (prev : Option NodeRef) (ref : NodeRef) : Pass W Bool := do
  let before ← node ref
  let regno := before.regno
  let save ← deref before.link
  let first := (← node save).next
  let state ← ofExcept (registerChangeP machine (← look) (some ref) regno fuel first)
  if state ≠ .change then
    patchRegister fuel first (some ref) (regnoPatch ||| (regno : CInt)) regno
    delNode ((← look).spill regno) save
    delNode prev ref
  scratch fun s => { s with spill := Function.update s.spill regno none }
  return state = .change

/-- The switch of `_simplify`, for a node that is not redundant. Whether the node stays. -/
def recordNode (prev : Option NodeRef) (ref : NodeRef) : Pass W Bool := do
  let before ← node ref
  match before.code with
  | .label | .prolog | .callr | .calli =>
    forgetAll
    return true
  | .save =>
    scratch fun s => { s with spill := Function.update s.spill before.regno prev }
    return true
  | .load => simplifyLoad machine fuel prev ref
  | .movr | .movr_f | .movr_d =>
    recordMovr machine before
    return true
  | .movi =>
    recordMovi machine ref before .word
    return true
  | .movi_f =>
    recordMovi machine ref before .float32
    return true
  | .movi_d =>
    recordMovi machine ref before .float64
    return true
  | code =>
    if tracksLoad W code then recordLdxi before
    else if tracksStore W code then recordStxi machine before
    else
      let cc ← classify code
      if .a0Jmp ∈ cc then forgetAll
      else
        scratch fun s =>
          (changedRegs cc before).foldl (fun s regno => s.assign regno .unknown) s
    return true

/-- One round of `_simplify`, at the node after `prev`; the flag says whether a node went away. -/
def simplifyStep (at_ : Option NodeRef × Option NodeRef × Bool) :
    Pass W ((Option NodeRef × Option NodeRef × Bool) ⊕ Bool) := do
  let (prev, current, result) := at_
  match current with
  | none => return .inr result
  | some ref =>
    let before ← node ref
    if redundant machine (← look) before then
      dropNode prev ref before.regno
      return .inl (prev, before.next, true)
    else if ← recordNode machine fuel prev ref then return .inl (some ref, before.next, result)
    else return .inl (prev, before.next, true)

/-- `_simplify`. -/
def simplify : Pass W Bool := do
  Script.loop .outOfFuel (simplifyStep machine fuel) fuel (none, (← look).head, false)

end Pass

end Zjit
