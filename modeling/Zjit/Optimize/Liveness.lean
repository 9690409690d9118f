import Zjit.Register

/-!
# Live registers

The data flow analysis behind the optimizer: which registers are live at the start of a block and
at a node. It reads the IR and computes register sets.
-/
namespace Zjit

variable {W : WordSize}

/-- A computation that fails where the C code does, or that runs out of steps. -/
abbrev Analysis := Except Fault

def classified (code : Code) : Analysis (List Cc) :=
  match jitClassify code with
  | some mask => .ok mask
  | none => .error .abort

/-! ### Operands -/

/-- `data.q.l`. -/
def Data.low : Data W → CInt
  | .q l _ => l
  | data => data.toWord.setWidth 32

/-- `data.q.h`. -/
def Data.high : Data W → CInt
  | .q _ h => h
  | data => (data.toWord >>> 32).setWidth 32

/-- The register was handed out by `_jit_get_reg`. -/
def isPatch {n : Nat} (reg : BitVec n) : Bool := reg &&& 0x8000#n != 0

/-- The node pointer in an operand. -/
def Data.target : Data W → Analysis NodeRef
  | .n ref => .ok ref
  | _ => .error .nullDereference

/-- The index of a label in the vector of blocks. -/
def Node.block (node : Node W) : Nat := node.v.toWord.toNat

/-- Labels, prologs and epilogs start a block. -/
def Code.startsBlock (code : Code) : Bool := code = .label ∨ code = .prolog ∨ code = .epilog

/-- The registers known to be live, and those not yet seen. -/
structure RegSets where
  live : BitVec 64
  mask : BitVec 64
  deriving DecidableEq, Repr

namespace RegSets

/-- The first use of a register decides: it is live if it is read. -/
def touch {n : Nat} (sets : RegSets) (reg : BitVec n) (reads : Bool) : RegSets :=
  if isPatch reg ∨ ¬ sets.mask.getLsbD reg.toNat then sets
  else
    { live := if reads then setBit sets.live reg.toNat else sets.live
      mask := clrBit sets.mask reg.toNat }

/-- A register operand or a pair. `pairReads` says whether the registers of a pair become live. -/
def operand (sets : RegSets) (present pair changes pairReads : Bool) (data : Data W) : RegSets :=
  if !present then sets
  else if pair then (sets.touch data.low pairReads).touch data.high pairReads
  else sets.touch data.toWord (!changes)

/-- The operands in reverse order, for registers that are both argument and result. -/
def operands (sets : RegSets) (cc : List Cc) (node : Node W) : RegSets :=
  let sets := sets.operand (.a2Reg ∈ cc) (.a2Rlh ∈ cc) (.a2Chg ∈ cc) false node.w
  let sets := sets.operand (.a1Reg ∈ cc) (.a1Rlh ∈ cc) (.a1Chg ∈ cc) false node.v
  sets.operand (.a0Reg ∈ cc) (.a0Rlh ∈ cc) (.a0Chg ∈ cc) (.a0Chg ∉ cc) node.u

/-- A call changes what is not callee saved and reads its arguments. -/
def call (sets : RegSets) (machine : Machine W) (node : Node W) : RegSets :=
  (List.range machine.rvs.length).foldl (fun sets value =>
    if sets.mask.getLsbD value then
      let spec := jitClass (machine.spec value)
      { mask := if spec &&& classSav = 0 then clrBit sets.mask value else sets.mask
        live :=
          if spec &&& classArg ≠ 0 ∧ machine.regargP node value then setBit sets.live value
          else sets.live }
    else sets) sets

/-- What is live where control may go next. -/
def merge (sets : RegSets) (target : BlockLive) : RegSets :=
  { live := sets.live ||| (sets.mask &&& target.reglive)
    mask := sets.mask &&& ~~~(sets.mask &&& target.reglive) }

end RegSets

/-- The callee saved registers, live when a jump leads to an unknown place. -/
def Machine.saved (machine : Machine W) : BitVec 64 :=
  (List.range machine.rvs.length).foldl (fun set regno =>
    let spec := jitClass (machine.spec regno)
    if spec &&& (classGpr ||| classFpr) ≠ 0 ∧ spec &&& classSav ≠ 0 then setBit set regno
    else set) 0

/-! ### Blocks -/

section Blocks

variable (machine : Machine W) (s : State W)

/-- The registers of a block that have not been seen. -/
def Machine.allRegs : BitVec 64 :=
  (List.range machine.rvs.length).foldl (fun set regno =>
    if jitClass (machine.spec regno) &&& (classGpr ||| classFpr) ≠ 0 then setBit set regno
    else set) 0

/-- The walk of `_jit_setup` to the end of the block. -/
def setupFrom : Nat → Option NodeRef → RegSets → Analysis RegSets
  | 0, _, _ => .error .outOfFuel
  | _ + 1, none, sets => .ok sets
  | fuel + 1, some ref, sets => do
    let node := s.memory ref
    if node.code.startsBlock then return sets
    let cc ← classified node.code
    setupFrom fuel node.next (sets.operands cc node)

/-- One round of `_do_setup`. -/
def setupBlock (fuel : Nat) (live : Nat → BlockLive) (offset : Nat) (label : NodeRef) :
    Analysis (Nat → BlockLive) := do
  let block := live offset
  if (s.memory label).code = .epilog then
    let reglive := setBit (setBit block.reglive machine.retReg) machine.fretReg
    return Function.update live offset { block with reglive, regmask := ~~~reglive }
  let sets ← setupFrom s fuel (s.memory label).next
    { live := block.reglive, mask := machine.allRegs }
  return Function.update live offset { block with reglive := sets.live, regmask := sets.mask }

/-- The blocks in turn, those without a label left out. -/
def overBlocks (f : (Nat → BlockLive) → Nat → NodeRef → Analysis (Nat → BlockLive))
    (live : Nat → BlockLive) : Analysis (Nat → BlockLive) :=
  s.blocks.labels.zipIdx.foldlM (fun live (label, offset) =>
    match label with
    | some label => f live offset label
    | none => .ok live) live

/-- `_do_setup`. -/
def doSetup (fuel : Nat) : Analysis Liveness :=
  return { s.toLiveness with live := ← overBlocks s (setupBlock machine s fuel) s.live }

/-- Registers of the target that this block has not seen become live in it. -/
def BlockLive.reach (block : BlockLive) (mask : BitVec 64) (target : BlockLive) : BlockLive :=
  let unknown := mask &&& target.reglive
  if unknown = 0 then block
  else
    { reglive := block.reglive ||| unknown
      regmask := block.regmask &&& ~~~unknown
      again := true }

/-- The walk of `_jit_follow`; the block that it updates is number `offset` of `live`. -/
def followFrom (offset : Nat) :
    Nat → Option NodeRef → RegSets → (Nat → BlockLive) → Analysis (Nat → BlockLive)
  | 0, _, _, _ => .error .outOfFuel
  | _ + 1, none, _, live => .ok live
  | fuel + 1, some ref, sets, live => do
    let node := s.memory ref
    match node.code with
    | .label =>
      return Function.update live offset ((live offset).reach sets.mask (live node.block))
    | .prolog | .epilog => return live
    | .callr =>
      let reg := if isPatch node.u.toWord then node.u.low else node.u.low &&& 0x7fff
      followFrom offset fuel node.next ((sets.touch reg true).call machine node) live
    | .calli => followFrom offset fuel node.next (sets.call machine node) live
    | code =>
      let cc ← classified code
      let sets := sets.operands cc node
      if .a0Jmp ∈ cc then
        if node.has flagNode then
          let target ← node.u.target
          let block := (live offset).reach sets.mask (live (s.memory target).block)
          followFrom offset fuel node.next sets (Function.update live offset block)
        else
          let block := { live offset with reglive := sets.live ||| machine.saved }
          return Function.update live offset block
      else followFrom offset fuel node.next sets live

/-- One round of `_do_follow`. -/
def followBlock (always : Bool) (fuel : Nat) (live : Nat → BlockLive) (offset : Nat)
    (label : NodeRef) : Analysis (Nat → BlockLive) :=
  let block := live offset
  if (s.memory label).code ≠ .epilog ∧ (always ∨ block.again) then
    followFrom machine s offset fuel (s.memory label).next
      { live := block.reglive, mask := block.regmask }
      (Function.update live offset { block with again := false })
  else .ok live

/-- `_do_follow`. -/
def doFollow (always : Bool) (fuel : Nat) : Analysis Liveness :=
  return { s.toLiveness with live := ← overBlocks s (followBlock machine s always fuel) s.live }

/-- `_block_update_set`, if it changes the block. -/
def blockUpdateSet (block target : BlockLive) : Option BlockLive :=
  let regmask := (block.reglive ||| target.reglive) &&& block.regmask
  if regmask = 0 then none
  else
    let reglive := block.reglive ||| regmask
    some { reglive, regmask := block.regmask &&& ~~~(reglive &&& block.regmask), again := true }

/-- `_propagate_backward`, from the block before number `offset` on. -/
def propagateBackward (block : Nat) : Nat → (Nat → BlockLive) → Analysis (Nat → BlockLive)
  | 0, live => .ok live
  | offset + 1, live =>
    match blockUpdateSet (live offset) (live block) with
    | none => .ok live
    | some updated =>
      let live := Function.update live offset updated
      match (s.blocks.labels.getD offset none) with
      | none => .error .nullDereference
      | some label =>
        if (s.memory label).has flagHead then propagateBackward block offset live else .ok live

/-- A block takes over what has become live in its successor `target`. -/
def takeOver (block target : Nat) (todo : Bool) (live : Nat → BlockLive) :
    Analysis (Bool × (Nat → BlockLive)) := do
  if ¬ (live target).again then return (todo, live)
  match blockUpdateSet (live block) (live target) with
  | none => return (todo, live)
  | some updated =>
    return (true, ← propagateBackward s block block (Function.update live block updated))

/-- The walk over the list of nodes in `_check_block_again`; `block` is the one the walk is in. -/
def checkFrom : Nat → Option NodeRef → Option Nat → Bool → (Nat → BlockLive) →
    Analysis (Bool × (Nat → BlockLive))
  | 0, _, _, _, _ => .error .outOfFuel
  | _ + 1, none, _, todo, live => .ok (todo, live)
  | fuel + 1, some ref, block, todo, live => do
    let node := s.memory ref
    if node.code = .calli ∨ node.code = .callr then checkFrom fuel node.next block todo live
    else if node.code.startsBlock then
      let (todo, live) ←
        match if node.has flagHead then block else none with
        | some block => takeOver s block node.block todo live
        | none => pure (todo, live)
      checkFrom fuel node.next (some node.block) todo live
    else
      match block with
      | none => checkFrom fuel node.next none todo live
      | some current =>
        let cc ← classified node.code
        if .a0Jmp ∉ cc ∨ ¬ node.has flagNode then checkFrom fuel node.next block todo live
        else
          let target ← node.u.target
          let (todo, live) ← takeOver s current (s.memory target).block todo live
          checkFrom fuel node.next block todo live

/-- The outer loop of `_check_block_again`. -/
def checkRounds (fuel : Nat) : Nat → (Nat → BlockLive) → Analysis (Nat → BlockLive)
  | 0, _ => .error .outOfFuel
  | rounds + 1, live => do
    let (todo, live) ← checkFrom s fuel s.head none false live
    if todo then checkRounds fuel rounds live else return live

/-- `_check_block_again`. It always returns 0: its loop ends when `todo` is. -/
def checkBlockAgain (fuel : Nat) : Analysis Liveness := do
  if (List.range s.blocks.labels.length).any fun offset => (s.live offset).again then
    return { s.toLiveness with live := ← checkRounds s fuel fuel s.live }
  else return s.toLiveness

/-! ### Nodes -/

/-- `_jit_update`. -/
def updateFrom : Nat → Option NodeRef → RegSets → Analysis RegSets
  | 0, _, _ => .error .outOfFuel
  | _ + 1, none, sets => .ok sets
  | fuel + 1, some ref, sets => do
    if sets.mask = 0 then return sets
    let node := s.memory ref
    match node.code with
    | .label => return sets.merge (s.live node.block)
    | .prolog | .epilog => return { sets with mask := 0 }
    | .callr =>
      let reg := if isPatch node.u.toWord then node.u.low else node.u.low &&& 0x7fff
      updateFrom fuel node.next ((sets.touch reg true).call machine node)
    | .calli => updateFrom fuel node.next (sets.call machine node)
    | code =>
      let cc ← classified code
      let sets := sets.operands cc node
      if .a0Jmp ∈ cc then
        if node.has flagNode then
          let target ← node.u.target
          updateFrom fuel node.next (sets.merge (s.live (s.memory target).block))
        else
          return { live := sets.live ||| machine.saved ||| s.explive, mask := machine.saved }
      else updateFrom fuel node.next sets

/-- A register that a node changes is dead before it, one that it reads is live; `mask` collects
those whose state is decided by what follows. -/
def RegSets.meet {n : Nat} (sets : RegSets) (reg : BitVec n) (changes : Bool) : RegSets :=
  if isPatch reg then sets
  else if changes then
    { live := clrBit sets.live reg.toNat, mask := setBit sets.mask reg.toNat }
  else { sets with live := setBit sets.live reg.toNat }

/-- One operand in `_jit_reglive`. -/
def RegSets.meetOperand (sets : RegSets) (present pair changes pairChanges : Bool)
    (data : Data W) : RegSets :=
  if !present then sets
  else if pair then (sets.meet data.low pairChanges).meet data.high pairChanges
  else sets.meet data.toWord changes

/-- The calls in `_jit_reglive`. -/
def callLive (node : Node W) (reglive : BitVec 64) : BitVec 64 :=
  (List.range machine.rvs.length).foldl (fun reglive value =>
    let spec := jitClass (machine.spec value)
    if spec &&& classArg ≠ 0 ∧ machine.regargP node value then setBit reglive value
    else if spec &&& classSav = 0 then clrBit reglive value
    else reglive) reglive

/-- `_jit_reglive`. -/
def jitReglive (fuel : Nat) (ref : NodeRef) : Analysis Liveness := do
  let node := s.memory ref
  match node.code with
  | .label | .prolog | .epilog =>
    return { s.toLiveness with reglive := (s.live node.block).reglive, explive := 0 }
  | .live => return { s.toLiveness with explive := setBit s.explive node.u.toWord.toNat }
  | .callr =>
    let reglive :=
      if isPatch node.u.toWord then s.reglive
      else setBit s.reglive (jitRegno node.u.low)
    return { s.toLiveness with reglive := callLive machine node reglive }
  | .calli => return { s.toLiveness with reglive := callLive machine node s.reglive }
  | code =>
    let cc ← classified code
    let sets : RegSets := { live := s.reglive, mask := s.regmask }
    let sets := sets.meetOperand (.a0Reg ∈ cc) (.a0Rlh ∈ cc) (.a0Chg ∈ cc) (.a0Chg ∈ cc) node.u
    let sets := sets.meetOperand (.a1Reg ∈ cc) (.a1Rlh ∈ cc) (.a1Chg ∈ cc) false node.v
    let sets := sets.meetOperand (.a2Reg ∈ cc) (.a2Rlh ∈ cc) (.a2Chg ∈ cc) false node.w
    if sets.mask = 0 then
      return { s.toLiveness with reglive := sets.live, regmask := sets.mask }
    let sets ← updateFrom machine s fuel node.next sets
    -- Any unresolved live state is considered as live.
    return { s.toLiveness with reglive := sets.live ||| sets.mask, regmask := 0 }

/-- What `_register_change_p` finds out about a register. -/
inductive RegChange
  | undef
  | static
  | change
  deriving DecidableEq, Repr

/-- An operand uses the register or changes it. -/
def usesOrChanges (hit changes : Bool) : Bool × Bool → Bool × Bool
  | (use, changed) =>
    if hit ∧ ¬ use then (!(changed || changes), changed || changes) else (use, changed)

/-- `_register_change_p`. -/
def registerChangeP (link : Option NodeRef) (regno : Nat) : Nat → Option NodeRef →
    Analysis RegChange
  | 0, _ => .error .outOfFuel
  | fuel + 1, ref =>
    if ref = link then .ok .static
    else
      match ref with
      | none => .error .nullDereference
      | some ref => do
        let node := s.memory ref
        let saved := jitClass (machine.spec regno) &&& classSav ≠ 0
        match node.code with
        | .label | .prolog => return .static
        | .callr | .calli =>
          if saved then registerChangeP link regno fuel node.next else return .undef
        | code =>
          let cc ← classified code
          let reg : Word W := regno
          let first :=
            if .a0Rlh ∈ cc then node.u.low.toNat = regno ∨ node.u.high.toNat = regno
            else .a0Reg ∈ cc ∧ node.u.toWord = reg
          let found := usesOrChanges first (.a0Chg ∈ cc) (false, false)
          let found := usesOrChanges (.a1Reg ∈ cc ∧ node.v.toWord = reg) (.a1Chg ∈ cc) found
          let (use, changed) :=
            usesOrChanges (.a2Reg ∈ cc ∧ node.w.toWord = reg) (.a2Chg ∈ cc) found
          -- Where control may leave, a register that is not callee saved counts as changed.
          let changed := changed ∨ ¬ use ∧ (.a0Jmp ∈ cc ∨ .a0Cnd ∈ cc) ∧ ¬ saved
          if ¬ use ∧ changed then return .change
          else registerChangeP link regno fuel node.next

/-- `_spill_reglive_p`: whether the register is live behind a save node, and the sets it leaves. -/
def spillReglive (fuel : Nat) (ref : NodeRef) (regno : Nat) : Analysis (Bool × Liveness) := do
  if s.reglive.getLsbD regno then return (true, s.toLiveness)
  let node := s.memory ref
  let sets ← updateFrom machine s fuel node.next
    { live := s.reglive, mask := setBit s.regmask regno }
  let liveness := { s.toLiveness with reglive := sets.live, regmask := sets.mask }
  if sets.live.getLsbD regno then return (true, liveness)
  let state ← registerChangeP machine s node.link regno fuel node.next
  return (state = .change, liveness)

/-- The registers that a node names, for `_jit_regarg_set` and `_jit_regarg_clr`. -/
def namedRegs (cc : List Cc) (node : Node W) : List Nat :=
  let operand (present pair : Bool) (data : Data W) : List Nat :=
    if !present then []
    else if pair then [jitRegno data.low, jitRegno data.high]
    else [jitRegno data.low]
  operand (.a0Reg ∈ cc) (.a0Rlh ∈ cc) node.u ++ operand (.a1Reg ∈ cc) (.a1Rlh ∈ cc) node.v ++
    operand (.a2Reg ∈ cc) (.a2Rlh ∈ cc) node.w

/-- The sets that `_jit_regarg_set` leaves at a jump to a label. -/
def jumpLiveness (node : Node W) : Analysis Liveness := do
  if node.code = .jmpi ∧ node.has flagNode then
    let target ← node.u.target
    let block := s.live (s.memory target).block
    return { s.toLiveness with
      reglive := block.reglive ||| s.explive
      regmask := block.regmask ^^^ s.explive }
  else return s.toLiveness

end Blocks

end Zjit
