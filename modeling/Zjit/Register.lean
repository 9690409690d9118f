import Zjit.Build

/-!
# Register allocation while building

`_jit_get_reg` and `_jit_unget_reg` outside of emission, where taking a register leaves a pair of
save and load nodes for the optimizer to resolve.
-/
namespace Zjit

open Foundation

variable {W : WordSize}

/-! ### Register classes -/

def classNospill : CInt := 0x00800000
def classNamed : CInt := 0x00400000
def classSft : CInt := 0x01000000
def classChk : CInt := 0x02000000
def classRg8 : CInt := 0x04000000
def classArg : CInt := 0x08000000
def classSav : CInt := 0x10000000
def classGpr : CInt := 0x20000000
def classFpr : CInt := 0x40000000
def classXpr : CInt := 0x80000000

/-- `jit_class(reg)`. -/
def jitClass (reg : CInt) : CInt := reg &&& 0xffff0000

/-- `jit_regno(reg)`. -/
def jitRegno (reg : CInt) : Nat := (reg &&& 0x7fff).toNat

/-- Marks the registers that `_jit_get_reg` hands out for a save and load pair. -/
def regnoPatch : CInt := 0x8000

def setBit (set : BitVec 64) (bit : Nat) : BitVec 64 := set ||| (1#64 <<< bit)

def clrBit (set : BitVec 64) (bit : Nat) : BitVec 64 := set &&& ~~~(1#64 <<< bit)

/-! ### The target -/

/-- The parts of a target that belong to the generation of machine code. They may do what any
backend code may do, but check no argument types. -/
structure Emitter (W : WordSize) where
  /-- `_jit_get_reg` during emission, and the spill of a live register that was named. -/
  getReg : CInt → Build W CInt
  /-- The reload in `_jit_unget_reg` during emission. -/
  ungetReg : Nat → Build W Unit
  /-- `jit_get_size`, the guess at the length of the code. -/
  getSize : State W → Nat
  /-- `_emit_code`: the end of the code, or none if it does not fit into the buffer. -/
  emitCode : Build W (Option Nat)
  getReg_avoids : ∀ regspec, (getReg regspec).Avoids .typeCheck
  ungetReg_avoids : ∀ regno, (ungetReg regno).Avoids .typeCheck

/-- A code generator that needs no temporary registers. -/
instance : Inhabited (Emitter W) where
  default :=
    { getReg := fun regspec => pure regspec
      ungetReg := fun _ => pure ()
      getSize := fun _ => 0
      emitCode := pure (some 0)
      getReg_avoids := fun _ => trivial
      ungetReg_avoids := fun _ => trivial }

/-- The registers of a target, `_rvs` without its last entry, and its code generator. -/
structure Machine (W : WordSize) where
  rvs : List CInt
  /-- `JIT_RET`. -/
  retReg : Nat
  /-- `JIT_FRET`. -/
  fretReg : Nat
  /-- `_jit_regarg_p`: the register passes an argument to the call. -/
  regargP : Node W → Nat → Bool
  emitter : Emitter W

variable (machine : Machine W)

/-- `_NOREG` follows the last register. -/
def Machine.noreg : CInt := machine.rvs.length

/-- `_rvs[regno].spec`. -/
def Machine.spec (regno : Nat) : CInt := machine.rvs.getD regno 0

/-! ### Saving and restoring -/

def jitSave (reg : Nat) : Build W Unit := do
  assert ((← look).realize = false)
  let save ← append (.w .save (reg : Word W))
  scratch fun s => { s with spill := Function.update s.spill reg (some save) }

def jitLoad (reg : Nat) : Build W Unit := do
  let s ← look
  assert (s.realize = false)
  assert (s.spill reg ≠ none)
  let load ← append (.w .load (reg : Word W))
  let save ← deref (s.spill reg)
  body load fun node => { node with link := some save }
  body save fun node => { node with link := some load }
  scratch fun s => { s with spill := Function.update s.spill reg none }

/-- Out of registers. -/
def getRegFail (regspec : CInt) : Build W CInt := do
  assert (regspec &&& classChk ≠ 0)
  return machine.noreg

def jitGetReg (regspec : CInt) : Build W CInt := do
  let spec := regspec &&& ~~~(classChk ||| classNospill)
  let s ← look
  if spec &&& classNamed ≠ 0 then
    let regno := jitRegno spec
    if s.regsav.getLsbD regno then getRegFail machine regspec
    else if s.regarg.getLsbD regno then getRegFail machine regspec
    else if s.reglive.getLsbD regno then
      if regspec &&& classNospill ≠ 0 then getRegFail machine regspec
      else machine.emitter.getReg regspec
    else
      scratch fun s => { s with regarg := setBit s.regarg regno }
      return regno
  else
    assert (jitClass spec ≠ 0)
    if s.emit then machine.emitter.getReg regspec
    else
      assert (regspec &&& classNospill = 0)
      let free := (List.range machine.rvs.length).find? fun regno =>
        jitClass (machine.spec regno) &&& spec = spec ∧ ¬ s.regsav.getLsbD regno ∧
          ¬ s.regarg.getLsbD regno
      match free with
      | some regno =>
        scratch fun s =>
          { s with regarg := setBit s.regarg regno, regsav := setBit s.regsav regno }
        jitSave regno
        return regnoPatch ||| regno
      | none => getRegFail machine regspec

def jitUngetReg (regno : CInt) : Build W Unit := do
  let regno := jitRegno regno
  let s ← look
  if s.regsav.getLsbD regno then
    if s.emit then machine.emitter.ungetReg regno else jitLoad regno
    scratch fun s => { s with regsav := clrBit s.regsav regno }
  assert ((← look).regarg.getLsbD regno)
  scratch fun s => { s with regarg := clrBit s.regarg regno }

end Zjit
