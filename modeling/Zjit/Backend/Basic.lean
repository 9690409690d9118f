import Zjit.Register

/-!
# What a backend provides

The call protocol of a target: arguments, calls and return values, with the type checks that the
backends share.
-/
namespace Zjit

open Foundation

variable {W : WordSize}

/-! ### Codes -/

/-- `jit_code_arg`. -/
def jitCodeArg : WordSize → Code
  | .w32 => .arg_i
  | .w64 => .arg_l

/-- A code in the arithmetic of its type, that of `unsigned int`. -/
def Code.toUInt (code : Code) : BitVec 32 := code.toNat

/-! ### Type checks -/

section Checks

-- `STRONG_TYPE_CHECKING`.
variable (strong : Bool)

def typeCheck (c : Prop) [Decidable c] : Build W Unit :=
  if c then pure () else Script.fault .typeCheck

def assertArgType (code expect : Code) : Build W Unit :=
  typeCheck (code = expect ∨ strong = false ∧ code = jitCodeArg W)

def assertPutargType (code expect : Code) : Build W Unit :=
  typeCheck ((code.toUInt - Code.putargr_c.toUInt) >>> 2 = expect.toUInt - Code.arg_c.toUInt ∨
    strong = false ∧ code = jitCodeArg W)

/-- `code >= jit_code_arg_c && code <= jit_code_arg`. -/
def isIntArg (W : WordSize) (code : Code) : Prop :=
  Code.arg_c.toNat ≤ code.toNat ∧ code.toNat ≤ (jitCodeArg W).toNat

instance (code : Code) : Decidable (isIntArg W code) := inferInstanceAs (Decidable (_ ∧ _))

/-- The check of `_jit_arg`, in the strong variant only. -/
def assertArgCode (code : Code) : Build W Unit :=
  typeCheck (strong = true → isIntArg W code)

end Checks

/-! ### Macros whose code depends on the word size -/

def stxi (disp base value : Word W) : NewNode W :=
  match W with
  | .w32 => .www .stxi_i disp base value
  | .w64 => .www .stxi_l disp base value

/-- `jit_code_pushargr`. -/
def pushargrCode : WordSize → Code
  | .w32 => .pushargr_i
  | .w64 => .pushargr_l

/-! ### The interface -/

/-- The suffixes of integer methods. -/
inductive IntSuffix
  | c
  | uc
  | s
  | us
  | i
  | ui
  | l
  deriving DecidableEq, Repr

/-- The call protocol. `getarg` and `retval` of a suffix may be missing from a target. -/
structure Backend (W : WordSize) where
  prolog : Build W Unit
  argRegisterP : NodeRef → Build W Bool
  arg : Code → Build W NodeRef
  argF : Build W NodeRef
  argD : Build W NodeRef
  getarg : IntSuffix → Option (Gpr → NodeRef → Build W Unit)
  getargF : Fpr → NodeRef → Build W Unit
  getargD : Fpr → NodeRef → Build W Unit
  putargr : Gpr → NodeRef → Code → Build W Unit
  putargi : Word W → NodeRef → Code → Build W Unit
  putargrF : Fpr → NodeRef → Build W Unit
  putargiF : Float32Bits → NodeRef → Build W Unit
  putargrD : Fpr → NodeRef → Build W Unit
  putargiD : Float64Bits → NodeRef → Build W Unit
  pushargr : Gpr → Code → Build W Unit
  pushargi : Word W → Code → Build W Unit
  pushargrF : Fpr → Build W Unit
  pushargiF : Float32Bits → Build W Unit
  pushargrD : Fpr → Build W Unit
  pushargiD : Float64Bits → Build W Unit
  finishr : Gpr → Build W Unit
  finishi : Pointer W → Build W NodeRef
  ret : Build W Unit
  retr : Gpr → Code → Build W Unit
  reti : Word W → Code → Build W Unit
  retrF : Fpr → Build W Unit
  retiF : Float32Bits → Build W Unit
  retrD : Fpr → Build W Unit
  retiD : Float64Bits → Build W Unit
  retval : IntSuffix → Option (Gpr → Build W Unit)
  retvalF : Fpr → Build W Unit
  retvalD : Fpr → Build W Unit

/-- A whole target. -/
structure Platform (W : WordSize) extends Backend W, Machine W where
  /-- `JIT_FP`. -/
  fp : Gpr
  allocai : Int → Build W Int
  allocar : Gpr → Gpr → Build W Unit
  ellipsis : Build W Unit
  vaPush : Gpr → Build W Unit
  /-- `JIT_HASH_CONSTS`. -/
  hashConsts : Bool
  /-- `HAVE_MMAP`. -/
  haveMmap : Bool

/-! ### Functions that every backend writes alike -/

def jitRet : Build W Unit := do
  assertFunction
  jitIncSynth (.plain .ret)
  let instr ← append (.p .jmpi 0)
  jitPatchAt instr (← deref (← frame).epilog)
  jitSynthDec

/-- `_jit_retr`; `value` is the move into the return register. -/
def jitRetWith (call value : NewNode W) : Build W Unit := do
  jitIncSynth call
  let _ ← append value
  jitRet
  jitSynthDec

/-- `_jit_retval_*`; `value` is the move out of the return register, where there is one. -/
def jitRetvalWith (code : Code) (r0 : CInt) (value : Option (NewNode W)) : Build W Unit := do
  jitIncSynth (.w code r0)
  if let some value := value then
    let _ ← append value
  jitSynthDec

/-- `length` rounds the offset in the frame down to its alignment. -/
def alignAoff (aoff length : Int) : Int :=
  if length = 0 ∨ length = 1 then aoff
  else if length = 2 then aoff - aoff % 2
  else if length = 3 ∨ length = 4 then aoff - aoff % 4
  else aoff - aoff % 8

/-- What remains of `_jit_allocai` once the frame is prepared. -/
def allocaiTail (length : Int) : Build W Int := do
  setFrame fun f => { f with aoff := alignAoff f.aoff length - length }
  let aoff := (← frame).aoff
  unless (← look).realize do
    jitIncSynth (.ww .allocai (aoff : Word W) (length : Word W))
    jitSynthDec
  return aoff

/-- `_jit_allocar`; `mask` aligns the stack. -/
def allocarWith (machine : Machine W) (allocai : Int → Build W Int) (fp sp : Gpr) (mask : Int)
    (u v : Gpr) : Build W Unit := do
  assertFunction
  jitIncSynth (.ww .allocar u v)
  unless (← frame).allocar do
    let aoffoff ← allocai 4
    setFrame fun f => { f with aoffoff := aoffoff, allocar := true }
  let reg ← jitGetReg machine classGpr
  let _ ← append (.ww .negr reg v)
  let _ ← append (.www .andi reg reg (mask : Word W))
  let _ ← append (.www .ldxi_i u fp ((← frame).aoffoff : Word W))
  let _ ← append (.www .addr u u reg)
  let _ ← append (.www .addr sp sp reg)
  let _ ← append (.www .stxi_i ((← frame).aoffoff : Word W) fp u)
  jitUngetReg machine reg
  jitSynthDec

end Zjit
