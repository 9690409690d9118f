import Zjit.Backend.Basic

/-!
# The arm backend

The call protocol of `jit_arm.c` for hard float, soft float and no float hardware at all.
-/
namespace Zjit

open Foundation

variable {W : WordSize}

/-- The two fields of `jit_cpu` that the call protocol looks at. -/
structure ArmCpu where
  abi : Bool
  vfp : Bool
  deriving DecidableEq, Repr

namespace ArmCpu

/-- `jit_swf_p()`. -/
def swfP (cpu : ArmCpu) : Bool := !cpu.vfp

def argRegP (i : Int) : Bool := 0 ≤ i ∧ i < 4

def argFRegP (i : Int) : Bool := 0 ≤ i ∧ i < 16

def argDRegP (i : Int) : Bool := 0 ≤ i ∧ i < 15

def stackFramesize : Int := 48

/-! Registers by their place in `jit_reg_t`. -/

/-- `JIT_FP`, `_R11`. -/
def fp : Gpr := 8

/-- `JIT_SP`, `_R13`. -/
def sp : Gpr := 9

def r1 : Gpr := 14

/-- `JIT_RA0` and `JIT_RET`, `_R0`. -/
def ra0 : Gpr := 15

/-- `JIT_FA0`, `_D0`. -/
def fa0 : Fpr := 47

/-- `JIT_FRET`. -/
def fret (cpu : ArmCpu) : Fpr := if cpu.abi then fa0 else ra0

/-- `_rvs`, without the hardware numbers, as `_jit_init` leaves it: software floats have slots for
eight registers only. -/
def rvs (cpu : ArmCpu) : List CInt :=
  let arg := if cpu.abi then classArg else 0
  [classGpr] ++ List.replicate 6 (classSav ||| classGpr) ++ List.replicate 4 classSav ++ [0] ++
    List.replicate 4 (classArg ||| classGpr) ++
    (if cpu.vfp then (List.replicate 8 [classFpr, 0]).flatten ++ [arg]
      else List.replicate 17 0) ++
    [arg ||| classSft ||| classFpr] ++
    (List.replicate 7 [arg, arg ||| classSft ||| classFpr]).flatten

end ArmCpu

namespace Arm

open ArmCpu

-- `STRONG_TYPE_CHECKING`, the processor, and the code generator.
variable (strong : Bool) (cpu : ArmCpu) (emitter : Emitter W)

/-- `_jit_regarg_p`; the second test starts from the result of the first subtraction. -/
def jitRegargP (node : Node W) (regno : Nat) : Bool :=
  let spec := jitClass (cpu.rvs.getD regno 0)
  let first := ra0.toInt - regno
  let second := fa0.toInt - first
  spec &&& classArg ≠ 0 ∧
    (0 ≤ first ∧ first < node.v.toWord.toInt ∨
      cpu.abi ∧ spec &&& classFpr ≠ 0 ∧ 0 ≤ second ∧ second < node.w.toWord.toInt)

def machine : Machine W where
  rvs := cpu.rvs
  retReg := ra0.toNat
  fretReg := cpu.fret.toNat
  regargP := jitRegargP cpu
  emitter := emitter

def wordSize (W : WordSize) : Int := W.bits / 8

/-- `arg_offset(n)`: the first four arguments are spilled below the frame. -/
def argOffset (n : Word W) : Word W := if n.toInt < 4 then (32 + n.toInt * 4 : Int) else n

/-- `CHECK_REG_ARGS()`. -/
def checkRegArgs : Build W Unit := do
  unless (← frame).saveRegArgs do
    scratch fun s => { s with again := true }
    setFrame fun f => { f with saveRegArgs := true }

/-- What every function does with a node that accesses the argument area. -/
def accessFrame (node : Option NodeRef) : Build W Unit := do
  if let some node := node then
    checkRegArgs
    jitLinkAlist node
    jitCheckFrame

def jitProlog : Build W Unit :=
  Zjit.jitProlog (fun f => { f with
    size := stackFramesize
    argi := 0
    argf := 0
    alen := 0
    aoff := 0
    swfOffset := false
    saveRegArgs := false
    needReturn := false
    varargs := false }) false

/-! ### Return values -/

def jitRetr (u : Gpr) (code : Code) : Build W Unit := jitRetWith (.w code u) (.ww .movr ra0 u)

def jitReti (u : Word W) (code : Code) : Build W Unit := jitRetWith (.w code u) (.ww .movi ra0 u)

def jitRetrF (u : Fpr) : Build W Unit :=
  jitRetWith (.w .retr_f u)
    (if cpu.abi then if u ≠ cpu.fret then .ww .movr_f cpu.fret u else .w .live cpu.fret
    else if u ≠ ra0 then .ww .movr_f_w ra0 u else .w .live ra0)

def jitRetiF (u : Float32Bits) : Build W Unit :=
  jitRetWith (.f .reti_f u) (if cpu.abi then .wf .movi_f cpu.fret u else .wf .movi_f_w ra0 u)

def jitRetrD (u : Fpr) : Build W Unit :=
  jitRetWith (.w .retr_d u)
    (if cpu.abi then if u ≠ cpu.fret then .ww .movr_d cpu.fret u else .w .live cpu.fret
    else if u ≠ ra0 then .www .movr_d_ww ra0 r1 u else .w .live ra0)

def jitRetiD (u : Float64Bits) : Build W Unit :=
  jitRetWith (.d .reti_d u) (if cpu.abi then .wd .movi_d cpu.fret u else .wwd .movi_d_ww ra0 r1 u)

def jitRetvalC (r0 : Gpr) : Build W Unit :=
  jitRetvalWith .retval_c r0 (some (.ww .extr_c r0 ra0))

def jitRetvalUc (r0 : Gpr) : Build W Unit :=
  jitRetvalWith .retval_uc r0 (some (.ww .extr_uc r0 ra0))

def jitRetvalS (r0 : Gpr) : Build W Unit :=
  jitRetvalWith .retval_s r0 (some (.ww .extr_s r0 ra0))

def jitRetvalUs (r0 : Gpr) : Build W Unit :=
  jitRetvalWith .retval_us r0 (some (.ww .extr_us r0 ra0))

def jitRetvalI (r0 : Gpr) : Build W Unit :=
  jitRetvalWith .retval_i r0 (if r0 ≠ ra0 then some (.ww .movr r0 ra0) else none)

def jitRetvalF (r0 : Fpr) : Build W Unit :=
  jitRetvalWith .retval_f r0
    (if cpu.abi then if r0 ≠ cpu.fret then some (.ww .movr_f r0 cpu.fret) else none
    else if r0 ≠ ra0 then some (.ww .movr_w_f r0 ra0) else none)

def jitRetvalD (r0 : Fpr) : Build W Unit :=
  jitRetvalWith .retval_d r0
    (if cpu.abi then if r0 ≠ cpu.fret then some (.ww .movr_d r0 cpu.fret) else none
    else if r0 ≠ ra0 then some (.www .movr_ww_d r0 ra0 r1) else none)

def jitRetval : IntSuffix → Option (Gpr → Build W Unit)
  | .c => some jitRetvalC
  | .uc => some jitRetvalUc
  | .s => some jitRetvalS
  | .us => some jitRetvalUs
  | .i => some jitRetvalI
  | .ui | .l => none

/-! ### Arguments -/

def jitArgRegisterP (u : NodeRef) : Build W Bool := do
  let node ← node u
  let place := node.u.toWord.toInt
  if isIntArg W node.code then return argRegP place
  if node.code = .arg_f then
    return if cpu.abi then argFRegP place else argRegP place
  typeCheck (node.code = .arg_d)
  return if cpu.abi then argDRegP place else argRegP place

/-- The end of the `_jit_make_arg` functions, for a new node. -/
def appendArg (code : Code) (offset : Int) : Build W NodeRef := do
  let ref ← append (.plain code)
  body ref fun node => { node with u := .w (offset : Word W) }
  setFrame fun f => { f with argn := f.argn + 1 }
  let argn := (← frame).argn
  body ref fun node => { node with v := .w (argn : Word W) }
  jitLinkProlog
  return ref

/-- The next argument passed in memory. -/
def stackArg (size : Int) : Build W Int := do
  let offset := (← frame).size
  setFrame fun f => { f with size := f.size + size }
  return offset

def jitMakeArg (code : Code) : Build W NodeRef := do
  let f ← frame
  let offset ←
    if argRegP f.argi then do
      setFrame fun f => { f with argi := f.argi + 1 }
      pure f.argi
    else stackArg (wordSize W)
  appendArg code offset

def jitMakeArgF : Build W NodeRef := do
  let f ← frame
  let offset ←
    if cpu.abi = true ∧ f.varargs = false then
      if argFRegP f.argf then do
        setFrame fun f => { f with argf := f.argf + 1 }
        pure f.argf
      else stackArg 4
    else if argRegP f.argi then do
      setFrame fun f => { f with argi := f.argi + 1 }
      pure f.argi
    else stackArg 4
  appendArg .arg_f offset

/-- Double arguments in memory are aligned. -/
def stackArgD : Build W Int := do
  setFrame fun f => { f with size := if f.size % 8 ≠ 0 then f.size + 4 else f.size }
  stackArg 8

/-- The next even register. -/
def evenReg (i : Int) : Int := if i % 2 ≠ 0 then i + 1 else i

def jitMakeArgD : Build W NodeRef := do
  let f ← frame
  let offset ←
    if cpu.abi = true ∧ f.varargs = false then
      if argDRegP f.argf then do
        setFrame fun f => { f with argf := evenReg f.argf + 2 }
        pure (evenReg f.argf)
      else stackArgD
    else do
      setFrame fun f => { f with argi := evenReg f.argi }
      if argRegP (evenReg f.argi) then do
        setFrame fun f => { f with argi := f.argi + 2 }
        pure (evenReg f.argi)
      else stackArgD
  appendArg .arg_d offset

def jitArg (code : Code) : Build W NodeRef := do
  assertFunction
  assert ((← frame).varargs = false)
  assertArgCode strong code
  jitMakeArg code

def jitArgF : Build W NodeRef := do
  assertFunction
  assert ((← frame).varargs = false)
  jitMakeArgF cpu

def jitArgD : Build W NodeRef := do
  assertFunction
  assert ((← frame).varargs = false)
  jitMakeArgD cpu

/-- `_jit_getarg_*`: from the argument register by `move`, from memory by `fetch`. -/
def getargInt (code expect move fetch : Code) (u : Gpr) (v : NodeRef) : Build W Unit := do
  assertArgType strong (← node v).code expect
  jitIncSynth (.wn code u v)
  let offset := (← node v).u.toWord
  let access ←
    if cpu.swfP then some <$> append (.www fetch u fp (argOffset offset))
    else if argRegP offset.toInt then do
      let _ ← append (.ww move u (ra0 - offset))
      pure none
    else some <$> append (.www fetch u fp offset)
  accessFrame access
  jitSynthDec

def jitGetargC : Gpr → NodeRef → Build W Unit := getargInt strong cpu .getarg_c .arg_c .extr_c .ldxi_c

def jitGetargUc : Gpr → NodeRef → Build W Unit :=
  getargInt strong cpu .getarg_uc .arg_c .extr_uc .ldxi_uc

def jitGetargS : Gpr → NodeRef → Build W Unit := getargInt strong cpu .getarg_s .arg_s .extr_s .ldxi_s

def jitGetargUs : Gpr → NodeRef → Build W Unit :=
  getargInt strong cpu .getarg_us .arg_s .extr_us .ldxi_us

def jitGetargI : Gpr → NodeRef → Build W Unit := getargInt strong cpu .getarg_i .arg_i .movr .ldxi_i

def jitGetarg : IntSuffix → Option (Gpr → NodeRef → Build W Unit)
  | .c => some (jitGetargC strong cpu)
  | .uc => some (jitGetargUc strong cpu)
  | .s => some (jitGetargS strong cpu)
  | .us => some (jitGetargUs strong cpu)
  | .i => some (jitGetargI strong cpu)
  | .ui | .l => none

def jitPutargr (u : Gpr) (v : NodeRef) (code : Code) : Build W Unit := do
  assertPutargType strong code (← node v).code
  jitIncSynth (.wn code u v)
  let offset := (← node v).u.toWord
  let access ←
    if cpu.swfP then some <$> append (stxi (argOffset offset) fp u)
    else if argRegP offset.toInt then do
      let _ ← append (.ww .movr (ra0 - offset) u)
      pure none
    else some <$> append (stxi offset fp u)
  accessFrame access
  jitSynthDec

/-- A constant is stored through a register. -/
def storeConst (cls : CInt) (move : Word W → NewNode W) (store : Word W → NewNode W) :
    Build W NodeRef := do
  let regno ← jitGetReg (machine cpu emitter) cls
  let _ ← append (move regno)
  let node ← append (store regno)
  jitUngetReg (machine cpu emitter) regno
  return node

def jitPutargi (u : Word W) (v : NodeRef) (code : Code) : Build W Unit := do
  assertPutargType strong code (← node v).code
  jitIncSynth (.wn code u v)
  let offset := (← node v).u.toWord
  let access ←
    if cpu.swfP then
      some <$> storeConst cpu emitter classGpr (.ww .movi · u) (stxi (argOffset offset) fp ·)
    else if argRegP offset.toInt then do
      let _ ← append (.ww .movi (ra0 - offset) u)
      pure none
    else some <$> storeConst cpu emitter classGpr (.ww .movi · u) (stxi offset fp ·)
  accessFrame access
  jitSynthDec

/-- `_jit_getarg_f` and `_jit_getarg_d`; `pair` moves from integer registers. -/
def getargFloat (code expect move fetch : Code) (pair : Word W → NewNode W) (u : Fpr)
    (v : NodeRef) : Build W Unit := do
  assert ((← node v).code = expect)
  jitIncSynth (.wn code u v)
  let offset := (← node v).u.toWord
  let access ←
    if cpu.abi = true ∧ (← frame).varargs = false then
      if argFRegP offset.toInt then do
        let _ ← append (.ww move u (fa0 - offset))
        pure none
      else some <$> append (.www fetch u fp offset)
    else if cpu.swfP then some <$> append (.www fetch u fp (argOffset offset))
    else if argRegP offset.toInt then do
      let _ ← append (pair offset)
      pure none
    else some <$> append (.www fetch u fp offset)
  accessFrame access
  jitSynthDec

def jitGetargF (u : Fpr) : NodeRef → Build W Unit :=
  getargFloat cpu .getarg_f .arg_f .movr_f .ldxi_f (fun n => .ww .movr_w_f u (ra0 - n)) u

def jitGetargD (u : Fpr) : NodeRef → Build W Unit :=
  getargFloat cpu .getarg_d .arg_d .movr_d .ldxi_d
    (fun n => .www .movr_ww_d u (ra0 - n) (ra0 - (n + 1))) u

/-- `_jit_putargr_f` and `_jit_putargr_d`; `pair` moves to integer registers. -/
def putargrFloat (code expect move store : Code) (pair : Word W → NewNode W) (u : Fpr)
    (v : NodeRef) : Build W Unit := do
  assert ((← node v).code = expect)
  jitIncSynth (.wn code u v)
  let offset := (← node v).u.toWord
  let access ←
    if cpu.abi then
      if argFRegP offset.toInt then do
        let _ ← append (.ww move (fa0 - offset) u)
        pure none
      else some <$> append (.www store offset fp u)
    else if cpu.swfP then some <$> append (.www store (argOffset offset) fp u)
    else if argRegP offset.toInt then do
      let _ ← append (pair offset)
      pure none
    else some <$> append (.www store offset fp u)
  accessFrame access
  jitSynthDec

def jitPutargrF (u : Fpr) : NodeRef → Build W Unit :=
  putargrFloat cpu .putargr_f .arg_f .movr_f .stxi_f (fun n => .ww .movr_f_w (ra0 - n) u) u

def jitPutargrD (u : Fpr) : NodeRef → Build W Unit :=
  putargrFloat cpu .putargr_d .arg_d .movr_d .stxi_d
    (fun n => .www .movr_d_ww (ra0 - n) (ra0 - (n + 1)) u) u

/-- `_jit_putargi_f` and `_jit_putargi_d`; `move` is the constant's way into a register and
`pair` moves that register to integer registers. -/
def putargiFloat (call : NewNode W) (expect store : Code) (move : Word W → NewNode W)
    (pair : Word W → Word W → NewNode W) (v : NodeRef) : Build W Unit := do
  assert ((← node v).code = expect)
  jitIncSynth call
  let offset := (← node v).u.toWord
  let access ←
    if cpu.abi then
      if argFRegP offset.toInt then do
        let _ ← append (move (fa0 - offset))
        pure none
      else some <$> storeConst cpu emitter classFpr move (.www store offset fp ·)
    else if cpu.swfP then
      some <$> storeConst cpu emitter classFpr move (.www store (argOffset offset) fp ·)
    else if argRegP offset.toInt then do
      let _ ← storeConst cpu emitter classFpr move (pair offset)
      pure none
    else some <$> storeConst cpu emitter classFpr move (.www store offset fp ·)
  accessFrame access
  jitSynthDec

def jitPutargiF (u : Float32Bits) (v : NodeRef) : Build W Unit :=
  putargiFloat cpu emitter (.fn .putargi_f u v) .arg_f .stxi_f (.wf .movi_f · u)
    (fun n regno => .ww .movr_f_w (ra0 - n) regno) v

def jitPutargiD (u : Float64Bits) (v : NodeRef) : Build W Unit :=
  putargiFloat cpu emitter (.dn .putargi_d u v) .arg_d .stxi_d (.wd .movi_d · u)
    (fun n regno => .www .movr_d_ww (ra0 - n) (ra0 - (n + 1)) regno) v

/-! ### Calls -/

def jitPushargr (u : Gpr) (code : Code) : Build W Unit := do
  assertFunction
  jitIncSynth (.w code u)
  jitLinkPrepare
  let f ← frame
  if argRegP f.callArgi then
    let _ ← append (.ww .movr (ra0 - (f.callArgi : Word W)) u)
    setFrame fun f => { f with callArgi := f.callArgi + 1 }
  else
    let _ ← append (stxi (f.callSize : Word W) sp u)
    setFrame fun f => { f with callSize := f.callSize + wordSize W }
  jitSynthDec

def jitPushargi (u : Word W) (code : Code) : Build W Unit := do
  assertFunction
  jitIncSynth (.w code u)
  jitLinkPrepare
  let f ← frame
  if argRegP f.callArgi then
    let _ ← append (.ww .movi (ra0 - (f.callArgi : Word W)) u)
    setFrame fun f => { f with callArgi := f.callArgi + 1 }
  else
    let _ ← storeConst cpu emitter classGpr (.ww .movi · u) (stxi (f.callSize : Word W) sp ·)
    setFrame fun f => { f with callSize := f.callSize + wordSize W }
  jitSynthDec

def jitPushargrF (u : Fpr) : Build W Unit := do
  assertFunction
  jitIncSynth (.w .pushargr_f u)
  jitLinkPrepare
  let f ← frame
  if cpu.abi = true ∧ f.callVarargs = false ∧ argFRegP f.callArgf then
    let _ ← append (.ww .movr_f (fa0 - (f.callArgf : Word W)) u)
    setFrame fun f => { f with callArgf := f.callArgf + 1 }
  else if ¬ (cpu.abi = true ∧ f.callVarargs = false) ∧ argRegP f.callArgi then
    let _ ← append (.ww .movr_f_w (ra0 - (f.callArgi : Word W)) u)
    setFrame fun f => { f with callArgi := f.callArgi + 1 }
  else
    let _ ← append (.www .stxi_f (f.callSize : Word W) sp u)
    setFrame fun f => { f with callSize := f.callSize + wordSize W }
  jitSynthDec

def jitPushargiF (u : Float32Bits) : Build W Unit := do
  assertFunction
  jitIncSynth (.f .pushargi_f u)
  jitLinkPrepare
  let f ← frame
  if cpu.abi = true ∧ f.callVarargs = false ∧ argFRegP f.callArgf then
    let _ ← storeConst cpu emitter classFpr (.wf .movi_f · u)
      (.ww .movr_f (fa0 - (f.callArgf : Word W)) ·)
    setFrame fun f => { f with callArgf := f.callArgf + 1 }
  else if ¬ (cpu.abi = true ∧ f.callVarargs = false) ∧ argRegP f.callArgi then
    let _ ← append (.wf .movi_f_w (ra0 - (f.callArgi : Word W)) u)
    setFrame fun f => { f with callArgi := f.callArgi + 1 }
  else
    let _ ← storeConst cpu emitter classFpr (.wf .movi_f · u)
      (.www .stxi_f (f.callSize : Word W) sp ·)
    setFrame fun f => { f with callSize := f.callSize + wordSize W }
  jitSynthDec

/-- Doubles in the frame of a call are aligned. -/
def alignCall : Build W Unit :=
  setFrame fun f =>
    { f with callSize := if f.callSize % 8 ≠ 0 then f.callSize + 4 else f.callSize }

/-- `_jit_pushargr_d` and `_jit_pushargi_d`: the three places of a double argument. -/
def pushDouble (call : NewNode W) (toFloat toPair : Int → Build W Unit)
    (toStack : Int → Build W Unit) : Build W Unit := do
  assertFunction
  jitIncSynth call
  jitLinkPrepare
  let f ← frame
  if cpu.abi = true ∧ f.callVarargs = false then
    if argDRegP f.callArgf then
      toFloat (evenReg f.callArgf)
      setFrame fun f => { f with callArgf := evenReg f.callArgf + 2 }
    else
      alignCall
      toStack (← frame).callSize
      setFrame fun f => { f with callSize := f.callSize + 8 }
  else
    setFrame fun f => { f with callArgi := evenReg f.callArgi }
    if argRegP (evenReg f.callArgi) then
      toPair (evenReg f.callArgi)
      setFrame fun f => { f with callArgi := f.callArgi + 2 }
    else
      alignCall
      toStack (← frame).callSize
      setFrame fun f => { f with callSize := f.callSize + 8 }
  jitSynthDec

def jitPushargrD (u : Fpr) : Build W Unit :=
  pushDouble cpu (.w .pushargr_d u)
    (fun n => do let _ ← append (.ww .movr_d (fa0 - (n : Word W)) u))
    (fun n => do let _ ← append (.www .movr_d_ww (ra0 - (n : Word W)) (ra0 - ((n + 1 : Int) : Word W)) u))
    (fun n => do let _ ← append (.www .stxi_d (n : Word W) sp u))

def jitPushargiD (u : Float64Bits) : Build W Unit :=
  pushDouble cpu (.d .pushargi_d u)
    (fun n => do let _ ← append (.wd .movi_d (fa0 - (n : Word W)) u))
    (fun n => do let _ ← append (.wwd .movi_d_ww (ra0 - (n : Word W)) (ra0 - ((n + 1 : Int) : Word W)) u))
    (fun n => do
      let _ ← storeConst cpu emitter classFpr (.wd .movi_d · u) (.www .stxi_d (n : Word W) sp ·))

def reserveCall : Build W Unit :=
  setFrame fun f => { f with alen := if f.alen < f.callSize then f.callSize else f.alen }

/-- The counts of the call start over. -/
def closeCall (call : NodeRef) (argi argf : Int) : Build W Unit := do
  body call fun node => { node with v := .w (argi : Word W) }
  body call fun node => { node with w := .w (argf : Word W) }
  setFrame fun f => { f with callArgi := 0, callArgf := 0, callSize := 0 }
  scratch fun s => { s with prepare := none }

/-- `_jit_finishr`, where the call takes the count of the function's own arguments. -/
def jitFinishr (r0 : Gpr) : Build W Unit := do
  assertFunction
  jitIncSynth (.w .finishr r0)
  reserveCall
  let call ← append (.w .callr r0)
  let f ← frame
  closeCall call f.argi f.callArgf
  jitSynthDec

def jitFinishi (i0 : Pointer W) : Build W NodeRef := do
  assertFunction
  jitIncSynth (.w .finishi (castWord i0))
  reserveCall
  let node ← append (.p .calli i0)
  let f ← frame
  closeCall node f.callArgi f.callArgf
  jitSynthDec
  return node

def backend : Backend W where
  prolog := jitProlog
  argRegisterP := jitArgRegisterP cpu
  arg := jitArg strong
  argF := jitArgF cpu
  argD := jitArgD cpu
  getarg := jitGetarg strong cpu
  getargF := jitGetargF cpu
  getargD := jitGetargD cpu
  putargr := jitPutargr strong cpu
  putargi := jitPutargi strong cpu emitter
  putargrF := jitPutargrF cpu
  putargiF := jitPutargiF cpu emitter
  putargrD := jitPutargrD cpu
  putargiD := jitPutargiD cpu emitter
  pushargr := jitPushargr
  pushargi := jitPushargi cpu emitter
  pushargrF := jitPushargrF cpu
  pushargiF := jitPushargiF cpu emitter
  pushargrD := jitPushargrD cpu
  pushargiD := jitPushargiD cpu emitter
  finishr := jitFinishr
  finishi := jitFinishi
  ret := jitRet
  retr := jitRetr
  reti := jitReti
  retrF := jitRetrF cpu
  retiF := jitRetiF cpu
  retrD := jitRetrD cpu
  retiD := jitRetiD cpu
  retval := jitRetval
  retvalF := jitRetvalF cpu
  retvalD := jitRetvalD cpu

end Arm

end Zjit
