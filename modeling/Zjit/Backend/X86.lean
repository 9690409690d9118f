import Zjit.Backend.Basic

/-!
# The x86 backend

The construction half of `jit_x86.c` for its four targets.
-/
namespace Zjit

open Foundation

variable {W : WordSize}

/-- The targets that the preprocessor tells apart. -/
inductive X86Abi
  /-- `__X32`, 32-bit code. -/
  | x32
  /-- `__X64_32`, 64-bit code with 32-bit words. -/
  | x64_32
  /-- `__X64` elsewhere. -/
  | sysv
  /-- `__X64` on Windows. -/
  | win64
  deriving DecidableEq, Repr

namespace X86Abi

def argRegP (abi : X86Abi) (i : Int) : Bool :=
  match abi with
  | x32 => false
  | win64 => 0 ≤ i ∧ i < 4
  | x64_32 | sysv => 0 ≤ i ∧ i < 6

def argFRegP (abi : X86Abi) (i : Int) : Bool :=
  match abi with
  | x32 => false
  | win64 => 0 ≤ i ∧ i < 4
  | x64_32 | sysv => 0 ≤ i ∧ i < 8

def stackFramesize : X86Abi → Int
  | x32 => 28
  | win64 => 152
  | x64_32 | sysv => 56

def realWordsize : X86Abi → Int
  | x32 => 4
  | x64_32 | sysv | win64 => 8

/-! Registers by their place in `jit_reg_t`. -/

def rax : Gpr := 0

def rsp : X86Abi → Gpr
  | x32 => 6
  | x64_32 | sysv | win64 => 14

def rbp : X86Abi → Gpr
  | x32 => 7
  | x64_32 | sysv | win64 => 15

/-- `JIT_RA0`, `_RDI` or `_RCX`; 32-bit code has no argument registers. -/
def ra0 : X86Abi → Gpr
  | x32 => 0
  | x64_32 | sysv | win64 => 13

def xmm0 : X86Abi → Fpr
  | x32 => 8
  | x64_32 | sysv | win64 => 31

/-- `JIT_FRET`, `_ST0` in 32-bit code. -/
def fret : X86Abi → Fpr
  | x32 => 16
  | x64_32 | sysv | win64 => 31

/-- `_rvs`, without the hardware numbers. -/
def rvs : X86Abi → List CInt
  | x32 =>
    List.replicate 3 (classGpr ||| classRg8) ++ [classSav ||| classRg8 ||| classGpr] ++
      List.replicate 2 (classSav ||| classGpr) ++ List.replicate 2 classSav ++
      List.replicate 8 (classXpr ||| classFpr) ++ List.replicate 8 classFpr
  | win64 =>
    List.replicate 3 (classGpr ||| classRg8) ++ [classSav ||| classRg8 ||| classGpr] ++
      List.replicate 6 (classSav ||| classGpr) ++
      List.replicate 4 (classArg ||| classRg8 ||| classGpr) ++ List.replicate 2 classSav ++
      List.replicate 2 (classXpr ||| classFpr) ++
      List.replicate 10 (classSav ||| classXpr ||| classFpr) ++
      List.replicate 4 (classXpr ||| classArg ||| classFpr) ++ List.replicate 8 classFpr
  | x64_32 | sysv =>
    [classArg ||| classGpr ||| classRg8] ++ List.replicate 2 (classGpr ||| classRg8) ++
      List.replicate 5 (classSav ||| classRg8 ||| classGpr) ++
      List.replicate 6 (classArg ||| classRg8 ||| classGpr) ++ List.replicate 2 classSav ++
      List.replicate 8 (classXpr ||| classFpr) ++
      List.replicate 8 (classXpr ||| classArg ||| classFpr) ++ List.replicate 8 classFpr

end X86Abi

namespace X86

-- `STRONG_TYPE_CHECKING`, the target, and its code generator.
variable (strong : Bool) (abi : X86Abi) (emitter : Emitter W)

/-- `_jit_regarg_p`. -/
def jitRegargP (node : Node W) (regno : Nat) : Bool :=
  let spec := jitClass (abi.rvs.getD regno 0)
  if abi = .x32 ∨ spec &&& classArg = 0 then false
  else if spec &&& classGpr ≠ 0 then
    0 ≤ abi.ra0.toInt - regno ∧ abi.ra0.toInt - regno < node.v.toWord.toInt
  else if spec &&& classFpr ≠ 0 then
    0 ≤ abi.xmm0.toInt - regno ∧ abi.xmm0.toInt - regno < node.w.toWord.toInt
  else false

def machine : Machine W where
  rvs := abi.rvs
  retReg := X86Abi.rax.toNat
  fretReg := abi.fret.toNat
  regargP := jitRegargP abi
  emitter := emitter

/-- `sizeof(jit_word_t)`. -/
def wordSize (W : WordSize) : Int := W.bits / 8

def jitProlog : Build W Unit :=
  Zjit.jitProlog (fun f => { f with
    size := abi.stackFramesize + abi.realWordsize
    argi := 0
    argf := 0
    aoff := 0
    alen := 0
    cvtOffset := 0
    varargs := false }) (abi = .win64)

def jitAllocai (length : Int) : Build W Int := do
  assertFunction
  jitCheckFrame
  if abi = .x32 ∧ (← frame).aoff = 0 then setFrame fun f => { f with aoff := -4 }
  allocaiTail length

def jitAllocar (u v : Gpr) : Build W Unit :=
  allocarWith (machine abi emitter) (jitAllocai abi) abi.rbp abi.rsp (-16) u v

/-! ### Return values -/

def jitRetr (u : Gpr) (code : Code) : Build W Unit :=
  jitRetWith (.w code u) (.ww .movr X86Abi.rax u)

def jitReti (u : Word W) (code : Code) : Build W Unit :=
  jitRetWith (.w code u) (.ww .movi X86Abi.rax u)

def jitRetrF (u : Fpr) : Build W Unit :=
  jitRetWith (.w .retr_f u)
    (if abi.fret ≠ u then .ww .movr_f abi.fret u else .w .live abi.fret)

def jitRetiF (u : Float32Bits) : Build W Unit :=
  jitRetWith (.f .reti_f u) (.wf .movi_f abi.fret u)

def jitRetrD (u : Fpr) : Build W Unit :=
  jitRetWith (.w .retr_d u)
    (if abi.fret ≠ u then .ww .movr_d abi.fret u else .w .live abi.fret)

def jitRetiD (u : Float64Bits) : Build W Unit :=
  jitRetWith (.d .reti_d u) (.wd .movi_d abi.fret u)

def jitRetvalC (r0 : Gpr) : Build W Unit :=
  jitRetvalWith .retval_c r0 (some (.ww .extr_c r0 X86Abi.rax))

def jitRetvalUc (r0 : Gpr) : Build W Unit :=
  jitRetvalWith .retval_uc r0 (some (.ww .extr_uc r0 X86Abi.rax))

def jitRetvalS (r0 : Gpr) : Build W Unit :=
  jitRetvalWith .retval_s r0 (some (.ww .extr_s r0 X86Abi.rax))

def jitRetvalUs (r0 : Gpr) : Build W Unit :=
  jitRetvalWith .retval_us r0 (some (.ww .extr_us r0 X86Abi.rax))

def jitRetvalI (r0 : Gpr) : Build W Unit :=
  jitRetvalWith .retval_i r0
    (if abi = .x32 ∨ abi = .x64_32 then
      if r0 ≠ X86Abi.rax then some (.ww .movr r0 X86Abi.rax) else none
    else some (.ww .extr_i r0 X86Abi.rax))

def jitRetvalUi (r0 : Gpr) : Build W Unit :=
  jitRetvalWith .retval_ui r0 (some (.ww .extr_ui r0 X86Abi.rax))

def jitRetvalL (r0 : Gpr) : Build W Unit :=
  jitRetvalWith .retval_l r0 (if r0 ≠ X86Abi.rax then some (.ww .movr r0 X86Abi.rax) else none)

def jitRetvalF (r0 : Fpr) : Build W Unit :=
  jitRetvalWith .retval_f r0
    (if abi ≠ .x32 ∧ r0 ≠ abi.fret then some (.ww .movr_f r0 abi.fret) else none)

def jitRetvalD (r0 : Fpr) : Build W Unit :=
  jitRetvalWith .retval_d r0
    (if abi ≠ .x32 ∧ r0 ≠ abi.fret then some (.ww .movr_d r0 abi.fret) else none)

/-- The functions for 32 bits unsigned and 64 bits are compiled for 64-bit words only. -/
def jitRetval : IntSuffix → Option (Gpr → Build W Unit)
  | .c => some jitRetvalC
  | .uc => some jitRetvalUc
  | .s => some jitRetvalS
  | .us => some jitRetvalUs
  | .i => some (jitRetvalI abi)
  | .ui => if W = .w64 then some jitRetvalUi else none
  | .l => if W = .w64 then some jitRetvalL else none

/-! ### Arguments -/

def jitArgRegisterP (u : NodeRef) : Build W Bool := do
  let node ← node u
  if isIntArg W node.code then return abi.argRegP node.u.toWord.toInt
  typeCheck (node.code = .arg_f ∨ node.code = .arg_d)
  return abi.argFRegP node.u.toWord.toInt

def jitEllipsis : Build W Unit := do
  jitIncSynth (.plain .ellipsis)
  jitCheckFrame
  if (← look).prepare.isSome then
    jitLinkPrepare
    assert ((← frame).callVarargs = false)
    setFrame fun f => { f with callVarargs := true }
  else
    jitLinkProlog
    assert ((← frame).varargs = false)
    setFrame fun f => { f with varargs := true }
    if abi = .sysv ∨ abi = .x64_32 then
      -- `sizeof(jit_va_list_t)`
      let vaoff ← jitAllocai abi (if abi = .sysv then 200 else 192)
      setFrame fun f => { f with
        vaoff := vaoff
        vagp := if abi.argRegP f.argi then f.argi * 8 else 48
        vafp := if abi.argFRegP f.argf then f.argf * 16 + 48 else 176 }
  jitSynthDec

/-- The next argument passed in memory, of the given size. -/
def stackArg (size : Int) : Build W Int := do
  let offset := (← frame).size
  setFrame fun f => { f with size := f.size + size }
  jitCheckFrame
  return offset

/-- The next argument passed in an integer register. -/
def registerArg : Build W Int := do
  let offset := (← frame).argi
  setFrame fun f => { f with argi := f.argi + 1 }
  if abi = .win64 then setFrame fun f => { f with size := f.size + wordSize W }
  return offset

def appendArg (code : Code) (offset : Int) : Build W NodeRef := do
  setFrame fun f => { f with argn := f.argn + 1 }
  let ref ← append (.ww code (offset : Word W) ((← frame).argn : Word W))
  jitLinkProlog
  return ref

def jitArg (code : Code) : Build W NodeRef := do
  assertFunction
  assert ((← frame).varargs = false)
  assertArgCode strong code
  let offset ←
    if abi.argRegP (← frame).argi then registerArg abi else stackArg abi.realWordsize
  appendArg code offset

/-- `_jit_arg_f` and `_jit_arg_d`; `size` is what the argument takes in memory. -/
def floatArg (code : Code) (size : Int) : Build W NodeRef := do
  assertFunction
  let f ← frame
  assert (f.varargs = false)
  let offset ←
    if abi = .win64 then
      if abi.argRegP f.argi then registerArg abi else stackArg size
    else if abi.argFRegP f.argf then
      setFrame fun f => { f with argf := f.argf + 1 }
      pure f.argf
    else stackArg size
  appendArg code offset

def jitArgF : Build W NodeRef := floatArg abi .arg_f abi.realWordsize

def jitArgD : Build W NodeRef := floatArg abi .arg_d 8

/-- `_jit_getarg_*`: from the argument register by `move`, from memory by `fetch`. -/
def getargInt (code expect move fetch : Code) (u : Gpr) (v : NodeRef) : Build W Unit := do
  assertArgType strong (← node v).code expect
  jitIncSynth (.wn code u v)
  let offset := (← node v).u.toWord
  if abi.argRegP offset.toInt then
    let _ ← append (.ww move u (abi.ra0 - offset))
  else
    let node ← append (.www fetch u abi.rbp offset)
    jitLinkAlist node
  jitSynthDec

def jitGetargC : Gpr → NodeRef → Build W Unit := getargInt strong abi .getarg_c .arg_c .extr_c .ldxi_c

def jitGetargUc : Gpr → NodeRef → Build W Unit :=
  getargInt strong abi .getarg_uc .arg_c .extr_uc .ldxi_uc

def jitGetargS : Gpr → NodeRef → Build W Unit := getargInt strong abi .getarg_s .arg_s .extr_s .ldxi_s

def jitGetargUs : Gpr → NodeRef → Build W Unit :=
  getargInt strong abi .getarg_us .arg_s .extr_us .ldxi_us

def jitGetargI : Gpr → NodeRef → Build W Unit :=
  getargInt strong abi .getarg_i .arg_i (if abi = .x64_32 then .movr else .extr_i) .ldxi_i

def jitGetargUi : Gpr → NodeRef → Build W Unit :=
  getargInt strong abi .getarg_ui .arg_i .extr_ui .ldxi_ui

def jitGetargL : Gpr → NodeRef → Build W Unit := getargInt strong abi .getarg_l .arg_l .movr .ldxi_l

/-- The functions for 32 bits unsigned and 64 bits are compiled for 64-bit words only. -/
def jitGetarg : IntSuffix → Option (Gpr → NodeRef → Build W Unit)
  | .c => some (jitGetargC strong abi)
  | .uc => some (jitGetargUc strong abi)
  | .s => some (jitGetargS strong abi)
  | .us => some (jitGetargUs strong abi)
  | .i => some (jitGetargI strong abi)
  | .ui => if W = .w64 then some (jitGetargUi strong abi) else none
  | .l => if W = .w64 then some (jitGetargL strong abi) else none

/-- `_jit_getarg_f` and `_jit_getarg_d`. -/
def getargFloat (code expect move fetch : Code) (u : Fpr) (v : NodeRef) : Build W Unit := do
  assert ((← node v).code = expect)
  jitIncSynth (.wn code u v)
  let offset := (← node v).u.toWord
  if abi.argFRegP offset.toInt then
    let _ ← append (.ww move u (abi.xmm0 - offset))
  else
    let node ← append (.www fetch u abi.rbp offset)
    jitLinkAlist node
  jitSynthDec

def jitGetargF : Fpr → NodeRef → Build W Unit := getargFloat abi .getarg_f .arg_f .movr_f .ldxi_f

def jitGetargD : Fpr → NodeRef → Build W Unit := getargFloat abi .getarg_d .arg_d .movr_d .ldxi_d

def jitPutargr (u : Gpr) (v : NodeRef) (code : Code) : Build W Unit := do
  assertPutargType strong code (← node v).code
  jitIncSynth (.wn code u v)
  let offset := (← node v).u.toWord
  if abi.argRegP offset.toInt then
    let _ ← append (.ww .movr (abi.ra0 - offset) u)
  else
    let node ← append (stxi offset abi.rbp u)
    jitLinkAlist node
  jitSynthDec

def jitPutargi (u : Word W) (v : NodeRef) (code : Code) : Build W Unit := do
  assertPutargType strong code (← node v).code
  jitIncSynth (.wn code u v)
  let offset := (← node v).u.toWord
  if abi.argRegP offset.toInt then
    let _ ← append (.ww .movi (abi.ra0 - offset) u)
  else
    let regno ← jitGetReg (machine abi emitter) classGpr
    let _ ← append (.ww .movi regno u)
    let node ← append (stxi offset abi.rbp regno)
    jitLinkAlist node
    jitUngetReg (machine abi emitter) regno
  jitSynthDec

/-- `_jit_putargr_f` and `_jit_putargr_d`. -/
def putargrFloat (code expect move store : Code) (u : Fpr) (v : NodeRef) : Build W Unit := do
  assert ((← node v).code = expect)
  jitIncSynth (.wn code u v)
  let offset := (← node v).u.toWord
  if abi.argFRegP offset.toInt then
    let _ ← append (.ww move (abi.xmm0 - offset) u)
  else
    let node ← append (.www store offset abi.rbp u)
    jitLinkAlist node
  jitSynthDec

def jitPutargrF : Fpr → NodeRef → Build W Unit := putargrFloat abi .putargr_f .arg_f .movr_f .stxi_f

def jitPutargrD : Fpr → NodeRef → Build W Unit := putargrFloat abi .putargr_d .arg_d .movr_d .stxi_d

/-- `_jit_putargi_f` and `_jit_putargi_d`; `call` is the node of the call and `move` the
constant's way into a register. -/
def putargiFloat (call : NewNode W) (expect store : Code) (move : Word W → NewNode W)
    (v : NodeRef) : Build W Unit := do
  assert ((← node v).code = expect)
  jitIncSynth call
  let offset := (← node v).u.toWord
  if abi.argFRegP offset.toInt then
    let _ ← append (move (abi.xmm0 - offset))
  else
    let regno ← jitGetReg (machine abi emitter) classFpr
    let _ ← append (move regno)
    let node ← append (.www store offset abi.rbp regno)
    jitLinkAlist node
    jitUngetReg (machine abi emitter) regno
  jitSynthDec

def jitPutargiF (u : Float32Bits) (v : NodeRef) : Build W Unit :=
  putargiFloat abi emitter (.fn .putargi_f u v) .arg_f .stxi_f (.wf .movi_f · u) v

def jitPutargiD (u : Float64Bits) (v : NodeRef) : Build W Unit :=
  putargiFloat abi emitter (.dn .putargi_d u v) .arg_d .stxi_d (.wd .movi_d · u) v

/-! ### Calls -/

/-- An argument of a call is stored in the frame. -/
def pushStack (size : Int) (store : Word W → NewNode W) : Build W Unit := do
  let _ ← append (store ((← frame).callSize : Word W))
  setFrame fun f => { f with callSize := f.callSize + size }

def jitPushargr (u : Gpr) (code : Code) : Build W Unit := do
  assertFunction
  jitIncSynth (.w code u)
  jitLinkPrepare
  let f ← frame
  if abi.argRegP f.callArgi then
    let _ ← append (.ww .movr (abi.ra0 - (f.callArgi : Word W)) u)
    setFrame fun f => { f with callArgi := f.callArgi + 1 }
    if abi = .win64 then
      if f.callVarargs then
        let _ ← append (stxi (f.callSize : Word W) abi.rsp u)
      setFrame fun f => { f with callSize := f.callSize + wordSize W }
  else
    pushStack abi.realWordsize fun disp => stxi disp abi.rsp u
    jitCheckFrame
  jitSynthDec

def jitPushargi (u : Word W) (code : Code) : Build W Unit := do
  assertFunction
  jitIncSynth (.w code u)
  jitLinkPrepare
  let f ← frame
  if abi.argRegP f.callArgi then
    let argument : Word W := abi.ra0 - (f.callArgi : Word W)
    let _ ← append (.ww .movi argument u)
    if abi = .win64 then
      if f.callVarargs then
        let _ ← append (stxi (f.callSize : Word W) abi.rsp argument)
      setFrame fun f => { f with callSize := f.callSize + wordSize W }
    setFrame fun f => { f with callArgi := f.callArgi + 1 }
  else
    let regno ← jitGetReg (machine abi emitter) classGpr
    let _ ← append (.ww .movi regno u)
    pushStack abi.realWordsize fun disp => stxi disp abi.rsp regno
    jitUngetReg (machine abi emitter) regno
    jitCheckFrame
  jitSynthDec

/-- A float argument in a register of a Windows call, which variadic functions expect in the
integer register and in the frame too. -/
def pushWindows (move : Word W → NewNode W) (store fetch : Code) : Build W Unit := do
  let f ← frame
  let argument : Word W := abi.xmm0 - (f.callArgi : Word W)
  let _ ← append (move argument)
  if f.callVarargs then
    let _ ← append (.www store (f.callSize : Word W) abi.rsp argument)
    let _ ← append
      (.www fetch (abi.ra0 - (f.callArgi : Word W)) abi.rsp (f.callSize : Word W))
  setFrame fun f => { f with callArgi := f.callArgi + 1, callSize := f.callSize + wordSize W }

/-- `_jit_pushargr_f` and `_jit_pushargr_d`. The former looks at the function's own count of
float arguments where the others look at that of the call. -/
def pushargrFloat (code move store fetch : Code) (own : Bool) (size : Int) (u : Fpr) :
    Build W Unit := do
  assertFunction
  jitIncSynth (.w code u)
  jitLinkPrepare
  let f ← frame
  if abi = .win64 ∧ abi.argRegP f.callArgi then
    pushWindows abi (.ww move · u) store fetch
  else if abi ≠ .win64 ∧ abi.argFRegP (if own then f.argf else f.callArgf) then
    let _ ← append (.ww move (abi.xmm0 - (f.callArgf : Word W)) u)
    setFrame fun f => { f with callArgf := f.callArgf + 1 }
  else
    pushStack size fun disp => .www store disp abi.rsp u
    jitCheckFrame
  jitSynthDec

def jitPushargrF : Fpr → Build W Unit :=
  pushargrFloat abi .pushargr_f .movr_f .stxi_f .ldxi_i true abi.realWordsize

def jitPushargrD : Fpr → Build W Unit :=
  pushargrFloat abi .pushargr_d .movr_d .stxi_d .ldxi_l false 8

/-- `_jit_pushargi_f` and `_jit_pushargi_d`. -/
def pushargiFloat (call : NewNode W) (move : Word W → NewNode W) (store fetch : Code)
    (size : Int) : Build W Unit := do
  assertFunction
  jitIncSynth call
  jitLinkPrepare
  let f ← frame
  if abi = .win64 ∧ abi.argRegP f.callArgi then
    pushWindows abi move store fetch
  else if abi ≠ .win64 ∧ abi.argFRegP f.callArgf then
    let _ ← append (move (abi.xmm0 - (f.callArgf : Word W)))
    setFrame fun f => { f with callArgf := f.callArgf + 1 }
  else
    let regno ← jitGetReg (machine abi emitter) classFpr
    let _ ← append (move regno)
    pushStack size fun disp => .www store disp abi.rsp regno
    jitUngetReg (machine abi emitter) regno
    jitCheckFrame
  jitSynthDec

def jitPushargiF (u : Float32Bits) : Build W Unit :=
  pushargiFloat abi emitter (.f .pushargi_f u) (.wf .movi_f · u) .stxi_f .ldxi_i abi.realWordsize

def jitPushargiD (u : Float64Bits) : Build W Unit :=
  pushargiFloat abi emitter (.d .pushargi_d u) (.wd .movi_d · u) .stxi_d .ldxi_l 8

/-- `_jit_va_push`, which pushes a native word. -/
def jitVaPush (u : Gpr) : Build W Unit := do
  jitIncSynth (.w .va_push u)
  jitPushargr abi u (pushargrCode W)
  jitSynthDec

/-- The frame must hold the arguments of the call. -/
def reserveCall : Build W Unit :=
  setFrame fun f => { f with alen := if f.alen < f.callSize then f.callSize else f.alen }

/-- The call takes the registers counted so far, and the counts start over. -/
def closeCall (call : NodeRef) : Build W Unit := do
  let f ← frame
  body call fun node => { node with v := .w (f.callArgi : Word W) }
  body call fun node => { node with w := .w (f.callArgf : Word W) }
  setFrame fun f => { f with callArgi := 0, callArgf := 0, callSize := 0 }
  scratch fun s => { s with prepare := none }

/-- `%al` tells a variadic function how many float registers the call uses. -/
def countFloats : Build W Unit := do
  let _ ← append (.ww .movi X86Abi.rax ((← frame).callArgf : Word W))

def jitFinishr (r0 : Gpr) : Build W Unit := do
  assertFunction
  jitCheckFrame
  jitIncSynth (.w .finishr r0)
  reserveCall
  let reg ←
    if (abi = .sysv ∨ abi = .x64_32) ∧ (← frame).callVarargs then do
      let reg ←
        if jitRegno r0 = 0 then do
          let reg ← jitGetReg (machine abi emitter) classGpr
          let _ ← append (.ww .movr reg X86Abi.rax)
          pure reg
        else pure r0
      countFloats
      if reg ≠ r0 then jitUngetReg (machine abi emitter) reg
      pure reg
    else pure r0
  let call ← append (.w .callr reg)
  closeCall call
  jitSynthDec

def jitFinishi (i0 : Pointer W) : Build W NodeRef := do
  assertFunction
  jitCheckFrame
  jitIncSynth (.w .finishi (castWord i0))
  reserveCall
  if (abi = .sysv ∨ abi = .x64_32) ∧ (← frame).callVarargs then
    countFloats
    let _ ← append (.w .live X86Abi.rax)
  let node ← append (.p .calli i0)
  closeCall node
  jitSynthDec
  return node

def backend : Backend W where
  prolog := jitProlog abi
  argRegisterP := jitArgRegisterP abi
  arg := jitArg strong abi
  argF := jitArgF abi
  argD := jitArgD abi
  getarg := jitGetarg strong abi
  getargF := jitGetargF abi
  getargD := jitGetargD abi
  putargr := jitPutargr strong abi
  putargi := jitPutargi strong abi emitter
  putargrF := jitPutargrF abi
  putargiF := jitPutargiF abi emitter
  putargrD := jitPutargrD abi
  putargiD := jitPutargiD abi emitter
  pushargr := jitPushargr abi
  pushargi := jitPushargi abi emitter
  pushargrF := jitPushargrF abi
  pushargiF := jitPushargiF abi emitter
  pushargrD := jitPushargrD abi
  pushargiD := jitPushargiD abi emitter
  finishr := jitFinishr abi emitter
  finishi := jitFinishi abi
  ret := jitRet
  retr := jitRetr
  reti := jitReti
  retrF := jitRetrF abi
  retiF := jitRetiF abi
  retrD := jitRetrD abi
  retiD := jitRetiD abi
  retval := jitRetval abi
  retvalF := jitRetvalF abi
  retvalD := jitRetvalD abi

def platform : Platform W where
  toBackend := backend strong abi emitter
  toMachine := machine abi emitter
  fp := abi.rbp
  allocai := jitAllocai abi
  allocar := jitAllocar abi emitter
  ellipsis := jitEllipsis abi
  vaPush := jitVaPush abi
  hashConsts := true
  haveMmap := abi ≠ .win64

end X86

end Zjit
