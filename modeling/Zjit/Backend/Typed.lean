import Zjit.FreeList
import Zjit.Protocol

/-!
# Type checks of the backends

What the call protocol relies on in a target: the functions that take no argument node check no
types, the others accept an argument of the width they are for, and `arg` makes a node of the
code it is given. Both targets are of this kind.
-/
namespace Zjit

open Foundation Program

variable {W : WordSize}

/-! ### Where checks can be -/

theorem never_newNode (code : Code) : Never .typeCheck (newNode (W := W) code) := by
  have take : Never .typeCheck (do
      let ref ← Jit.deref (← reads fun s : State W => s.list)
      update fun s => s.takeNode ref code
      pure ref) := by
    refine never_bind (never_reads _) fun first => never_bind (never_expect (by decide) _) ?_
    exact fun ref => never_bind (never_update _) fun _ => never_pure _
  refine never_bind (never_reads _) fun list => ?_
  exact never_ite (never_bind (never_update _) fun _ => take) take

theorem never_append (call : NewNode W) : Never .typeCheck call.run := by
  rw [NewNode.run_eq]
  refine never_bind (never_check (by decide) _) fun _ => ?_
  refine never_bind (never_newNode _) fun ref => ?_
  refine never_bind (never_bind (never_reads _) fun _ => never_check (by decide) _) fun _ => ?_
  refine never_bind (never_update _) fun _ => ?_
  exact never_bind (never_update _) fun _ => never_pure _

theorem never_jitLink (ref : NodeRef) : Never .typeCheck (jitLink (W := W) ref) := by
  refine never_bind (never_reads _) fun node => never_bind (never_check (by decide) _) fun _ => ?_
  refine never_bind (never_bind (never_bind (never_reads _) fun _ => never_check (by decide) _)
    fun _ => never_bind (never_update _) fun _ => never_pure _) fun _ => ?_
  refine never_bind (never_update _) fun _ => never_bind (never_reads _) fun _ => ?_
  exact never_bind (never_update _) fun _ => never_update _

/-- No instruction checks an argument type. -/
theorem never_op {α : Type} (op : Op W α) : Never .typeCheck op.run := by
  cases op with
  | look => exact never_fetch
  | scratch f => exact never_update _
  | body ref f => exact never_update _
  | append call => exact never_append call
  | appendNoLink code =>
    refine never_bind (never_bind (never_reads _) fun _ => never_check (by decide) _) fun _ => ?_
    exact never_newNode code
  | link ref => exact never_jitLink ref
  | function =>
    refine never_bind (never_update _) fun _ => never_bind (never_reads _) fun _ => ?_
    exact never_bind (never_update _) fun _ => never_pure _
  | patch => exact never_update _

/-- From `s`, the script passes its type checks. -/
def Passes {α : Type} (x : Build W α) (s : State W) : Prop := x.run s ≠ .error .typeCheck

section Passes

variable {α β : Type} {s : State W}

theorem passes_of_avoids {x : Build W α} (avoids : x.Avoids .typeCheck) : Passes x s :=
  Script.never_run _ (fun op => never_op op) avoids s

theorem passes_node {v : NodeRef} {rest : Node W → Build W α} (passes : Passes (rest (s.memory v)) s) :
    Passes (node v >>= rest) s := passes

theorem passes_typeCheck {c : Prop} [Decidable c] {rest : Unit → Build W α} (holds : c)
    (avoids : (rest ()).Avoids .typeCheck) : Passes (typeCheck c >>= rest) s := by
  unfold typeCheck
  rw [if_pos holds]
  exact passes_of_avoids avoids

end Passes

/-! ### Scripts without checks -/

section Avoids

variable {α : Type}

@[simp] theorem avoids_look : (look : Build W (State W)).Avoids .typeCheck := by
  simp [look]

@[simp] theorem avoids_scratch (f : Scratch W → Scratch W) : (scratch f).Avoids .typeCheck := by
  simp [scratch]

@[simp] theorem avoids_body (ref : NodeRef) (f : Body W → Body W) :
    (body ref f).Avoids .typeCheck := by
  simp [body]

@[simp] theorem avoids_append (call : NewNode W) : (append call).Avoids .typeCheck := by
  simp [append]

@[simp] theorem avoids_node (ref : NodeRef) : (node (W := W) ref).Avoids .typeCheck := by
  simp [node]

@[simp] theorem avoids_deref (o : Option α) : (deref (W := W) o).Avoids .typeCheck := by
  cases o <;> simp [deref]

@[simp] theorem avoids_assert (c : Prop) [Decidable c] : (assert (W := W) c).Avoids .typeCheck := by
  simp [assert]

@[simp] theorem avoids_typeCheck (c : Prop) [Decidable c] :
    (typeCheck (W := W) c).Avoids .typeCheck ↔ c := by
  simp [typeCheck]

@[simp] theorem avoids_assertFunction : (assertFunction (W := W)).Avoids .typeCheck := by
  simp [assertFunction]

@[simp] theorem avoids_frame : (frame (W := W)).Avoids .typeCheck := by
  simp [frame]

@[simp] theorem avoids_setFrame (f : Frame → Frame) : (setFrame (W := W) f).Avoids .typeCheck := by
  simp [setFrame]

@[simp] theorem avoids_jitCheckFrame : (jitCheckFrame (W := W)).Avoids .typeCheck := by
  simp [jitCheckFrame]

@[simp] theorem avoids_jitIncSynth (call : NewNode W) : (jitIncSynth call).Avoids .typeCheck := by
  simp [jitIncSynth, jitSynthInc]

@[simp] theorem avoids_jitSynthDec : (jitSynthDec (W := W)).Avoids .typeCheck := by
  simp [jitSynthDec]

@[simp] theorem avoids_linkTail (ref : NodeRef) : (linkTail (W := W) ref).Avoids .typeCheck := by
  simp [linkTail]

@[simp] theorem avoids_jitLinkProlog : (jitLinkProlog (W := W)).Avoids .typeCheck := by
  simp [jitLinkProlog]

@[simp] theorem avoids_jitLinkPrepare : (jitLinkPrepare (W := W)).Avoids .typeCheck := by
  simp [jitLinkPrepare]

@[simp] theorem avoids_jitLinkAlist (ref : NodeRef) :
    (jitLinkAlist (W := W) ref).Avoids .typeCheck := by
  simp [jitLinkAlist]

@[simp] theorem avoids_link (ref : NodeRef) : (link (W := W) ref).Avoids .typeCheck := by
  simp [link]

@[simp] theorem avoids_jitEpilog : (jitEpilog (W := W)).Avoids .typeCheck := by
  simp [jitEpilog]

@[simp] theorem avoids_jitPrepare : (jitPrepare (W := W)).Avoids .typeCheck := by
  simp [jitPrepare]

@[simp] theorem avoids_jitProlog (start : Frame → Frame) (forced : Bool) :
    (jitProlog (W := W) start forced).Avoids .typeCheck := by
  simp [jitProlog]

@[simp] theorem avoids_classify (code : Code) : (classify (W := W) code).Avoids .typeCheck := by
  unfold classify
  split <;> simp

@[simp] theorem avoids_jitPatchAt (instr label : NodeRef) :
    (jitPatchAt (W := W) instr label).Avoids .typeCheck := by
  simp only [jitPatchAt, assertJump, Script.avoids_bind, avoids_node, avoids_assert, avoids_body,
    true_and]
  intros
  split <;> simp

@[simp] theorem avoids_jitRet : (jitRet (W := W)).Avoids .typeCheck := by
  simp [jitRet]

@[simp] theorem avoids_jitRetWith (call value : NewNode W) :
    (jitRetWith call value).Avoids .typeCheck := by
  simp [jitRetWith]

@[simp] theorem avoids_jitRetvalWith (code : Code) (r0 : CInt) (value : Option (NewNode W)) :
    (jitRetvalWith code r0 value).Avoids .typeCheck := by
  cases value <;> simp [jitRetvalWith]

@[simp] theorem avoids_jitGetReg (machine : Machine W) (regspec : CInt) :
    (jitGetReg machine regspec).Avoids .typeCheck := by
  have emitted := machine.emitter.getReg_avoids regspec
  have fails : (getRegFail machine regspec).Avoids .typeCheck := by simp [getRegFail]
  have saves : ∀ regno, (jitSave (W := W) regno).Avoids .typeCheck := by simp [jitSave]
  unfold jitGetReg
  simp only [ne_eq, ite_not, Bool.not_eq_true, Script.avoids_bind, avoids_look, Script.avoids_ite,
    avoids_assert, emitted, implies_true, true_and, fails, and_self, avoids_scratch,
    Script.avoids_pure, and_true]
  intros
  split <;> simp [saves, fails]

@[simp] theorem avoids_jitUngetReg (machine : Machine W) (regno : CInt) :
    (jitUngetReg machine regno).Avoids .typeCheck := by
  have emitted := machine.emitter.ungetReg_avoids
  simp [jitUngetReg, jitLoad, emitted]

end Avoids

/-! ### New arguments -/

/-- While IR is built, the script makes a node of the given code. -/
def Declares (x : Build W NodeRef) (code : Code) : Prop :=
  ∀ held : NodeRef → Code → Prop, (∀ ref code, held ref code → code ≠ .data) →
    Triple (State.Building held) x.run fun ref t => t.Building held ∧ (t.memory ref).code = code

theorem declares_bind {α : Type} {x : Build W α} {rest : α → Build W NodeRef} {code : Code}
    (later : ∀ a, Declares (rest a) code) : Declares (x >>= rest) code := by
  intro held opcodes s ref t building ran
  obtain ⟨a, u, first, last⟩ := (Script.returns_run_bind _ x rest s t ref).mp ran
  exact later a held opcodes u ref t (keeps_build opcodes x s a u building first) last

theorem declares_ite {c : Prop} [Decidable c] {x y : Build W NodeRef} {code : Code}
    (yes : Declares x code) (no : Declares y code) : Declares (if c then x else y) code := by
  split
  · exact yes
  · exact no

/-- The node is appended; what comes after it delivers the same node. -/
theorem declares_append (call : NewNode W) {rest : NodeRef → Build W NodeRef}
    (coded : call.code ≠ .data) (same : ∀ ref a, (rest ref).Yields a → a = ref) :
    Declares (append call >>= rest) call.code := by
  intro held opcodes s ref t building ran
  obtain ⟨made, u, first, last⟩ := (Script.returns_run_bind _ (append call) rest s t ref).mp ran
  have appended := (Script.returns_run_perform _ (Op.append call) s u made).mp first
  obtain ⟨grown, code⟩ := building_append opcodes call s made u building appended
  obtain rfl := same made ref (Script.yields_of_returns _ last)
  -- The new node is held along with the others from here on.
  have more : u.Building fun other code => held other code ∨ other = ref ∧ code = call.code := by
    refine ⟨grown.1, fun other otherCode holds => ?_⟩
    rcases holds with holds | ⟨rfl, rfl⟩
    · exact grown.2 other otherCode holds
    · exact code
  have opcodes' : ∀ other otherCode,
      held other otherCode ∨ other = ref ∧ otherCode = call.code → otherCode ≠ .data := by
    rintro other otherCode (holds | ⟨-, rfl⟩)
    · exact opcodes other otherCode holds
    · exact coded
  obtain ⟨constructing, codes⟩ := keeps_build opcodes' (rest ref) u ref t more last
  refine ⟨⟨constructing, fun other otherCode holds => codes other otherCode (Or.inl holds)⟩, ?_⟩
  exact codes ref call.code (Or.inr ⟨rfl, rfl⟩)

/-! ### The interface -/

/-- A target that checks the types of integer arguments only, and lets each width pass. -/
structure Backend.Typed (target : Backend W) : Prop where
  prolog : target.prolog.Avoids .typeCheck
  argRegisterP : ∀ u (s : State W) (kind : ArgKind), W = .w64 ∨ kind ≠ .int .l →
    (s.memory u).code = kind.code → Passes (target.argRegisterP u) s
  arg : ∀ type : ArgType, W = .w64 ∨ type ≠ .l → (target.arg type.code).Avoids .typeCheck
  argF : target.argF.Avoids .typeCheck
  argD : target.argD.Avoids .typeCheck
  declares : ∀ type : ArgType, Declares (target.arg type.code) type.code
  declaresF : Declares target.argF .arg_f
  declaresD : Declares target.argD .arg_d
  getarg : ∀ suffix f, target.getarg suffix = some f → ∀ u v (s : State W),
    (s.memory v).code = suffix.type.code → Passes (f u v) s
  getargF : ∀ u v, (target.getargF u v).Avoids .typeCheck
  getargD : ∀ u v, (target.getargD u v).Avoids .typeCheck
  putargr : ∀ (suffix : IntSuffix) u v (s : State W), (s.memory v).code = suffix.type.code →
    Passes (target.putargr u v (putargrCode suffix)) s
  putargi : ∀ (suffix : IntSuffix) u v (s : State W), (s.memory v).code = suffix.type.code →
    Passes (target.putargi u v (putargiCode suffix)) s
  putargrF : ∀ u v, (target.putargrF u v).Avoids .typeCheck
  putargiF : ∀ u v, (target.putargiF u v).Avoids .typeCheck
  putargrD : ∀ u v, (target.putargrD u v).Avoids .typeCheck
  putargiD : ∀ u v, (target.putargiD u v).Avoids .typeCheck
  pushargr : ∀ u code, (target.pushargr u code).Avoids .typeCheck
  pushargi : ∀ u code, (target.pushargi u code).Avoids .typeCheck
  pushargrF : ∀ u, (target.pushargrF u).Avoids .typeCheck
  pushargiF : ∀ u, (target.pushargiF u).Avoids .typeCheck
  pushargrD : ∀ u, (target.pushargrD u).Avoids .typeCheck
  pushargiD : ∀ u, (target.pushargiD u).Avoids .typeCheck
  finishr : ∀ u, (target.finishr u).Avoids .typeCheck
  finishi : ∀ u, (target.finishi u).Avoids .typeCheck
  ret : target.ret.Avoids .typeCheck
  retr : ∀ u code, (target.retr u code).Avoids .typeCheck
  reti : ∀ u code, (target.reti u code).Avoids .typeCheck
  retrF : ∀ u, (target.retrF u).Avoids .typeCheck
  retiF : ∀ u, (target.retiF u).Avoids .typeCheck
  retrD : ∀ u, (target.retrD u).Avoids .typeCheck
  retiD : ∀ u, (target.retiD u).Avoids .typeCheck
  retval : ∀ suffix f, target.retval suffix = some f → ∀ u, (f u).Avoids .typeCheck
  retvalF : ∀ u, (target.retvalF u).Avoids .typeCheck
  retvalD : ∀ u, (target.retvalD u).Avoids .typeCheck

/-! ### The checks themselves -/

theorem arg_isIntArg {type : ArgType} (narrow : W = .w64 ∨ type ≠ .l) : isIntArg W type.code := by
  cases W <;> cases type <;> first | decide | simp at narrow

/-- An argument of the width of the suffix passes the check of `putargr`. -/
theorem putargr_matches (suffix : IntSuffix) :
    ((putargrCode suffix).toUInt - Code.putargr_c.toUInt) >>> 2 =
      suffix.type.code.toUInt - Code.arg_c.toUInt := by
  cases suffix <;> decide

theorem putargi_matches (suffix : IntSuffix) :
    ((putargiCode suffix).toUInt - Code.putargr_c.toUInt) >>> 2 =
      suffix.type.code.toUInt - Code.arg_c.toUInt := by
  cases suffix <;> decide

theorem kind_isIntArg {kind : ArgKind} (narrow : W = .w64 ∨ kind ≠ .int .l) :
    isIntArg W kind.code ∨ kind = .float ∨ kind = .double := by
  cases kind with
  | int type =>
    refine Or.inl (arg_isIntArg (narrow.imp_right fun other wide => other ?_))
    rw [wide]
  | float => exact Or.inr (Or.inl rfl)
  | double => exact Or.inr (Or.inr rfl)

/-! ### x86 -/

section X86

open X86

variable (strong : Bool) (abi : X86Abi) (emitter : Emitter W)

theorem x86_getargInt (code expect move fetch : Code) (u : Gpr) (v : NodeRef) (s : State W)
    (held : (s.memory v).code = expect) :
    Passes (getargInt strong abi code expect move fetch u v) s := by
  refine passes_node (passes_typeCheck (Or.inl held) ?_)
  simp

theorem x86_appendArg {code : Code} (offset : Int) (coded : code ≠ .data) :
    Declares (appendArg (W := W) code offset) code := by
  refine declares_bind fun _ => declares_bind fun f => declares_append (.ww code _ _) coded ?_
  intro ref a yields
  simp only [Script.yields_bind, Script.yields_pure] at yields
  obtain ⟨-, -, rfl⟩ := yields
  rfl

theorem x86_floatArg {code : Code} (size : Int) (coded : code ≠ .data) :
    Declares (floatArg (W := W) abi code size) code := by
  have last : ∀ {α : Type} (x : Build W α) (offset : α → Int),
      Declares (x >>= fun a => appendArg code (offset a)) code :=
    fun x offset => declares_bind fun a => x86_appendArg (offset a) coded
  refine declares_bind fun _ => declares_bind fun f => declares_bind fun _ => ?_
  refine declares_ite (declares_ite (last _ id) (last _ id)) (declares_ite ?_ (last _ id))
  exact declares_bind fun _ => last _ id

theorem x86_typed : (X86.backend strong abi emitter).Typed where
  prolog := by simp [backend, X86.jitProlog]
  argRegisterP := by
    intro u s kind narrow held
    refine passes_node ?_
    split
    · exact passes_of_avoids (Script.avoids_pure ..)
    · next other =>
      have isFloat := (kind_isIntArg narrow).resolve_left (held ▸ other)
      refine passes_typeCheck ?_ (Script.avoids_pure ..)
      rcases isFloat with rfl | rfl
      · exact Or.inl held
      · exact Or.inr held
  arg := by
    intro type narrow
    have isInt := arg_isIntArg narrow
    simp [backend, jitArg, assertArgCode, isInt, registerArg, stackArg, appendArg]
  argF := by simp [backend, jitArgF, floatArg, registerArg, stackArg, appendArg]
  argD := by simp [backend, jitArgD, floatArg, registerArg, stackArg, appendArg]
  declares := by
    intro type
    refine declares_bind fun _ => declares_bind fun f => declares_bind fun _ => ?_
    have last : ∀ offset, Declares (appendArg (W := W) type.code offset) type.code :=
      fun offset => x86_appendArg offset (by cases type <;> decide)
    refine declares_bind fun _ => declares_bind fun f => ?_
    exact declares_ite (declares_bind last) (declares_bind last)
  declaresF := x86_floatArg abi _ (by decide)
  declaresD := x86_floatArg abi _ (by decide)
  getarg := by
    intro suffix f supplied u v s held
    cases suffix with
    | c | uc | s | us | i =>
      obtain rfl := Option.some.inj supplied
      exact x86_getargInt _ _ _ _ _ _ _ _ _ held
    | ui | l =>
      simp only [backend, jitGetarg, Option.ite_none_right_eq_some, Option.some.injEq] at supplied
      obtain ⟨-, rfl⟩ := supplied
      exact x86_getargInt _ _ _ _ _ _ _ _ _ held
  getargF := by simp [backend, jitGetargF, getargFloat]
  getargD := by simp [backend, jitGetargD, getargFloat]
  putargr := by
    intro suffix u v s held
    refine passes_node (passes_typeCheck (Or.inl ?_) ?_)
    · rw [held]
      exact putargr_matches suffix
    · simp
  putargi := by
    intro suffix u v s held
    refine passes_node (passes_typeCheck (Or.inl ?_) ?_)
    · rw [held]
      exact putargi_matches suffix
    · simp
  putargrF := by simp [backend, jitPutargrF, putargrFloat]
  putargiF := by simp [backend, jitPutargiF, putargiFloat]
  putargrD := by simp [backend, jitPutargrD, putargrFloat]
  putargiD := by simp [backend, jitPutargiD, putargiFloat]
  pushargr := by simp [backend, jitPushargr, pushStack]
  pushargi := by simp [backend, jitPushargi, pushStack]
  pushargrF := by simp [backend, jitPushargrF, pushargrFloat, pushWindows, pushStack]
  pushargiF := by simp [backend, jitPushargiF, pushargiFloat, pushWindows, pushStack]
  pushargrD := by simp [backend, jitPushargrD, pushargrFloat, pushWindows, pushStack]
  pushargiD := by simp [backend, jitPushargiD, pushargiFloat, pushWindows, pushStack]
  finishr := by simp [backend, jitFinishr, reserveCall, countFloats, closeCall]
  finishi := by simp [backend, jitFinishi, reserveCall, countFloats, closeCall]
  ret := by simp [backend]
  retr := by simp [backend, jitRetr]
  reti := by simp [backend, jitReti]
  retrF := by simp [backend, jitRetrF]
  retiF := by simp [backend, jitRetiF]
  retrD := by simp [backend, jitRetrD]
  retiD := by simp [backend, jitRetiD]
  retval := by
    intro suffix f supplied u
    cases suffix with
    | c | uc | s | us | i =>
      obtain rfl := Option.some.inj supplied
      simp [jitRetvalC, jitRetvalUc, jitRetvalS, jitRetvalUs, jitRetvalI]
    | ui | l =>
      simp only [backend, jitRetval, Option.ite_none_right_eq_some, Option.some.injEq] at supplied
      obtain ⟨-, rfl⟩ := supplied
      simp [jitRetvalUi, jitRetvalL]
  retvalF := by simp [backend, jitRetvalF]
  retvalD := by simp [backend, jitRetvalD]

end X86

/-! ### arm -/

section Arm

open Arm

variable (strong : Bool) (cpu : ArmCpu) (emitter : Emitter W)

@[simp] theorem avoids_accessFrame (ref : Option NodeRef) :
    (accessFrame (W := W) ref).Avoids .typeCheck := by
  cases ref <;> simp [accessFrame, checkRegArgs]

@[simp] theorem avoids_storeConst (cls : CInt) (move store : Word W → NewNode W) :
    (storeConst cpu emitter cls move store).Avoids .typeCheck := by
  simp [storeConst]

theorem arm_getargInt (code expect move fetch : Code) (u : Gpr) (v : NodeRef) (s : State W)
    (held : (s.memory v).code = expect) :
    Passes (getargInt strong cpu code expect move fetch u v) s := by
  refine passes_node (passes_typeCheck (Or.inl held) ?_)
  simp

theorem arm_appendArg {code : Code} (offset : Int) (coded : code ≠ .data) :
    Declares (appendArg (W := W) code offset) code := by
  refine declares_append (.plain code) coded ?_
  intro ref a yields
  simp only [Script.yields_bind, Script.yields_pure] at yields
  obtain ⟨-, -, -, -, -, -, -, -, -, -, rfl⟩ := yields
  rfl

theorem arm_typed : (Arm.backend strong cpu emitter).Typed where
  prolog := by simp [backend, Arm.jitProlog]
  argRegisterP := by
    intro u s kind narrow held
    refine passes_node ?_
    split
    · exact passes_of_avoids (Script.avoids_pure ..)
    · next other =>
      have isFloat := (kind_isIntArg narrow).resolve_left (held ▸ other)
      split
      · exact passes_of_avoids (Script.avoids_pure ..)
      · next notFloat =>
        refine passes_typeCheck ?_ (Script.avoids_pure ..)
        rcases isFloat with rfl | rfl
        · exact absurd held notFloat
        · exact held
  arg := by
    intro type narrow
    have isInt := arg_isIntArg narrow
    simp [backend, jitArg, assertArgCode, isInt, jitMakeArg, stackArg, appendArg]
  argF := by simp [backend, jitArgF, jitMakeArgF, stackArg, appendArg]
  argD := by simp [backend, jitArgD, jitMakeArgD, stackArgD, stackArg, appendArg]
  declares := by
    intro type
    have last : ∀ offset, Declares (appendArg (W := W) type.code offset) type.code :=
      fun offset => arm_appendArg offset (by cases type <;> decide)
    refine declares_bind fun _ => declares_bind fun f => declares_bind fun _ => ?_
    refine declares_bind fun _ => declares_bind fun f => ?_
    exact declares_ite (declares_bind fun _ => declares_bind last) (declares_bind last)
  declaresF := by
    have last : ∀ offset, Declares (appendArg (W := W) .arg_f offset) .arg_f :=
      fun offset => arm_appendArg offset (by decide)
    refine declares_bind fun _ => declares_bind fun f => declares_bind fun _ => ?_
    refine declares_bind fun f => declares_ite ?_ ?_
    · exact declares_ite (declares_bind fun _ => declares_bind last) (declares_bind last)
    · exact declares_ite (declares_bind fun _ => declares_bind last) (declares_bind last)
  declaresD := by
    have last : ∀ offset, Declares (appendArg (W := W) .arg_d offset) .arg_d :=
      fun offset => arm_appendArg offset (by decide)
    refine declares_bind fun _ => declares_bind fun f => declares_bind fun _ => ?_
    refine declares_bind fun f => declares_ite ?_ (declares_bind fun _ => ?_)
    · exact declares_ite (declares_bind fun _ => declares_bind last) (declares_bind last)
    · exact declares_ite (declares_bind fun _ => declares_bind last) (declares_bind last)
  getarg := by
    intro suffix f supplied u v s held
    cases suffix with
    | c | uc | s | us | i =>
      obtain rfl := Option.some.inj supplied
      exact arm_getargInt _ _ _ _ _ _ _ _ _ held
    | ui | l => exact absurd supplied (by simp [backend, jitGetarg])
  getargF := by simp [backend, jitGetargF, getargFloat]
  getargD := by simp [backend, jitGetargD, getargFloat]
  putargr := by
    intro suffix u v s held
    refine passes_node (passes_typeCheck (Or.inl ?_) ?_)
    · rw [held]
      exact putargr_matches suffix
    · simp
  putargi := by
    intro suffix u v s held
    refine passes_node (passes_typeCheck (Or.inl ?_) ?_)
    · rw [held]
      exact putargi_matches suffix
    · simp
  putargrF := by simp [backend, jitPutargrF, putargrFloat]
  putargiF := by simp [backend, jitPutargiF, putargiFloat]
  putargrD := by simp [backend, jitPutargrD, putargrFloat]
  putargiD := by simp [backend, jitPutargiD, putargiFloat]
  pushargr := by simp [backend, jitPushargr]
  pushargi := by simp [backend, jitPushargi]
  pushargrF := by simp [backend, jitPushargrF]
  pushargiF := by simp [backend, jitPushargiF]
  pushargrD := by simp [backend, jitPushargrD, pushDouble, alignCall]
  pushargiD := by simp [backend, jitPushargiD, pushDouble, alignCall]
  finishr := by simp [backend, jitFinishr, reserveCall, closeCall]
  finishi := by simp [backend, jitFinishi, reserveCall, closeCall]
  ret := by simp [backend]
  retr := by simp [backend, jitRetr]
  reti := by simp [backend, jitReti]
  retrF := by simp [backend, jitRetrF]
  retiF := by simp [backend, jitRetiF]
  retrD := by simp [backend, jitRetrD]
  retiD := by simp [backend, jitRetiD]
  retval := by
    intro suffix f supplied u
    cases suffix with
    | c | uc | s | us | i =>
      obtain rfl := Option.some.inj supplied
      simp [jitRetvalC, jitRetvalUc, jitRetvalS, jitRetvalUs, jitRetvalI]
    | ui | l => exact absurd supplied (by simp [backend, jitRetval])
  retvalF := by simp [backend, jitRetvalF]
  retvalD := by simp [backend, jitRetvalD]

end Arm

end Zjit
