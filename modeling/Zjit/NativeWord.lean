import Zjit.Backend.Typed

/-!
# Native words in the call protocol

The methods without a suffix stand for the 64-bit word whatever the word size. Runs on 64-bit
words, and runs that leave these methods out, do what the macros do and pass every type check.
-/
namespace Zjit

open Foundation Program ProtocolCall

variable {W : WordSize} {target : Backend W} {args : List NodeRef} {kinds : List ArgKind}
  {call : ProtocolCall W} {s t : State W}

/-! ### Methods and macros -/

theorem zig_suffix {suffix : Suffix} (native : W = .w64 ∨ suffix ≠ .bare) :
    suffix.zig = suffix.header W := by
  cases suffix with
  | bare =>
    rcases native with rfl | other
    · rfl
    · exact absurd rfl other
  | c | uc | s | us | i | ui => rfl

/-- But for a missing suffix on 32-bit words, a method is its macro. -/
theorem zig_eq_header (target : Backend W) (args : List NodeRef) (call : ProtocolCall W)
    (native : W = .w64 ∨ call.bare = false) : call.zig target args = call.header target args := by
  cases call with
  | arg type => cases type <;> rfl
  | pushargr suffix | pushargi suffix | putargr suffix | putargi suffix | retr suffix
  | reti suffix =>
    have same := zig_suffix (W := W) (native.imp_right fun other => of_decide_eq_false other)
    simp only [zig, header, same]
  | _ => rfl

theorem zigRun_eq_headerRun (target : Backend W) (args : List NodeRef)
    {calls : List (ProtocolCall W)} (native : W = .w64 ∨ ∀ call ∈ calls, call.bare = false) :
    protocolRun (zig target) args calls = protocolRun (header target) args calls := by
  induction calls generalizing args with
  | nil => rfl
  | cons call rest ih =>
    have first := zig_eq_header target args call
      (native.imp_right fun others => others call List.mem_cons_self)
    have later := fun args => ih args
      (native.imp_right fun others call member => others call (List.mem_cons_of_mem _ member))
    simp only [protocolRun, first, later]

/-! ### One call -/

/-- The arguments declared so far have nodes of their kinds. -/
def Declared (args : List NodeRef) (kinds : List ArgKind) (ref : NodeRef) (code : Code) : Prop :=
  ∃ (a : Nat) (kind : ArgKind), args[a]? = some ref ∧ kinds[a]? = some kind ∧ code = kind.code

theorem kind_code (kind : ArgKind) : kind.code ≠ .data := by
  cases kind with
  | int type => cases type <;> decide
  | float => decide
  | double => decide

theorem declared_opcodes {ref : NodeRef} {code : Code} (declared : Declared args kinds ref code) :
    code ≠ .data := by
  obtain ⟨-, kind, -, -, rfl⟩ := declared
  exact kind_code kind

/-- An argument that was declared has a node with the code of its kind. -/
theorem operand_code {a : Nat} {kind : ArgKind} (lengths : args.length = kinds.length)
    (building : s.Building (Declared args kinds)) (known : kinds[a]? = some kind) :
    ∃ ref, operand (W := W) args a = pure ref ∧ (s.memory ref).code = kind.code := by
  obtain ⟨bound, -⟩ := List.getElem?_eq_some_iff.mp known
  have found : args[a]? = some args[a] := List.getElem?_eq_getElem (lengths ▸ bound)
  refine ⟨args[a], ?_, building.2 _ _ ⟨a, kind, found, known, rfl⟩⟩
  simp only [operand, found, deref]

theorem passes_plain {α : Type} {x : Build W α} (passes : Passes x s) : Passes (plain x) s := by
  intro failed
  rw [plain, Build.run, Script.run_bind] at failed
  simp only [bind, StateT.bind, Except.bind] at failed
  cases ran : Script.run Op.run x s with
  | error e =>
    rw [ran] at failed
    obtain rfl := Except.error.inj failed
    exact passes ran
  | ok result =>
    rw [ran] at failed
    nomatch failed

theorem passes_quiet {α : Type} {x : Build W α} (avoids : x.Avoids .typeCheck) :
    Passes (plain x) s :=
  passes_plain (passes_of_avoids avoids)

theorem passes_declare {x : Build W NodeRef} (avoids : x.Avoids .typeCheck) :
    Passes (declare x) s :=
  passes_of_avoids ((Script.avoids_bind ..).mpr ⟨avoids, fun _ _ => Script.avoids_pure ..⟩)

/-- A script whose checks look at no argument passes with any. -/
theorem passes_operand {a : Nat} {x : NodeRef → Build W Unit}
    (avoids : ∀ ref, (x ref).Avoids .typeCheck) :
    Passes (plain do x (← operand args a)) s := by
  refine passes_quiet ((Script.avoids_bind ..).mpr ⟨?_, fun ref _ => avoids ref⟩)
  exact avoids_deref _

theorem header_type (suffix : Suffix) : (suffix.header W).type = suffix.type W := by
  cases suffix <;> rfl

/-- 64-bit arguments exist on 64-bit words only. -/
def Narrow (W : WordSize) (kinds : List ArgKind) : Prop :=
  ∀ kind ∈ kinds, W = .w64 ∨ kind ≠ .int .l

/-- **Step.** A call that is available and accesses an argument of its width passes. -/
theorem header_passes (typed : target.Typed) (lengths : args.length = kinds.length)
    (narrow : Narrow W kinds) (building : s.Building (Declared args kinds)) (available : call.Available)
    (fits : call.Fits kinds) : Passes (call.header target args) s := by
  cases call with
  | prolog => exact passes_quiet typed.prolog
  | epilog => exact passes_quiet avoids_jitEpilog
  | argRegisterP a =>
    obtain ⟨kind, known⟩ := Option.isSome_iff_exists.mp fits
    obtain ⟨ref, found, code⟩ := operand_code lengths building known
    refine passes_plain ?_
    rw [found]
    exact typed.argRegisterP ref s kind (narrow kind (List.mem_of_getElem? known)) code
  | arg type =>
    refine passes_declare (typed.arg type (available.imp_right fun narrow => ?_))
    exact of_decide_eq_false narrow
  | argF => exact passes_declare typed.argF
  | argD => exact passes_declare typed.argD
  | getarg suffix reg a =>
    obtain ⟨ref, found, code⟩ := operand_code lengths building fits
    cases supply : target.getarg suffix with
    | none => exact passes_quiet (by simp [supplied, supply])
    | some f =>
      refine passes_plain ?_
      simp only [supply, supplied, found]
      exact typed.getarg suffix f supply reg ref s code
  | getargF reg a => exact passes_operand (typed.getargF reg)
  | getargD reg a => exact passes_operand (typed.getargD reg)
  | prepare => exact passes_quiet avoids_jitPrepare
  | pushargr suffix reg => exact passes_quiet (typed.pushargr _ _)
  | pushargi suffix val => exact passes_quiet (typed.pushargi _ _)
  | pushargrF reg => exact passes_quiet (typed.pushargrF _)
  | pushargiF val => exact passes_quiet (typed.pushargiF _)
  | pushargrD reg => exact passes_quiet (typed.pushargrD _)
  | pushargiD val => exact passes_quiet (typed.pushargiD _)
  | finishr reg => exact passes_quiet (typed.finishr _)
  | finishi ptr => exact passes_quiet (typed.finishi _)
  | putargr suffix reg a =>
    -- The width that the header gives to the method is that of the argument.
    obtain ⟨ref, found, code⟩ := operand_code lengths building fits
    refine passes_plain ?_
    rw [found]
    exact typed.putargr _ reg ref s (code.trans (by rw [ArgKind.code, header_type]))
  | putargi suffix val a =>
    obtain ⟨ref, found, code⟩ := operand_code lengths building fits
    refine passes_plain ?_
    rw [found]
    exact typed.putargi _ val ref s (code.trans (by rw [ArgKind.code, header_type]))
  | putargrF reg a => exact passes_operand (typed.putargrF reg)
  | putargiF val a => exact passes_operand (typed.putargiF val)
  | putargrD reg a => exact passes_operand (typed.putargrD reg)
  | putargiD val a => exact passes_operand (typed.putargiD val)
  | ret => exact passes_quiet typed.ret
  | retr suffix reg => exact passes_quiet (typed.retr _ _)
  | reti suffix val => exact passes_quiet (typed.reti _ _)
  | retrF reg => exact passes_quiet (typed.retrF _)
  | retiF val => exact passes_quiet (typed.retiF _)
  | retrD reg => exact passes_quiet (typed.retrD _)
  | retiD val => exact passes_quiet (typed.retiD _)
  | retval suffix reg =>
    cases supply : target.retval suffix with
    | none => exact passes_quiet (by simp [supplied, supply])
    | some f =>
      refine passes_quiet ?_
      rw [supply]
      exact typed.retval suffix f supply reg
  | retvalF reg => exact passes_quiet (typed.retvalF _)
  | retvalD reg => exact passes_quiet (typed.retvalD _)

/-! ### Arguments along a run -/

theorem declared_snoc {ref : NodeRef} {kind : ArgKind} (lengths : args.length = kinds.length)
    (building : s.Building (Declared args kinds)) (code : (s.memory ref).code = kind.code) :
    s.Building (Declared (args ++ [ref]) (kinds ++ [kind])) := by
  refine ⟨building.1, ?_⟩
  rintro other otherCode ⟨a, otherKind, isArg, isKind, rfl⟩
  by_cases old : a < args.length
  · rw [List.getElem?_append_left old] at isArg
    rw [List.getElem?_append_left (lengths ▸ old)] at isKind
    exact building.2 other _ ⟨a, otherKind, isArg, isKind, rfl⟩
  · rw [List.getElem?_append_right (Nat.not_lt.mp old)] at isArg
    rw [List.getElem?_append_right (lengths ▸ Nat.not_lt.mp old), ← lengths] at isKind
    rw [List.getElem?_singleton] at isArg isKind
    split at isArg
    · next first =>
      rw [if_pos first] at isKind
      rw [← Option.some.inj isArg, ← Option.some.inj isKind]
      exact code
    · exact absurd isArg (by simp)

/-- What a call leaves: its argument, if it declares one, joins the others. -/
def Extends (args : List NodeRef) (kinds : List ArgKind) (call : ProtocolCall W)
    (made : Option NodeRef) (t : State W) : Prop :=
  (args ++ made.toList).length = (kinds ++ call.declared).length ∧
    t.Building (Declared (args ++ made.toList) (kinds ++ call.declared))

theorem plain_extends {α : Type} {x : Build W α} {made : Option NodeRef}
    (lengths : args.length = kinds.length) (building : s.Building (Declared args kinds))
    (none_ : call.declared = []) (ran : Returns (plain x).run s made t) :
    Extends args kinds call made t := by
  have kept := keeps_build (fun _ _ => declared_opcodes) (plain x) s made t building ran
  have result := Script.yields_of_returns _ ran
  simp only [plain, Script.yields_bind, Script.yields_pure] at result
  obtain ⟨-, -, rfl⟩ := result
  rw [Extends, none_, Option.toList_none, List.append_nil, List.append_nil]
  exact ⟨lengths, kept⟩

theorem declare_extends {x : Build W NodeRef} {kind : ArgKind} {made : Option NodeRef}
    (lengths : args.length = kinds.length) (building : s.Building (Declared args kinds))
    (one : call.declared = [kind]) (declares : Declares x kind.code)
    (ran : Returns (declare x).run s made t) : Extends args kinds call made t := by
  obtain ⟨ref, u, first, last⟩ := (Script.returns_run_bind _ x _ s t made).mp ran
  obtain ⟨rfl, rfl⟩ := (Script.returns_run_pure _ _ made u t).mp last
  obtain ⟨kept, code⟩ := declares _ (fun _ _ => declared_opcodes) s ref u building first
  rw [Extends, one, Option.toList_some]
  refine ⟨?_, declared_snoc lengths kept code⟩
  rw [List.length_append, List.length_append, lengths, List.length_singleton,
    List.length_singleton]

theorem header_extends (typed : target.Typed) {made : Option NodeRef}
    (lengths : args.length = kinds.length) (building : s.Building (Declared args kinds))
    (ran : Returns (call.header target args).run s made t) : Extends args kinds call made t := by
  cases call with
  | arg type => exact declare_extends lengths building rfl (typed.declares type) ran
  | argF => exact declare_extends lengths building rfl typed.declaresF ran
  | argD => exact declare_extends lengths building rfl typed.declaresD ran
  | _ => exact plain_extends lengths building rfl ran

theorem narrow_declared (narrow : Narrow W kinds) (available : call.Available) :
    Narrow W (kinds ++ call.declared) := by
  intro kind member
  rcases List.mem_append.mp member with old | new
  · exact narrow kind old
  · cases call with
    | arg type =>
      obtain rfl := List.mem_singleton.mp new
      refine available.imp_right fun short wide => ?_
      exact of_decide_eq_false short (ArgKind.int.inj wide)
    | argF =>
      obtain rfl := List.mem_singleton.mp new
      exact Or.inr ArgKind.noConfusion
    | argD =>
      obtain rfl := List.mem_singleton.mp new
      exact Or.inr ArgKind.noConfusion
    | _ => exact absurd new List.not_mem_nil

/-- **Run.** No call of a width-correct run fails a type check. -/
theorem headerRun_passes (typed : target.Typed) {calls : List (ProtocolCall W)}
    (available : ∀ call ∈ calls, call.Available) (lengths : args.length = kinds.length)
    (narrow : Narrow W kinds) (building : s.Building (Declared args kinds))
    (correct : WidthCorrect kinds calls) :
    protocolRun (header target) args calls s ≠ .error .typeCheck := by
  induction calls generalizing args kinds s with
  | nil => exact fun failed => nomatch failed
  | cons call rest ih =>
    intro failed
    have availableCall := available call List.mem_cons_self
    simp only [protocolRun, bind, StateT.bind, Except.bind] at failed
    cases ran : (call.header target args).run s with
    | error e =>
      rw [ran] at failed
      obtain rfl := Except.error.inj failed
      exact header_passes typed lengths narrow building availableCall correct.1 ran
    | ok result =>
      obtain ⟨made, t⟩ := result
      rw [ran] at failed
      obtain ⟨lengths', building'⟩ := header_extends typed lengths building ran
      exact ih (fun other member => available other (List.mem_cons_of_mem _ member)) lengths'
        (narrow_declared narrow availableCall) building' correct.2 failed

/-! ### Both targets -/

/-- The targets whose backends are modelled. -/
inductive Target
  | x86 (abi : X86Abi)
  | arm (cpu : ArmCpu)
  deriving DecidableEq, Repr

def Target.backend (strong : Bool) (emitter : Emitter W) : Target → Backend W
  | x86 abi => X86.backend strong abi emitter
  | arm cpu => Arm.backend strong cpu emitter

theorem target_typed (strong : Bool) (emitter : Emitter W) (target : Target) :
    (target.backend strong emitter).Typed := by
  cases target with
  | x86 abi => exact x86_typed strong abi emitter
  | arm cpu => exact arm_typed strong cpu emitter

theorem building_initial : (jitNewState W).Building (Declared [] []) := by
  refine ⟨⟨[], ⟨rfl, ?_, ?_⟩, ?_, ?_⟩, ?_⟩
  · exact fun _ member => absurd member List.not_mem_nil
  · exact fun _ member => absurd member List.not_mem_nil
  · exact fun _ isTail => nomatch isTail
  · exact fun _ coded => absurd rfl coded
  · rintro _ _ ⟨_, _, isArg, -, -⟩
    exact absurd isArg (by simp)

/-- Width-correct runs of the protocol methods do what the macros do and pass every type check, in
either variant of the checks. -/
theorem protocol_native (strong : Bool) (emitter : Emitter W) (target : Target)
    {calls : List (ProtocolCall W)} (available : ∀ call ∈ calls, call.Available)
    (correct : WidthCorrect [] calls)
    (native : W = .w64 ∨ ∀ call ∈ calls, call.bare = false) :
    protocolRun (zig (target.backend strong emitter)) [] calls =
        protocolRun (header (target.backend strong emitter)) [] calls ∧
      protocolRun (zig (target.backend strong emitter)) [] calls (jitNewState W) ≠
        .error .typeCheck := by
  have same := zigRun_eq_headerRun (target.backend strong emitter) [] native
  refine ⟨same, ?_⟩
  rw [same]
  exact headerRun_passes (target_typed strong emitter target) available rfl
    (fun _ member => absurd member List.not_mem_nil) building_initial correct

/-- A function of two arguments, one of them overwritten through the method without a suffix. -/
theorem protocol_native_sample :
    protocolRun (zig (W := .w64) (X86.backend true .sysv default)) []
          [prolog, arg .l, arg .i, getarg .l 0 0, putargr .bare 0 0, retr .bare 0, epilog] =
        protocolRun (header (X86.backend true .sysv default)) []
          [prolog, arg .l, arg .i, getarg .l 0 0, putargr .bare 0 0, retr .bare 0, epilog] ∧
      protocolRun (zig (X86.backend true .sysv default)) []
          [prolog, arg .l, arg .i, getarg .l 0 0, putargr .bare 0 0, retr .bare 0, epilog]
          (jitNewState .w64) ≠ .error .typeCheck :=
  protocol_native true default (.x86 .sysv) (by decide) (by decide) (Or.inl rfl)

/-- On 32-bit words `putargr` presents a 64-bit code for a native argument. -/
theorem putargr_mistyped :
    (∀ call ∈ [prolog, arg .i, putargr .bare 0 0], Available (W := .w32) call) ∧
      WidthCorrect (W := .w32) [] [prolog, arg .i, putargr .bare 0 0] ∧
      protocolRun (zig (W := .w32) (X86.backend false .x32 default)) []
        [prolog, arg .i, putargr .bare 0 0] (jitNewState .w32) = .error .typeCheck := by
  refine ⟨by decide, by decide, ?_⟩
  rfl

end Zjit
