import Zjit.Backend.Arm
import Zjit.Backend.X86
import Zjit.Lifecycle

/-!
# The call protocol

The methods for arguments, calls and return values, each beside the macro of its name. An argument
is referred to by its number in the order of the `arg` calls.
-/
namespace Zjit

open Foundation Program

variable {W : WordSize}

/-! ### Names -/

/-- The types of integer arguments. -/
inductive ArgType
  | c
  | s
  | i
  | l
  deriving DecidableEq, Repr

def ArgType.code : ArgType → Code
  | c => .arg_c
  | s => .arg_s
  | i => .arg_i
  | l => .arg_l

inductive ArgKind
  | int (type : ArgType)
  | float
  | double
  deriving DecidableEq, Repr

def ArgKind.code : ArgKind → Code
  | int type => type.code
  | float => .arg_f
  | double => .arg_d

def ArgKind.isInt : ArgKind → Bool
  | int _ => true
  | float | double => false

/-- The width a suffix stands for. -/
def IntSuffix.type : IntSuffix → ArgType
  | c | uc => .c
  | s | us => .s
  | i | ui => .i
  | l => .l

/-- The suffix of a method that sets an argument or a result, where it has one. -/
inductive Suffix
  | c
  | uc
  | s
  | us
  | i
  | ui
  | bare
  deriving DecidableEq, Repr

/-- The suffix that the body of a method gives to `jit_code_…`. -/
def Suffix.zig : Suffix → IntSuffix
  | c => .c
  | uc => .uc
  | s => .s
  | us => .us
  | i => .i
  | ui => .ui
  | bare => .l

/-- The native word. -/
def IntSuffix.native : WordSize → IntSuffix
  | .w32 => .i
  | .w64 => .l

/-- The suffix that the preprocessor gives to the macro. -/
def Suffix.header (W : WordSize) : Suffix → IntSuffix
  | c => .c
  | uc => .uc
  | s => .s
  | us => .us
  | i => .i
  | ui => .ui
  | bare => .native W

/-- The width a method is meant for. -/
def Suffix.type (W : WordSize) : Suffix → ArgType
  | c | uc => .c
  | s | us => .s
  | i | ui => .i
  | bare => (IntSuffix.native W).type

/-! ### Codes of the integer methods -/

def putargrCode : IntSuffix → Code
  | .c => .putargr_c
  | .uc => .putargr_uc
  | .s => .putargr_s
  | .us => .putargr_us
  | .i => .putargr_i
  | .ui => .putargr_ui
  | .l => .putargr_l

def putargiCode : IntSuffix → Code
  | .c => .putargi_c
  | .uc => .putargi_uc
  | .s => .putargi_s
  | .us => .putargi_us
  | .i => .putargi_i
  | .ui => .putargi_ui
  | .l => .putargi_l

def pushargrOf : IntSuffix → Code
  | .c => .pushargr_c
  | .uc => .pushargr_uc
  | .s => .pushargr_s
  | .us => .pushargr_us
  | .i => .pushargr_i
  | .ui => .pushargr_ui
  | .l => .pushargr_l

def pushargiOf : IntSuffix → Code
  | .c => .pushargi_c
  | .uc => .pushargi_uc
  | .s => .pushargi_s
  | .us => .pushargi_us
  | .i => .pushargi_i
  | .ui => .pushargi_ui
  | .l => .pushargi_l

def retrCode : IntSuffix → Code
  | .c => .retr_c
  | .uc => .retr_uc
  | .s => .retr_s
  | .us => .retr_us
  | .i => .retr_i
  | .ui => .retr_ui
  | .l => .retr_l

def retiCode : IntSuffix → Code
  | .c => .reti_c
  | .uc => .reti_uc
  | .s => .reti_s
  | .us => .reti_us
  | .i => .reti_i
  | .ui => .reti_ui
  | .l => .reti_l

/-! ### Calls -/

/-- A call of a protocol method. -/
inductive ProtocolCall (W : WordSize)
  | prolog
  | epilog
  | argRegisterP (a : Nat)
  | arg (type : ArgType)
  | argF
  | argD
  | getarg (suffix : IntSuffix) (reg : Gpr) (a : Nat)
  | getargF (reg : Fpr) (a : Nat)
  | getargD (reg : Fpr) (a : Nat)
  | prepare
  | pushargr (suffix : Suffix) (reg : Gpr)
  | pushargi (suffix : Suffix) (val : Word W)
  | pushargrF (reg : Fpr)
  | pushargiF (val : Float32Bits)
  | pushargrD (reg : Fpr)
  | pushargiD (val : Float64Bits)
  | finishr (reg : Gpr)
  | finishi (ptr : Pointer W)
  | putargr (suffix : Suffix) (reg : Gpr) (a : Nat)
  | putargi (suffix : Suffix) (val : Word W) (a : Nat)
  | putargrF (reg : Fpr) (a : Nat)
  | putargiF (val : Float32Bits) (a : Nat)
  | putargrD (reg : Fpr) (a : Nat)
  | putargiD (val : Float64Bits) (a : Nat)
  | ret
  | retr (suffix : Suffix) (reg : Gpr)
  | reti (suffix : Suffix) (val : Word W)
  | retrF (reg : Fpr)
  | retiF (val : Float32Bits)
  | retrD (reg : Fpr)
  | retiD (val : Float64Bits)
  | retval (suffix : IntSuffix) (reg : Gpr)
  | retvalF (reg : Fpr)
  | retvalD (reg : Fpr)
  deriving DecidableEq, Repr

namespace ProtocolCall

section Programs

-- The target, and the arguments declared so far.
variable (target : Backend W) (args : List NodeRef)

def operand (a : Nat) : Build W NodeRef := deref args[a]?

/-- The node of a new argument is kept. -/
def declare (x : Build W NodeRef) : Build W (Option NodeRef) := return some (← x)

/-- Nothing is kept of the result. -/
def plain {α : Type} (x : Build W α) : Build W (Option NodeRef) := do
  let _ ← x
  return none

/-- A method whose function the target lacks does not compile; here it faults. -/
def supplied {α : Type 1} (function : Option α) (call : α → Build W Unit) : Build W Unit :=
  match function with
  | some f => call f
  | none => Script.fault .nullDereference

/-- The body of the method. -/
def zig : ProtocolCall W → Build W (Option NodeRef)
  | prolog => plain target.prolog
  | epilog => plain jitEpilog
  | argRegisterP a => plain do target.argRegisterP (← operand args a)
  | arg .c => declare (target.arg .arg_c)
  | arg .s => declare (target.arg .arg_s)
  | arg .i => declare (target.arg .arg_i)
  | arg .l => declare (target.arg .arg_l)
  | argF => declare target.argF
  | argD => declare target.argD
  | getarg suffix reg a =>
    plain (supplied (target.getarg suffix) fun f => do f reg (← operand args a))
  | getargF reg a => plain do target.getargF reg (← operand args a)
  | getargD reg a => plain do target.getargD reg (← operand args a)
  | prepare => plain jitPrepare
  | pushargr suffix reg => plain (target.pushargr reg (pushargrOf suffix.zig))
  | pushargi suffix val => plain (target.pushargi val (pushargiOf suffix.zig))
  | pushargrF reg => plain (target.pushargrF reg)
  | pushargiF val => plain (target.pushargiF val)
  | pushargrD reg => plain (target.pushargrD reg)
  | pushargiD val => plain (target.pushargiD val)
  | finishr reg => plain (target.finishr reg)
  | finishi ptr => plain (target.finishi ptr)
  | putargr suffix reg a =>
    plain do target.putargr reg (← operand args a) (putargrCode suffix.zig)
  | putargi suffix val a =>
    plain do target.putargi val (← operand args a) (putargiCode suffix.zig)
  | putargrF reg a => plain do target.putargrF reg (← operand args a)
  | putargiF val a => plain do target.putargiF val (← operand args a)
  | putargrD reg a => plain do target.putargrD reg (← operand args a)
  | putargiD val a => plain do target.putargiD val (← operand args a)
  | ret => plain target.ret
  | retr suffix reg => plain (target.retr reg (retrCode suffix.zig))
  | reti suffix val => plain (target.reti val (retiCode suffix.zig))
  | retrF reg => plain (target.retrF reg)
  | retiF val => plain (target.retiF val)
  | retrD reg => plain (target.retrD reg)
  | retiD val => plain (target.retiD val)
  | retval suffix reg => plain (supplied (target.retval suffix) fun f => f reg)
  | retvalF reg => plain (target.retvalF reg)
  | retvalD reg => plain (target.retvalD reg)

/-- The expansion of the macro. -/
def header : ProtocolCall W → Build W (Option NodeRef)
  | prolog => plain target.prolog
  | epilog => plain jitEpilog
  | argRegisterP a => plain do target.argRegisterP (← operand args a)
  | arg type => declare (target.arg type.code)
  | argF => declare target.argF
  | argD => declare target.argD
  | getarg suffix reg a =>
    plain (supplied (target.getarg suffix) fun f => do f reg (← operand args a))
  | getargF reg a => plain do target.getargF reg (← operand args a)
  | getargD reg a => plain do target.getargD reg (← operand args a)
  | prepare => plain jitPrepare
  | pushargr suffix reg => plain (target.pushargr reg (pushargrOf (suffix.header W)))
  | pushargi suffix val => plain (target.pushargi val (pushargiOf (suffix.header W)))
  | pushargrF reg => plain (target.pushargrF reg)
  | pushargiF val => plain (target.pushargiF val)
  | pushargrD reg => plain (target.pushargrD reg)
  | pushargiD val => plain (target.pushargiD val)
  | finishr reg => plain (target.finishr reg)
  | finishi ptr => plain (target.finishi ptr)
  | putargr suffix reg a =>
    plain do target.putargr reg (← operand args a) (putargrCode (suffix.header W))
  | putargi suffix val a =>
    plain do target.putargi val (← operand args a) (putargiCode (suffix.header W))
  | putargrF reg a => plain do target.putargrF reg (← operand args a)
  | putargiF val a => plain do target.putargiF val (← operand args a)
  | putargrD reg a => plain do target.putargrD reg (← operand args a)
  | putargiD val a => plain do target.putargiD val (← operand args a)
  | ret => plain target.ret
  | retr suffix reg => plain (target.retr reg (retrCode (suffix.header W)))
  | reti suffix val => plain (target.reti val (retiCode (suffix.header W)))
  | retrF reg => plain (target.retrF reg)
  | retiF val => plain (target.retiF val)
  | retrD reg => plain (target.retrD reg)
  | retiD val => plain (target.retiD val)
  | retval suffix reg => plain (supplied (target.retval suffix) fun f => f reg)
  | retvalF reg => plain (target.retvalF reg)
  | retvalD reg => plain (target.retvalD reg)

end Programs

/-- Whether the macro stands under `#if __WORDSIZE == 64`. -/
def wide : ProtocolCall W → Bool
  | arg type => type = .l
  | getarg suffix _ _ | retval suffix _ => suffix = .ui ∨ suffix = .l
  | pushargr suffix _ | pushargi suffix _ | putargr suffix _ _ | putargi suffix _ _
  | retr suffix _ | reti suffix _ => suffix = .ui
  | _ => false

/-- The method has a macro of its name to be compared with. -/
def Available (call : ProtocolCall W) : Prop := W = .w64 ∨ call.wide = false

instance (call : ProtocolCall W) : Decidable call.Available := inferInstanceAs (Decidable (_ ∨ _))

/-- A method without a suffix where the others have one. -/
def bare : ProtocolCall W → Bool
  | pushargr suffix _ | pushargi suffix _ | putargr suffix _ _ | putargi suffix _ _
  | retr suffix _ | reti suffix _ => suffix = .bare
  | _ => false

/-! ### Arguments and their widths -/

/-- The arguments that the call declares. -/
def declared : ProtocolCall W → List ArgKind
  | arg type => [.int type]
  | argF => [.float]
  | argD => [.double]
  | _ => []

/-- An integer method accesses an argument of its own width, the others no integer. -/
def Fits (kinds : List ArgKind) : ProtocolCall W → Prop
  | argRegisterP a => kinds[a]?.isSome
  | getarg suffix _ a => kinds[a]? = some (.int suffix.type)
  | putargr suffix _ a | putargi suffix _ a => kinds[a]? = some (.int (suffix.type W))
  | getargF _ a | getargD _ a | putargrF _ a | putargiF _ a | putargrD _ a | putargiD _ a =>
    kinds[a]?.any fun kind => !kind.isInt
  | _ => True

instance (kinds : List ArgKind) (call : ProtocolCall W) : Decidable (call.Fits kinds) := by
  unfold Fits
  split <;> infer_instance

end ProtocolCall

/-- Every access to an argument is by a method of its width. -/
def WidthCorrect : List ArgKind → List (ProtocolCall W) → Prop
  | _, [] => True
  | kinds, call :: rest => call.Fits kinds ∧ WidthCorrect (kinds ++ call.declared) rest

instance decideWidthCorrect : (kinds : List ArgKind) → (calls : List (ProtocolCall W)) →
    Decidable (WidthCorrect kinds calls)
  | _, [] => isTrue trivial
  | kinds, call :: rest =>
    have := decideWidthCorrect (kinds ++ call.declared) rest
    inferInstanceAs (Decidable (_ ∧ _))

/-- The calls one after the other, each with the arguments declared before it. -/
def protocolRun (program : List NodeRef → ProtocolCall W → Build W (Option NodeRef)) :
    List NodeRef → List (ProtocolCall W) → Jit W (List NodeRef)
  | args, [] => pure args
  | args, call :: rest => do
    let declared ← (program args call).run
    protocolRun program (args ++ declared.toList) rest

end Zjit
