import Zjit.Wrapper

/-!
# Integer instructions

The methods of `State` that append an integer instruction, with the bodies the wrapper gives
them and the macros of the header.
-/
namespace Zjit

variable {W : WordSize}

/-- Markers, alignment and variadic arguments. -/
inductive Misc (W : WordSize)
  | live (u : Gpr)
  | alignInsn (u : Word W)
  | va_start (u : Gpr)
  | va_arg (u v : Gpr)
  | va_arg_d (u : Fpr) (v : Gpr)
  | va_end (u : Gpr)

namespace Misc

/-- The method bodies. -/
def wrapper : Misc W → Wrapper W
  | live u => .sets (Zig.newNodeW .live (.int u))
  | alignInsn u => .sets (Zig.newNodeW .align (.word u))
  | va_start u => .sets (Zig.newNodeW .va_start (.int u))
  | va_arg u v => .sets (Zig.newNodeWw .va_arg (.int u) (.int v))
  | va_arg_d u v => .sets (Zig.newNodeWw .va_arg_d (.int u) (.int v))
  | va_end u => .sets (Zig.newNodeW .va_end (.int u))

/-- The macros of the same names. -/
def expansion : Misc W → NewNode W
  | live u => .w .live u
  | alignInsn u => .w .align u
  | va_start u => .w .va_start u
  | va_arg u v => .ww .va_arg u v
  | va_arg_d u v => .ww .va_arg_d u v
  | va_end u => .w .va_end u

end Misc

/-- Integer arithmetic, the widening operations included. -/
inductive Arith (W : WordSize)
  | addr (u v w : Gpr)
  | addi (u v : Gpr) (w : Word W)
  | addcr (u v w : Gpr)
  | addci (u v : Gpr) (w : Word W)
  | addxr (u v w : Gpr)
  | addxi (u v : Gpr) (w : Word W)
  | subr (u v w : Gpr)
  | subi (u v : Gpr) (w : Word W)
  | subcr (u v w : Gpr)
  | subci (u v : Gpr) (w : Word W)
  | subxr (u v w : Gpr)
  | subxi (u v : Gpr) (w : Word W)
  | rsbr (u v w : Gpr)
  | rsbi (u v : Gpr) (w : Word W)
  | mulr (u v w : Gpr)
  | muli (u v : Gpr) (w : Word W)
  | hmulr (u v w : Gpr)
  | hmuli (u v : Gpr) (w : Word W)
  | hmulr_u (u v w : Gpr)
  | hmuli_u (u v : Gpr) (w : Word W)
  | divr (u v w : Gpr)
  | divi (u v : Gpr) (w : Word W)
  | divr_u (u v w : Gpr)
  | divi_u (u v : Gpr) (w : Word W)
  | remr (u v w : Gpr)
  | remi (u v : Gpr) (w : Word W)
  | remr_u (u v w : Gpr)
  | remi_u (u v : Gpr) (w : Word W)
  | qmulr (lo hi v w : Gpr)
  | qmuli (lo hi v : Gpr) (w : Word W)
  | qmulr_u (lo hi v w : Gpr)
  | qmuli_u (lo hi v : Gpr) (w : Word W)
  | qdivr (lo hi v w : Gpr)
  | qdivi (lo hi v : Gpr) (w : Word W)
  | qdivr_u (lo hi v w : Gpr)
  | qdivi_u (lo hi v : Gpr) (w : Word W)

namespace Arith

/-- The method bodies. -/
def wrapper : Arith W → Wrapper W
  | addr u v w => .sets (Zig.newNodeWww .addr (.int u) (.int v) (.int w))
  | addi u v w => .sets (Zig.newNodeWww .addi (.int u) (.int v) (.word w))
  | addcr u v w => .sets (Zig.newNodeWww .addcr (.int u) (.int v) (.int w))
  | addci u v w => .sets (Zig.newNodeWww .addci (.int u) (.int v) (.word w))
  | addxr u v w => .sets (Zig.newNodeWww .addxr (.int u) (.int v) (.int w))
  | addxi u v w => .sets (Zig.newNodeWww .addxi (.int u) (.int v) (.word w))
  | subr u v w => .sets (Zig.newNodeWww .subr (.int u) (.int v) (.int w))
  | subi u v w => .sets (Zig.newNodeWww .subi (.int u) (.int v) (.word w))
  | subcr u v w => .sets (Zig.newNodeWww .subcr (.int u) (.int v) (.int w))
  | subci u v w => .sets (Zig.newNodeWww .subci (.int u) (.int v) (.word w))
  | subxr u v w => .sets (Zig.newNodeWww .subxr (.int u) (.int v) (.int w))
  | subxi u v w => .sets (Zig.newNodeWww .subxi (.int u) (.int v) (.word w))
  | rsbr u v w => .sets (Zig.newNodeWww .subr (.int u) (.int w) (.int v))
  | rsbi u v w => .sets (Zig.newNodeWww .rsbi (.int u) (.int v) (.word w))
  | mulr u v w => .sets (Zig.newNodeWww .mulr (.int u) (.int v) (.int w))
  | muli u v w => .sets (Zig.newNodeWww .muli (.int u) (.int v) (.word w))
  | hmulr u v w => .sets (Zig.newNodeWww .hmulr (.int u) (.int v) (.int w))
  | hmuli u v w => .sets (Zig.newNodeWww .hmuli (.int u) (.int v) (.word w))
  | hmulr_u u v w => .sets (Zig.newNodeWww .hmulr_u (.int u) (.int v) (.int w))
  | hmuli_u u v w => .sets (Zig.newNodeWww .hmuli_u (.int u) (.int v) (.word w))
  | divr u v w => .sets (Zig.newNodeWww .divr (.int u) (.int v) (.int w))
  | divi u v w => .sets (Zig.newNodeWww .divi (.int u) (.int v) (.word w))
  | divr_u u v w => .sets (Zig.newNodeWww .divr_u (.int u) (.int v) (.int w))
  | divi_u u v w => .sets (Zig.newNodeWww .divi_u (.int u) (.int v) (.word w))
  | remr u v w => .sets (Zig.newNodeWww .remr (.int u) (.int v) (.int w))
  | remi u v w => .sets (Zig.newNodeWww .remi (.int u) (.int v) (.word w))
  | remr_u u v w => .sets (Zig.newNodeWww .remr_u (.int u) (.int v) (.int w))
  | remi_u u v w => .sets (Zig.newNodeWww .remi_u (.int u) (.int v) (.word w))
  | qmulr lo hi v w => .sets (Zig.newNodeQww .qmulr (.int lo) (.int hi) (.int v) (.int w))
  | qmuli lo hi v w => .sets (Zig.newNodeQww .qmuli (.int lo) (.int hi) (.int v) (.word w))
  | qmulr_u lo hi v w => .sets (Zig.newNodeQww .qmulr_u (.int lo) (.int hi) (.int v) (.int w))
  | qmuli_u lo hi v w => .sets (Zig.newNodeQww .qmuli_u (.int lo) (.int hi) (.int v) (.word w))
  | qdivr lo hi v w => .sets (Zig.newNodeQww .qdivr (.int lo) (.int hi) (.int v) (.int w))
  | qdivi lo hi v w => .sets (Zig.newNodeQww .qdivi (.int lo) (.int hi) (.int v) (.word w))
  | qdivr_u lo hi v w => .sets (Zig.newNodeQww .qdivr_u (.int lo) (.int hi) (.int v) (.int w))
  | qdivi_u lo hi v w => .sets (Zig.newNodeQww .qdivi_u (.int lo) (.int hi) (.int v) (.word w))

/-- The macros of the same names. -/
def expansion : Arith W → NewNode W
  | addr u v w => .www .addr u v w
  | addi u v w => .www .addi u v w
  | addcr u v w => .www .addcr u v w
  | addci u v w => .www .addci u v w
  | addxr u v w => .www .addxr u v w
  | addxi u v w => .www .addxi u v w
  | subr u v w => .www .subr u v w
  | subi u v w => .www .subi u v w
  | subcr u v w => .www .subcr u v w
  | subci u v w => .www .subci u v w
  | subxr u v w => .www .subxr u v w
  | subxi u v w => .www .subxi u v w
  | rsbr u v w => .www .subr u w v
  | rsbi u v w => .www .rsbi u v w
  | mulr u v w => .www .mulr u v w
  | muli u v w => .www .muli u v w
  | hmulr u v w => .www .hmulr u v w
  | hmuli u v w => .www .hmuli u v w
  | hmulr_u u v w => .www .hmulr_u u v w
  | hmuli_u u v w => .www .hmuli_u u v w
  | divr u v w => .www .divr u v w
  | divi u v w => .www .divi u v w
  | divr_u u v w => .www .divr_u u v w
  | divi_u u v w => .www .divi_u u v w
  | remr u v w => .www .remr u v w
  | remi u v w => .www .remi u v w
  | remr_u u v w => .www .remr_u u v w
  | remi_u u v w => .www .remi_u u v w
  | qmulr lo hi v w => .qww .qmulr lo hi v w
  | qmuli lo hi v w => .qww .qmuli lo hi v w
  | qmulr_u lo hi v w => .qww .qmulr_u lo hi v w
  | qmuli_u lo hi v w => .qww .qmuli_u lo hi v w
  | qdivr lo hi v w => .qww .qdivr lo hi v w
  | qdivi lo hi v w => .qww .qdivi lo hi v w
  | qdivr_u lo hi v w => .qww .qdivr_u lo hi v w
  | qdivi_u lo hi v w => .qww .qdivi_u lo hi v w

end Arith

/-- Bitwise operations, widening shifts and the unary operations. -/
inductive Bitwise (W : WordSize)
  | andr (u v w : Gpr)
  | andi (u v : Gpr) (w : Word W)
  | orr (u v w : Gpr)
  | ori (u v : Gpr) (w : Word W)
  | xorr (u v w : Gpr)
  | xori (u v : Gpr) (w : Word W)
  | lshr (u v w : Gpr)
  | lshi (u v : Gpr) (w : Word W)
  | rshr (u v w : Gpr)
  | rshi (u v : Gpr) (w : Word W)
  | rshr_u (u v w : Gpr)
  | rshi_u (u v : Gpr) (w : Word W)
  | lrotr (u v w : Gpr)
  | lroti (u v : Gpr) (w : Word W)
  | rrotr (u v w : Gpr)
  | rroti (u v : Gpr) (w : Word W)
  | qlshr (lo hi v w : Gpr)
  | qlshi (lo hi v : Gpr) (w : Word W)
  | qlshr_u (lo hi v w : Gpr)
  | qlshi_u (lo hi v : Gpr) (w : Word W)
  | qrshr (lo hi v w : Gpr)
  | qrshi (lo hi v : Gpr) (w : Word W)
  | qrshr_u (lo hi v w : Gpr)
  | qrshi_u (lo hi v : Gpr) (w : Word W)
  | negr (u v : Gpr)
  | negi (u : Gpr) (v : Word W)
  | comr (u v : Gpr)
  | comi (u : Gpr) (v : Word W)
  | clor (u v : Gpr)
  | cloi (u : Gpr) (v : Word W)
  | clzr (u v : Gpr)
  | clzi (u : Gpr) (v : Word W)
  | ctor (u v : Gpr)
  | ctoi (u : Gpr) (v : Word W)
  | ctzr (u v : Gpr)
  | ctzi (u : Gpr) (v : Word W)
  | rbitr (u v : Gpr)
  | rbiti (u : Gpr) (v : Word W)
  | popcntr (u v : Gpr)
  | popcnti (u : Gpr) (v : Word W)

namespace Bitwise

/-- The method bodies. -/
def wrapper : Bitwise W → Wrapper W
  | andr u v w => .sets (Zig.newNodeWww .andr (.int u) (.int v) (.int w))
  | andi u v w => .sets (Zig.newNodeWww .andi (.int u) (.int v) (.word w))
  | orr u v w => .sets (Zig.newNodeWww .orr (.int u) (.int v) (.int w))
  | ori u v w => .sets (Zig.newNodeWww .ori (.int u) (.int v) (.word w))
  | xorr u v w => .sets (Zig.newNodeWww .xorr (.int u) (.int v) (.int w))
  | xori u v w => .sets (Zig.newNodeWww .xori (.int u) (.int v) (.word w))
  | lshr u v w => .sets (Zig.newNodeWww .lshr (.int u) (.int v) (.int w))
  | lshi u v w => .sets (Zig.newNodeWww .lshi (.int u) (.int v) (.word w))
  | rshr u v w => .sets (Zig.newNodeWww .rshr (.int u) (.int v) (.int w))
  | rshi u v w => .sets (Zig.newNodeWww .rshi (.int u) (.int v) (.word w))
  | rshr_u u v w => .sets (Zig.newNodeWww .rshr_u (.int u) (.int v) (.int w))
  | rshi_u u v w => .sets (Zig.newNodeWww .rshi_u (.int u) (.int v) (.word w))
  | lrotr u v w => .sets (Zig.newNodeWww .lrotr (.int u) (.int v) (.int w))
  | lroti u v w => .sets (Zig.newNodeWww .lroti (.int u) (.int v) (.word w))
  | rrotr u v w => .sets (Zig.newNodeWww .rrotr (.int u) (.int v) (.int w))
  | rroti u v w => .sets (Zig.newNodeWww .rroti (.int u) (.int v) (.word w))
  | qlshr lo hi v w => .sets (Zig.newNodeQww .qlshr (.int lo) (.int hi) (.int v) (.int w))
  | qlshi lo hi v w => .sets (Zig.newNodeQww .qlshi (.int lo) (.int hi) (.int v) (.word w))
  | qlshr_u lo hi v w => .sets (Zig.newNodeQww .qlshr_u (.int lo) (.int hi) (.int v) (.int w))
  | qlshi_u lo hi v w => .sets (Zig.newNodeQww .qlshi_u (.int lo) (.int hi) (.int v) (.word w))
  | qrshr lo hi v w => .sets (Zig.newNodeQww .qrshr (.int lo) (.int hi) (.int v) (.int w))
  | qrshi lo hi v w => .sets (Zig.newNodeQww .qrshi (.int lo) (.int hi) (.int v) (.word w))
  | qrshr_u lo hi v w => .sets (Zig.newNodeQww .qrshr_u (.int lo) (.int hi) (.int v) (.int w))
  | qrshi_u lo hi v w => .sets (Zig.newNodeQww .qrshi_u (.int lo) (.int hi) (.int v) (.word w))
  | negr u v => .sets (Zig.newNodeWw .negr (.int u) (.int v))
  | negi u v => .sets (Zig.newNodeWw .negi (.int u) (.word v))
  | comr u v => .sets (Zig.newNodeWw .comr (.int u) (.int v))
  | comi u v => .sets (Zig.newNodeWw .comi (.int u) (.word v))
  | clor u v => .sets (Zig.newNodeWw .clor (.int u) (.int v))
  | cloi u v => .sets (Zig.newNodeWw .cloi (.int u) (.word v))
  | clzr u v => .sets (Zig.newNodeWw .clzr (.int u) (.int v))
  | clzi u v => .sets (Zig.newNodeWw .clzi (.int u) (.word v))
  | ctor u v => .sets (Zig.newNodeWw .ctor (.int u) (.int v))
  | ctoi u v => .sets (Zig.newNodeWw .ctoi (.int u) (.word v))
  | ctzr u v => .sets (Zig.newNodeWw .ctzr (.int u) (.int v))
  | ctzi u v => .sets (Zig.newNodeWw .ctzi (.int u) (.word v))
  | rbitr u v => .sets (Zig.newNodeWw .rbitr (.int u) (.int v))
  | rbiti u v => .sets (Zig.newNodeWw .rbiti (.int u) (.word v))
  | popcntr u v => .sets (Zig.newNodeWw .popcntr (.int u) (.int v))
  | popcnti u v => .sets (Zig.newNodeWw .popcnti (.int u) (.word v))

/-- The macros of the same names. -/
def expansion : Bitwise W → NewNode W
  | andr u v w => .www .andr u v w
  | andi u v w => .www .andi u v w
  | orr u v w => .www .orr u v w
  | ori u v w => .www .ori u v w
  | xorr u v w => .www .xorr u v w
  | xori u v w => .www .xori u v w
  | lshr u v w => .www .lshr u v w
  | lshi u v w => .www .lshi u v w
  | rshr u v w => .www .rshr u v w
  | rshi u v w => .www .rshi u v w
  | rshr_u u v w => .www .rshr_u u v w
  | rshi_u u v w => .www .rshi_u u v w
  | lrotr u v w => .www .lrotr u v w
  | lroti u v w => .www .lroti u v w
  | rrotr u v w => .www .rrotr u v w
  | rroti u v w => .www .rroti u v w
  | qlshr lo hi v w => .qww .qlshr lo hi v w
  | qlshi lo hi v w => .qww .qlshi lo hi v w
  | qlshr_u lo hi v w => .qww .qlshr_u lo hi v w
  | qlshi_u lo hi v w => .qww .qlshi_u lo hi v w
  | qrshr lo hi v w => .qww .qrshr lo hi v w
  | qrshi lo hi v w => .qww .qrshi lo hi v w
  | qrshr_u lo hi v w => .qww .qrshr_u lo hi v w
  | qrshi_u lo hi v w => .qww .qrshi_u lo hi v w
  | negr u v => .ww .negr u v
  | negi u v => .ww .negi u v
  | comr u v => .ww .comr u v
  | comi u v => .ww .comi u v
  | clor u v => .ww .clor u v
  | cloi u v => .ww .cloi u v
  | clzr u v => .ww .clzr u v
  | clzi u v => .ww .clzi u v
  | ctor u v => .ww .ctor u v
  | ctoi u v => .ww .ctoi u v
  | ctzr u v => .ww .ctzr u v
  | ctzi u v => .ww .ctzi u v
  | rbitr u v => .ww .rbitr u v
  | rbiti u v => .ww .rbiti u v
  | popcntr u v => .ww .popcntr u v
  | popcnti u v => .ww .popcnti u v

end Bitwise

/-- Comparisons into a register. -/
inductive Compare (W : WordSize)
  | ltr (u v w : Gpr)
  | lti (u v : Gpr) (w : Word W)
  | ltr_u (u v w : Gpr)
  | lti_u (u v : Gpr) (w : Word W)
  | ler (u v w : Gpr)
  | lei (u v : Gpr) (w : Word W)
  | ler_u (u v w : Gpr)
  | lei_u (u v : Gpr) (w : Word W)
  | eqr (u v w : Gpr)
  | eqi (u v : Gpr) (w : Word W)
  | ger (u v w : Gpr)
  | gei (u v : Gpr) (w : Word W)
  | ger_u (u v w : Gpr)
  | gei_u (u v : Gpr) (w : Word W)
  | gtr (u v w : Gpr)
  | gti (u v : Gpr) (w : Word W)
  | gtr_u (u v w : Gpr)
  | gti_u (u v : Gpr) (w : Word W)
  | ner (u v w : Gpr)
  | nei (u v : Gpr) (w : Word W)

namespace Compare

/-- The method bodies. -/
def wrapper : Compare W → Wrapper W
  | ltr u v w => .sets (Zig.newNodeWww .ltr (.int u) (.int v) (.int w))
  | lti u v w => .sets (Zig.newNodeWww .lti (.int u) (.int v) (.word w))
  | ltr_u u v w => .sets (Zig.newNodeWww .ltr_u (.int u) (.int v) (.int w))
  | lti_u u v w => .sets (Zig.newNodeWww .lti_u (.int u) (.int v) (.word w))
  | ler u v w => .sets (Zig.newNodeWww .ler (.int u) (.int v) (.int w))
  | lei u v w => .sets (Zig.newNodeWww .lei (.int u) (.int v) (.word w))
  | ler_u u v w => .sets (Zig.newNodeWww .ler_u (.int u) (.int v) (.int w))
  | lei_u u v w => .sets (Zig.newNodeWww .lei_u (.int u) (.int v) (.word w))
  | eqr u v w => .sets (Zig.newNodeWww .eqr (.int u) (.int v) (.int w))
  | eqi u v w => .sets (Zig.newNodeWww .eqi (.int u) (.int v) (.word w))
  | ger u v w => .sets (Zig.newNodeWww .ger (.int u) (.int v) (.int w))
  | gei u v w => .sets (Zig.newNodeWww .gei (.int u) (.int v) (.word w))
  | ger_u u v w => .sets (Zig.newNodeWww .ger_u (.int u) (.int v) (.int w))
  | gei_u u v w => .sets (Zig.newNodeWww .gei_u (.int u) (.int v) (.word w))
  | gtr u v w => .sets (Zig.newNodeWww .gtr (.int u) (.int v) (.int w))
  | gti u v w => .sets (Zig.newNodeWww .gti (.int u) (.int v) (.word w))
  | gtr_u u v w => .sets (Zig.newNodeWww .gtr_u (.int u) (.int v) (.int w))
  | gti_u u v w => .sets (Zig.newNodeWww .gti_u (.int u) (.int v) (.word w))
  | ner u v w => .sets (Zig.newNodeWww .ner (.int u) (.int v) (.int w))
  | nei u v w => .sets (Zig.newNodeWww .nei (.int u) (.int v) (.word w))

/-- The macros of the same names. -/
def expansion : Compare W → NewNode W
  | ltr u v w => .www .ltr u v w
  | lti u v w => .www .lti u v w
  | ltr_u u v w => .www .ltr_u u v w
  | lti_u u v w => .www .lti_u u v w
  | ler u v w => .www .ler u v w
  | lei u v w => .www .lei u v w
  | ler_u u v w => .www .ler_u u v w
  | lei_u u v w => .www .lei_u u v w
  | eqr u v w => .www .eqr u v w
  | eqi u v w => .www .eqi u v w
  | ger u v w => .www .ger u v w
  | gei u v w => .www .gei u v w
  | ger_u u v w => .www .ger_u u v w
  | gei_u u v w => .www .gei_u u v w
  | gtr u v w => .www .gtr u v w
  | gti u v w => .www .gti u v w
  | gtr_u u v w => .www .gtr_u u v w
  | gti_u u v w => .www .gti_u u v w
  | ner u v w => .www .ner u v w
  | nei u v w => .www .nei u v w

end Compare

/-- Moves, extensions, bit fields, compare-and-swap and byte swaps. -/
inductive Move (W : WordSize)
  | movr (u v : Gpr)
  | movi (u : Gpr) (v : Word W)
  | movnr (u v w : Gpr)
  | movzr (u v w : Gpr)
  | extr_c (u v : Gpr)
  | extr_uc (u v : Gpr)
  | extr_s (u v : Gpr)
  | extr_us (u v : Gpr)
  | extr_i (u v : Gpr)
  | extr_ui (u v : Gpr)
  | exti_c (u : Gpr) (v : Word W)
  | exti_uc (u : Gpr) (v : Word W)
  | exti_s (u : Gpr) (v : Word W)
  | exti_us (u : Gpr) (v : Word W)
  | exti_i (u : Gpr) (v : Word W)
  | exti_ui (u : Gpr) (v : Word W)
  | extr (u v : Gpr) (lsb len : CInt)
  | extr_u (u v : Gpr) (lsb len : CInt)
  | exti (u : Gpr) (v : Word W) (lsb len : CInt)
  | exti_u (u : Gpr) (v : Word W) (lsb len : CInt)
  | depr (u v : Gpr) (lsb len : CInt)
  | depi (u : Gpr) (v : Word W) (lsb len : CInt)
  | casr (u v lo hi : Gpr)
  | casi (u : Gpr) (v : Pointer W) (lo hi : CInt)
  | bswapr_us (u v : Gpr)
  | bswapi_us (u : Gpr) (v : Word W)
  | bswapr_ui (u v : Gpr)
  | bswapi_ui (u : Gpr) (v : Word W)
  | bswapr_ul (u v : Gpr)
  | bswapi_ul (u : Gpr) (v : Word W)
  | htonr_us (u v : Gpr)
  | htoni_us (u : Gpr) (v : Word W)
  | htonr_ui (u v : Gpr)
  | htoni_ui (u : Gpr) (v : Word W)
  | htonr_ul (u v : Gpr)
  | htoni_ul (u : Gpr) (v : Word W)

namespace Move

/-- The method bodies. -/
def wrapper : Move W → Wrapper W
  | movr u v => .sets (Zig.newNodeWw .movr (.int u) (.int v))
  | movi u v => .returns (Zig.newNodeWw .movi (.int u) (.word v))
  | movnr u v w => .sets (Zig.newNodeWww .movnr (.int u) (.int v) (.int w))
  | movzr u v w => .sets (Zig.newNodeWww .movzr (.int u) (.int v) (.int w))
  | extr_c u v => .sets (Zig.newNodeWw .extr_c (.int u) (.int v))
  | extr_uc u v => .sets (Zig.newNodeWw .extr_uc (.int u) (.int v))
  | extr_s u v => .sets (Zig.newNodeWw .extr_s (.int u) (.int v))
  | extr_us u v => .sets (Zig.newNodeWw .extr_us (.int u) (.int v))
  | extr_i u v => .sets (Zig.newNodeWw .extr_i (.int u) (.int v))
  | extr_ui u v => .sets (Zig.newNodeWw .extr_ui (.int u) (.int v))
  | exti_c u v => .sets (Zig.newNodeWw .exti_c (.int u) (.word v))
  | exti_uc u v => .sets (Zig.newNodeWw .exti_uc (.int u) (.word v))
  | exti_s u v => .sets (Zig.newNodeWw .exti_s (.int u) (.word v))
  | exti_us u v => .sets (Zig.newNodeWw .exti_us (.int u) (.word v))
  | exti_i u v => .sets (Zig.newNodeWw .exti_i (.int u) (.word v))
  | exti_ui u v => .sets (Zig.newNodeWw .exti_ui (.int u) (.word v))
  | extr u v lsb len => .sets (Zig.newNodeWwq .extr (.int u) (.int v) (.int lsb) (.int len))
  | extr_u u v lsb len => .sets (Zig.newNodeWwq .extr_u (.int u) (.int v) (.int lsb) (.int len))
  | exti u v lsb len => .sets (Zig.newNodeWwq .exti (.int u) (.word v) (.int lsb) (.int len))
  | exti_u u v lsb len => .sets (Zig.newNodeWwq .exti_u (.int u) (.word v) (.int lsb) (.int len))
  | depr u v lsb len => .sets (Zig.newNodeWwq .depr (.int u) (.int v) (.int lsb) (.int len))
  | depi u v lsb len => .sets (Zig.newNodeWwq .depi (.int u) (.word v) (.int lsb) (.int len))
  | casr u v lo hi => .sets (Zig.newNodeWwq .casr (.int u) (.int v) (.int lo) (.int hi))
  | casi u v lo hi => .sets (Zig.newNodeWwq .casi (.int u) (.intCast v) (.int lo) (.int hi))
  | bswapr_us u v => .sets (Zig.newNodeWw .bswapr_us (.int u) (.int v))
  | bswapi_us u v => .sets (Zig.newNodeWw .bswapi_us (.int u) (.word v))
  | bswapr_ui u v => .sets (Zig.newNodeWw .bswapr_ui (.int u) (.int v))
  | bswapi_ui u v => .sets (Zig.newNodeWw .bswapi_ui (.int u) (.word v))
  | bswapr_ul u v => .sets (Zig.newNodeWw .bswapr_ul (.int u) (.int v))
  | bswapi_ul u v => .sets (Zig.newNodeWw .bswapi_ul (.int u) (.word v))
  | htonr_us u v => .sets (Zig.newNodeWw .htonr_us (.int u) (.int v))
  | htoni_us u v => .sets (Zig.newNodeWw .htoni_us (.int u) (.word v))
  | htonr_ui u v => .sets (Zig.newNodeWw .htonr_ui (.int u) (.int v))
  | htoni_ui u v => .sets (Zig.newNodeWw .htoni_ui (.int u) (.word v))
  | htonr_ul u v => .sets (Zig.newNodeWw .htonr_ul (.int u) (.int v))
  | htoni_ul u v => .sets (Zig.newNodeWw .htoni_ul (.int u) (.word v))

/-- The macros of the same names. -/
def expansion : Move W → NewNode W
  | movr u v => .ww .movr u v
  | movi u v => .ww .movi u v
  | movnr u v w => .www .movnr u v w
  | movzr u v w => .www .movzr u v w
  | extr_c u v => .ww .extr_c u v
  | extr_uc u v => .ww .extr_uc u v
  | extr_s u v => .ww .extr_s u v
  | extr_us u v => .ww .extr_us u v
  | extr_i u v => .ww .extr_i u v
  | extr_ui u v => .ww .extr_ui u v
  | exti_c u v => .ww .exti_c u v
  | exti_uc u v => .ww .exti_uc u v
  | exti_s u v => .ww .exti_s u v
  | exti_us u v => .ww .exti_us u v
  | exti_i u v => .ww .exti_i u v
  | exti_ui u v => .ww .exti_ui u v
  | extr u v lsb len => .wwq .extr u v lsb len
  | extr_u u v lsb len => .wwq .extr_u u v lsb len
  | exti u v lsb len => .wwq .exti u v lsb len
  | exti_u u v lsb len => .wwq .exti_u u v lsb len
  | depr u v lsb len => .wwq .depr u v lsb len
  | depi u v lsb len => .wwq .depi u v lsb len
  | casr u v lo hi => .wwq .casr u v lo hi
  | casi u v lo hi => .wwq .casi u (castWord v) lo hi
  | bswapr_us u v => .ww .bswapr_us u v
  | bswapi_us u v => .ww .bswapi_us u v
  | bswapr_ui u v => .ww .bswapr_ui u v
  | bswapi_ui u v => .ww .bswapi_ui u v
  | bswapr_ul u v => .ww .bswapr_ul u v
  | bswapi_ul u v => .ww .bswapi_ul u v
  | htonr_us u v => .ww .htonr_us u v
  | htoni_us u v => .ww .htoni_us u v
  | htonr_ui u v => .ww .htonr_ui u v
  | htoni_ui u v => .ww .htoni_ui u v
  | htonr_ul u v => .ww .htonr_ul u v
  | htoni_ul u v => .ww .htoni_ul u v

/-- The macros the header defines for 64-bit words only. -/
def wide : Move W → Bool
  | extr_i _ _ | extr_ui _ _ | exti_i _ _ | exti_ui _ _ | bswapr_ul _ _ | bswapi_ul _ _
  | htonr_ul _ _ | htoni_ul _ _ => true
  | _ => false

/-- The address operand. -/
def immediate : Move W → Option (Immediate W)
  | casi _ v _ _ => some { address := v, slot := .v, cast := true }
  | _ => none

end Move

end Zjit
