import Zjit.Wrapper

/-!
# Floating point instructions

The methods that append a floating point instruction.
-/
namespace Zjit

variable {W : WordSize}

/-- `f32` arithmetic, conversions, comparisons, memory access and branches. -/
inductive FloatF (W : WordSize)
  | addr_f (u v w : Fpr)
  | subr_f (u v w : Fpr)
  | mulr_f (u v w : Fpr)
  | divr_f (u v w : Fpr)
  | negr_f (u v : Fpr)
  | absr_f (u v : Fpr)
  | sqrtr_f (u v : Fpr)
  | movr_f (u v : Fpr)
  | movi_f (u : Fpr) (v : Float32Bits)
  | extr_f (u : Fpr) (v : Gpr)
  | extr_d_f (u v : Fpr)
  | truncr_f_i (u : Gpr) (v : Fpr)
  | truncr_f_l (u : Gpr) (v : Fpr)
  | ltr_f (u : Gpr) (v w : Fpr)
  | ler_f (u : Gpr) (v w : Fpr)
  | eqr_f (u : Gpr) (v w : Fpr)
  | ger_f (u : Gpr) (v w : Fpr)
  | gtr_f (u : Gpr) (v w : Fpr)
  | ner_f (u : Gpr) (v w : Fpr)
  | ldr_f (u : Fpr) (v : Gpr)
  | ldi_f (u : Fpr) (v : Pointer W)
  | ldxr_f (u : Fpr) (v w : Gpr)
  | ldxi_f (u : Fpr) (v : Gpr) (w : Word W)
  | str_f (u : Gpr) (v : Fpr)
  | sti_f (u : Pointer W) (v : Fpr)
  | stxr_f (u v : Gpr) (w : Fpr)
  | stxi_f (u : Word W) (v : Gpr) (w : Fpr)
  | bltr_f (v w : Fpr)
  | bler_f (v w : Fpr)
  | beqr_f (v w : Fpr)
  | bger_f (v w : Fpr)
  | bgtr_f (v w : Fpr)
  | bner_f (v w : Fpr)
  | bunordr_f (v w : Fpr)

namespace FloatF

/-- The method bodies. -/
def wrapper : FloatF W → Wrapper W
  | addr_f u v w => .sets (Zig.newNodeWww .addr_f (.int u) (.int v) (.int w))
  | subr_f u v w => .sets (Zig.newNodeWww .subr_f (.int u) (.int v) (.int w))
  | mulr_f u v w => .sets (Zig.newNodeWww .mulr_f (.int u) (.int v) (.int w))
  | divr_f u v w => .sets (Zig.newNodeWww .divr_f (.int u) (.int v) (.int w))
  | negr_f u v => .sets (Zig.newNodeWw .negr_f (.int u) (.int v))
  | absr_f u v => .sets (Zig.newNodeWw .absr_f (.int u) (.int v))
  | sqrtr_f u v => .sets (Zig.newNodeWw .sqrtr_f (.int u) (.int v))
  | movr_f u v => .sets (Zig.newNodeWw .movr_f (.int u) (.int v))
  | movi_f u v => .sets (Zig.newNodeWf .movi_f (.int u) (.f32 v))
  | extr_f u v => .sets (Zig.newNodeWw .extr_f (.int u) (.int v))
  | extr_d_f u v => .sets (Zig.newNodeWw .extr_d_f (.int u) (.int v))
  | truncr_f_i u v => .sets (Zig.newNodeWw .truncr_f_i (.int u) (.int v))
  | truncr_f_l u v => .sets (Zig.newNodeWw .truncr_f_l (.int u) (.int v))
  | ltr_f u v w => .sets (Zig.newNodeWww .ltr_f (.int u) (.int v) (.int w))
  | ler_f u v w => .sets (Zig.newNodeWww .ler_f (.int u) (.int v) (.int w))
  | eqr_f u v w => .sets (Zig.newNodeWww .eqr_f (.int u) (.int v) (.int w))
  | ger_f u v w => .sets (Zig.newNodeWww .ger_f (.int u) (.int v) (.int w))
  | gtr_f u v w => .sets (Zig.newNodeWww .gtr_f (.int u) (.int v) (.int w))
  | ner_f u v w => .sets (Zig.newNodeWww .ner_f (.int u) (.int v) (.int w))
  | ldr_f u v => .sets (Zig.newNodeWw .ldr_f (.int u) (.int v))
  | ldi_f u v => .sets (Zig.newNodeWp .ldi_f (.int u) (.pointer v))
  | ldxr_f u v w => .sets (Zig.newNodeWww .ldxr_f (.int u) (.int v) (.int w))
  | ldxi_f u v w => .sets (Zig.newNodeWww .ldxi_f (.int u) (.int v) (.word w))
  | str_f u v => .sets (Zig.newNodeWw .str_f (.int u) (.int v))
  | sti_f u v => .sets (Zig.newNodePw .sti_f (.pointer u) (.int v))
  | stxr_f u v w => .sets (Zig.newNodeWww .stxr_f (.int u) (.int v) (.int w))
  | stxi_f u v w => .sets (Zig.newNodeWww .stxi_f (.word u) (.int v) (.int w))
  | bltr_f v w => .returns (Zig.newNodePww .bltr_f .null (.int v) (.int w))
  | bler_f v w => .returns (Zig.newNodePww .bler_f .null (.int v) (.int w))
  | beqr_f v w => .returns (Zig.newNodePww .beqr_f .null (.int v) (.int w))
  | bger_f v w => .returns (Zig.newNodePww .bger_f .null (.int v) (.int w))
  | bgtr_f v w => .returns (Zig.newNodePww .bgtr_f .null (.int v) (.int w))
  | bner_f v w => .returns (Zig.newNodePww .bner_f .null (.int v) (.int w))
  | bunordr_f v w => .returns (Zig.newNodePww .bunordr_f .null (.int v) (.int w))

/-- The macros of the same names. -/
def expansion : FloatF W → NewNode W
  | addr_f u v w => .www .addr_f u v w
  | subr_f u v w => .www .subr_f u v w
  | mulr_f u v w => .www .mulr_f u v w
  | divr_f u v w => .www .divr_f u v w
  | negr_f u v => .ww .negr_f u v
  | absr_f u v => .ww .absr_f u v
  | sqrtr_f u v => .ww .sqrtr_f u v
  | movr_f u v => .ww .movr_f u v
  | movi_f u v => .wf .movi_f u v
  | extr_f u v => .ww .extr_f u v
  | extr_d_f u v => .ww .extr_d_f u v
  | truncr_f_i u v => .ww .truncr_f_i u v
  | truncr_f_l u v => .ww .truncr_f_l u v
  | ltr_f u v w => .www .ltr_f u v w
  | ler_f u v w => .www .ler_f u v w
  | eqr_f u v w => .www .eqr_f u v w
  | ger_f u v w => .www .ger_f u v w
  | gtr_f u v w => .www .gtr_f u v w
  | ner_f u v w => .www .ner_f u v w
  | ldr_f u v => .ww .ldr_f u v
  | ldi_f u v => .wp .ldi_f u v
  | ldxr_f u v w => .www .ldxr_f u v w
  | ldxi_f u v w => .www .ldxi_f u v w
  | str_f u v => .ww .str_f u v
  | sti_f u v => .pw .sti_f u v
  | stxr_f u v w => .www .stxr_f u v w
  | stxi_f u v w => .www .stxi_f u v w
  | bltr_f v w => .pww .bltr_f 0 v w
  | bler_f v w => .pww .bler_f 0 v w
  | beqr_f v w => .pww .beqr_f 0 v w
  | bger_f v w => .pww .bger_f 0 v w
  | bgtr_f v w => .pww .bgtr_f 0 v w
  | bner_f v w => .pww .bner_f 0 v w
  | bunordr_f v w => .pww .bunordr_f 0 v w

/-- The macros the header defines for 64-bit words only. -/
def wide : FloatF W → Bool
  | truncr_f_l _ _ => true
  | _ => false

/-- The address operand. -/
def immediate : FloatF W → Option (Immediate W)
  | ldi_f _ v => some { address := v, slot := .v, cast := false }
  | sti_f u _ => some { address := u, slot := .u, cast := false }
  | _ => none

end FloatF

/-- `f64` arithmetic, conversions, comparisons, memory access and branches. -/
inductive FloatD (W : WordSize)
  | addr_d (u v w : Fpr)
  | subr_d (u v w : Fpr)
  | mulr_d (u v w : Fpr)
  | divr_d (u v w : Fpr)
  | negr_d (u v : Fpr)
  | absr_d (u v : Fpr)
  | sqrtr_d (u v : Fpr)
  | movr_d (u v : Fpr)
  | movi_d (u : Fpr) (v : Float64Bits)
  | extr_d (u : Fpr) (v : Gpr)
  | extr_f_d (u v : Fpr)
  | truncr_d_i (u : Gpr) (v : Fpr)
  | truncr_d_l (u : Gpr) (v : Fpr)
  | ltr_d (u : Gpr) (v w : Fpr)
  | ler_d (u : Gpr) (v w : Fpr)
  | eqr_d (u : Gpr) (v w : Fpr)
  | ger_d (u : Gpr) (v w : Fpr)
  | gtr_d (u : Gpr) (v w : Fpr)
  | ner_d (u : Gpr) (v w : Fpr)
  | ldr_d (u : Fpr) (v : Gpr)
  | ldi_d (u : Fpr) (v : Pointer W)
  | ldxr_d (u : Fpr) (v w : Gpr)
  | ldxi_d (u : Fpr) (v : Gpr) (w : Word W)
  | str_d (u : Gpr) (v : Fpr)
  | sti_d (u : Pointer W) (v : Fpr)
  | stxr_d (u v : Gpr) (w : Fpr)
  | stxi_d (u : Word W) (v : Gpr) (w : Fpr)
  | bltr_d (v w : Fpr)
  | bler_d (v w : Fpr)
  | beqr_d (v w : Fpr)
  | bger_d (v w : Fpr)
  | bgtr_d (v w : Fpr)
  | bner_d (v w : Fpr)
  | bunordr_d (v w : Fpr)

namespace FloatD

/-- The method bodies. -/
def wrapper : FloatD W → Wrapper W
  | addr_d u v w => .sets (Zig.newNodeWww .addr_d (.int u) (.int v) (.int w))
  | subr_d u v w => .sets (Zig.newNodeWww .subr_d (.int u) (.int v) (.int w))
  | mulr_d u v w => .sets (Zig.newNodeWww .mulr_d (.int u) (.int v) (.int w))
  | divr_d u v w => .sets (Zig.newNodeWww .divr_d (.int u) (.int v) (.int w))
  | negr_d u v => .sets (Zig.newNodeWw .negr_d (.int u) (.int v))
  | absr_d u v => .sets (Zig.newNodeWw .absr_d (.int u) (.int v))
  | sqrtr_d u v => .sets (Zig.newNodeWw .sqrtr_d (.int u) (.int v))
  | movr_d u v => .sets (Zig.newNodeWw .movr_d (.int u) (.int v))
  | movi_d u v => .sets (Zig.newNodeWd .movi_d (.int u) (.f64 v))
  | extr_d u v => .sets (Zig.newNodeWw .extr_d (.int u) (.int v))
  | extr_f_d u v => .sets (Zig.newNodeWw .extr_f_d (.int u) (.int v))
  | truncr_d_i u v => .sets (Zig.newNodeWw .truncr_d_i (.int u) (.int v))
  | truncr_d_l u v => .sets (Zig.newNodeWw .truncr_d_l (.int u) (.int v))
  | ltr_d u v w => .sets (Zig.newNodeWww .ltr_d (.int u) (.int v) (.int w))
  | ler_d u v w => .sets (Zig.newNodeWww .ler_d (.int u) (.int v) (.int w))
  | eqr_d u v w => .sets (Zig.newNodeWww .eqr_d (.int u) (.int v) (.int w))
  | ger_d u v w => .sets (Zig.newNodeWww .ger_d (.int u) (.int v) (.int w))
  | gtr_d u v w => .sets (Zig.newNodeWww .gtr_d (.int u) (.int v) (.int w))
  | ner_d u v w => .sets (Zig.newNodeWww .ner_d (.int u) (.int v) (.int w))
  | ldr_d u v => .sets (Zig.newNodeWw .ldr_d (.int u) (.int v))
  | ldi_d u v => .sets (Zig.newNodeWp .ldi_d (.int u) (.pointer v))
  | ldxr_d u v w => .sets (Zig.newNodeWww .ldxr_d (.int u) (.int v) (.int w))
  | ldxi_d u v w => .sets (Zig.newNodeWww .ldxi_d (.int u) (.int v) (.word w))
  | str_d u v => .sets (Zig.newNodeWw .str_d (.int u) (.int v))
  | sti_d u v => .sets (Zig.newNodePw .sti_d (.pointer u) (.int v))
  | stxr_d u v w => .sets (Zig.newNodeWww .stxr_d (.int u) (.int v) (.int w))
  | stxi_d u v w => .sets (Zig.newNodeWww .stxi_d (.word u) (.int v) (.int w))
  | bltr_d v w => .returns (Zig.newNodePww .bltr_d .null (.int v) (.int w))
  | bler_d v w => .returns (Zig.newNodePww .bler_d .null (.int v) (.int w))
  | beqr_d v w => .returns (Zig.newNodePww .beqr_d .null (.int v) (.int w))
  | bger_d v w => .returns (Zig.newNodePww .bger_d .null (.int v) (.int w))
  | bgtr_d v w => .returns (Zig.newNodePww .bgtr_d .null (.int v) (.int w))
  | bner_d v w => .returns (Zig.newNodePww .bner_d .null (.int v) (.int w))
  | bunordr_d v w => .returns (Zig.newNodePww .bunordr_d .null (.int v) (.int w))

/-- The macros of the same names. -/
def expansion : FloatD W → NewNode W
  | addr_d u v w => .www .addr_d u v w
  | subr_d u v w => .www .subr_d u v w
  | mulr_d u v w => .www .mulr_d u v w
  | divr_d u v w => .www .divr_d u v w
  | negr_d u v => .ww .negr_d u v
  | absr_d u v => .ww .absr_d u v
  | sqrtr_d u v => .ww .sqrtr_d u v
  | movr_d u v => .ww .movr_d u v
  | movi_d u v => .wd .movi_d u v
  | extr_d u v => .ww .extr_d u v
  | extr_f_d u v => .ww .extr_f_d u v
  | truncr_d_i u v => .ww .truncr_d_i u v
  | truncr_d_l u v => .ww .truncr_d_l u v
  | ltr_d u v w => .www .ltr_d u v w
  | ler_d u v w => .www .ler_d u v w
  | eqr_d u v w => .www .eqr_d u v w
  | ger_d u v w => .www .ger_d u v w
  | gtr_d u v w => .www .gtr_d u v w
  | ner_d u v w => .www .ner_d u v w
  | ldr_d u v => .ww .ldr_d u v
  | ldi_d u v => .wp .ldi_d u v
  | ldxr_d u v w => .www .ldxr_d u v w
  | ldxi_d u v w => .www .ldxi_d u v w
  | str_d u v => .ww .str_d u v
  | sti_d u v => .pw .sti_d u v
  | stxr_d u v w => .www .stxr_d u v w
  | stxi_d u v w => .www .stxi_d u v w
  | bltr_d v w => .pww .bltr_d 0 v w
  | bler_d v w => .pww .bler_d 0 v w
  | beqr_d v w => .pww .beqr_d 0 v w
  | bger_d v w => .pww .bger_d 0 v w
  | bgtr_d v w => .pww .bgtr_d 0 v w
  | bner_d v w => .pww .bner_d 0 v w
  | bunordr_d v w => .pww .bunordr_d 0 v w

/-- The macros the header defines for 64-bit words only. -/
def wide : FloatD W → Bool
  | truncr_d_l _ _ => true
  | _ => false

/-- The address operand. -/
def immediate : FloatD W → Option (Immediate W)
  | ldi_d _ v => some { address := v, slot := .v, cast := false }
  | sti_d u _ => some { address := u, slot := .u, cast := false }
  | _ => none

end FloatD

/-- `f32` operations and comparisons with an immediate. -/
inductive ImmF (W : WordSize)
  | addi_f (u v : Fpr) (w : Float32Bits)
  | subi_f (u v : Fpr) (w : Float32Bits)
  | rsbi_f (u v : Fpr) (w : Float32Bits)
  | muli_f (u v : Fpr) (w : Float32Bits)
  | divi_f (u v : Fpr) (w : Float32Bits)
  | lti_f (u : Gpr) (v : Fpr) (w : Float32Bits)
  | lei_f (u : Gpr) (v : Fpr) (w : Float32Bits)
  | eqi_f (u : Gpr) (v : Fpr) (w : Float32Bits)
  | gei_f (u : Gpr) (v : Fpr) (w : Float32Bits)
  | gti_f (u : Gpr) (v : Fpr) (w : Float32Bits)
  | nei_f (u : Gpr) (v : Fpr) (w : Float32Bits)
  | unltr_f (u : Gpr) (v w : Fpr)
  | unlti_f (u : Gpr) (v : Fpr) (w : Float32Bits)
  | unler_f (u : Gpr) (v w : Fpr)
  | unlei_f (u : Gpr) (v : Fpr) (w : Float32Bits)
  | uneqr_f (u : Gpr) (v w : Fpr)
  | uneqi_f (u : Gpr) (v : Fpr) (w : Float32Bits)
  | unger_f (u : Gpr) (v w : Fpr)
  | ungei_f (u : Gpr) (v : Fpr) (w : Float32Bits)
  | ungtr_f (u : Gpr) (v w : Fpr)
  | ungti_f (u : Gpr) (v : Fpr) (w : Float32Bits)
  | ltgtr_f (u : Gpr) (v w : Fpr)
  | ltgti_f (u : Gpr) (v : Fpr) (w : Float32Bits)
  | ordr_f (u : Gpr) (v w : Fpr)
  | ordi_f (u : Gpr) (v : Fpr) (w : Float32Bits)
  | unordi_f (u : Gpr) (v : Fpr) (w : Float32Bits)
  | unordr_f (u : Gpr) (v w : Fpr)

namespace ImmF

/-- The method bodies. -/
def wrapper : ImmF W → Wrapper W
  | addi_f u v w => .sets (Zig.newNodeWwf .addi_f (.int u) (.int v) (.f32 w))
  | subi_f u v w => .sets (Zig.newNodeWwf .subi_f (.int u) (.int v) (.f32 w))
  | rsbi_f u v w => .sets (Zig.newNodeWwf .rsbi_f (.int u) (.int v) (.f32 w))
  | muli_f u v w => .sets (Zig.newNodeWwf .muli_f (.int u) (.int v) (.f32 w))
  | divi_f u v w => .sets (Zig.newNodeWwf .divi_f (.int u) (.int v) (.f32 w))
  | lti_f u v w => .sets (Zig.newNodeWwf .lti_f (.int u) (.int v) (.f32 w))
  | lei_f u v w => .sets (Zig.newNodeWwf .lei_f (.int u) (.int v) (.f32 w))
  | eqi_f u v w => .sets (Zig.newNodeWwf .eqi_f (.int u) (.int v) (.f32 w))
  | gei_f u v w => .sets (Zig.newNodeWwf .gei_f (.int u) (.int v) (.f32 w))
  | gti_f u v w => .sets (Zig.newNodeWwf .gti_f (.int u) (.int v) (.f32 w))
  | nei_f u v w => .sets (Zig.newNodeWwf .nei_f (.int u) (.int v) (.f32 w))
  | unltr_f u v w => .sets (Zig.newNodeWww .unltr_f (.int u) (.int v) (.int w))
  | unlti_f u v w => .sets (Zig.newNodeWwf .unlti_f (.int u) (.int v) (.f32 w))
  | unler_f u v w => .sets (Zig.newNodeWww .unler_f (.int u) (.int v) (.int w))
  | unlei_f u v w => .sets (Zig.newNodeWwf .unlei_f (.int u) (.int v) (.f32 w))
  | uneqr_f u v w => .sets (Zig.newNodeWww .uneqr_f (.int u) (.int v) (.int w))
  | uneqi_f u v w => .sets (Zig.newNodeWwf .uneqi_f (.int u) (.int v) (.f32 w))
  | unger_f u v w => .sets (Zig.newNodeWww .unger_f (.int u) (.int v) (.int w))
  | ungei_f u v w => .sets (Zig.newNodeWwf .ungei_f (.int u) (.int v) (.f32 w))
  | ungtr_f u v w => .sets (Zig.newNodeWww .ungtr_f (.int u) (.int v) (.int w))
  | ungti_f u v w => .sets (Zig.newNodeWwf .ungti_f (.int u) (.int v) (.f32 w))
  | ltgtr_f u v w => .sets (Zig.newNodeWww .ltgtr_f (.int u) (.int v) (.int w))
  | ltgti_f u v w => .sets (Zig.newNodeWwf .ltgti_f (.int u) (.int v) (.f32 w))
  | ordr_f u v w => .sets (Zig.newNodeWww .ordr_f (.int u) (.int v) (.int w))
  | ordi_f u v w => .sets (Zig.newNodeWwf .ordi_f (.int u) (.int v) (.f32 w))
  | unordi_f u v w => .sets (Zig.newNodeWwf .unordi_f (.int u) (.int v) (.f32 w))
  | unordr_f u v w => .sets (Zig.newNodeWww .unordr_f (.int u) (.int v) (.int w))

/-- The macros of the same names. -/
def expansion : ImmF W → NewNode W
  | addi_f u v w => .wwf .addi_f u v w
  | subi_f u v w => .wwf .subi_f u v w
  | rsbi_f u v w => .wwf .rsbi_f u v w
  | muli_f u v w => .wwf .muli_f u v w
  | divi_f u v w => .wwf .divi_f u v w
  | lti_f u v w => .wwf .lti_f u v w
  | lei_f u v w => .wwf .lei_f u v w
  | eqi_f u v w => .wwf .eqi_f u v w
  | gei_f u v w => .wwf .gei_f u v w
  | gti_f u v w => .wwf .gti_f u v w
  | nei_f u v w => .wwf .nei_f u v w
  | unltr_f u v w => .www .unltr_f u v w
  | unlti_f u v w => .wwf .unlti_f u v w
  | unler_f u v w => .www .unler_f u v w
  | unlei_f u v w => .wwf .unlei_f u v w
  | uneqr_f u v w => .www .uneqr_f u v w
  | uneqi_f u v w => .wwf .uneqi_f u v w
  | unger_f u v w => .www .unger_f u v w
  | ungei_f u v w => .wwf .ungei_f u v w
  | ungtr_f u v w => .www .ungtr_f u v w
  | ungti_f u v w => .wwf .ungti_f u v w
  | ltgtr_f u v w => .www .ltgtr_f u v w
  | ltgti_f u v w => .wwf .ltgti_f u v w
  | ordr_f u v w => .www .ordr_f u v w
  | ordi_f u v w => .wwf .ordi_f u v w
  | unordi_f u v w => .wwf .unordi_f u v w
  | unordr_f u v w => .www .unordr_f u v w

end ImmF

/-- `f64` operations and comparisons with an immediate. -/
inductive ImmD (W : WordSize)
  | addi_d (u v : Fpr) (w : Float64Bits)
  | subi_d (u v : Fpr) (w : Float64Bits)
  | rsbi_d (u v : Fpr) (w : Float64Bits)
  | muli_d (u v : Fpr) (w : Float64Bits)
  | divi_d (u v : Fpr) (w : Float64Bits)
  | lti_d (u : Gpr) (v : Fpr) (w : Float64Bits)
  | lei_d (u : Gpr) (v : Fpr) (w : Float64Bits)
  | eqi_d (u : Gpr) (v : Fpr) (w : Float64Bits)
  | gei_d (u : Gpr) (v : Fpr) (w : Float64Bits)
  | gti_d (u : Gpr) (v : Fpr) (w : Float64Bits)
  | nei_d (u : Gpr) (v : Fpr) (w : Float64Bits)
  | unltr_d (u : Gpr) (v w : Fpr)
  | unlti_d (u : Gpr) (v : Fpr) (w : Float64Bits)
  | unler_d (u : Gpr) (v w : Fpr)
  | unlei_d (u : Gpr) (v : Fpr) (w : Float64Bits)
  | uneqr_d (u : Gpr) (v w : Fpr)
  | uneqi_d (u : Gpr) (v : Fpr) (w : Float64Bits)
  | unger_d (u : Gpr) (v w : Fpr)
  | ungei_d (u : Gpr) (v : Fpr) (w : Float64Bits)
  | ungtr_d (u : Gpr) (v w : Fpr)
  | ungti_d (u : Gpr) (v : Fpr) (w : Float64Bits)
  | ltgtr_d (u : Gpr) (v w : Fpr)
  | ltgti_d (u : Gpr) (v : Fpr) (w : Float64Bits)
  | ordr_d (u : Gpr) (v w : Fpr)
  | ordi_d (u : Gpr) (v : Fpr) (w : Float64Bits)
  | unordi_d (u : Gpr) (v : Fpr) (w : Float64Bits)
  | unordr_d (u : Gpr) (v w : Fpr)

namespace ImmD

/-- The method bodies. -/
def wrapper : ImmD W → Wrapper W
  | addi_d u v w => .sets (Zig.newNodeWwd .addi_d (.int u) (.int v) (.f64 w))
  | subi_d u v w => .sets (Zig.newNodeWwd .subi_d (.int u) (.int v) (.f64 w))
  | rsbi_d u v w => .sets (Zig.newNodeWwd .rsbi_d (.int u) (.int v) (.f64 w))
  | muli_d u v w => .sets (Zig.newNodeWwd .muli_d (.int u) (.int v) (.f64 w))
  | divi_d u v w => .sets (Zig.newNodeWwd .divi_d (.int u) (.int v) (.f64 w))
  | lti_d u v w => .sets (Zig.newNodeWwd .lti_d (.int u) (.int v) (.f64 w))
  | lei_d u v w => .sets (Zig.newNodeWwd .lei_d (.int u) (.int v) (.f64 w))
  | eqi_d u v w => .sets (Zig.newNodeWwd .eqi_d (.int u) (.int v) (.f64 w))
  | gei_d u v w => .sets (Zig.newNodeWwd .gei_d (.int u) (.int v) (.f64 w))
  | gti_d u v w => .sets (Zig.newNodeWwd .gti_d (.int u) (.int v) (.f64 w))
  | nei_d u v w => .sets (Zig.newNodeWwd .nei_d (.int u) (.int v) (.f64 w))
  | unltr_d u v w => .sets (Zig.newNodeWww .unltr_d (.int u) (.int v) (.int w))
  | unlti_d u v w => .sets (Zig.newNodeWwd .unlti_d (.int u) (.int v) (.f64 w))
  | unler_d u v w => .sets (Zig.newNodeWww .unler_d (.int u) (.int v) (.int w))
  | unlei_d u v w => .sets (Zig.newNodeWwd .unlei_d (.int u) (.int v) (.f64 w))
  | uneqr_d u v w => .sets (Zig.newNodeWww .uneqr_d (.int u) (.int v) (.int w))
  | uneqi_d u v w => .sets (Zig.newNodeWwd .uneqi_d (.int u) (.int v) (.f64 w))
  | unger_d u v w => .sets (Zig.newNodeWww .unger_d (.int u) (.int v) (.int w))
  | ungei_d u v w => .sets (Zig.newNodeWwd .ungei_d (.int u) (.int v) (.f64 w))
  | ungtr_d u v w => .sets (Zig.newNodeWww .ungtr_d (.int u) (.int v) (.int w))
  | ungti_d u v w => .sets (Zig.newNodeWwd .ungti_d (.int u) (.int v) (.f64 w))
  | ltgtr_d u v w => .sets (Zig.newNodeWww .ltgtr_d (.int u) (.int v) (.int w))
  | ltgti_d u v w => .sets (Zig.newNodeWwd .ltgti_d (.int u) (.int v) (.f64 w))
  | ordr_d u v w => .sets (Zig.newNodeWww .ordr_d (.int u) (.int v) (.int w))
  | ordi_d u v w => .sets (Zig.newNodeWwd .ordi_d (.int u) (.int v) (.f64 w))
  | unordi_d u v w => .sets (Zig.newNodeWwd .unordi_d (.int u) (.int v) (.f64 w))
  | unordr_d u v w => .sets (Zig.newNodeWww .unordr_d (.int u) (.int v) (.int w))

/-- The macros of the same names. -/
def expansion : ImmD W → NewNode W
  | addi_d u v w => .wwd .addi_d u v w
  | subi_d u v w => .wwd .subi_d u v w
  | rsbi_d u v w => .wwd .rsbi_d u v w
  | muli_d u v w => .wwd .muli_d u v w
  | divi_d u v w => .wwd .divi_d u v w
  | lti_d u v w => .wwd .lti_d u v w
  | lei_d u v w => .wwd .lei_d u v w
  | eqi_d u v w => .wwd .eqi_d u v w
  | gei_d u v w => .wwd .gei_d u v w
  | gti_d u v w => .wwd .gti_d u v w
  | nei_d u v w => .wwd .nei_d u v w
  | unltr_d u v w => .www .unltr_d u v w
  | unlti_d u v w => .wwd .unlti_d u v w
  | unler_d u v w => .www .unler_d u v w
  | unlei_d u v w => .wwd .unlei_d u v w
  | uneqr_d u v w => .www .uneqr_d u v w
  | uneqi_d u v w => .wwd .uneqi_d u v w
  | unger_d u v w => .www .unger_d u v w
  | ungei_d u v w => .wwd .ungei_d u v w
  | ungtr_d u v w => .www .ungtr_d u v w
  | ungti_d u v w => .wwd .ungti_d u v w
  | ltgtr_d u v w => .www .ltgtr_d u v w
  | ltgti_d u v w => .wwd .ltgti_d u v w
  | ordr_d u v w => .www .ordr_d u v w
  | ordi_d u v w => .wwd .ordi_d u v w
  | unordi_d u v w => .wwd .unordi_d u v w
  | unordr_d u v w => .www .unordr_d u v w

end ImmD

/-- Fused multiply and add. -/
inductive Fused (W : WordSize)
  | fmar_f (u v w x : Fpr)
  | fmsr_f (u v w x : Fpr)
  | fnmar_f (u v w x : Fpr)
  | fnmsr_f (u v w x : Fpr)
  | fmar_d (u v w x : Fpr)
  | fmsr_d (u v w x : Fpr)
  | fnmar_d (u v w x : Fpr)
  | fnmsr_d (u v w x : Fpr)

namespace Fused

/-- The method bodies. -/
def wrapper : Fused W → Wrapper W
  | fmar_f u v w x => .sets (Zig.newNodeWqw .fmar_f (.int u) (.int v) (.int w) (.int x))
  | fmsr_f u v w x => .sets (Zig.newNodeWqw .fmsr_f (.int u) (.int v) (.int w) (.int x))
  | fnmar_f u v w x => .sets (Zig.newNodeWqw .fnmar_f (.int u) (.int v) (.int w) (.int x))
  | fnmsr_f u v w x => .sets (Zig.newNodeWqw .fnmsr_f (.int u) (.int v) (.int w) (.int x))
  | fmar_d u v w x => .sets (Zig.newNodeWqw .fmar_d (.int u) (.int v) (.int w) (.int x))
  | fmsr_d u v w x => .sets (Zig.newNodeWqw .fmsr_d (.int u) (.int v) (.int w) (.int x))
  | fnmar_d u v w x => .sets (Zig.newNodeWqw .fnmar_d (.int u) (.int v) (.int w) (.int x))
  | fnmsr_d u v w x => .sets (Zig.newNodeWqw .fnmsr_d (.int u) (.int v) (.int w) (.int x))

/-- The macros of the same names. -/
def expansion : Fused W → NewNode W
  | fmar_f u v w x => .wqw .fmar_f u v w x
  | fmsr_f u v w x => .wqw .fmsr_f u v w x
  | fnmar_f u v w x => .wqw .fnmar_f u v w x
  | fnmsr_f u v w x => .wqw .fnmsr_f u v w x
  | fmar_d u v w x => .wqw .fmar_d u v w x
  | fmsr_d u v w x => .wqw .fmsr_d u v w x
  | fnmar_d u v w x => .wqw .fnmar_d u v w x
  | fnmsr_d u v w x => .wqw .fnmsr_d u v w x

end Fused

/-- Moves between integer and float registers. -/
inductive Reinterpret (W : WordSize)
  | movr_w_f (u : Fpr) (v : Gpr)
  | movi_w_f (u : Fpr) (v : Word W)
  | movr_f_w (u : Gpr) (v : Fpr)
  | movi_f_w (u : Gpr) (v : Float32Bits)
  | movr_ww_d (u : Fpr) (v w : Gpr)
  | movi_ww_d (u : Fpr) (v w : Word W)
  | movr_d_ww (u v : Gpr) (w : Fpr)
  | movi_d_ww (u v : Gpr) (w : Float64Bits)
  | movr_w_d (u : Fpr) (v : Gpr)
  | movi_w_d (u : Fpr) (v : Word W)
  | movr_d_w (u : Gpr) (v : Fpr)
  | movi_d_w (u : Gpr) (v : Float64Bits)

namespace Reinterpret

/-- The method bodies. -/
def wrapper : Reinterpret W → Wrapper W
  | movr_w_f u v => .sets (Zig.newNodeWw .movr_w_f (.int u) (.int v))
  | movi_w_f u v => .sets (Zig.newNodeWw .movi_w_f (.int u) (.word v))
  | movr_f_w u v => .sets (Zig.newNodeWw .movr_f_w (.int u) (.int v))
  | movi_f_w u v => .sets (Zig.newNodeWwf .movi_f_w (.int u) (.f32 v) .zero)
  | movr_ww_d u v w => .sets (Zig.newNodeWww .movr_ww_d (.int u) (.int v) (.int w))
  | movi_ww_d u v w => .sets (Zig.newNodeWww .movi_ww_d (.int u) (.word v) (.word w))
  | movr_d_ww u v w => .sets (Zig.newNodeWww .movr_d_ww (.int u) (.int v) (.int w))
  | movi_d_ww u v w => .sets (Zig.newNodeWwd .movi_d_ww (.int u) (.int v) (.f64 w))
  | movr_w_d u v => .sets (Zig.newNodeWw .movr_w_d (.int u) (.int v))
  | movi_w_d u v => .sets (Zig.newNodeWw .movi_w_d (.int u) (.word v))
  | movr_d_w u v => .sets (Zig.newNodeWw .movr_d_w (.int u) (.int v))
  | movi_d_w u v => .sets (Zig.newNodeWd .movi_d_w (.int u) (.f64 v))

/-- The macros of the same names. -/
def expansion : Reinterpret W → NewNode W
  | movr_w_f u v => .ww .movr_w_f u v
  | movi_w_f u v => .ww .movi_w_f u v
  | movr_f_w u v => .ww .movr_f_w u v
  | movi_f_w u v => .wf .movi_f_w u v
  | movr_ww_d u v w => .www .movr_ww_d u v w
  | movi_ww_d u v w => .www .movi_ww_d u v w
  | movr_d_ww u v w => .www .movr_d_ww u v w
  | movi_d_ww u v w => .wwd .movi_d_ww u v w
  | movr_w_d u v => .ww .movr_w_d u v
  | movi_w_d u v => .ww .movi_w_d u v
  | movr_d_w u v => .ww .movr_d_w u v
  | movi_d_w u v => .wd .movi_d_w u v

end Reinterpret

end Zjit
