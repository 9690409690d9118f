import Zjit.Wrapper

/-!
# Branches

The methods that append a branch, a jump or a call, with a null target to be patched later.
-/
namespace Zjit

variable {W : WordSize}

/-- Branches and jumps; those to be patched return their node. -/
inductive Branch (W : WordSize)
  | bltr (v w : Gpr)
  | blti (v : Gpr) (w : Word W)
  | bltr_u (v w : Gpr)
  | blti_u (v : Gpr) (w : Word W)
  | bler (v w : Gpr)
  | blei (v : Gpr) (w : Word W)
  | bler_u (v w : Gpr)
  | blei_u (v : Gpr) (w : Word W)
  | beqr (v w : Gpr)
  | beqi (v : Gpr) (w : Word W)
  | bger (v w : Gpr)
  | bgei (v : Gpr) (w : Word W)
  | bger_u (v w : Gpr)
  | bgei_u (v : Gpr) (w : Word W)
  | bgtr (v w : Gpr)
  | bgti (v : Gpr) (w : Word W)
  | bgtr_u (v w : Gpr)
  | bgti_u (v : Gpr) (w : Word W)
  | bner (v w : Gpr)
  | bnei (v : Gpr) (w : Word W)
  | bmsr (v w : Gpr)
  | bmsi (v : Gpr) (w : Word W)
  | bmcr (v w : Gpr)
  | bmci (v : Gpr) (w : Word W)
  | boaddr (v w : Gpr)
  | boaddi (v : Gpr) (w : Word W)
  | boaddr_u (v w : Gpr)
  | boaddi_u (v : Gpr) (w : Word W)
  | bxaddr (v w : Gpr)
  | bxaddi (v : Gpr) (w : Word W)
  | bxaddr_u (v w : Gpr)
  | bxaddi_u (v : Gpr) (w : Word W)
  | bosubr (v w : Gpr)
  | bosubi (v : Gpr) (w : Word W)
  | bosubr_u (v w : Gpr)
  | bosubi_u (v : Gpr) (w : Word W)
  | bxsubr (v w : Gpr)
  | bxsubi (v : Gpr) (w : Word W)
  | bxsubr_u (v w : Gpr)
  | bxsubi_u (v : Gpr) (w : Word W)
  | jmpr (u : Gpr)
  | jmpi
  | callr (u : Gpr)
  | calli (ptr : Pointer W)

namespace Branch

/-- The method bodies. -/
def wrapper : Branch W → Wrapper W
  | bltr v w => .returns (Zig.newNodePww .bltr .null (.int v) (.int w))
  | blti v w => .returns (Zig.newNodePww .blti .null (.int v) (.word w))
  | bltr_u v w => .returns (Zig.newNodePww .bltr_u .null (.int v) (.int w))
  | blti_u v w => .returns (Zig.newNodePww .blti_u .null (.int v) (.word w))
  | bler v w => .returns (Zig.newNodePww .bler .null (.int v) (.int w))
  | blei v w => .returns (Zig.newNodePww .blei .null (.int v) (.word w))
  | bler_u v w => .returns (Zig.newNodePww .bler_u .null (.int v) (.int w))
  | blei_u v w => .returns (Zig.newNodePww .blei_u .null (.int v) (.word w))
  | beqr v w => .returns (Zig.newNodePww .beqr .null (.int v) (.int w))
  | beqi v w => .returns (Zig.newNodePww .beqi .null (.int v) (.word w))
  | bger v w => .returns (Zig.newNodePww .bger .null (.int v) (.int w))
  | bgei v w => .returns (Zig.newNodePww .bgei .null (.int v) (.word w))
  | bger_u v w => .returns (Zig.newNodePww .bger_u .null (.int v) (.int w))
  | bgei_u v w => .returns (Zig.newNodePww .bgei_u .null (.int v) (.word w))
  | bgtr v w => .returns (Zig.newNodePww .bgtr .null (.int v) (.int w))
  | bgti v w => .returns (Zig.newNodePww .bgti .null (.int v) (.word w))
  | bgtr_u v w => .returns (Zig.newNodePww .bgtr_u .null (.int v) (.int w))
  | bgti_u v w => .returns (Zig.newNodePww .bgti_u .null (.int v) (.word w))
  | bner v w => .returns (Zig.newNodePww .bner .null (.int v) (.int w))
  | bnei v w => .returns (Zig.newNodePww .bnei .null (.int v) (.word w))
  | bmsr v w => .returns (Zig.newNodePww .bmsr .null (.int v) (.int w))
  | bmsi v w => .returns (Zig.newNodePww .bmsi .null (.int v) (.word w))
  | bmcr v w => .returns (Zig.newNodePww .bmcr .null (.int v) (.int w))
  | bmci v w => .returns (Zig.newNodePww .bmci .null (.int v) (.word w))
  | boaddr v w => .returns (Zig.newNodePww .boaddr .null (.int v) (.int w))
  | boaddi v w => .returns (Zig.newNodePww .boaddi .null (.int v) (.word w))
  | boaddr_u v w => .returns (Zig.newNodePww .boaddr_u .null (.int v) (.int w))
  | boaddi_u v w => .returns (Zig.newNodePww .boaddi_u .null (.int v) (.word w))
  | bxaddr v w => .returns (Zig.newNodePww .bxaddr .null (.int v) (.int w))
  | bxaddi v w => .returns (Zig.newNodePww .bxaddi .null (.int v) (.word w))
  | bxaddr_u v w => .returns (Zig.newNodePww .bxaddr_u .null (.int v) (.int w))
  | bxaddi_u v w => .returns (Zig.newNodePww .bxaddi_u .null (.int v) (.word w))
  | bosubr v w => .returns (Zig.newNodePww .bosubr .null (.int v) (.int w))
  | bosubi v w => .returns (Zig.newNodePww .bosubi .null (.int v) (.word w))
  | bosubr_u v w => .returns (Zig.newNodePww .bosubr_u .null (.int v) (.int w))
  | bosubi_u v w => .returns (Zig.newNodePww .bosubi_u .null (.int v) (.word w))
  | bxsubr v w => .returns (Zig.newNodePww .bxsubr .null (.int v) (.int w))
  | bxsubi v w => .returns (Zig.newNodePww .bxsubi .null (.int v) (.word w))
  | bxsubr_u v w => .returns (Zig.newNodePww .bxsubr_u .null (.int v) (.int w))
  | bxsubi_u v w => .returns (Zig.newNodePww .bxsubi_u .null (.int v) (.word w))
  | jmpr u => .sets (Zig.newNodeW .jmpr (.int u))
  | jmpi => .returns (Zig.newNodeP .jmpi .null)
  | callr u => .sets (Zig.newNodeW .callr (.int u))
  | calli ptr => .returns (Zig.newNodeP .calli (.pointer ptr))

/-- The macros of the same names. -/
def expansion : Branch W → NewNode W
  | bltr v w => .pww .bltr 0 v w
  | blti v w => .pww .blti 0 v w
  | bltr_u v w => .pww .bltr_u 0 v w
  | blti_u v w => .pww .blti_u 0 v w
  | bler v w => .pww .bler 0 v w
  | blei v w => .pww .blei 0 v w
  | bler_u v w => .pww .bler_u 0 v w
  | blei_u v w => .pww .blei_u 0 v w
  | beqr v w => .pww .beqr 0 v w
  | beqi v w => .pww .beqi 0 v w
  | bger v w => .pww .bger 0 v w
  | bgei v w => .pww .bgei 0 v w
  | bger_u v w => .pww .bger_u 0 v w
  | bgei_u v w => .pww .bgei_u 0 v w
  | bgtr v w => .pww .bgtr 0 v w
  | bgti v w => .pww .bgti 0 v w
  | bgtr_u v w => .pww .bgtr_u 0 v w
  | bgti_u v w => .pww .bgti_u 0 v w
  | bner v w => .pww .bner 0 v w
  | bnei v w => .pww .bnei 0 v w
  | bmsr v w => .pww .bmsr 0 v w
  | bmsi v w => .pww .bmsi 0 v w
  | bmcr v w => .pww .bmcr 0 v w
  | bmci v w => .pww .bmci 0 v w
  | boaddr v w => .pww .boaddr 0 v w
  | boaddi v w => .pww .boaddi 0 v w
  | boaddr_u v w => .pww .boaddr_u 0 v w
  | boaddi_u v w => .pww .boaddi_u 0 v w
  | bxaddr v w => .pww .bxaddr 0 v w
  | bxaddi v w => .pww .bxaddi 0 v w
  | bxaddr_u v w => .pww .bxaddr_u 0 v w
  | bxaddi_u v w => .pww .bxaddi_u 0 v w
  | bosubr v w => .pww .bosubr 0 v w
  | bosubi v w => .pww .bosubi 0 v w
  | bosubr_u v w => .pww .bosubr_u 0 v w
  | bosubi_u v w => .pww .bosubi_u 0 v w
  | bxsubr v w => .pww .bxsubr 0 v w
  | bxsubi v w => .pww .bxsubi 0 v w
  | bxsubr_u v w => .pww .bxsubr_u 0 v w
  | bxsubi_u v w => .pww .bxsubi_u 0 v w
  | jmpr u => .w .jmpr u
  | jmpi => .p .jmpi 0
  | callr u => .w .callr u
  | calli ptr => .p .calli ptr

end Branch

/-- Branches on an `f32` comparison with an immediate or with unordered operands. -/
inductive BranchF (W : WordSize)
  | blti_f (v : Fpr) (w : Float32Bits)
  | blei_f (v : Fpr) (w : Float32Bits)
  | beqi_f (v : Fpr) (w : Float32Bits)
  | bgei_f (v : Fpr) (w : Float32Bits)
  | bgti_f (v : Fpr) (w : Float32Bits)
  | bnei_f (v : Fpr) (w : Float32Bits)
  | bunltr_f (v w : Fpr)
  | bunlti_f (v : Fpr) (w : Float32Bits)
  | bunler_f (v w : Fpr)
  | bunlei_f (v : Fpr) (w : Float32Bits)
  | buneqr_f (v w : Fpr)
  | buneqi_f (v : Fpr) (w : Float32Bits)
  | bunger_f (v w : Fpr)
  | bungei_f (v : Fpr) (w : Float32Bits)
  | bungtr_f (v w : Fpr)
  | bungti_f (v : Fpr) (w : Float32Bits)
  | bltgtr_f (v w : Fpr)
  | bltgti_f (v : Fpr) (w : Float32Bits)
  | bordr_f (v w : Fpr)
  | bordi_f (v : Fpr) (w : Float32Bits)
  | bunordi_f (v : Fpr) (w : Float32Bits)

namespace BranchF

/-- The method bodies. -/
def wrapper : BranchF W → Wrapper W
  | blti_f v w => .returns (Zig.newNodePwf .blti_f .null (.int v) (.f32 w))
  | blei_f v w => .returns (Zig.newNodePwf .blei_f .null (.int v) (.f32 w))
  | beqi_f v w => .returns (Zig.newNodePwf .beqi_f .null (.int v) (.f32 w))
  | bgei_f v w => .returns (Zig.newNodePwf .bgei_f .null (.int v) (.f32 w))
  | bgti_f v w => .returns (Zig.newNodePwf .bgti_f .null (.int v) (.f32 w))
  | bnei_f v w => .returns (Zig.newNodePwf .bnei_f .null (.int v) (.f32 w))
  | bunltr_f v w => .returns (Zig.newNodePww .bunltr_f .null (.int v) (.int w))
  | bunlti_f v w => .returns (Zig.newNodePwf .bunlti_f .null (.int v) (.f32 w))
  | bunler_f v w => .returns (Zig.newNodePww .bunler_f .null (.int v) (.int w))
  | bunlei_f v w => .returns (Zig.newNodePwf .bunlei_f .null (.int v) (.f32 w))
  | buneqr_f v w => .returns (Zig.newNodePww .buneqr_f .null (.int v) (.int w))
  | buneqi_f v w => .returns (Zig.newNodePwf .buneqi_f .null (.int v) (.f32 w))
  | bunger_f v w => .returns (Zig.newNodePww .bunger_f .null (.int v) (.int w))
  | bungei_f v w => .returns (Zig.newNodePwf .bungei_f .null (.int v) (.f32 w))
  | bungtr_f v w => .returns (Zig.newNodePww .bungtr_f .null (.int v) (.int w))
  | bungti_f v w => .returns (Zig.newNodePwf .bungti_f .null (.int v) (.f32 w))
  | bltgtr_f v w => .returns (Zig.newNodePww .bltgtr_f .null (.int v) (.int w))
  | bltgti_f v w => .returns (Zig.newNodePwf .bltgti_f .null (.int v) (.f32 w))
  | bordr_f v w => .returns (Zig.newNodePww .bordr_f .null (.int v) (.int w))
  | bordi_f v w => .returns (Zig.newNodePwf .bordi_f .null (.int v) (.f32 w))
  | bunordi_f v w => .returns (Zig.newNodePwf .bunordi_f .null (.int v) (.f32 w))

/-- The macros of the same names. -/
def expansion : BranchF W → NewNode W
  | blti_f v w => .pwf .blti_f 0 v w
  | blei_f v w => .pwf .blei_f 0 v w
  | beqi_f v w => .pwf .beqi_f 0 v w
  | bgei_f v w => .pwf .bgei_f 0 v w
  | bgti_f v w => .pwf .bgti_f 0 v w
  | bnei_f v w => .pwf .bnei_f 0 v w
  | bunltr_f v w => .pww .bunltr_f 0 v w
  | bunlti_f v w => .pwf .bunlti_f 0 v w
  | bunler_f v w => .pww .bunler_f 0 v w
  | bunlei_f v w => .pwf .bunlei_f 0 v w
  | buneqr_f v w => .pww .buneqr_f 0 v w
  | buneqi_f v w => .pwf .buneqi_f 0 v w
  | bunger_f v w => .pww .bunger_f 0 v w
  | bungei_f v w => .pwf .bungei_f 0 v w
  | bungtr_f v w => .pww .bungtr_f 0 v w
  | bungti_f v w => .pwf .bungti_f 0 v w
  | bltgtr_f v w => .pww .bltgtr_f 0 v w
  | bltgti_f v w => .pwf .bltgti_f 0 v w
  | bordr_f v w => .pww .bordr_f 0 v w
  | bordi_f v w => .pwf .bordi_f 0 v w
  | bunordi_f v w => .pwf .bunordi_f 0 v w

end BranchF

/-- Branches on an `f64` comparison with an immediate or with unordered operands. -/
inductive BranchD (W : WordSize)
  | blti_d (v : Fpr) (w : Float64Bits)
  | blei_d (v : Fpr) (w : Float64Bits)
  | beqi_d (v : Fpr) (w : Float64Bits)
  | bgei_d (v : Fpr) (w : Float64Bits)
  | bgti_d (v : Fpr) (w : Float64Bits)
  | bnei_d (v : Fpr) (w : Float64Bits)
  | bunltr_d (v w : Fpr)
  | bunlti_d (v : Fpr) (w : Float64Bits)
  | bunler_d (v w : Fpr)
  | bunlei_d (v : Fpr) (w : Float64Bits)
  | buneqr_d (v w : Fpr)
  | buneqi_d (v : Fpr) (w : Float64Bits)
  | bunger_d (v w : Fpr)
  | bungei_d (v : Fpr) (w : Float64Bits)
  | bungtr_d (v w : Fpr)
  | bungti_d (v : Fpr) (w : Float64Bits)
  | bltgtr_d (v w : Fpr)
  | bltgti_d (v : Fpr) (w : Float64Bits)
  | bordr_d (v w : Fpr)
  | bordi_d (v : Fpr) (w : Float64Bits)
  | bunordi_d (v : Fpr) (w : Float64Bits)

namespace BranchD

/-- The method bodies. -/
def wrapper : BranchD W → Wrapper W
  | blti_d v w => .returns (Zig.newNodePwd .blti_d .null (.int v) (.f64 w))
  | blei_d v w => .returns (Zig.newNodePwd .blei_d .null (.int v) (.f64 w))
  | beqi_d v w => .returns (Zig.newNodePwd .beqi_d .null (.int v) (.f64 w))
  | bgei_d v w => .returns (Zig.newNodePwd .bgei_d .null (.int v) (.f64 w))
  | bgti_d v w => .returns (Zig.newNodePwd .bgti_d .null (.int v) (.f64 w))
  | bnei_d v w => .returns (Zig.newNodePwd .bnei_d .null (.int v) (.f64 w))
  | bunltr_d v w => .returns (Zig.newNodePww .bunltr_d .null (.int v) (.int w))
  | bunlti_d v w => .returns (Zig.newNodePwd .bunlti_d .null (.int v) (.f64 w))
  | bunler_d v w => .returns (Zig.newNodePww .bunler_d .null (.int v) (.int w))
  | bunlei_d v w => .returns (Zig.newNodePwd .bunlei_d .null (.int v) (.f64 w))
  | buneqr_d v w => .returns (Zig.newNodePww .buneqr_d .null (.int v) (.int w))
  | buneqi_d v w => .returns (Zig.newNodePwd .buneqi_d .null (.int v) (.f64 w))
  | bunger_d v w => .returns (Zig.newNodePww .bunger_d .null (.int v) (.int w))
  | bungei_d v w => .returns (Zig.newNodePwd .bungei_d .null (.int v) (.f64 w))
  | bungtr_d v w => .returns (Zig.newNodePww .bungtr_d .null (.int v) (.int w))
  | bungti_d v w => .returns (Zig.newNodePwd .bungti_d .null (.int v) (.f64 w))
  | bltgtr_d v w => .returns (Zig.newNodePww .bltgtr_d .null (.int v) (.int w))
  | bltgti_d v w => .returns (Zig.newNodePwd .bltgti_d .null (.int v) (.f64 w))
  | bordr_d v w => .returns (Zig.newNodePww .bordr_d .null (.int v) (.int w))
  | bordi_d v w => .returns (Zig.newNodePwd .bordi_d .null (.int v) (.f64 w))
  | bunordi_d v w => .returns (Zig.newNodePwd .bunordi_d .null (.int v) (.f64 w))

/-- The macros of the same names. -/
def expansion : BranchD W → NewNode W
  | blti_d v w => .pwd .blti_d 0 v w
  | blei_d v w => .pwd .blei_d 0 v w
  | beqi_d v w => .pwd .beqi_d 0 v w
  | bgei_d v w => .pwd .bgei_d 0 v w
  | bgti_d v w => .pwd .bgti_d 0 v w
  | bnei_d v w => .pwd .bnei_d 0 v w
  | bunltr_d v w => .pww .bunltr_d 0 v w
  | bunlti_d v w => .pwd .bunlti_d 0 v w
  | bunler_d v w => .pww .bunler_d 0 v w
  | bunlei_d v w => .pwd .bunlei_d 0 v w
  | buneqr_d v w => .pww .buneqr_d 0 v w
  | buneqi_d v w => .pwd .buneqi_d 0 v w
  | bunger_d v w => .pww .bunger_d 0 v w
  | bungei_d v w => .pwd .bungei_d 0 v w
  | bungtr_d v w => .pww .bungtr_d 0 v w
  | bungti_d v w => .pwd .bungti_d 0 v w
  | bltgtr_d v w => .pww .bltgtr_d 0 v w
  | bltgti_d v w => .pwd .bltgti_d 0 v w
  | bordr_d v w => .pww .bordr_d 0 v w
  | bordi_d v w => .pwd .bordi_d 0 v w
  | bunordi_d v w => .pwd .bunordi_d 0 v w

end BranchD

end Zjit
