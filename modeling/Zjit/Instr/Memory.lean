import Zjit.Wrapper

/-!
# Loads and stores

The methods that append a memory access. An immediate address reaches a constructor on one of
two paths, as a pointer or through `@intCast`.
-/
namespace Zjit

variable {W : WordSize}

/-- Loads. -/
inductive Load (W : WordSize)
  | ldr_c (u v : Gpr)
  | ldr_uc (u v : Gpr)
  | ldr_s (u v : Gpr)
  | ldr_us (u v : Gpr)
  | ldr_i (u v : Gpr)
  | ldr_ui (u v : Gpr)
  | ldr_l (u v : Gpr)
  | ldi_c (u : Gpr) (v : Pointer W)
  | ldi_uc (u : Gpr) (v : Pointer W)
  | ldi_s (u : Gpr) (v : Pointer W)
  | ldi_us (u : Gpr) (v : Pointer W)
  | ldi_i (u : Gpr) (v : Pointer W)
  | ldi_ui (u : Gpr) (v : Pointer W)
  | ldi_l (u : Gpr) (v : Pointer W)
  | ldxr_c (u v w : Gpr)
  | ldxi_c (u v : Gpr) (w : Word W)
  | ldxr_uc (u v w : Gpr)
  | ldxi_uc (u v : Gpr) (w : Word W)
  | ldxr_s (u v w : Gpr)
  | ldxi_s (u v : Gpr) (w : Word W)
  | ldxr_us (u v w : Gpr)
  | ldxi_us (u v : Gpr) (w : Word W)
  | ldxr_i (u v w : Gpr)
  | ldxi_i (u v : Gpr) (w : Word W)
  | ldxr_ui (u v w : Gpr)
  | ldxi_ui (u v : Gpr) (w : Word W)
  | ldxr_l (u v w : Gpr)
  | ldxi_l (u v : Gpr) (w : Word W)
  | ldxbr_c (u v w : Gpr)
  | ldxbi_c (u v : Gpr) (w : Word W)
  | ldxar_c (u v w : Gpr)
  | ldxai_c (u v : Gpr) (w : Word W)
  | ldxbr_s (u v w : Gpr)
  | ldxbi_s (u v : Gpr) (w : Word W)
  | ldxar_s (u v w : Gpr)
  | ldxai_s (u v : Gpr) (w : Word W)
  | ldxbr_i (u v w : Gpr)
  | ldxbi_i (u v : Gpr) (w : Word W)
  | ldxar_i (u v w : Gpr)
  | ldxai_i (u v : Gpr) (w : Word W)
  | ldxbr_uc (u v w : Gpr)
  | ldxbi_uc (u v : Gpr) (w : Word W)
  | ldxar_uc (u v w : Gpr)
  | ldxai_uc (u v : Gpr) (w : Word W)
  | ldxbr_us (u v w : Gpr)
  | ldxbi_us (u v : Gpr) (w : Word W)
  | ldxar_us (u v w : Gpr)
  | ldxai_us (u v : Gpr) (w : Word W)
  | ldxbr_ui (u v w : Gpr)
  | ldxbi_ui (u v : Gpr) (w : Word W)
  | ldxar_ui (u v w : Gpr)
  | ldxai_ui (u v : Gpr) (w : Word W)
  | ldxbr_l (u v w : Gpr)
  | ldxbi_l (u v : Gpr) (w : Word W)
  | ldxar_l (u v w : Gpr)
  | ldxai_l (u v : Gpr) (w : Word W)
  | ldxbr_f (u : Fpr) (v w : Gpr)
  | ldxbi_f (u : Fpr) (v : Gpr) (w : Word W)
  | ldxar_f (u : Fpr) (v w : Gpr)
  | ldxai_f (u : Fpr) (v : Gpr) (w : Word W)
  | ldxbr_d (u : Fpr) (v w : Gpr)
  | ldxbi_d (u : Fpr) (v : Gpr) (w : Word W)
  | ldxar_d (u : Fpr) (v w : Gpr)
  | ldxai_d (u : Fpr) (v : Gpr) (w : Word W)
  | unldr (u v : Gpr) (w : Word W)
  | unldi (u : Gpr) (v : Pointer W) (w : Word W)
  | unldr_u (u v : Gpr) (w : Word W)
  | unldi_u (u : Gpr) (v : Pointer W) (w : Word W)

namespace Load

/-- The method bodies. -/
def wrapper : Load W → Wrapper W
  | ldr_c u v => .sets (Zig.newNodeWw .ldr_c (.int u) (.int v))
  | ldr_uc u v => .sets (Zig.newNodeWw .ldr_uc (.int u) (.int v))
  | ldr_s u v => .sets (Zig.newNodeWw .ldr_s (.int u) (.int v))
  | ldr_us u v => .sets (Zig.newNodeWw .ldr_us (.int u) (.int v))
  | ldr_i u v => .sets (Zig.newNodeWw .ldr_i (.int u) (.int v))
  | ldr_ui u v => .sets (Zig.newNodeWw .ldr_ui (.int u) (.int v))
  | ldr_l u v => .sets (Zig.newNodeWw .ldr_l (.int u) (.int v))
  | ldi_c u v => .sets (Zig.newNodeWp .ldi_c (.int u) (.pointer v))
  | ldi_uc u v => .sets (Zig.newNodeWp .ldi_uc (.int u) (.pointer v))
  | ldi_s u v => .sets (Zig.newNodeWp .ldi_s (.int u) (.pointer v))
  | ldi_us u v => .sets (Zig.newNodeWp .ldi_us (.int u) (.pointer v))
  | ldi_i u v => .sets (Zig.newNodeWp .ldi_i (.int u) (.pointer v))
  | ldi_ui u v => .sets (Zig.newNodeWp .ldi_ui (.int u) (.pointer v))
  | ldi_l u v => .sets (Zig.newNodeWp .ldi_l (.int u) (.pointer v))
  | ldxr_c u v w => .sets (Zig.newNodeWww .ldxr_c (.int u) (.int v) (.int w))
  | ldxi_c u v w => .sets (Zig.newNodeWww .ldxi_c (.int u) (.int v) (.word w))
  | ldxr_uc u v w => .sets (Zig.newNodeWww .ldxr_uc (.int u) (.int v) (.int w))
  | ldxi_uc u v w => .sets (Zig.newNodeWww .ldxi_uc (.int u) (.int v) (.word w))
  | ldxr_s u v w => .sets (Zig.newNodeWww .ldxr_s (.int u) (.int v) (.int w))
  | ldxi_s u v w => .sets (Zig.newNodeWww .ldxi_s (.int u) (.int v) (.word w))
  | ldxr_us u v w => .sets (Zig.newNodeWww .ldxr_us (.int u) (.int v) (.int w))
  | ldxi_us u v w => .sets (Zig.newNodeWww .ldxi_us (.int u) (.int v) (.word w))
  | ldxr_i u v w => .sets (Zig.newNodeWww .ldxr_i (.int u) (.int v) (.int w))
  | ldxi_i u v w => .sets (Zig.newNodeWww .ldxi_i (.int u) (.int v) (.word w))
  | ldxr_ui u v w => .sets (Zig.newNodeWww .ldxr_ui (.int u) (.int v) (.int w))
  | ldxi_ui u v w => .sets (Zig.newNodeWww .ldxi_ui (.int u) (.int v) (.word w))
  | ldxr_l u v w => .sets (Zig.newNodeWww .ldxr_l (.int u) (.int v) (.int w))
  | ldxi_l u v w => .sets (Zig.newNodeWww .ldxi_l (.int u) (.int v) (.word w))
  | ldxbr_c u v w => .sets (Zig.newNodeWww .ldxbr_c (.int u) (.int v) (.int w))
  | ldxbi_c u v w => .sets (Zig.newNodeWww .ldxbi_c (.int u) (.int v) (.word w))
  | ldxar_c u v w => .sets (Zig.newNodeWww .ldxar_c (.int u) (.int v) (.int w))
  | ldxai_c u v w => .sets (Zig.newNodeWww .ldxai_c (.int u) (.int v) (.word w))
  | ldxbr_s u v w => .sets (Zig.newNodeWww .ldxbr_s (.int u) (.int v) (.int w))
  | ldxbi_s u v w => .sets (Zig.newNodeWww .ldxbi_s (.int u) (.int v) (.word w))
  | ldxar_s u v w => .sets (Zig.newNodeWww .ldxar_s (.int u) (.int v) (.int w))
  | ldxai_s u v w => .sets (Zig.newNodeWww .ldxai_s (.int u) (.int v) (.word w))
  | ldxbr_i u v w => .sets (Zig.newNodeWww .ldxbr_i (.int u) (.int v) (.int w))
  | ldxbi_i u v w => .sets (Zig.newNodeWww .ldxbi_i (.int u) (.int v) (.word w))
  | ldxar_i u v w => .sets (Zig.newNodeWww .ldxar_i (.int u) (.int v) (.int w))
  | ldxai_i u v w => .sets (Zig.newNodeWww .ldxai_i (.int u) (.int v) (.word w))
  | ldxbr_uc u v w => .sets (Zig.newNodeWww .ldxbr_uc (.int u) (.int v) (.int w))
  | ldxbi_uc u v w => .sets (Zig.newNodeWww .ldxbi_uc (.int u) (.int v) (.word w))
  | ldxar_uc u v w => .sets (Zig.newNodeWww .ldxar_uc (.int u) (.int v) (.int w))
  | ldxai_uc u v w => .sets (Zig.newNodeWww .ldxai_uc (.int u) (.int v) (.word w))
  | ldxbr_us u v w => .sets (Zig.newNodeWww .ldxbr_us (.int u) (.int v) (.int w))
  | ldxbi_us u v w => .sets (Zig.newNodeWww .ldxbi_us (.int u) (.int v) (.word w))
  | ldxar_us u v w => .sets (Zig.newNodeWww .ldxar_us (.int u) (.int v) (.int w))
  | ldxai_us u v w => .sets (Zig.newNodeWww .ldxai_us (.int u) (.int v) (.word w))
  | ldxbr_ui u v w => .sets (Zig.newNodeWww .ldxbr_ui (.int u) (.int v) (.int w))
  | ldxbi_ui u v w => .sets (Zig.newNodeWww .ldxbi_ui (.int u) (.int v) (.word w))
  | ldxar_ui u v w => .sets (Zig.newNodeWww .ldxar_ui (.int u) (.int v) (.int w))
  | ldxai_ui u v w => .sets (Zig.newNodeWww .ldxai_ui (.int u) (.int v) (.word w))
  | ldxbr_l u v w => .sets (Zig.newNodeWww .ldxbr_l (.int u) (.int v) (.int w))
  | ldxbi_l u v w => .sets (Zig.newNodeWww .ldxbi_l (.int u) (.int v) (.word w))
  | ldxar_l u v w => .sets (Zig.newNodeWww .ldxar_l (.int u) (.int v) (.int w))
  | ldxai_l u v w => .sets (Zig.newNodeWww .ldxai_l (.int u) (.int v) (.word w))
  | ldxbr_f u v w => .sets (Zig.newNodeWww .ldxbr_f (.int u) (.int v) (.int w))
  | ldxbi_f u v w => .sets (Zig.newNodeWww .ldxbi_f (.int u) (.int v) (.word w))
  | ldxar_f u v w => .sets (Zig.newNodeWww .ldxar_f (.int u) (.int v) (.int w))
  | ldxai_f u v w => .sets (Zig.newNodeWww .ldxai_f (.int u) (.int v) (.word w))
  | ldxbr_d u v w => .sets (Zig.newNodeWww .ldxbr_d (.int u) (.int v) (.int w))
  | ldxbi_d u v w => .sets (Zig.newNodeWww .ldxbi_d (.int u) (.int v) (.word w))
  | ldxar_d u v w => .sets (Zig.newNodeWww .ldxar_d (.int u) (.int v) (.int w))
  | ldxai_d u v w => .sets (Zig.newNodeWww .ldxai_d (.int u) (.int v) (.word w))
  | unldr u v w => .sets (Zig.newNodeWww .unldr (.int u) (.int v) (.word w))
  | unldi u v w => .sets (Zig.newNodeWww .unldi (.int u) (.intCast v) (.word w))
  | unldr_u u v w => .sets (Zig.newNodeWww .unldr_u (.int u) (.int v) (.word w))
  | unldi_u u v w => .sets (Zig.newNodeWww .unldi_u (.int u) (.intCast v) (.word w))

/-- The macros of the same names. -/
def expansion : Load W → NewNode W
  | ldr_c u v => .ww .ldr_c u v
  | ldr_uc u v => .ww .ldr_uc u v
  | ldr_s u v => .ww .ldr_s u v
  | ldr_us u v => .ww .ldr_us u v
  | ldr_i u v => .ww .ldr_i u v
  | ldr_ui u v => .ww .ldr_ui u v
  | ldr_l u v => .ww .ldr_l u v
  | ldi_c u v => .wp .ldi_c u v
  | ldi_uc u v => .wp .ldi_uc u v
  | ldi_s u v => .wp .ldi_s u v
  | ldi_us u v => .wp .ldi_us u v
  | ldi_i u v => .wp .ldi_i u v
  | ldi_ui u v => .wp .ldi_ui u v
  | ldi_l u v => .wp .ldi_l u v
  | ldxr_c u v w => .www .ldxr_c u v w
  | ldxi_c u v w => .www .ldxi_c u v w
  | ldxr_uc u v w => .www .ldxr_uc u v w
  | ldxi_uc u v w => .www .ldxi_uc u v w
  | ldxr_s u v w => .www .ldxr_s u v w
  | ldxi_s u v w => .www .ldxi_s u v w
  | ldxr_us u v w => .www .ldxr_us u v w
  | ldxi_us u v w => .www .ldxi_us u v w
  | ldxr_i u v w => .www .ldxr_i u v w
  | ldxi_i u v w => .www .ldxi_i u v w
  | ldxr_ui u v w => .www .ldxr_ui u v w
  | ldxi_ui u v w => .www .ldxi_ui u v w
  | ldxr_l u v w => .www .ldxr_l u v w
  | ldxi_l u v w => .www .ldxi_l u v w
  | ldxbr_c u v w => .www .ldxbr_c u v w
  | ldxbi_c u v w => .www .ldxbi_c u v w
  | ldxar_c u v w => .www .ldxar_c u v w
  | ldxai_c u v w => .www .ldxai_c u v w
  | ldxbr_s u v w => .www .ldxbr_s u v w
  | ldxbi_s u v w => .www .ldxbi_s u v w
  | ldxar_s u v w => .www .ldxar_s u v w
  | ldxai_s u v w => .www .ldxai_s u v w
  | ldxbr_i u v w => .www .ldxbr_i u v w
  | ldxbi_i u v w => .www .ldxbi_i u v w
  | ldxar_i u v w => .www .ldxar_i u v w
  | ldxai_i u v w => .www .ldxai_i u v w
  | ldxbr_uc u v w => .www .ldxbr_uc u v w
  | ldxbi_uc u v w => .www .ldxbi_uc u v w
  | ldxar_uc u v w => .www .ldxar_uc u v w
  | ldxai_uc u v w => .www .ldxai_uc u v w
  | ldxbr_us u v w => .www .ldxbr_us u v w
  | ldxbi_us u v w => .www .ldxbi_us u v w
  | ldxar_us u v w => .www .ldxar_us u v w
  | ldxai_us u v w => .www .ldxai_us u v w
  | ldxbr_ui u v w => .www .ldxbr_ui u v w
  | ldxbi_ui u v w => .www .ldxbi_ui u v w
  | ldxar_ui u v w => .www .ldxar_ui u v w
  | ldxai_ui u v w => .www .ldxai_ui u v w
  | ldxbr_l u v w => .www .ldxbr_l u v w
  | ldxbi_l u v w => .www .ldxbi_l u v w
  | ldxar_l u v w => .www .ldxar_l u v w
  | ldxai_l u v w => .www .ldxai_l u v w
  | ldxbr_f u v w => .www .ldxbr_f u v w
  | ldxbi_f u v w => .www .ldxbi_f u v w
  | ldxar_f u v w => .www .ldxar_f u v w
  | ldxai_f u v w => .www .ldxai_f u v w
  | ldxbr_d u v w => .www .ldxbr_d u v w
  | ldxbi_d u v w => .www .ldxbi_d u v w
  | ldxar_d u v w => .www .ldxar_d u v w
  | ldxai_d u v w => .www .ldxai_d u v w
  | unldr u v w => .www .unldr u v w
  | unldi u v w => .www .unldi u (castWord v) w
  | unldr_u u v w => .www .unldr_u u v w
  | unldi_u u v w => .www .unldi_u u (castWord v) w

/-- The macros the header defines for 64-bit words only. -/
def wide : Load W → Bool
  | ldr_ui _ _ | ldr_l _ _ | ldi_ui _ _ | ldi_l _ _ | ldxr_ui _ _ _ | ldxi_ui _ _ _
  | ldxr_l _ _ _ | ldxi_l _ _ _ | ldxbr_ui _ _ _ | ldxbi_ui _ _ _ | ldxar_ui _ _ _
  | ldxai_ui _ _ _ | ldxbr_l _ _ _ | ldxbi_l _ _ _ | ldxar_l _ _ _ | ldxai_l _ _ _ => true
  | _ => false

/-- The address operand. -/
def immediate : Load W → Option (Immediate W)
  | ldi_c _ v | ldi_uc _ v | ldi_s _ v | ldi_us _ v | ldi_i _ v | ldi_ui _ v | ldi_l _ v =>
      some { address := v, slot := .v, cast := false }
  | unldi _ v _ | unldi_u _ v _ => some { address := v, slot := .v, cast := true }
  | _ => none

end Load

/-- Stores. -/
inductive Store (W : WordSize)
  | str_c (u v : Gpr)
  | str_s (u v : Gpr)
  | str_i (u v : Gpr)
  | str_l (u v : Gpr)
  | sti_c (u : Pointer W) (v : Gpr)
  | sti_s (u : Pointer W) (v : Gpr)
  | sti_i (u : Pointer W) (v : Gpr)
  | sti_l (u : Pointer W) (v : Gpr)
  | stxr_c (u v w : Gpr)
  | stxi_c (u : Word W) (v w : Gpr)
  | stxr_s (u v w : Gpr)
  | stxi_s (u : Word W) (v w : Gpr)
  | stxr_i (u v w : Gpr)
  | stxi_i (u : Word W) (v w : Gpr)
  | stxr_l (u v w : Gpr)
  | stxi_l (u : Word W) (v w : Gpr)
  | stxbr_c (u v w : Gpr)
  | stxbi_c (u : Word W) (v w : Gpr)
  | stxar_c (u v w : Gpr)
  | stxai_c (u : Word W) (v w : Gpr)
  | stxbr_s (u v w : Gpr)
  | stxbi_s (u : Word W) (v w : Gpr)
  | stxar_s (u v w : Gpr)
  | stxai_s (u : Word W) (v w : Gpr)
  | stxbr_i (u v w : Gpr)
  | stxbi_i (u : Word W) (v w : Gpr)
  | stxar_i (u v w : Gpr)
  | stxai_i (u : Word W) (v w : Gpr)
  | stxbr_l (u v w : Gpr)
  | stxbi_l (u : Word W) (v w : Gpr)
  | stxar_l (u v w : Gpr)
  | stxai_l (u : Word W) (v w : Gpr)
  | stxbr_f (u v : Gpr) (w : Fpr)
  | stxbi_f (u : Word W) (v : Gpr) (w : Fpr)
  | stxar_f (u v : Gpr) (w : Fpr)
  | stxai_f (u : Word W) (v : Gpr) (w : Fpr)
  | stxbr_d (u v : Gpr) (w : Fpr)
  | stxbi_d (u : Word W) (v : Gpr) (w : Fpr)
  | stxar_d (u v : Gpr) (w : Fpr)
  | stxai_d (u : Word W) (v : Gpr) (w : Fpr)
  | unstr (u v : Gpr) (w : Word W)
  | unsti (u : Pointer W) (v : Gpr) (w : Word W)
  | unldr_x (u v : Gpr) (w : Word W)
  | unldi_x (u : Gpr) (v : Pointer W) (w : Word W)
  | unstr_x (u v : Gpr) (w : Word W)
  | unsti_x (u : Pointer W) (v : Gpr) (w : Word W)

namespace Store

/-- The method bodies. -/
def wrapper : Store W → Wrapper W
  | str_c u v => .sets (Zig.newNodeWw .str_c (.int u) (.int v))
  | str_s u v => .sets (Zig.newNodeWw .str_s (.int u) (.int v))
  | str_i u v => .sets (Zig.newNodeWw .str_i (.int u) (.int v))
  | str_l u v => .sets (Zig.newNodeWw .str_l (.int u) (.int v))
  | sti_c u v => .sets (Zig.newNodePw .sti_c (.pointer u) (.int v))
  | sti_s u v => .sets (Zig.newNodePw .sti_s (.pointer u) (.int v))
  | sti_i u v => .sets (Zig.newNodePw .sti_i (.pointer u) (.int v))
  | sti_l u v => .sets (Zig.newNodePw .sti_l (.pointer u) (.int v))
  | stxr_c u v w => .sets (Zig.newNodeWww .stxr_c (.int u) (.int v) (.int w))
  | stxi_c u v w => .sets (Zig.newNodeWww .stxi_c (.word u) (.int v) (.int w))
  | stxr_s u v w => .sets (Zig.newNodeWww .stxr_s (.int u) (.int v) (.int w))
  | stxi_s u v w => .sets (Zig.newNodeWww .stxi_s (.word u) (.int v) (.int w))
  | stxr_i u v w => .sets (Zig.newNodeWww .stxr_i (.int u) (.int v) (.int w))
  | stxi_i u v w => .sets (Zig.newNodeWww .stxi_i (.word u) (.int v) (.int w))
  | stxr_l u v w => .sets (Zig.newNodeWww .stxr_l (.int u) (.int v) (.int w))
  | stxi_l u v w => .sets (Zig.newNodeWww .stxi_l (.word u) (.int v) (.int w))
  | stxbr_c u v w => .sets (Zig.newNodeWww .stxbr_c (.int u) (.int v) (.int w))
  | stxbi_c u v w => .sets (Zig.newNodeWww .stxbi_c (.word u) (.int v) (.int w))
  | stxar_c u v w => .sets (Zig.newNodeWww .stxar_c (.int u) (.int v) (.int w))
  | stxai_c u v w => .sets (Zig.newNodeWww .stxai_c (.word u) (.int v) (.int w))
  | stxbr_s u v w => .sets (Zig.newNodeWww .stxbr_s (.int u) (.int v) (.int w))
  | stxbi_s u v w => .sets (Zig.newNodeWww .stxbi_s (.word u) (.int v) (.int w))
  | stxar_s u v w => .sets (Zig.newNodeWww .stxar_s (.int u) (.int v) (.int w))
  | stxai_s u v w => .sets (Zig.newNodeWww .stxai_s (.word u) (.int v) (.int w))
  | stxbr_i u v w => .sets (Zig.newNodeWww .stxbr_i (.int u) (.int v) (.int w))
  | stxbi_i u v w => .sets (Zig.newNodeWww .stxbi_i (.word u) (.int v) (.int w))
  | stxar_i u v w => .sets (Zig.newNodeWww .stxar_i (.int u) (.int v) (.int w))
  | stxai_i u v w => .sets (Zig.newNodeWww .stxai_i (.word u) (.int v) (.int w))
  | stxbr_l u v w => .sets (Zig.newNodeWww .stxbr_l (.int u) (.int v) (.int w))
  | stxbi_l u v w => .sets (Zig.newNodeWww .stxbi_l (.word u) (.int v) (.int w))
  | stxar_l u v w => .sets (Zig.newNodeWww .stxar_l (.int u) (.int v) (.int w))
  | stxai_l u v w => .sets (Zig.newNodeWww .stxai_l (.word u) (.int v) (.int w))
  | stxbr_f u v w => .sets (Zig.newNodeWww .stxbr_f (.int u) (.int v) (.int w))
  | stxbi_f u v w => .sets (Zig.newNodeWww .stxbi_f (.word u) (.int v) (.int w))
  | stxar_f u v w => .sets (Zig.newNodeWww .stxar_f (.int u) (.int v) (.int w))
  | stxai_f u v w => .sets (Zig.newNodeWww .stxai_f (.word u) (.int v) (.int w))
  | stxbr_d u v w => .sets (Zig.newNodeWww .stxbr_d (.int u) (.int v) (.int w))
  | stxbi_d u v w => .sets (Zig.newNodeWww .stxbi_d (.word u) (.int v) (.int w))
  | stxar_d u v w => .sets (Zig.newNodeWww .stxar_d (.int u) (.int v) (.int w))
  | stxai_d u v w => .sets (Zig.newNodeWww .stxai_d (.word u) (.int v) (.int w))
  | unstr u v w => .sets (Zig.newNodeWww .unstr (.int u) (.int v) (.word w))
  | unsti u v w => .sets (Zig.newNodeWww .unsti (.intCast u) (.int v) (.word w))
  | unldr_x u v w => .sets (Zig.newNodeWww .unldr_x (.int u) (.int v) (.word w))
  | unldi_x u v w => .sets (Zig.newNodeWww .unldi_x (.int u) (.intCast v) (.word w))
  | unstr_x u v w => .sets (Zig.newNodeWww .unstr_x (.int u) (.int v) (.word w))
  | unsti_x u v w => .sets (Zig.newNodeWww .unsti_x (.intCast u) (.int v) (.word w))

/-- The macros of the same names. -/
def expansion : Store W → NewNode W
  | str_c u v => .ww .str_c u v
  | str_s u v => .ww .str_s u v
  | str_i u v => .ww .str_i u v
  | str_l u v => .ww .str_l u v
  | sti_c u v => .pw .sti_c u v
  | sti_s u v => .pw .sti_s u v
  | sti_i u v => .pw .sti_i u v
  | sti_l u v => .pw .sti_l u v
  | stxr_c u v w => .www .stxr_c u v w
  | stxi_c u v w => .www .stxi_c u v w
  | stxr_s u v w => .www .stxr_s u v w
  | stxi_s u v w => .www .stxi_s u v w
  | stxr_i u v w => .www .stxr_i u v w
  | stxi_i u v w => .www .stxi_i u v w
  | stxr_l u v w => .www .stxr_l u v w
  | stxi_l u v w => .www .stxi_l u v w
  | stxbr_c u v w => .www .stxbr_c u v w
  | stxbi_c u v w => .www .stxbi_c u v w
  | stxar_c u v w => .www .stxar_c u v w
  | stxai_c u v w => .www .stxai_c u v w
  | stxbr_s u v w => .www .stxbr_s u v w
  | stxbi_s u v w => .www .stxbi_s u v w
  | stxar_s u v w => .www .stxar_s u v w
  | stxai_s u v w => .www .stxai_s u v w
  | stxbr_i u v w => .www .stxbr_i u v w
  | stxbi_i u v w => .www .stxbi_i u v w
  | stxar_i u v w => .www .stxar_i u v w
  | stxai_i u v w => .www .stxai_i u v w
  | stxbr_l u v w => .www .stxbr_l u v w
  | stxbi_l u v w => .www .stxbi_l u v w
  | stxar_l u v w => .www .stxar_l u v w
  | stxai_l u v w => .www .stxai_l u v w
  | stxbr_f u v w => .www .stxbr_f u v w
  | stxbi_f u v w => .www .stxbi_f u v w
  | stxar_f u v w => .www .stxar_f u v w
  | stxai_f u v w => .www .stxai_f u v w
  | stxbr_d u v w => .www .stxbr_d u v w
  | stxbi_d u v w => .www .stxbi_d u v w
  | stxar_d u v w => .www .stxar_d u v w
  | stxai_d u v w => .www .stxai_d u v w
  | unstr u v w => .www .unstr u v w
  | unsti u v w => .www .unsti (castWord u) v w
  | unldr_x u v w => .www .unldr_x u v w
  | unldi_x u v w => .www .unldi_x u (castWord v) w
  | unstr_x u v w => .www .unstr_x u v w
  | unsti_x u v w => .www .unsti_x (castWord u) v w

/-- The macros the header defines for 64-bit words only. -/
def wide : Store W → Bool
  | str_l _ _ | sti_l _ _ | stxr_l _ _ _ | stxi_l _ _ _ | stxbr_l _ _ _ | stxbi_l _ _ _
  | stxar_l _ _ _ | stxai_l _ _ _ => true
  | _ => false

/-- The address operand. -/
def immediate : Store W → Option (Immediate W)
  | sti_c u _ | sti_s u _ | sti_i u _ | sti_l u _ => some { address := u, slot := .u, cast := false }
  | unldi_x _ v _ => some { address := v, slot := .v, cast := true }
  | unsti u _ _ | unsti_x u _ _ => some { address := u, slot := .u, cast := true }
  | _ => none

end Store

end Zjit
