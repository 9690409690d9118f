import Mathlib.Algebra.Group.Nat.Defs

/-!
# Machine words and pointers

Everything is parametric in `__WORDSIZE`. `Word` is the signed `jit_word_t`, kept as its bit
pattern; a pointer is the unsigned number of the same width.
-/
namespace Zjit

/-- The target's `__WORDSIZE`. -/
inductive WordSize
  | w32
  | w64
  deriving DecidableEq, Repr

def WordSize.bits : WordSize → Nat
  | .w32 => 32
  | .w64 => 64

/-- `jit_word_t`, Zig's `Word`. -/
abbrev Word (W : WordSize) := BitVec W.bits

/-- `jit_pointer_t`, Zig's `Pointer`: an optional address, null being zero. -/
abbrev Pointer (W : WordSize) := BitVec W.bits

/-- `jit_int32_t`, the type behind `jit_gpr_t` and `jit_fpr_t`. -/
abbrev CInt := BitVec 32

abbrev Gpr := CInt
abbrev Fpr := CInt

/-- The bits of a `jit_float32_t`. -/
abbrev Float32Bits := BitVec 32

/-- The bits of a `jit_float64_t`. -/
abbrev Float64Bits := BitVec 64

variable {W : WordSize}

/-- C and Zig both widen an `int` argument to a `jit_word_t` parameter by its sign. -/
instance : Coe CInt (Word W) := ⟨fun value => value.signExtend W.bits⟩

/-- The C cast `(jit_word_t)p`. -/
def castWord (p : Pointer W) : Word W := p

/-- The addresses a non-negative `jit_word_t` can hold. -/
def Pointer.fitsWord (p : Pointer W) : Prop := p.toNat < 2 ^ (W.bits - 1)

instance (p : Pointer W) : Decidable (Pointer.fitsWord p) :=
  inferInstanceAs (Decidable (_ < _))

/-- An address does not fit exactly when it lies in the upper half, its top bit set. -/
theorem not_fitsWord_iff (p : Pointer W) : ¬ Pointer.fitsWord p ↔ p.msb = true := by
  simp only [Pointer.fitsWord, BitVec.msb_eq_decide, decide_eq_true_eq, Nat.not_lt]

end Zjit
