import Zjit.Optimize.Jumps

/-!
# Branches

The condition of each branch instruction and what happens to its operands, as the manual gives
them. `reverse_jump_code` negates the condition and changes nothing else.
-/
namespace Zjit

variable {W : WordSize}

/-! ### Comparisons -/

inductive IntTest
  | lt | le | eq | ge | gt | ne
  deriving DecidableEq, Repr

def IntTest.holds : IntTest → Ordering → Bool
  | .lt, order => order = .lt
  | .le, order => order ≠ .gt
  | .eq, order => order = .eq
  | .ge, order => order ≠ .lt
  | .gt, order => order = .gt
  | .ne, order => order ≠ .eq

def IntTest.negate : IntTest → IntTest
  | .lt => .ge
  | .le => .gt
  | .eq => .ne
  | .ge => .lt
  | .gt => .le
  | .ne => .eq

theorem IntTest.negate_holds (test : IntTest) (order : Ordering) :
    test.negate.holds order = !test.holds order := by
  cases test <;> cases order <;> rfl

/-- How two floats compare; nothing compares with what is not a number. -/
inductive FloatOrder
  | less | equal | greater | unordered
  deriving DecidableEq, Repr

inductive FloatTest
  | lt | le | eq | ge | gt | ne | unlt | unle | uneq | unge | ungt | ltgt | ord | unord
  deriving DecidableEq, Repr

def FloatTest.holds : FloatTest → FloatOrder → Bool
  | .lt, order => order = .less
  | .le, order => order = .less ∨ order = .equal
  | .eq, order => order = .equal
  | .ge, order => order = .greater ∨ order = .equal
  | .gt, order => order = .greater
  | .ne, order => order ≠ .equal
  | .unlt, order => order = .less ∨ order = .unordered
  | .unle, order => order ≠ .greater
  | .uneq, order => order = .equal ∨ order = .unordered
  | .unge, order => order ≠ .less
  | .ungt, order => order = .greater ∨ order = .unordered
  | .ltgt, order => order = .less ∨ order = .greater
  | .ord, order => order ≠ .unordered
  | .unord, order => order = .unordered

def FloatTest.negate : FloatTest → FloatTest
  | .lt => .unge
  | .le => .ungt
  | .eq => .ne
  | .ge => .unlt
  | .gt => .unle
  | .ne => .eq
  | .unlt => .ge
  | .unle => .gt
  | .uneq => .ltgt
  | .unge => .lt
  | .ungt => .le
  | .ltgt => .uneq
  | .ord => .unord
  | .unord => .ord

theorem FloatTest.negate_holds (test : FloatTest) (order : FloatOrder) :
    test.negate.holds order = !test.holds order := by
  cases test <;> cases order <;> rfl

/-! ### Conditions -/

inductive Condition
  | integer (signed : Bool) (test : IntTest)
  /-- Some bit of the mask is set, or none. -/
  | mask (set : Bool)
  | float (double : Bool) (test : FloatTest)
  /-- The first operand is changed, and the branch is taken on overflow or without. -/
  | overflow (add signed taken : Bool)
  deriving DecidableEq, Repr

def Condition.negate : Condition → Condition
  | .integer signed test => .integer signed test.negate
  | .mask set => .mask (!set)
  | .float double test => .float double test.negate
  | .overflow add signed taken => .overflow add signed (!taken)

/-- A branch; its last operand is a register or an immediate. -/
structure CondJump where
  condition : Condition
  immediate : Bool
  deriving DecidableEq, Repr

def CondJump.negate (branch : CondJump) : CondJump := { branch with condition := branch.condition.negate }

/-- The branch instructions. -/
def condJump : Code → Option CondJump
  | .bltr => some ⟨.integer true .lt, false⟩
  | .blti => some ⟨.integer true .lt, true⟩
  | .bltr_u => some ⟨.integer false .lt, false⟩
  | .blti_u => some ⟨.integer false .lt, true⟩
  | .bler => some ⟨.integer true .le, false⟩
  | .blei => some ⟨.integer true .le, true⟩
  | .bler_u => some ⟨.integer false .le, false⟩
  | .blei_u => some ⟨.integer false .le, true⟩
  | .beqr => some ⟨.integer true .eq, false⟩
  | .beqi => some ⟨.integer true .eq, true⟩
  | .bger => some ⟨.integer true .ge, false⟩
  | .bgei => some ⟨.integer true .ge, true⟩
  | .bger_u => some ⟨.integer false .ge, false⟩
  | .bgei_u => some ⟨.integer false .ge, true⟩
  | .bgtr => some ⟨.integer true .gt, false⟩
  | .bgti => some ⟨.integer true .gt, true⟩
  | .bgtr_u => some ⟨.integer false .gt, false⟩
  | .bgti_u => some ⟨.integer false .gt, true⟩
  | .bner => some ⟨.integer true .ne, false⟩
  | .bnei => some ⟨.integer true .ne, true⟩
  | .bmsr => some ⟨.mask true, false⟩
  | .bmsi => some ⟨.mask true, true⟩
  | .bmcr => some ⟨.mask false, false⟩
  | .bmci => some ⟨.mask false, true⟩
  | .boaddr => some ⟨.overflow true true true, false⟩
  | .boaddi => some ⟨.overflow true true true, true⟩
  | .boaddr_u => some ⟨.overflow true false true, false⟩
  | .boaddi_u => some ⟨.overflow true false true, true⟩
  | .bxaddr => some ⟨.overflow true true false, false⟩
  | .bxaddi => some ⟨.overflow true true false, true⟩
  | .bxaddr_u => some ⟨.overflow true false false, false⟩
  | .bxaddi_u => some ⟨.overflow true false false, true⟩
  | .bosubr => some ⟨.overflow false true true, false⟩
  | .bosubi => some ⟨.overflow false true true, true⟩
  | .bosubr_u => some ⟨.overflow false false true, false⟩
  | .bosubi_u => some ⟨.overflow false false true, true⟩
  | .bxsubr => some ⟨.overflow false true false, false⟩
  | .bxsubi => some ⟨.overflow false true false, true⟩
  | .bxsubr_u => some ⟨.overflow false false false, false⟩
  | .bxsubi_u => some ⟨.overflow false false false, true⟩
  | .bltr_f => some ⟨.float false .lt, false⟩
  | .blti_f => some ⟨.float false .lt, true⟩
  | .bler_f => some ⟨.float false .le, false⟩
  | .blei_f => some ⟨.float false .le, true⟩
  | .beqr_f => some ⟨.float false .eq, false⟩
  | .beqi_f => some ⟨.float false .eq, true⟩
  | .bger_f => some ⟨.float false .ge, false⟩
  | .bgei_f => some ⟨.float false .ge, true⟩
  | .bgtr_f => some ⟨.float false .gt, false⟩
  | .bgti_f => some ⟨.float false .gt, true⟩
  | .bner_f => some ⟨.float false .ne, false⟩
  | .bnei_f => some ⟨.float false .ne, true⟩
  | .bunltr_f => some ⟨.float false .unlt, false⟩
  | .bunlti_f => some ⟨.float false .unlt, true⟩
  | .bunler_f => some ⟨.float false .unle, false⟩
  | .bunlei_f => some ⟨.float false .unle, true⟩
  | .buneqr_f => some ⟨.float false .uneq, false⟩
  | .buneqi_f => some ⟨.float false .uneq, true⟩
  | .bunger_f => some ⟨.float false .unge, false⟩
  | .bungei_f => some ⟨.float false .unge, true⟩
  | .bungtr_f => some ⟨.float false .ungt, false⟩
  | .bungti_f => some ⟨.float false .ungt, true⟩
  | .bltgtr_f => some ⟨.float false .ltgt, false⟩
  | .bltgti_f => some ⟨.float false .ltgt, true⟩
  | .bordr_f => some ⟨.float false .ord, false⟩
  | .bordi_f => some ⟨.float false .ord, true⟩
  | .bunordr_f => some ⟨.float false .unord, false⟩
  | .bunordi_f => some ⟨.float false .unord, true⟩
  | .bltr_d => some ⟨.float true .lt, false⟩
  | .blti_d => some ⟨.float true .lt, true⟩
  | .bler_d => some ⟨.float true .le, false⟩
  | .blei_d => some ⟨.float true .le, true⟩
  | .beqr_d => some ⟨.float true .eq, false⟩
  | .beqi_d => some ⟨.float true .eq, true⟩
  | .bger_d => some ⟨.float true .ge, false⟩
  | .bgei_d => some ⟨.float true .ge, true⟩
  | .bgtr_d => some ⟨.float true .gt, false⟩
  | .bgti_d => some ⟨.float true .gt, true⟩
  | .bner_d => some ⟨.float true .ne, false⟩
  | .bnei_d => some ⟨.float true .ne, true⟩
  | .bunltr_d => some ⟨.float true .unlt, false⟩
  | .bunlti_d => some ⟨.float true .unlt, true⟩
  | .bunler_d => some ⟨.float true .unle, false⟩
  | .bunlei_d => some ⟨.float true .unle, true⟩
  | .buneqr_d => some ⟨.float true .uneq, false⟩
  | .buneqi_d => some ⟨.float true .uneq, true⟩
  | .bunger_d => some ⟨.float true .unge, false⟩
  | .bungei_d => some ⟨.float true .unge, true⟩
  | .bungtr_d => some ⟨.float true .ungt, false⟩
  | .bungti_d => some ⟨.float true .ungt, true⟩
  | .bltgtr_d => some ⟨.float true .ltgt, false⟩
  | .bltgti_d => some ⟨.float true .ltgt, true⟩
  | .bordr_d => some ⟨.float true .ord, false⟩
  | .bordi_d => some ⟨.float true .ord, true⟩
  | .bunordr_d => some ⟨.float true .unord, false⟩
  | .bunordi_d => some ⟨.float true .unord, true⟩
  | _ => none

/-- The reversed jump is the branch on the opposite condition. -/
theorem condJump_reverse {code reversed : Code} (found : reverseJumpCode code = some reversed) :
    ∃ branch, condJump code = some branch ∧ condJump reversed = some branch.negate := by
  cases code <;> first | (cases found; done) | (cases found; exact ⟨_, rfl, rfl⟩)

/-- The branches are the instructions that may jump, but for jumps and calls. -/
theorem condJump_isSome {code : Code} {cc : List Cc} (classified : jitClassify code = some cc)
    (jumps : .a0Jmp ∈ cc) (other : code ∉ [Code.jmpi, .jmpr, .calli, .callr]) :
    (condJump code).isSome := by
  cases code <;> first
    | rfl
    | (cases classified; done)
    | (cases classified; exact absurd jumps (by decide))
    | exact absurd (by decide) other

end Zjit
