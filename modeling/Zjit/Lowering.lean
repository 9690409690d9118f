import Zjit.Instr.Branch
import Zjit.Instr.Float
import Zjit.Instr.Integer
import Zjit.Instr.Memory
import Zjit.Lifecycle

/-!
# Lowering of instruction streams

A sequence of instruction methods appends the nodes that the macros of the same names append.
-/
namespace Zjit

open Foundation Program

variable {W : WordSize}

/-- A call of an instruction method. -/
inductive Method (W : WordSize)
  | misc (m : Misc W)
  | arith (m : Arith W)
  | bitwise (m : Bitwise W)
  | compare (m : Compare W)
  | move (m : Move W)
  | load (m : Load W)
  | store (m : Store W)
  | branch (m : Branch W)
  | branchF (m : BranchF W)
  | branchD (m : BranchD W)
  | floatF (m : FloatF W)
  | floatD (m : FloatD W)
  | immF (m : ImmF W)
  | immD (m : ImmD W)
  | fused (m : Fused W)
  | reinterpret (m : Reinterpret W)

namespace Method

def wrapper : Method W → Wrapper W
  | misc m => m.wrapper
  | arith m => m.wrapper
  | bitwise m => m.wrapper
  | compare m => m.wrapper
  | move m => m.wrapper
  | load m => m.wrapper
  | store m => m.wrapper
  | branch m => m.wrapper
  | branchF m => m.wrapper
  | branchD m => m.wrapper
  | floatF m => m.wrapper
  | floatD m => m.wrapper
  | immF m => m.wrapper
  | immD m => m.wrapper
  | fused m => m.wrapper
  | reinterpret m => m.wrapper

def expansion : Method W → NewNode W
  | misc m => m.expansion
  | arith m => m.expansion
  | bitwise m => m.expansion
  | compare m => m.expansion
  | move m => m.expansion
  | load m => m.expansion
  | store m => m.expansion
  | branch m => m.expansion
  | branchF m => m.expansion
  | branchD m => m.expansion
  | floatF m => m.expansion
  | floatD m => m.expansion
  | immF m => m.expansion
  | immD m => m.expansion
  | fused m => m.expansion
  | reinterpret m => m.expansion

/-- Whether the macro stands under `#if __WORDSIZE == 64`. -/
def wide : Method W → Bool
  | move m => m.wide
  | load m => m.wide
  | store m => m.wide
  | floatF m => m.wide
  | floatD m => m.wide
  | _ => false

/-- The macro of the same name, where the header defines one. -/
def header (m : Method W) : Option (NewNode W) :=
  if m.wide ∧ W = .w32 then none else some m.expansion

def immediate : Method W → Option (Immediate W)
  | move m => m.immediate
  | load m => m.immediate
  | store m => m.immediate
  | floatF m => m.immediate
  | floatD m => m.immediate
  | _ => none

/-- The method whose body passes an `f32` for a `jit_word_t`. -/
def isMoviFW : Method W → Bool
  | reinterpret (.movi_f_w _ _) => true
  | _ => false

end Method

/-- The methods one after the other. -/
def zigRun : List (Method W) → ZigM W Unit
  | [] => pure ()
  | m :: rest => do
    let _ ← m.wrapper.run
    zigRun rest

/-- The macros one after the other. -/
def macroRun : List (NewNode W) → Jit W Unit
  | [] => pure ()
  | call :: rest => do
    let _ ← call.run
    macroRun rest

/-! ### One call -/

/-- What a method that compiles passes on: what its macro does, unless `@intCast` refuses. -/
def Agrees (wrapper : Wrapper W) (expansion : NewNode W) (immediate : Option (Immediate W)) : Prop :=
  wrapper.call = if immediate.any (·.traps) then .error .castOverflow else .ok expansion

/-- One operand goes through `@intCast`; with a word in its place the call is the macro's. -/
private theorem agrees_intCast (address : Pointer W) (slot : Slot) (rest : Word W → Zig.Call W)
    (expansion : NewNode W) (accepted : rest (castWord address) = .ok expansion) :
    Agrees (.sets ((Arg.intCast address).toWord >>= rest)) expansion
      (some { address, slot, cast := true }) := by
  by_cases fits : address.fitsWord
  · simp only [Agrees, Wrapper.call, Arg.toWord_intCast, Immediate.traps, Option.any_some, fits]
    exact accepted
  · simp only [Agrees, Wrapper.call, Arg.toWord_intCast, Immediate.traps, Option.any_some, fits]
    rfl

theorem Misc.agrees (m : Misc W) : Agrees m.wrapper m.expansion none := by
  cases m <;> rfl

theorem Arith.agrees (m : Arith W) : Agrees m.wrapper m.expansion none := by
  cases m <;> rfl

theorem Bitwise.agrees (m : Bitwise W) : Agrees m.wrapper m.expansion none := by
  cases m <;> rfl

theorem Compare.agrees (m : Compare W) : Agrees m.wrapper m.expansion none := by
  cases m <;> rfl

theorem Move.agrees (m : Move W) : Agrees m.wrapper m.expansion m.immediate := by
  cases m
  case casi u v lo hi => exact agrees_intCast v .v _ _ rfl
  all_goals rfl

theorem Load.agrees (m : Load W) : Agrees m.wrapper m.expansion m.immediate := by
  cases m
  case unldi u v w => exact agrees_intCast v .v _ _ rfl
  case unldi_u u v w => exact agrees_intCast v .v _ _ rfl
  all_goals rfl

theorem Store.agrees (m : Store W) : Agrees m.wrapper m.expansion m.immediate := by
  cases m
  case unsti u v w => exact agrees_intCast u .u _ _ rfl
  case unldi_x u v w => exact agrees_intCast v .v _ _ rfl
  case unsti_x u v w => exact agrees_intCast u .u _ _ rfl
  all_goals rfl

theorem Branch.agrees (m : Branch W) : Agrees m.wrapper m.expansion none := by
  cases m <;> rfl

theorem BranchF.agrees (m : BranchF W) : Agrees m.wrapper m.expansion none := by
  cases m <;> rfl

theorem BranchD.agrees (m : BranchD W) : Agrees m.wrapper m.expansion none := by
  cases m <;> rfl

theorem FloatF.agrees (m : FloatF W) : Agrees m.wrapper m.expansion m.immediate := by
  cases m <;> rfl

theorem FloatD.agrees (m : FloatD W) : Agrees m.wrapper m.expansion m.immediate := by
  cases m <;> rfl

theorem ImmF.agrees (m : ImmF W) : Agrees m.wrapper m.expansion none := by
  cases m <;> rfl

theorem ImmD.agrees (m : ImmD W) : Agrees m.wrapper m.expansion none := by
  cases m <;> rfl

theorem Fused.agrees (m : Fused W) : Agrees m.wrapper m.expansion none := by
  cases m <;> rfl

/-- The bit moves agree, but for the one that does not compile. -/
theorem Reinterpret.agrees (m : Reinterpret W) :
    (∀ u v, m ≠ .movi_f_w u v) → Agrees m.wrapper m.expansion none := by
  cases m
  case movi_f_w u v => exact fun other => absurd rfl (other u v)
  all_goals exact fun _ => rfl

theorem Method.agrees (m : Method W) (compiles : m.isMoviFW = false) :
    Agrees m.wrapper m.expansion m.immediate := by
  cases m with
  | misc m => exact m.agrees
  | arith m => exact m.agrees
  | bitwise m => exact m.agrees
  | compare m => exact m.agrees
  | move m => exact m.agrees
  | load m => exact m.agrees
  | store m => exact m.agrees
  | branch m => exact m.agrees
  | branchF m => exact m.agrees
  | branchD m => exact m.agrees
  | floatF m => exact m.agrees
  | floatD m => exact m.agrees
  | immF m => exact m.agrees
  | immD m => exact m.agrees
  | fused m => exact m.agrees
  | reinterpret m =>
    refine m.agrees fun u v same => ?_
    subst same
    exact Bool.noConfusion compiles

theorem Method.call_moviFW (m : Method W) (moves : m.isMoviFW = true) :
    m.wrapper.call = .error .typeMismatch := by
  cases m with
  | reinterpret m => cases m <;> first | rfl | exact Bool.noConfusion moves
  | _ => exact Bool.noConfusion moves

/-- No address operand stands in the way of `@intCast`. -/
def Method.Fits (m : Method W) : Prop :=
  ∀ imm, m.immediate = some imm → imm.address.fitsWord

theorem Method.traps_of_fits (m : Method W) (fits : m.Fits) :
    m.immediate.any (·.traps) = false := by
  cases present : m.immediate with
  | none => rfl
  | some imm => exact (imm.not_traps_iff).mpr (Or.inr (fits imm present))

theorem Method.isMoviFW_iff (m : Method W) :
    m.isMoviFW = true ↔ ∃ u v, m = .reinterpret (.movi_f_w u v) := by
  constructor
  · intro moves
    cases m with
    | reinterpret m =>
      cases m with
      | movi_f_w u v => exact ⟨u, v, rfl⟩
      | _ => exact Bool.noConfusion moves
    | _ => exact Bool.noConfusion moves
  · rintro ⟨u, v, rfl⟩
    rfl

/-! ### A sequence of calls -/

theorem Method.header_eq (m : Method W) {call : NewNode W} (defined : m.header = some call) :
    call = m.expansion := by
  unfold Method.header at defined
  split at defined
  · cases defined
  · exact (Option.some.inj defined).symm

/-- A method that compiles takes the step its macro takes. -/
theorem Method.run_of_header (m : Method W) (call : NewNode W) (z : ZigState W) (s : State W)
    (ref : NodeRef) (compiles : m.isMoviFW = false) (fits : m.Fits)
    (defined : m.header = some call) (ran : Returns call.run z.jit ref s) :
    ∃ result z', Returns m.wrapper.run z result z' ∧ z'.jit = s := by
  obtain rfl := m.header_eq defined
  have called : m.wrapper.call = .ok m.expansion := by
    have agrees := m.agrees compiles
    rw [Agrees, m.traps_of_fits fits] at agrees
    exact agrees
  cases sets : m.wrapper.setsLast with
  | true =>
    refine ⟨none, { jit := s, lastNode := some ref }, ?_, rfl⟩
    rw [Wrapper.returns_run, sets]
    exact ⟨_, ref, s, called, ran, rfl, rfl⟩
  | false =>
    refine ⟨some ref, { z with jit := s }, ?_, rfl⟩
    rw [Wrapper.returns_run, sets]
    exact ⟨_, ref, s, called, ran, rfl, rfl⟩

theorem returns_zigRun_cons (m : Method W) (rest : List (Method W)) (z z' : ZigState W) :
    Returns (zigRun (m :: rest)) z () z' ↔
      ∃ result mid, Returns m.wrapper.run z result mid ∧ Returns (zigRun rest) mid () z' := by
  simp only [zigRun, returns_bind]

theorem returns_macroRun_cons (call : NewNode W) (rest : List (NewNode W)) (s t : State W) :
    Returns (macroRun (call :: rest)) s () t ↔
      ∃ ref mid, Returns call.run s ref mid ∧ Returns (macroRun rest) mid () t := by
  simp only [macroRun, returns_bind]

/-- No run of the methods gets past a call that does not compile. -/
theorem compiles_of_zigRun (calls : List (Method W)) (z z' : ZigState W)
    (ran : Returns (zigRun calls) z () z') : ∀ m ∈ calls, m.isMoviFW = false := by
  induction calls generalizing z with
  | nil => exact fun m member => absurd member List.not_mem_nil
  | cons first rest ih =>
    obtain ⟨result, mid, head, tail⟩ := (returns_zigRun_cons first rest z z').mp ran
    obtain ⟨call, _, _, called, _⟩ := (Wrapper.returns_run _ _ _ _).mp head
    intro m member
    rcases List.mem_cons.mp member with rfl | later
    · by_contra moves
      rw [m.call_moviFW (Bool.eq_true_of_not_eq_false moves)] at called
      cases called
    · exact ih mid tail m later

theorem zigRun_of_macroRun (calls : List (Method W)) (macros : List (NewNode W)) (z : ZigState W)
    (s : State W) (compiles : ∀ m ∈ calls, m.isMoviFW = false) (fits : ∀ m ∈ calls, m.Fits)
    (defined : calls.mapM Method.header = some macros)
    (accepted : Returns (macroRun macros) z.jit () s) :
    ∃ z', Returns (zigRun calls) z () z' ∧ z'.jit = s := by
  induction calls generalizing z macros with
  | nil =>
    obtain rfl : [] = macros := by simpa using defined
    obtain ⟨-, rfl⟩ := (returns_pure () () z.jit s).mp accepted
    exact ⟨z, (returns_pure () () z z).mpr ⟨rfl, rfl⟩, rfl⟩
  | cons first rest ih =>
    simp only [List.mapM_cons, Option.bind_eq_bind, Option.bind_eq_some_iff, Option.pure_def,
      Option.some.injEq] at defined
    obtain ⟨call, here, later, defined, rfl⟩ := defined
    obtain ⟨ref, mid, head, tail⟩ := (returns_macroRun_cons call later z.jit s).mp accepted
    obtain ⟨result, z', ran, rfl⟩ := first.run_of_header call z mid ref
      (compiles first List.mem_cons_self) (fits first List.mem_cons_self) here head
    obtain ⟨z'', rest, same⟩ := ih later z' (fun m member => compiles m (List.mem_cons_of_mem _ member))
      (fun m member => fits m (List.mem_cons_of_mem _ member)) defined tail
    exact ⟨z'', (returns_zigRun_cons _ _ _ _).mpr ⟨result, z', ran, rest⟩, same⟩

/-- Where the macros run, the methods run to the same state, unless one of them is `movi_f_w`. -/
theorem lowering_faithful_iff (calls : List (Method W)) (macros : List (NewNode W))
    (z : ZigState W) (s : State W) (fits : ∀ m ∈ calls, m.Fits)
    (defined : calls.mapM Method.header = some macros)
    (accepted : Returns (macroRun macros) z.jit () s) :
    (∃ z', Returns (zigRun calls) z () z' ∧ z'.jit = s) ↔
      ∀ u v, Method.reinterpret (.movi_f_w u v) ∉ calls := by
  constructor
  · rintro ⟨z', ran, -⟩ u v member
    exact Bool.noConfusion (compiles_of_zigRun calls z z' ran _ member)
  · intro absent
    refine zigRun_of_macroRun calls macros z s (fun m member => ?_) fits defined accepted
    by_contra moves
    obtain ⟨u, v, rfl⟩ := m.isMoviFW_iff.mp (Bool.eq_true_of_not_eq_false moves)
    exact absent u v member

/-- A reversed subtraction, a compare-and-swap on an address, a branch and a call. -/
def sample : List (Method .w64) :=
  [.arith (.rsbr 0 1 2), .move (.casi 0 0x1000 1 2), .branch (.beqr 0 1), .branch (.calli 0x2000)]

theorem lowering_faithful_sample :
    ∃ macros s, sample.mapM Method.header = some macros ∧
      Returns (macroRun macros) (jitNewState .w64) () s ∧
      ∃ z', Returns (zigRun sample) { jit := jitNewState .w64 } () z' ∧ z'.jit = s := by
  refine ⟨sample.map Method.expansion, _, rfl, rfl, ?_⟩
  refine (lowering_faithful_iff sample _ { jit := jitNewState .w64 } _ ?_ rfl rfl).mpr ?_
  · simp [sample, Method.Fits, Method.immediate, Move.immediate, Pointer.fitsWord, WordSize.bits]
  · simp [sample]

/-- The macro appends its node where the method does not compile. -/
theorem moviFW_unfaithful :
    ∃ s, (Method.reinterpret (.movi_f_w 0 0x3f800000) : Method .w64).header =
        some (.wf .movi_f_w 0 0x3f800000) ∧
      Returns (macroRun [.wf .movi_f_w 0 0x3f800000]) (jitNewState .w64) () s ∧
      ¬ ∃ z', Returns (zigRun [.reinterpret (.movi_f_w 0 0x3f800000)])
        { jit := jitNewState .w64 } () z' ∧ z'.jit = s := by
  refine ⟨_, rfl, rfl, ?_⟩
  rintro ⟨z', ran, -⟩
  exact Bool.noConfusion (compiles_of_zigRun _ _ z' ran _ List.mem_cons_self)

/-! ### Address immediates -/

/-- The macro keeps the address in its slot as a word, and the method keeps the node. -/
structure Places (wrapper : Wrapper W) (expansion : NewNode W) (imm : Immediate W) : Prop where
  accepts : expansion.accepts
  sets : wrapper.setsLast = true
  slot : ∀ node, (expansion.fill node).slot imm.slot = .w (castWord imm.address)

variable {imm : Immediate W}

theorem Move.places (m : Move W) (takes : m.immediate = some imm) :
    Places m.wrapper m.expansion imm := by
  cases m <;> cases takes
  exact ⟨trivial, rfl, fun _ => rfl⟩

theorem Load.places (m : Load W) (takes : m.immediate = some imm) :
    Places m.wrapper m.expansion imm := by
  cases m <;> cases takes <;> exact ⟨trivial, rfl, fun _ => rfl⟩

theorem Store.places (m : Store W) (takes : m.immediate = some imm) :
    Places m.wrapper m.expansion imm := by
  cases m <;> cases takes <;> exact ⟨trivial, rfl, fun _ => rfl⟩

theorem FloatF.places (m : FloatF W) (takes : m.immediate = some imm) :
    Places m.wrapper m.expansion imm := by
  cases m <;> cases takes <;> exact ⟨trivial, rfl, fun _ => rfl⟩

theorem FloatD.places (m : FloatD W) (takes : m.immediate = some imm) :
    Places m.wrapper m.expansion imm := by
  cases m <;> cases takes <;> exact ⟨trivial, rfl, fun _ => rfl⟩

theorem Method.places (m : Method W) (takes : m.immediate = some imm) :
    Places m.wrapper m.expansion imm := by
  cases m with
  | move m => exact m.places takes
  | load m => exact m.places takes
  | store m => exact m.places takes
  | floatF m => exact m.places takes
  | floatD m => exact m.places takes
  | _ => cases takes

theorem Method.compiles_of_immediate (m : Method W) (takes : m.immediate = some imm) :
    m.isMoviFW = false := by
  cases m <;> first | rfl | cases takes

theorem Method.call_of_immediate (m : Method W) (takes : m.immediate = some imm) :
    m.wrapper.call = if imm.traps then .error .castOverflow else .ok m.expansion := by
  have agrees := m.agrees (m.compiles_of_immediate takes)
  rw [Agrees, takes] at agrees
  exact agrees

/-- A method stores the address as its macro does, and completes, unless it puts an address of
the upper half through `@intCast`. -/
theorem address_stored_iff (m : Method W) (imm : Immediate W) (z : ZigState W)
    (takes : m.immediate = some imm) (constructing : z.jit.realize = false) :
    (∃ z' ref, Returns m.wrapper.run z none z' ∧ z'.lastNode = some ref ∧
      (z'.jit.memory ref).slot imm.slot = .w (castWord imm.address) ∧
      ∀ call, m.header = some call → Returns call.run z.jit ref z'.jit) ↔
    imm.cast = false ∨ imm.address.fitsWord := by
  rw [← imm.not_traps_iff]
  have places := m.places takes
  have called := m.call_of_immediate takes
  constructor
  · rintro ⟨z', ref, ran, -⟩
    obtain ⟨call, _, _, accepted, _⟩ := (Wrapper.returns_run _ _ _ _).mp ran
    cases traps : imm.traps with
    | false => rfl
    | true =>
      -- `@intCast` has refused the address before any node was made.
      rw [called, traps] at accepted
      cases accepted
  · intro passes
    obtain ⟨ref, first⟩ := ready_list z.jit
    have ran : Returns m.expansion.run z.jit ref (m.expansion.append z.jit ref) :=
      (m.expansion.returns_run _ _ _).mpr ⟨places.accepts, constructing, first, rfl⟩
    refine ⟨{ jit := m.expansion.append z.jit ref, lastNode := some ref }, ref, ?_, rfl, ?_, ?_⟩
    · rw [Wrapper.returns_run, called, passes, places.sets]
      exact ⟨_, ref, _, rfl, ran, rfl, rfl⟩
    · obtain ⟨before, next, stored⟩ := m.expansion.append_memory z.jit ref
      simp only [stored, ← places.slot before]
      cases imm.slot <;> rfl
    · intro call defined
      rw [m.header_eq defined]
      exact ran

/-- A load through a pointer, from the upper half of the address space. -/
def highLoad : Method .w32 := .load (.ldi_i 0 0x80000000)

theorem address_stored_highLoad :
    ∃ z' ref, Returns highLoad.wrapper.run { jit := jitNewState .w32 } none z' ∧
      z'.lastNode = some ref ∧ (z'.jit.memory ref).slot .v = .w (castWord 0x80000000) ∧
      ∀ call, highLoad.header = some call → Returns call.run (jitNewState .w32) ref z'.jit :=
  (address_stored_iff highLoad { address := 0x80000000, slot := .v, cast := false }
    { jit := jitNewState .w32 } rfl rfl).mpr (Or.inl rfl)

/-- A compare-and-swap on the same address traps, where the macro appends its node. -/
theorem casi_traps :
    (∃ ref s, Returns (NewNode.wwq .casi 0 (castWord 0x80000000) 1 2).run (jitNewState .w32) ref s) ∧
      ¬ ∃ result z', Returns (Method.move (.casi 0 0x80000000 1 2)).wrapper.run
        { jit := jitNewState .w32 } result z' := by
  refine ⟨⟨⟨9, 0⟩, _, rfl⟩, ?_⟩
  rintro ⟨result, z', ran⟩
  obtain ⟨call, _, _, called, _⟩ := (Wrapper.returns_run _ _ _ _).mp ran
  cases called

end Zjit
