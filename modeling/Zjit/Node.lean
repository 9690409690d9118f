import Zjit.State

/-!
# Node construction

The node pool, the free list threaded through it, and the `_jit_new_node_*` constructors that
append to the node list.
-/
namespace Zjit

open Foundation Program

variable {W : WordSize}

/-! ### The pool -/

/-- A chunk has this many nodes. -/
def chunkNodes : Nat := 1024

/-- The memory after the nodes of `chunk` have been strung together in front of `list`. -/
def threadChunk (memory : NodeRef → Node W) (chunk : Block) (list : Option NodeRef) :
    NodeRef → Node W := fun ref =>
  if ref.chunk = chunk then
    if ref.index + 1 < chunkNodes then { next := some ⟨chunk, ref.index + 1⟩ }
    else if ref.index + 1 = chunkNodes then { next := list }
    else {}
  else memory ref

/-- Room for 16 more chunks once the table of chunks is full. -/
def State.growPool (s : State W) : State W :=
  if s.pool.chunks.length ≥ s.pool.length then
    { s with
      ledger := s.ledger.realloc s.pool.ptr
      pool := { s.pool with ptr := some s.ledger.next, length := s.pool.length + 16 } }
  else s

def State.addChunk (s : State W) : State W :=
  { s with
    ledger := s.ledger.alloc
    memory := threadChunk s.memory s.ledger.next s.list
    list := some ⟨s.ledger.next, 0⟩
    pool := { s.pool with chunks := s.pool.chunks ++ [s.ledger.next] } }

/-- `_new_pool`. -/
def newPool : Jit W Unit := update fun s => s.growPool.addChunk

/-- The state `_new_node` takes its node from: a new chunk once the free list has run out. -/
def State.ready (s : State W) : State W := if s.list = none then s.growPool.addChunk else s

/-- The node at `ref` leaves the free list and gets a code. -/
def State.takeNode (s : State W) (ref : NodeRef) (code : Code) : State W :=
  State.setNode { s with list := (s.memory ref).next } ref fun node =>
    { node with
      flag := if s.synth ≠ 0 then node.flag ||| flagSynth else node.flag
      next := none
      code := code }

/-- `_new_node`. -/
def newNode (code : Code) : Jit W NodeRef := do
  if (← reads (·.list)) = none then newPool
  let ref ← Jit.deref (← reads (·.list))
  update fun s => s.takeNode ref code
  pure ref

def State.linkNode (s : State W) (ref : NodeRef) : State W :=
  match s.tail with
  | some tail => State.setNode { s with tail := some ref } tail fun node =>
      { node with next := some ref }
  | none => { s with head := some ref, tail := some ref }

/-- `_link_node`. -/
def linkNode (ref : NodeRef) : Jit W NodeRef := do
  update fun s => s.linkNode ref
  pure ref

/-- The node is zeroed and put in front of the free list. -/
def State.freeNode (s : State W) (ref : NodeRef) : State W :=
  State.setNode { s with list := some ref } ref fun _ => { next := s.list }

theorem ready_list (s : State W) : ∃ ref, s.ready.list = some ref := by
  unfold State.ready
  split
  next => exact ⟨_, rfl⟩
  next present => exact Option.ne_none_iff_exists'.mp present

/-- `_new_node` never fails: it takes the first node of the list it made ready. -/
theorem returns_newNode (code : Code) (s t : State W) (ref : NodeRef) :
    Returns (newNode code) s ref t ↔ s.ready.list = some ref ∧ t = s.ready.takeNode ref code := by
  unfold newNode newPool Jit.deref State.ready
  by_cases empty : s.list = none
  · simp [empty, eq_comm]
  · simp [empty, eq_comm]

@[simp] theorem returns_linkNode (ref result : NodeRef) (s t : State W) :
    Returns (linkNode ref) s result t ↔ ref = result ∧ s.linkNode ref = t := by
  simp [linkNode, and_comm]

/-! ### Constructors -/

/-- `assert(!_jitc->realize)`. -/
def assertConstructing : Jit W Unit := do
  Jit.assert ((← reads (·.realize)) = false)

/-- What the constructors share: a new node, filled in and linked at the tail. -/
def appendNode (code : Code) (fill : Node W → Node W) : Jit W NodeRef := do
  let ref ← newNode code
  assertConstructing
  writeNode ref fill
  linkNode ref

@[simp] theorem returns_assertConstructing (s t : State W) (result : Unit) :
    Returns assertConstructing s result t ↔ s.realize = false ∧ s = t := by
  simp [assertConstructing, and_comm]

theorem ready_realize (s : State W) : s.ready.realize = s.realize := by
  unfold State.ready State.growPool State.addChunk
  split <;> (try split) <;> rfl

/-- A constructor appends outside realize, and only there. -/
theorem returns_appendNode (code : Code) (fill : Node W → Node W) (s t : State W)
    (ref : NodeRef) :
    Returns (appendNode code fill) s ref t ↔
      s.realize = false ∧ s.ready.list = some ref ∧
        t = ((s.ready.takeNode ref code).setNode ref fill).linkNode ref := by
  have realize : (s.ready.takeNode ref code).realize = s.realize := ready_realize s
  constructor
  · intro ran
    simp only [appendNode, returns_bind, returns_newNode, returns_assertConstructing,
      returns_writeNode, returns_linkNode] at ran
    obtain ⟨a, u, ⟨first, rfl⟩, -, -, ⟨constructing, rfl⟩, -, -, rfl, rfl, rfl⟩ := ran
    exact ⟨realize ▸ constructing, first, rfl⟩
  · rintro ⟨constructing, first, rfl⟩
    simp only [appendNode, returns_bind, returns_newNode, returns_assertConstructing,
      returns_writeNode, returns_linkNode]
    exact ⟨ref, _, ⟨first, rfl⟩, (), _, ⟨realize.trans constructing, rfl⟩, (), _, rfl, rfl, rfl⟩

/-- Linking changes no node but in its `next` field. -/
theorem linkNode_memory (s : State W) (ref other : NodeRef) :
    ∃ next, (s.linkNode ref).memory other = { s.memory other with next := next } := by
  unfold State.linkNode
  split
  next tail _ =>
    by_cases same : other = tail
    · subst same
      exact ⟨some ref, setNode_memory_same ..⟩
    · exact ⟨(s.memory other).next, setNode_memory_of_ne _ _ same⟩
  next => exact ⟨(s.memory other).next, rfl⟩

def jitNewNode (code : Code) : Jit W NodeRef := appendNode code id

def jitNewNodeNoLink (code : Code) : Jit W NodeRef := do
  assertConstructing
  newNode code

def jitLinkNode (ref : NodeRef) : Jit W NodeRef := do
  assertConstructing
  linkNode ref

def jitNewNodeW (code : Code) (u : Word W) : Jit W NodeRef :=
  appendNode code fun node => { node with u := .w u }

def jitNewNodeF (code : Code) (u : Float32Bits) : Jit W NodeRef :=
  appendNode code fun node => { node with u := .f u }

def jitNewNodeD (code : Code) (u : Float64Bits) : Jit W NodeRef :=
  appendNode code fun node => { node with u := .d u }

def jitNewNodeP (code : Code) (u : Pointer W) : Jit W NodeRef :=
  appendNode code fun node => { node with u := .p u }

def jitNewNodeWw (code : Code) (u v : Word W) : Jit W NodeRef :=
  appendNode code fun node => { node with u := .w u, v := .w v }

def jitNewNodeWp (code : Code) (u : Word W) (v : Pointer W) : Jit W NodeRef :=
  jitNewNodeWw code u (castWord v)

def jitNewNodePw (code : Code) (u : Pointer W) (v : Word W) : Jit W NodeRef :=
  jitNewNodeWw code (castWord u) v

/-- The address of a node for the pointer of `jitNewNodeWp`, likewise for the next two. -/
def jitNewNodeWn (code : Code) (u : Word W) (v : NodeRef) : Jit W NodeRef :=
  appendNode code fun node => { node with u := .w u, v := .n v }

/-- `_jit_new_node_fp`. -/
def jitNewNodeFn (code : Code) (u : Float32Bits) (v : NodeRef) : Jit W NodeRef :=
  appendNode code fun node => { node with u := .f u, v := .n v }

/-- `_jit_new_node_dp`. -/
def jitNewNodeDn (code : Code) (u : Float64Bits) (v : NodeRef) : Jit W NodeRef :=
  appendNode code fun node => { node with u := .d u, v := .n v }

def jitNewNodeWf (code : Code) (u : Word W) (v : Float32Bits) : Jit W NodeRef :=
  appendNode code fun node => { node with u := .w u, v := .f v }

def jitNewNodeWd (code : Code) (u : Word W) (v : Float64Bits) : Jit W NodeRef :=
  appendNode code fun node => { node with u := .w u, v := .d v }

def jitNewNodeWww (code : Code) (u v w : Word W) : Jit W NodeRef :=
  appendNode code fun node => { node with u := .w u, v := .w v, w := .w w }

def jitNewNodeQww (code : Code) (l h : CInt) (v w : Word W) : Jit W NodeRef := do
  Jit.assert (l ≠ h)
  appendNode code fun node => { node with u := .q l h, v := .w v, w := .w w }

def jitNewNodeWqw (code : Code) (u : Word W) (l h : CInt) (w : Word W) : Jit W NodeRef := do
  Jit.assert (l ≠ h)
  appendNode code fun node => { node with u := .w u, v := .q l h, w := .w w }

def jitNewNodeWwq (code : Code) (u v : Word W) (l h : CInt) : Jit W NodeRef :=
  appendNode code fun node => { node with u := .w u, v := .w v, w := .q l h }

def jitNewNodeWwf (code : Code) (u v : Word W) (w : Float32Bits) : Jit W NodeRef :=
  appendNode code fun node => { node with u := .w u, v := .w v, w := .f w }

def jitNewNodeWwd (code : Code) (u v : Word W) (w : Float64Bits) : Jit W NodeRef :=
  appendNode code fun node => { node with u := .w u, v := .w v, w := .d w }

def jitNewNodePww (code : Code) (u : Pointer W) (v w : Word W) : Jit W NodeRef :=
  appendNode code fun node => { node with u := .p u, v := .w v, w := .w w }

def jitNewNodePwf (code : Code) (u : Pointer W) (v : Word W) (w : Float32Bits) : Jit W NodeRef :=
  appendNode code fun node => { node with u := .p u, v := .w v, w := .f w }

def jitNewNodePwd (code : Code) (u : Pointer W) (v : Word W) (w : Float64Bits) : Jit W NodeRef :=
  appendNode code fun node => { node with u := .p u, v := .w v, w := .d w }

/-- A call of one of the constructors, its arguments already of the C parameter types. -/
inductive NewNode (W : WordSize)
  | plain (code : Code)
  | f (code : Code) (u : Float32Bits)
  | d (code : Code) (u : Float64Bits)
  | wn (code : Code) (u : Word W) (v : NodeRef)
  | fn (code : Code) (u : Float32Bits) (v : NodeRef)
  | dn (code : Code) (u : Float64Bits) (v : NodeRef)
  | w (code : Code) (u : Word W)
  | p (code : Code) (u : Pointer W)
  | ww (code : Code) (u v : Word W)
  | wp (code : Code) (u : Word W) (v : Pointer W)
  | pw (code : Code) (u : Pointer W) (v : Word W)
  | wf (code : Code) (u : Word W) (v : Float32Bits)
  | wd (code : Code) (u : Word W) (v : Float64Bits)
  | www (code : Code) (u v w : Word W)
  | qww (code : Code) (l h : CInt) (v w : Word W)
  | wqw (code : Code) (u : Word W) (l h : CInt) (w : Word W)
  | wwq (code : Code) (u v : Word W) (l h : CInt)
  | wwf (code : Code) (u v : Word W) (w : Float32Bits)
  | wwd (code : Code) (u v : Word W) (w : Float64Bits)
  | pww (code : Code) (u : Pointer W) (v w : Word W)
  | pwf (code : Code) (u : Pointer W) (v : Word W) (w : Float32Bits)
  | pwd (code : Code) (u : Pointer W) (v : Word W) (w : Float64Bits)
  deriving DecidableEq, Repr

namespace NewNode

def run : NewNode W → Jit W NodeRef
  | .plain code => jitNewNode code
  | .f code u => jitNewNodeF code u
  | .d code u => jitNewNodeD code u
  | .wn code u v => jitNewNodeWn code u v
  | .fn code u v => jitNewNodeFn code u v
  | .dn code u v => jitNewNodeDn code u v
  | .w code u => jitNewNodeW code u
  | .p code u => jitNewNodeP code u
  | .ww code u v => jitNewNodeWw code u v
  | .wp code u v => jitNewNodeWp code u v
  | .pw code u v => jitNewNodePw code u v
  | .wf code u v => jitNewNodeWf code u v
  | .wd code u v => jitNewNodeWd code u v
  | .www code u v x => jitNewNodeWww code u v x
  | .qww code l h v x => jitNewNodeQww code l h v x
  | .wqw code u l h x => jitNewNodeWqw code u l h x
  | .wwq code u v l h => jitNewNodeWwq code u v l h
  | .wwf code u v x => jitNewNodeWwf code u v x
  | .wwd code u v x => jitNewNodeWwd code u v x
  | .pww code u v x => jitNewNodePww code u v x
  | .pwf code u v x => jitNewNodePwf code u v x
  | .pwd code u v x => jitNewNodePwd code u v x

def code : NewNode W → Code
  | .plain code | .f code _ | .d code _ | .wn code _ _ | .fn code _ _ | .dn code _ _
  | .w code _ | .p code _ | .ww code _ _ | .wp code _ _ | .pw code _ _ | .wf code _ _
  | .wd code _ _ | .www code _ _ _ | .qww code _ _ _ _ | .wqw code _ _ _ _ | .wwq code _ _ _ _
  | .wwf code _ _ _ | .wwd code _ _ _ | .pww code _ _ _ | .pwf code _ _ _ | .pwd code _ _ _ => code

/-- The constructors for register pairs assert that the two registers differ. -/
def accepts : NewNode W → Prop
  | .qww _ l h _ _ => l ≠ h
  | .wqw _ _ l h _ => l ≠ h
  | _ => True

instance : (call : NewNode W) → Decidable call.accepts
  | .qww _ l h _ _ => inferInstanceAs (Decidable (l ≠ h))
  | .wqw _ _ l h _ => inferInstanceAs (Decidable (l ≠ h))
  | .plain .. | .f .. | .d .. | .wn .. | .fn .. | .dn .. | .w .. | .p .. | .ww .. | .wp ..
  | .pw .. | .wf .. | .wd .. | .www .. | .wwq .. | .wwf .. | .wwd .. | .pww .. | .pwf ..
  | .pwd .. => isTrue trivial

/-- The three unions the constructor stores. Slots it leaves alone keep what the node had. -/
def fill : NewNode W → Node W → Node W
  | .plain _, node => node
  | .f _ u, node => { node with u := .f u }
  | .d _ u, node => { node with u := .d u }
  | .wn _ u v, node => { node with u := .w u, v := .n v }
  | .fn _ u v, node => { node with u := .f u, v := .n v }
  | .dn _ u v, node => { node with u := .d u, v := .n v }
  | .w _ u, node => { node with u := .w u }
  | .p _ u, node => { node with u := .p u }
  | .ww _ u v, node => { node with u := .w u, v := .w v }
  | .wp _ u v, node => { node with u := .w u, v := .w (castWord v) }
  | .pw _ u v, node => { node with u := .w (castWord u), v := .w v }
  | .wf _ u v, node => { node with u := .w u, v := .f v }
  | .wd _ u v, node => { node with u := .w u, v := .d v }
  | .www _ u v x, node => { node with u := .w u, v := .w v, w := .w x }
  | .qww _ l h v x, node => { node with u := .q l h, v := .w v, w := .w x }
  | .wqw _ u l h x, node => { node with u := .w u, v := .q l h, w := .w x }
  | .wwq _ u v l h, node => { node with u := .w u, v := .w v, w := .q l h }
  | .wwf _ u v x, node => { node with u := .w u, v := .w v, w := .f x }
  | .wwd _ u v x, node => { node with u := .w u, v := .w v, w := .d x }
  | .pww _ u v x, node => { node with u := .p u, v := .w v, w := .w x }
  | .pwf _ u v x, node => { node with u := .p u, v := .w v, w := .f x }
  | .pwd _ u v x, node => { node with u := .p u, v := .w v, w := .d x }

/-- Every constructor is its pair check followed by the shared append. -/
theorem run_eq (call : NewNode W) :
    call.run = (do Jit.assert call.accepts; appendNode call.code call.fill) := by
  cases call <;> rfl

/-- The state after an accepted call that took the node `ref`. -/
def append (call : NewNode W) (s : State W) (ref : NodeRef) : State W :=
  ((s.ready.takeNode ref call.code).setNode ref call.fill).linkNode ref

theorem returns_run (call : NewNode W) (s t : State W) (ref : NodeRef) :
    Returns call.run s ref t ↔
      call.accepts ∧ s.realize = false ∧ s.ready.list = some ref ∧ t = call.append s ref := by
  rw [run_eq, returns_bind]
  simp only [returns_assert, returns_appendNode]
  constructor
  · rintro ⟨_, _, ⟨accepts, rfl⟩, constructing, first, rfl⟩
    exact ⟨accepts, constructing, first, rfl⟩
  · rintro ⟨accepts, constructing, first, rfl⟩
    exact ⟨(), s, ⟨accepts, rfl⟩, constructing, first, rfl⟩

/-- The operands of the new node are those the constructor stored. -/
theorem append_memory (call : NewNode W) (s : State W) (ref : NodeRef) :
    ∃ before next, (call.append s ref).memory ref = { call.fill before with next := next } := by
  obtain ⟨next, same⟩ := linkNode_memory ((s.ready.takeNode ref call.code).setNode ref call.fill) ref ref
  rw [setNode_memory_same] at same
  exact ⟨_, next, same⟩

end NewNode

end Zjit
