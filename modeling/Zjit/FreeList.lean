import Zjit.Build
import Zjit.Foundation.Chain

/-!
# The free list

`_jitc->list` is a chain of nodes nothing else refers to. A node that carries an opcode of its own
is never on it while IR is built, so it keeps its opcode and is handed out only once.
-/
namespace Zjit

open Foundation Program

variable {W : WordSize} {K : Code → Prop} {s t : State W} {cells : List NodeRef}

def State.successor (s : State W) (ref : NodeRef) : Option NodeRef := (s.memory ref).next

/-- The chain from `_jitc->list` on is `cells`, nodes of chunks obtained so far with codes in
`K`. -/
structure State.Free (K : Code → Prop) (s : State W) (cells : List NodeRef) : Prop where
  chain : Chain s.successor s.list cells
  code : ∀ ref ∈ cells, K (s.memory ref).code
  chunk : ∀ ref ∈ cells, ref.chunk < s.ledger.next

/-- A node of a chunk obtained so far. -/
def State.Obtained (s : State W) (ref : NodeRef) : Prop := ref.chunk < s.ledger.next

/-- While IR is built, the free list has blank nodes only, the tail is not among them, and nodes
with an opcode lie in chunks obtained so far. -/
structure State.Constructing (s : State W) (cells : List NodeRef) : Prop where
  free : s.Free (· = .data) cells
  tail : ∀ ref, s.tail = some ref → ref ∉ cells ∧ s.Obtained ref
  obtained : ∀ ref, (s.memory ref).code ≠ .data → s.Obtained ref

theorem State.Free.notMem_of_code (free : s.Free K cells) {ref : NodeRef}
    (other : ¬ K (s.memory ref).code) : ref ∉ cells :=
  fun member => other (free.code ref member)

/-- The free list depends on the list pointer and its own nodes only. -/
theorem State.Free.congr (free : s.Free K cells) (list : t.list = s.list)
    (next : s.ledger.next ≤ t.ledger.next)
    (same : ∀ ref ∈ cells, t.memory ref = s.memory ref) : t.Free K cells where
  chain := by
    rw [list]
    refine free.chain.congr fun ref member => ?_
    rw [successor, successor, same ref member]
  code := by
    intro ref member
    rw [same ref member]
    exact free.code ref member
  chunk := fun ref member => lt_of_lt_of_le (free.chunk ref member) next

/-! ### New chunks -/

theorem threadChunk_of_ne (memory : NodeRef → Node W) {chunk : Block} (list : Option NodeRef)
    {ref : NodeRef} (other : ref.chunk ≠ chunk) : threadChunk memory chunk list ref = memory ref :=
  if_neg other

theorem threadChunk_code (memory : NodeRef → Node W) (chunk : Block) (list : Option NodeRef)
    (index : Nat) : (threadChunk memory chunk list ⟨chunk, index⟩).code = .data := by
  unfold threadChunk
  split
  · split
    · rfl
    · split <;> rfl
  next other => exact absurd rfl other

/-- The nodes of a chunk from `index` on, in front of the old free list. -/
theorem threadChunk_chain {memory : NodeRef → Node W} {chunk : Block} {list : Option NodeRef}
    (old : Chain (fun ref => (threadChunk memory chunk list ref).next) list cells)
    (count : Nat) (index : Nat) (last : index + count + 1 = chunkNodes) :
    Chain (fun ref => (threadChunk memory chunk list ref).next) (some ⟨chunk, index⟩)
      ((List.range' index (count + 1)).map (NodeRef.mk chunk) ++ cells) := by
  induction count generalizing index with
  | zero =>
    refine ⟨rfl, ?_⟩
    have final : (threadChunk memory chunk list ⟨chunk, index⟩).next = list := by
      have end_ : ¬ index + 1 < chunkNodes := by omega
      have exact_ : index + 1 = chunkNodes := by omega
      simp only [threadChunk, if_true, if_neg end_, if_pos exact_]
    beta_reduce
    rw [final]
    exact old
  | succ count ih =>
    refine ⟨rfl, ?_⟩
    have inside : index + 1 < chunkNodes := by omega
    have follow : (threadChunk memory chunk list ⟨chunk, index⟩).next = some ⟨chunk, index + 1⟩ := by
      simp only [threadChunk, if_true, if_pos inside]
    beta_reduce
    rw [follow]
    exact ih (index + 1) (by omega)

theorem growPool_memory (s : State W) :
    s.growPool.memory = s.memory ∧ s.growPool.list = s.list ∧ s.growPool.tail = s.tail ∧
      s.ledger.next ≤ s.growPool.ledger.next := by
  unfold State.growPool
  split
  · refine ⟨rfl, rfl, rfl, ?_⟩
    simp only [Ledger.realloc, Ledger.alloc, Ledger.next_free]
    exact Nat.le_succ _
  · exact ⟨rfl, rfl, rfl, le_rfl⟩

/-- Making ready touches no node obtained before, and leaves some node to take. -/
theorem ready_memory (s : State W) {ref : NodeRef} (obtained : s.Obtained ref) :
    s.ready.memory ref = s.memory ref := by
  unfold State.ready
  split
  · obtain ⟨memory, -, -, next⟩ := growPool_memory s
    have other : ref.chunk ≠ s.growPool.ledger.next := Nat.ne_of_lt (lt_of_lt_of_le obtained next)
    rw [State.addChunk, memory]
    exact threadChunk_of_ne _ _ other
  · rfl

theorem ready_next (s : State W) : s.ledger.next ≤ s.ready.ledger.next := by
  unfold State.ready
  split
  · obtain ⟨-, -, -, next⟩ := growPool_memory s
    exact Nat.le_succ_of_le next
  · exact le_rfl

theorem ready_tail (s : State W) : s.ready.tail = s.tail := by
  unfold State.ready
  split
  · obtain ⟨-, -, tail, -⟩ := growPool_memory s
    exact tail
  · rfl

theorem free_ready (blank : K .data) (free : s.Free K cells) :
    ∃ more, s.ready.Free K more ∧ ∀ ref ∈ more, ref ∈ cells ∨ s.ledger.next ≤ ref.chunk := by
  unfold State.ready
  split
  next empty =>
    obtain ⟨memory, list, -, next⟩ := growPool_memory s
    have none : cells = [] := by
      have chain := free.chain
      rw [empty] at chain
      exact chain.unique rfl
    subst none
    refine ⟨(List.range' 0 (1023 + 1)).map (NodeRef.mk s.growPool.ledger.next) ++ [], ⟨?_, ?_, ?_⟩,
      ?_⟩
    · refine threadChunk_chain ?_ 1023 0 rfl
      rw [list, empty]
      exact rfl
    · intro ref member
      simp only [List.append_nil, List.mem_map] at member
      obtain ⟨index, -, rfl⟩ := member
      have code : (s.growPool.addChunk.memory ⟨s.growPool.ledger.next, index⟩).code = .data :=
        threadChunk_code ..
      rw [code]
      exact blank
    · intro ref member
      simp only [List.append_nil, List.mem_map] at member
      obtain ⟨index, -, rfl⟩ := member
      exact Nat.lt_succ_self _
    · intro ref member
      simp only [List.append_nil, List.mem_map] at member
      obtain ⟨index, -, rfl⟩ := member
      exact Or.inr next
  next => exact ⟨cells, free, fun ref member => Or.inl member⟩

/-! ### Taking a node -/

theorem takeNode_memory_of_ne (s : State W) {ref other : NodeRef} (code : Code)
    (different : other ≠ ref) : (s.takeNode ref code).memory other = s.memory other :=
  setNode_memory_of_ne _ _ different

theorem takeNode_memory_code (s : State W) (ref : NodeRef) (code : Code) :
    ((s.takeNode ref code).memory ref).code = code ∧
      ((s.takeNode ref code).memory ref).next = none := by
  simp only [State.takeNode, setNode_memory_same, and_self]

/-- The first node leaves the free list. -/
theorem free_takeNode {ref : NodeRef} (code : Code) (free : s.Free K cells)
    (first : s.list = some ref) :
    ∃ rest, cells = ref :: rest ∧ (s.takeNode ref code).Free K rest := by
  cases cells with
  | nil =>
    have empty : s.list = none := free.chain
    rw [first] at empty
    exact absurd empty (by simp)
  | cons head rest =>
    obtain rfl : ref = head := Option.some.inj (first.symm.trans free.chain.1)
    have unused : ref ∉ rest := (List.nodup_cons.mp free.chain.nodup).1
    have same : ∀ other ∈ rest, (s.takeNode ref code).memory other = s.memory other :=
      fun other member => takeNode_memory_of_ne s code fun equal => unused (equal ▸ member)
    refine ⟨rest, rfl, ⟨?_, ?_, ?_⟩⟩
    · refine free.chain.2.congr fun other member => ?_
      rw [State.successor, State.successor, same other member]
    · intro other member
      rw [same other member]
      exact free.code other (List.mem_cons_of_mem _ member)
    · exact fun other member => free.chunk other (List.mem_cons_of_mem _ member)

/-- `_new_node`: the node it delivers leaves the free list, whose other nodes are those from
before and those of a new chunk. -/
theorem free_newNode {code : Code} {ref : NodeRef} (blank : K .data) (free : s.Free K cells)
    (ran : Returns (newNode code) s ref t) :
    ∃ rest, t.Free K rest ∧ ref ∉ rest ∧ t.Obtained ref ∧ (ref ∈ cells ∨ s.ledger.next ≤ ref.chunk) ∧
      ∀ other ∈ rest, other ∈ cells ∨ s.ledger.next ≤ other.chunk := by
  obtain ⟨first, rfl⟩ := (returns_newNode code s t ref).mp ran
  obtain ⟨more, ready, origin⟩ := free_ready blank free
  obtain ⟨rest, rfl, taken⟩ := free_takeNode code ready first
  refine ⟨rest, taken, (List.nodup_cons.mp ready.chain.nodup).1, ?_, ?_, ?_⟩
  · exact ready.chunk ref List.mem_cons_self
  · exact origin ref List.mem_cons_self
  · exact fun other member => origin other (List.mem_cons_of_mem _ member)

theorem newNode_memory {code : Code} {ref other : NodeRef} (ran : Returns (newNode code) s ref t)
    (obtained : s.Obtained other) (different : other ≠ ref) : t.memory other = s.memory other := by
  obtain ⟨-, rfl⟩ := (returns_newNode code s t ref).mp ran
  rw [takeNode_memory_of_ne _ _ different, ready_memory s obtained]

/-! ### Linking -/

theorem linkNode_frame (s : State W) (ref : NodeRef) :
    (s.linkNode ref).list = s.list ∧ (s.linkNode ref).ledger = s.ledger ∧
      (s.linkNode ref).tail = some ref ∧
      (∀ other, s.tail ≠ some other → (s.linkNode ref).memory other = s.memory other) ∧
      ∀ other, ((s.linkNode ref).memory other).toBody = (s.memory other).toBody ∧
        ((s.linkNode ref).memory other).code = (s.memory other).code := by
  unfold State.linkNode
  split
  next tail isTail =>
    refine ⟨rfl, rfl, rfl, fun other different => ?_, fun other => ?_⟩
    · refine setNode_memory_of_ne _ _ fun equal => different ?_
      rw [isTail, equal]
    · by_cases same : other = tail
      · subst same
        rw [setNode_memory_same]
        exact ⟨rfl, rfl⟩
      · rw [setNode_memory_of_ne _ _ same]
        exact ⟨rfl, rfl⟩
  next => exact ⟨rfl, rfl, rfl, fun _ _ => rfl, fun _ => ⟨rfl, rfl⟩⟩

/-- A node off the free list becomes the tail. -/
theorem constructing_linkNode {ref : NodeRef} (constructing : s.Constructing cells)
    (unused : ref ∉ cells) (obtained : s.Obtained ref) : (s.linkNode ref).Constructing cells := by
  obtain ⟨list, ledger, tail, same, parts⟩ := linkNode_frame s ref
  constructor
  · refine constructing.free.congr list (by rw [ledger]) fun other member => same other ?_
    exact fun isTail => (constructing.tail other isTail).1 member
  · intro other isTail
    obtain rfl : ref = other := Option.some.inj (tail.symm.trans isTail)
    exact ⟨unused, by rw [State.Obtained, ledger]; exact obtained⟩
  · intro other coded
    rw [(parts other).2] at coded
    rw [State.Obtained, ledger]
    exact constructing.obtained other coded

/-! ### Building -/

/-- What changes neither the list, the tail nor a node keeps the free list as it is. -/
theorem State.Constructing.congr (constructing : s.Constructing cells) (list : t.list = s.list)
    (tail : t.tail = s.tail) (next : s.ledger.next ≤ t.ledger.next)
    (parts : ∀ ref, (t.memory ref).next = (s.memory ref).next ∧
      (t.memory ref).code = (s.memory ref).code) : t.Constructing cells := by
  refine ⟨⟨?_, ?_, ?_⟩, ?_, ?_⟩
  · rw [list]
    exact constructing.free.chain.congr fun ref _ => (parts ref).1
  · intro ref member
    rw [(parts ref).2]
    exact constructing.free.code ref member
  · exact fun ref member => lt_of_lt_of_le (constructing.free.chunk ref member) next
  · intro ref isTail
    obtain ⟨unused, obtained⟩ := constructing.tail ref (tail ▸ isTail)
    exact ⟨unused, lt_of_lt_of_le obtained next⟩
  · intro ref coded
    rw [(parts ref).2] at coded
    exact lt_of_lt_of_le (constructing.obtained ref coded) next

theorem setNode_parts (s : State W) (ref : NodeRef) {f : Node W → Node W}
    (keeps : ∀ node, (f node).next = node.next ∧ (f node).code = node.code) (other : NodeRef) :
    ((s.setNode ref f).memory other).next = (s.memory other).next ∧
      ((s.setNode ref f).memory other).code = (s.memory other).code := by
  by_cases same : other = ref
  · subst same
    rw [setNode_memory_same]
    exact keeps _
  · rw [setNode_memory_of_ne _ _ same]
    exact ⟨rfl, rfl⟩

theorem ready_code (s : State W) {ref : NodeRef} (constructing : s.Constructing cells)
    (fresh : ¬ s.Obtained ref) : (s.ready.memory ref).code = .data := by
  have blank : (s.memory ref).code = .data := by
    by_contra coded
    exact fresh (constructing.obtained ref coded)
  unfold State.ready
  split
  · obtain ⟨memory, -, -, -⟩ := growPool_memory s
    rw [State.addChunk, memory]
    by_cases new : ref.chunk = s.growPool.ledger.next
    · obtain ⟨chunk, index⟩ := ref
      subst new
      exact threadChunk_code ..
    · simp only [threadChunk_of_ne _ _ new, blank]
  · exact blank

theorem constructing_newNode {code : Code} {ref : NodeRef} (constructing : s.Constructing cells)
    (ran : Returns (newNode code) s ref t) :
    ∃ rest, t.Constructing rest ∧ ref ∉ rest ∧ t.Obtained ref ∧ (t.memory ref).code = code ∧
      ∀ other, (s.memory other).code ≠ .data → t.memory other = s.memory other := by
  obtain ⟨rest, free, unused, obtained, origin, older⟩ := free_newNode (K := (· = .data)) rfl constructing.free ran
  have untouched : ∀ other, (s.memory other).code ≠ .data → other ≠ ref := by
    rintro other coded rfl
    cases origin with
    | inl member => exact coded (constructing.free.code other member)
    | inr fresh => exact absurd (constructing.obtained other coded) (Nat.not_lt.mpr fresh)
  have same : ∀ other, (s.memory other).code ≠ .data → t.memory other = s.memory other :=
    fun other coded => newNode_memory ran (constructing.obtained other coded) (untouched other coded)
  obtain ⟨-, rfl⟩ := (returns_newNode code s t ref).mp ran
  refine ⟨rest, ⟨free, ?_, ?_⟩, unused, obtained, (takeNode_memory_code _ ref code).1, same⟩
  · intro tail isTail
    rw [State.takeNode, State.setNode, ready_tail] at isTail
    obtain ⟨off, old⟩ := constructing.tail tail isTail
    refine ⟨fun member => ?_, lt_of_lt_of_le old (ready_next s)⟩
    cases older tail member with
    | inl member => exact off member
    | inr fresh => exact absurd old (Nat.not_lt.mpr fresh)
  · intro other coded
    by_cases taken : other = ref
    · rw [taken]
      exact obtained
    · rw [takeNode_memory_of_ne _ _ taken] at coded
      by_contra fresh
      refine coded (ready_code s constructing fun old => fresh ?_)
      exact lt_of_lt_of_le old (ready_next s)

theorem fill_parts (call : NewNode W) (node : Node W) :
    (call.fill node).next = node.next ∧ (call.fill node).code = node.code := by
  cases call <;> exact ⟨rfl, rfl⟩

/-- IR is being built, and the nodes that `held` names have the opcodes it says. -/
def State.Building (held : NodeRef → Code → Prop) (s : State W) : Prop :=
  (∃ cells, s.Constructing cells) ∧ ∀ ref code, held ref code → (s.memory ref).code = code

section Building

variable {held : NodeRef → Code → Prop} (opcodes : ∀ ref code, held ref code → code ≠ .data)

/-- What changes neither the list, the tail, a code nor a successor goes on building. -/
theorem building_congr (building : s.Building held) (list : t.list = s.list)
    (tail : t.tail = s.tail) (next : s.ledger.next ≤ t.ledger.next)
    (parts : ∀ ref, (t.memory ref).next = (s.memory ref).next ∧
      (t.memory ref).code = (s.memory ref).code) : t.Building held := by
  obtain ⟨⟨cells, constructing⟩, codes⟩ := building
  refine ⟨⟨cells, constructing.congr list tail next parts⟩, fun ref code holds => ?_⟩
  rw [(parts ref).2]
  exact codes ref code holds

include opcodes in
/-- A constructor appends a node with its opcode, and every other opcode stays. -/
theorem building_append (call : NewNode W) :
    Triple (State.Building held) call.run fun ref t =>
      t.Building held ∧ (t.memory ref).code = call.code := by
  intro s ref t building ran
  obtain ⟨⟨cells, constructing⟩, codes⟩ := building
  obtain ⟨-, -, first, rfl⟩ := (call.returns_run s t ref).mp ran
  obtain ⟨rest, grown, unused, obtained, code, same⟩ :=
    constructing_newNode constructing ((returns_newNode call.code s _ ref).mpr ⟨first, rfl⟩)
  have parts := setNode_parts (s.ready.takeNode ref call.code) ref (fill_parts call)
  have filled := grown.congr (t := (s.ready.takeNode ref call.code).setNode ref call.fill) rfl rfl
    le_rfl parts
  have linked := constructing_linkNode filled unused obtained
  obtain ⟨-, -, -, -, kept⟩ :=
    linkNode_frame ((s.ready.takeNode ref call.code).setNode ref call.fill) ref
  refine ⟨⟨⟨rest, linked⟩, fun other otherCode holds => ?_⟩, ?_⟩
  · have old := codes other otherCode holds
    have coded : (s.memory other).code ≠ .data := old ▸ opcodes other otherCode holds
    rw [NewNode.append, (kept other).2, (parts other).2, same other coded]
    exact old
  · rw [NewNode.append, (kept ref).2, (parts ref).2]
    exact code

include opcodes in
theorem building_newNode (code : Code) :
    Triple (State.Building held) (newNode (W := W) code) fun ref t =>
      t.Building held ∧ (t.memory ref).code = code := by
  intro s ref t building ran
  obtain ⟨⟨cells, constructing⟩, codes⟩ := building
  obtain ⟨rest, grown, -, -, taken, same⟩ := constructing_newNode constructing ran
  refine ⟨⟨⟨rest, grown⟩, fun other otherCode holds => ?_⟩, taken⟩
  have old := codes other otherCode holds
  rw [same other (old ▸ opcodes other otherCode holds)]
  exact old

theorem growBlocks_frame (s : State W) :
    s.growBlocks.memory = s.memory ∧ s.growBlocks.list = s.list ∧ s.growBlocks.tail = s.tail ∧
      s.ledger.next ≤ s.growBlocks.ledger.next := by
  unfold State.growBlocks
  split
  · refine ⟨rfl, rfl, rfl, ?_⟩
    simp only [Ledger.realloc, Ledger.alloc, Ledger.next_free]
    exact Nat.le_succ _
  · exact ⟨rfl, rfl, rfl, le_rfl⟩

theorem keeps_jitLink (ref : NodeRef) : Keeps (State.Building held) (jitLink (W := W) ref) := by
  intro s result t building ran
  simp only [jitLink, jitLinkNode, returns_bind, returns_readNode, returns_assert,
    returns_assertConstructing, returns_linkNode, returns_update, returns_reads,
    returns_writeNode] at ran
  obtain ⟨_, _, ⟨rfl, rfl⟩, -, _, ⟨⟨label, -⟩, rfl⟩, _, _, ⟨-, _, ⟨-, rfl⟩, -, rfl⟩, -, _, rfl,
    _, _, ⟨-, rfl⟩, -, _, rfl, rfl⟩ := ran
  obtain ⟨⟨cells, constructing⟩, codes⟩ := building
  have coded : (s.memory ref).code ≠ .data := by
    rcases label with label | label | label <;> rw [label] <;> exact Code.noConfusion
  have linked := constructing_linkNode constructing (constructing.free.notMem_of_code coded)
    (constructing.obtained ref coded)
  obtain ⟨-, -, -, -, kept⟩ := linkNode_frame s ref
  have building : (s.linkNode ref).Building held :=
    ⟨⟨cells, linked⟩, fun other code holds => (kept other).2.trans (codes other code holds)⟩
  obtain ⟨memory, list, tail, next⟩ := growBlocks_frame (s.linkNode ref)
  refine building_congr building list tail next fun other => ?_
  rw [← memory]
  exact setNode_parts _ ref (fun _ => by exact ⟨rfl, rfl⟩) other

include opcodes in
theorem keeps_op {α : Type} (op : Op W α) : Keeps (State.Building held) op.run := by
  cases op with
  | look => exact keeps_fetch
  | scratch f =>
    refine keeps_update fun s building => building_congr building rfl rfl le_rfl ?_
    exact fun _ => ⟨rfl, rfl⟩
  | body ref f =>
    refine keeps_update fun s building => building_congr building rfl rfl le_rfl ?_
    exact setNode_parts s ref fun _ => ⟨rfl, rfl⟩
  | append call =>
    exact fun s ref t building ran => (building_append opcodes call s ref t building ran).1
  | appendNoLink code =>
    refine keeps_bind (keeps_bind (keeps_reads _) fun _ => keeps_check _ _) fun _ => ?_
    exact fun s ref t building ran => (building_newNode opcodes code s ref t building ran).1
  | link ref => exact keeps_jitLink ref
  | function =>
    refine keeps_bind (keeps_update fun s building => ?_) fun _ => keeps_bind (keeps_reads _)
      fun _ => keeps_bind (keeps_update fun s building => ?_) fun _ => keeps_pure _
    · unfold State.growFunctions
      split
      · refine building_congr building rfl rfl ?_ fun _ => ⟨rfl, rfl⟩
        simp only [Ledger.realloc, Ledger.alloc, Ledger.next_free]
        exact Nat.le_succ _
      · exact building
    · exact building_congr building rfl rfl (Nat.le_succ _) fun _ => ⟨rfl, rfl⟩
  | patch =>
    refine keeps_update fun s building => ?_
    unfold State.pushPatch
    split
    · refine building_congr building rfl rfl ?_ fun _ => ⟨rfl, rfl⟩
      simp only [Ledger.realloc, Ledger.alloc, Ledger.next_free]
      exact Nat.le_succ _
    · exact building_congr building rfl rfl le_rfl fun _ => ⟨rfl, rfl⟩

include opcodes in
/-- Whatever a backend does, opcodes once given stay. -/
theorem keeps_build {α : Type} (x : Build W α) : Keeps (State.Building held) x.run :=
  Script.keeps_run _ (fun op => keeps_op opcodes op) x

end Building

end Zjit
