import Zjit.FreeList
import Zjit.Optimize.Merging

/-!
# The pass `split_branches`

A label goes behind every branch that no block begins behind, and the blocks are numbered anew.
Execution falls through the new labels, and no instruction looks at the number of a block.
-/
namespace Zjit

open Foundation Program StateTransition

variable {W : WordSize} {M : Type} {s t u : State W} {fuel : Nat} {refs done ahead labels cells : List NodeRef}
  {ref label : NodeRef} {entries : NodeRef → Prop} {l l' : Listing W}

/-! ### Lists with more labels -/

/-- The same node, but for its place and the number of the block that it starts. -/
def Node.Alike (node node' : Node W) : Prop :=
  ∃ v next, node' = { node with v, next } ∧ (node.code.startsBlock = false → v = node.v)

theorem move_alike (p : Processor W M) {node node' : Node W} (alike : node.Alike node') (m : M) :
    p.move node' m = p.move node m := by
  obtain ⟨v, next, rfl, same⟩ := alike
  by_cases starts : node.code.startsBlock = true
  · simp only [Code.startsBlock, Bool.decide_or, Bool.or_eq_true, decide_eq_true_eq] at starts
    rcases starts with code | code | code <;> simp [Processor.move, code]
  · rw [same (Bool.eq_false_of_not_eq_true starts)]
    rfl

/-- `l'` has the nodes of `l`, with labels between some of them. -/
structure Listing.Divides (l l' : Listing W) (refs : List NodeRef) : Prop where
  head : l'.head = l.head
  node : ∀ ref ∈ refs, (l.node ref).Alike (l'.node ref)
  next : ∀ ref ∈ refs, l'.next ref = l.next ref ∨ ∃ label other, l.next ref = some other ∧
    l'.next ref = some label ∧ (l'.node label).code = .label ∧ l'.next label = some other

theorem same_divides (formed : l.Formed entries refs) (divides : l.Divides l' refs) : l.Same entries l' := by
  intro M p placed m
  -- Where a label is new, execution is at the label in one list and behind it in the other.
  let P (q q' : Option NodeRef) : Prop := (∀ other, q = some other → other ∈ refs) ∧
    (q' = q ∨ ∃ label, q' = some label ∧ (l'.node label).code = .label ∧ l'.next label = q ∧ q ≠ none)
  have stay (target : NodeRef) (member : target ∈ refs) : P (some target) (some target) := by
    refine ⟨fun other same => ?_, .inl rfl⟩
    obtain rfl := Option.some.inj same
    exact member
  have resume (other : NodeRef) (member : other ∈ refs) : P (l.next other) (l'.next other) := by
    refine ⟨fun target goes => List.mem_of_mem_tail (formed.chain.next_mem member goes), ?_⟩
    rcases divides.next other member with same | ⟨label, target, goes, goes', code, behind⟩
    · exact .inl same
    · refine .inr ⟨label, goes', code, behind.trans goes.symm, ?_⟩
      rw [goes]
      exact Option.some_ne_none target
  have bridge : Listing.Bridge p l l' P (· ∈ refs) := by
    constructor
    · rintro q ⟨-, rfl | ⟨_, -, -, -, some_⟩⟩
      · rfl
      · exact absurd rfl some_
    · rintro other q callers m ⟨inside, place⟩ known
      have member := inside other rfl
      have pair : (l.follow other callers (p.move (l.node other) m)).Rel P (· ∈ refs)
          (l'.follow other callers (p.move (l'.node other) m)) := by
        refine Listing.follow_rel member known resume ?_
        rw [move_alike p (divides.node other member)]
        refine Transfer.rel_refl fun to_ goes => ?_
        rcases move_target p goes with ⟨address, label, place, rfl⟩ | ⟨leads, patched, rfl⟩
        · exact stay label (formed.entry label (placed address label place))
        · obtain ⟨label, inside, aim⟩ := formed.target other member leads patched
          rw [aim]
          exact stay label inside
      rcases place with rfl | ⟨label, rfl, code, behind, -⟩
      · exact ⟨_, _, .single rfl, .single rfl, pair⟩
      · have silent := Listing.step_silent p (congrArg Code.silent code) callers m
        rw [behind] at silent
        exact ⟨_, _, .single rfl, .head silent (.single rfl), pair⟩
  refine ⟨bridge.outcome_eq ?_ m, fun other entry => bridge.outcome_eq (stay other (formed.entry other entry)) m⟩
  rw [divides.head]
  refine ⟨fun other isHead => ?_, .inl rfl⟩
  rw [formed.chain.start_eq] at isHead
  exact List.mem_of_mem_head? isHead

/-! ### What the steps do to the state -/

@[simp] theorem returns_splitBind {α β : Type} (x : Split W α) (f : α → Split W β) (s t : State W) (b : β) :
    Returns (Split.run (x >>= f)) s b t ↔ ∃ a u, Returns x.run s a u ∧ Returns (f a).run u b t :=
  Script.returns_run_bind ..

@[simp] theorem returns_splitPure {α : Type} (a b : α) (s t : State W) :
    Returns (Split.run (pure a)) s b t ↔ a = b ∧ s = t :=
  Script.returns_run_pure ..

@[simp] theorem returns_splitPass {α : Type} (x : Pass W α) (s t : State W) (a : α) :
    Returns (Split.pass x).run s a t ↔ Returns x.run s a t := by
  have same : (Split.pass x).run = x.run := Script.run_embed SplitOp.run .inl x
  rw [same]

@[simp] theorem returns_splitVector {α : Type} (op : VectorOp W α) (s t : State W) (a : α) :
    Returns (Split.vector op).run s a t ↔ Returns op.run s a t := by
  rw [Split.vector, Split.run, Script.returns_run_perform]
  exact Iff.rfl

theorem triple_splitLoop {κ β : Type} {e : Fault} {body : κ → Split W (κ ⊕ β)} (J : κ → State W → Prop)
    (Q : β → State W → Prop)
    (round : ∀ k, Triple (J k) (body k).run fun r t => Sum.elim (J · t) (Q · t) r)
    (fuel : Nat) (k : κ) : Triple (J k) (Split.run (Script.loop e body fuel k)) Q :=
  Script.triple_loop SplitOp.run J Q round fuel k

/-- The pass has come as far as `ahead`, and `labels` are new. -/
structure Divided (l : Listing W) (done ahead labels cells : List NodeRef) (s : State W) : Prop where
  head : s.head = l.head
  free : s.Free (fun _ => True) cells
  apart : ∀ ref ∈ done ++ ahead ++ labels, ref ∉ cells ∧ s.Obtained ref
  fresh : ∀ label ∈ labels, label ∉ done ++ ahead
  node : ∀ ref ∈ done ++ ahead, (l.node ref).Alike (s.listing.node ref)
  done : ∀ ref ∈ done, s.listing.next ref = l.next ref ∨ ∃ label ∈ labels, ∃ other,
    l.next ref = some other ∧ s.listing.next ref = some label ∧ (s.memory label).code = .label ∧ s.listing.next label = some other
  ahead : ∀ ref ∈ ahead, s.listing.next ref = l.next ref

theorem Divided.divides (divided : Divided l done [] labels cells s) : l.Divides s.listing done := by
  constructor
  · exact divided.head
  · exact fun ref member => divided.node ref (by simpa using member)
  · intro ref member
    rcases divided.done ref member with same | ⟨label, -, other, parts⟩
    · exact .inl same
    · exact .inr ⟨label, other, parts⟩

/-- What the vector of blocks takes is of no concern. -/
theorem Divided.congr (divided : Divided l done ahead labels cells s) (memory : t.memory = s.memory)
    (head : t.head = s.head) (list : t.list = s.list) (next : s.ledger.next ≤ t.ledger.next) :
    Divided l done ahead labels cells t := by
  have nodes : t.listing.node = s.listing.node := by
    funext ref
    rw [State.listing, State.listing]
    exact congrArg Node.bare (congrFun memory ref)
  have nexts : t.listing.next = s.listing.next := by
    funext ref
    exact congrArg Node.next (congrFun nodes ref)
  constructor
  · rw [head, divided.head]
  · exact divided.free.congr list next fun ref _ => congrFun memory ref
  · exact fun ref member => ⟨(divided.apart ref member).1, lt_of_lt_of_le (divided.apart ref member).2 next⟩
  · exact divided.fresh
  · rw [nodes]
    exact divided.node
  · rw [nexts, memory]
    exact divided.done
  · rw [nexts]
    exact divided.ahead

theorem pushSplit_frame (s : State W) (label : Option NodeRef) (live : BlockLive) :
    (s.pushSplit label live).memory = s.memory ∧ (s.pushSplit label live).head = s.head ∧
      (s.pushSplit label live).list = s.list ∧ s.ledger.next ≤ (s.pushSplit label live).ledger.next := by
  unfold State.pushSplit
  dsimp only
  split
  · refine ⟨rfl, rfl, rfl, ?_⟩
    simp only [Ledger.realloc, Ledger.alloc, Ledger.next_free]
    exact Nat.le_succ _
  · exact ⟨rfl, rfl, rfl, le_rfl⟩

theorem Divided.pushSplit (divided : Divided l done ahead labels cells s) (label : Option NodeRef)
    (live : BlockLive) : Divided l done ahead labels cells (s.pushSplit label live) := by
  obtain ⟨memory, head, list, next⟩ := pushSplit_frame s label live
  exact divided.congr memory head list next

/-- A label, or another node that starts a block, gets a number. -/
theorem Divided.number (divided : Divided l done ahead labels cells s) (unused : ref ∉ cells)
    (starts : ref ∈ done ++ ahead → (s.memory ref).code.startsBlock = true) (v : Data W) :
    Divided l done ahead labels cells (s.setNode ref fun node => { node with v }) := by
  have parts (other : NodeRef) :
      ((s.setNode ref fun node => { node with v }).memory other).next = (s.memory other).next ∧
      ((s.setNode ref fun node => { node with v }).memory other).code = (s.memory other).code :=
    setNode_parts s ref (f := fun node => { node with v }) (fun _ => ⟨rfl, rfl⟩) other
  constructor
  · exact divided.head
  · refine divided.free.congr rfl le_rfl fun other inside => setNode_memory_of_ne _ _ ?_
    rintro rfl
    exact unused inside
  · exact divided.apart
  · exact divided.fresh
  · intro other inside
    rw [listing_setNode]
    by_cases same : other = ref
    · subst same
      obtain ⟨v', next, node, -⟩ := divided.node other inside
      rw [Listing.set_node_same]
      have whole : (s.memory other).bare = { l.node other with v := v', next } := node
      have code : (s.memory other).bare.code = (l.node other).code := by rw [whole]
      refine ⟨v, next, ?_, fun none_ => ?_⟩
      · have same : ({ s.memory other with v } : Node W).bare = { (s.memory other).bare with v } := rfl
        rw [same, whole]
      · have starts : (s.memory other).bare.code.startsBlock = true := starts inside
        rw [code, none_] at starts
        cases starts
    · rw [Listing.set_node_of_ne _ same]
      exact divided.node other inside
  · intro other inside
    rcases divided.done other inside with same | ⟨label, new, target, goes, goes', code, behind⟩
    · exact .inl ((parts other).1.trans same)
    · exact .inr ⟨label, new, target, goes, (parts other).1.trans goes', (parts label).2.trans code,
        (parts label).1.trans behind⟩
  · exact fun other inside => (parts other).1.trans (divided.ahead other inside)

/-- The node stays as it is. -/
theorem Divided.pass {after : List NodeRef} (divided : Divided l done (ref :: after) labels cells s) :
    Divided l (done ++ [ref]) after labels cells s := by
  have whole : (done ++ [ref]) ++ after = done ++ ref :: after := by simp
  refine ⟨divided.head, divided.free, whole ▸ divided.apart, whole ▸ divided.fresh,
    whole ▸ divided.node, ?_, ?_⟩
  · intro other member
    rcases List.mem_append.mp member with member | member
    · exact divided.done other member
    · obtain rfl := List.mem_singleton.mp member
      exact .inl (divided.ahead other List.mem_cons_self)
  · exact fun other member => divided.ahead other (List.mem_cons_of_mem ref member)

theorem newNode_frame {code : Code} (ran : Returns (newNode code) s ref t) :
    t.head = s.head ∧ s.ledger.next ≤ t.ledger.next ∧ (t.memory ref).code = code := by
  obtain ⟨-, rfl⟩ := (returns_newNode code s t ref).mp ran
  refine ⟨?_, ready_next s, (takeNode_memory_code _ ref code).1⟩
  have head : s.ready.head = s.head := by
    unfold State.ready State.growPool State.addChunk
    split <;> (try split) <;> rfl
  exact head

/-- A new label stands between two nodes of the list. -/
theorem Divided.insert {next : NodeRef} {rest : List NodeRef}
    (divided : Divided l done (ref :: next :: rest) labels cells s) (nodup : (done ++ ref :: next :: rest).Nodup)
    (follow : l.next ref = some next) (ran : Returns (newNode .label) s label u) :
    ∃ cells', label ∉ cells' ∧ label ∉ done ++ ref :: next :: rest ∧
      Divided l (done ++ [ref]) (next :: rest) (label :: labels) cells'
        ((u.setNode label fun node => { node with next := some next }).setNode ref fun node =>
          { node with next := some label }) := by
  -- The new node comes from the free list or from a new chunk, and the list has nodes of neither.
  obtain ⟨cells', free, unused, obtained, origin, origins⟩ := free_newNode trivial divided.free ran
  obtain ⟨head, ledger, code⟩ := newNode_frame ran
  have old {other : NodeRef} (member : other ∈ done ++ ref :: next :: rest ++ labels) : other ≠ label := by
    rintro rfl
    obtain ⟨outside, old⟩ := divided.apart other member
    exact origin.elim outside (Nat.not_le.mpr old)
  have apart {other : NodeRef} (member : other ∈ done ++ ref :: next :: rest ++ labels) :
      other ∉ cells' ∧ u.Obtained other := by
    obtain ⟨outside, old⟩ := divided.apart other member
    exact ⟨fun inside => (origins other inside).elim outside (Nat.not_le.mpr old), lt_of_lt_of_le old ledger⟩
  have isRef : ref ∈ done ++ ref :: next :: rest ++ labels := by simp
  let v := (u.setNode label fun node => { node with next := some next }).setNode ref fun node =>
    { node with next := some label }
  have kept {other : NodeRef} (member : other ∈ done ++ ref :: next :: rest ++ labels) (noRef : other ≠ ref) :
      v.memory other = s.memory other := by
    rw [setNode_memory_of_ne _ _ noRef, setNode_memory_of_ne _ _ (old member),
      newNode_memory ran (divided.apart other member).2 (old member)]
  have atRef : v.memory ref = { s.memory ref with next := some label } := by
    rw [setNode_memory_same, setNode_memory_of_ne _ _ (old isRef),
      newNode_memory ran (divided.apart ref isRef).2 (old isRef)]
  have atLabel : v.memory label = { u.memory label with next := some next } := by
    rw [setNode_memory_of_ne _ _ (old isRef).symm, setNode_memory_same]
  have whole : (done ++ [ref]) ++ next :: rest = done ++ ref :: next :: rest := by simp
  have gone := (List.nodup_middle.mp nodup).notMem
  have noLabel : label ∉ done ++ ref :: next :: rest := fun member => old (List.mem_append_left labels member) rfl
  refine ⟨cells', unused, noLabel, ?_⟩
  constructor
  · exact head.trans divided.head
  · refine free.congr rfl le_rfl fun other inside => ?_
    have noLabel : other ≠ label := fun same => unused (same ▸ inside)
    have noRef : other ≠ ref := fun same => (apart isRef).1 (same ▸ inside)
    rw [setNode_memory_of_ne _ _ noRef, setNode_memory_of_ne _ _ noLabel]
  · intro other member
    rw [whole] at member
    rcases List.mem_append.mp member with member | member
    · exact apart (List.mem_append_left labels member)
    · rcases List.mem_cons.mp member with rfl | member
      · exact ⟨unused, obtained⟩
      · exact apart (List.mem_append_right _ member)
  · intro other member
    rw [whole]
    rcases List.mem_cons.mp member with rfl | member
    · exact noLabel
    · exact divided.fresh other member
  · intro other member
    rw [whole] at member
    have alike := divided.node other member
    by_cases same : other = ref
    · subst same
      obtain ⟨number, after, node, starts⟩ := alike
      have bare : v.listing.node other = { s.listing.node other with next := some label } :=
        congrArg Node.bare atRef
      exact ⟨number, some label, by rw [bare, node], starts⟩
    · have bare : v.listing.node other = s.listing.node other :=
        congrArg Node.bare (kept (List.mem_append_left labels member) same)
      rw [bare]
      exact alike
  · intro other member
    rcases List.mem_append.mp member with member | member
    · have noRef : other ≠ ref := fun same => gone (List.mem_append_left _ (same ▸ member))
      have same : v.listing.next other = s.listing.next other :=
        congrArg (fun node : Node W => node.bare.next) (kept (by simp [member]) noRef)
      rw [same]
      refine (divided.done other member).imp_right ?_
      rintro ⟨label', new, target, goes, goes', isLabel, behind⟩
      have noRef' : label' ≠ ref := fun same => divided.fresh label' new (same ▸ by simp)
      have same' := kept (List.mem_append_right _ new) noRef'
      refine ⟨label', List.mem_cons_of_mem label new, target, goes, goes', ?_, ?_⟩
      · rw [same']
        exact isLabel
      · exact (congrArg Node.next same').trans behind
    · obtain rfl := List.mem_singleton.mp member
      refine .inr ⟨label, List.mem_cons_self, next, follow, congrArg Node.next atRef, ?_,
        congrArg Node.next atLabel⟩
      rw [atLabel]
      exact code
  · intro other member
    have noRef : other ≠ ref := fun same => gone (List.mem_append_right _ (same ▸ member))
    have inside : other ∈ done ++ ref :: next :: rest ++ labels := by simp at member ⊢; tauto
    exact (congrArg Node.next (kept inside noRef)).trans (divided.ahead other (List.mem_cons_of_mem ref member))

/-! ### The pass -/

theorem copyBlock_divided {result : Unit} (divided : Divided l done ahead labels cells s)
    (member : ref ∈ done ++ ahead) (starts : (s.memory ref).code.startsBlock = true)
    (ran : Returns (Split.copyBlock ref).run s result t) : Divided l done ahead labels cells t := by
  simp only [Split.copyBlock, returns_splitBind, returns_splitPass, returns_splitVector, returns_passLook,
    returns_passBody, VectorOp.run, returns_update] at ran
  obtain ⟨_, _, ⟨rfl, rfl⟩, _, _, rfl, rfl⟩ := ran
  have pushed := divided.pushSplit (s.blocks.labels.getD (s.memory ref).block none) (s.live (s.memory ref).block)
  refine pushed.number (divided.apart ref (List.mem_append_left labels member)).1 (fun _ => ?_) _
  rw [(pushSplit_frame s ..).1]
  exact starts

theorem splitAt_divided {next : NodeRef} {rest : List NodeRef} {result : Unit}
    (divided : Divided l done (ref :: next :: rest) labels cells s) (nodup : (done ++ ref :: next :: rest).Nodup)
    (follow : l.next ref = some next) (ran : Returns (Split.splitAt_ ref next).run s result t) :
    ∃ labels cells, Divided l (done ++ [ref]) (next :: rest) labels cells t := by
  simp only [Split.splitAt_, returns_splitBind, returns_splitPass, returns_splitVector, returns_passBind,
    returns_passLook, returns_passRaw, returns_passBody, RawOp.run, VectorOp.run, returns_update,
    returns_writeNode] at ran
  obtain ⟨label, u, made, _, _, ⟨_, _, rfl, rfl⟩, _, _, ⟨rfl, rfl⟩, _, _, rfl, rfl⟩ := ran
  obtain ⟨cells', unused, noLabel, divided'⟩ := divided.insert nodup follow made
  refine ⟨_, cells', (divided'.pushSplit ..).number unused (fun member => absurd ?_ noLabel) _⟩
  simpa using member

/-- The pass goes on behind the node, whether it begins a block there or not. -/
def Dividing (l : Listing W) (refs : List NodeRef) (current : Option NodeRef) (s : State W) : Prop :=
  ∃ done ahead labels cells, refs = done ++ ahead ∧ current = ahead.head? ∧ Divided l done ahead labels cells s

theorem splitStep_dividing {current : Option NodeRef} {r : Option NodeRef ⊕ Unit}
    (chain : Chain l.next l.head refs) (dividing : Dividing l refs current s)
    (ran : Returns (Split.splitStep current).run s r t) :
    Sum.elim (fun current => Dividing l refs current t) (fun _ => l.Divides t.listing refs) r := by
  obtain ⟨done, ahead, labels, cells, rfl, rfl, divided⟩ := dividing
  cases ahead with
  | nil =>
    obtain ⟨rfl, rfl⟩ := (returns_splitPure ..).mp ran
    rw [List.append_nil]
    exact divided.divides
  | cons ref after =>
    have follow : l.next ref = after.head? := chain.next_eq
    have behind : (s.memory ref).next = after.head? := (divided.ahead ref List.mem_cons_self).trans follow
    have whole : done ++ ref :: after = (done ++ [ref]) ++ after := by simp
    simp only [Split.splitStep, List.head?_cons, returns_splitBind, returns_splitPass, returns_passNode] at ran
    obtain ⟨_, _, ⟨rfl, rfl⟩, ran⟩ := ran
    rw [behind] at ran
    cases after with
    | nil =>
      obtain ⟨rfl, rfl⟩ := (returns_splitPure ..).mp ran
      exact ⟨done ++ [ref], [], labels, cells, whole, rfl, divided.pass⟩
    | cons next rest =>
      have pass : Dividing l (done ++ ref :: next :: rest) (some next) s :=
        ⟨done ++ [ref], next :: rest, labels, cells, whole, rfl, divided.pass⟩
      simp only [List.head?_cons, returns_splitBind, returns_splitPass, returns_passNode] at ran
      obtain ⟨_, _, ⟨rfl, rfl⟩, ran⟩ := ran
      split at ran
      next starts =>
        -- A block begins behind the node anyway.
        simp only [returns_splitBind, returns_splitPure] at ran
        obtain ⟨_, _, copied, rfl, rfl⟩ := ran
        have divided' := copyBlock_divided divided.pass (by simp) starts copied
        exact ⟨done ++ [ref], next :: rest, labels, cells, whole, rfl, divided'⟩
      next =>
        simp only [returns_splitBind, returns_splitPass, returns_passClassify] at ran
        obtain ⟨_, _, ⟨-, rfl⟩, ran⟩ := ran
        split at ran
        next =>
          -- A branch or a jump ends its block.
          simp only [returns_splitBind, returns_splitPure] at ran
          obtain ⟨_, _, added, rfl, rfl⟩ := ran
          obtain ⟨labels', cells', divided'⟩ := splitAt_divided divided chain.nodup follow added
          exact ⟨done ++ [ref], next :: rest, labels', cells', whole, rfl, divided'⟩
        next =>
          obtain ⟨rfl, rfl⟩ := (returns_splitPure ..).mp ran
          exact pass

theorem splitBranches_divides {result : Unit} (chain : Chain s.listing.next s.listing.head refs)
    (free : s.Free (fun _ => True) cells) (apart : ∀ ref ∈ refs, ref ∉ cells ∧ s.Obtained ref)
    (ran : Returns (splitBranches fuel).run s result t) : s.listing.Divides t.listing refs := by
  have start : Divided s.listing [] refs [] cells s := by
    refine ⟨rfl, free, by simpa using apart, by simp, fun ref _ => ?_, by simp, fun _ _ => rfl⟩
    exact ⟨(s.listing.node ref).v, (s.listing.node ref).next, rfl, fun _ => rfl⟩
  have opened : Divided s.listing [] refs [] cells s.openSplit := by
    refine start.congr rfl rfl rfl ?_
    simp only [State.openSplit, Ledger.realloc, Ledger.alloc, Ledger.next_free]
    exact Nat.le_succ _
  have first : s.head = refs.head? := chain.start_eq
  simp only [splitBranches, Split.buildBlocks, returns_splitBind, returns_splitVector, returns_splitPass,
    returns_passLook, VectorOp.run, returns_update] at ran
  obtain ⟨_, u, ⟨_, _, rfl, _, _, ⟨rfl, rfl⟩, ran⟩, rfl⟩ := ran
  have loop {v : State W} {result : Unit} (divided : Divided s.listing [] refs [] cells v)
      (ran : Returns (Split.run (Script.loop .outOfFuel Split.splitStep fuel s.head)) v result u) :
      s.listing.Divides u.listing refs :=
    triple_splitLoop (Dividing s.listing refs) (fun _ u => s.listing.Divides u.listing refs)
      (fun current u r v dividing step => splitStep_dividing chain dividing step) fuel s.head v result u
      ⟨[], refs, [], cells, rfl, first, divided⟩ ran
  split at ran
  next head isHead =>
    have member : head ∈ refs := List.mem_of_mem_head? (first.symm.trans isHead)
    simp only [returns_splitBind, returns_splitPass, returns_passNode] at ran
    obtain ⟨_, _, ⟨rfl, rfl⟩, ran⟩ := ran
    split at ran
    next code =>
      have starts : (s.openSplit.memory head).code.startsBlock = true := by
        rcases code with code | code <;> rw [code] <;> rfl
      simp only [returns_splitBind] at ran
      obtain ⟨_, v, copied, ran⟩ := ran
      exact loop (copyBlock_divided opened member starts copied) ran
    next => exact loop opened ran
  next => exact loop opened ran

/-- `split_branches` changes neither what the code does nor how it ends. -/
theorem splitBranches_same {result : Unit} (formed : s.listing.Formed entries refs)
    (free : s.Free (fun _ => True) cells) (apart : ∀ ref ∈ refs, ref ∉ cells ∧ s.Obtained ref)
    (ran : Returns (splitBranches fuel).run s result t) : s.listing.Same entries t.listing :=
  same_divides formed (splitBranches_divides formed.chain free apart ran)

/-- A branch in front of an instruction, and a jump in front of a label. -/
theorem splitBranches_same_sample : ∃ s t : State .w64, ∃ refs : List NodeRef,
    Chain t.listing.next t.head refs ∧
      refs.map (fun ref => (t.memory ref).code) =
        [.prolog, .beqi, .label, .negr, .jmpi, .label, .epilog] ∧
      refs.map (fun ref => (t.memory ref).v) =
        [.w 0, .w 0, .w 1, .w 0, .w 0, .w 2, .w 3] ∧
      s.listing.Same (· = ⟨0, 0⟩) t.listing := by
  let ref (index : Nat) : NodeRef := ⟨0, index⟩
  let jump (code : Code) (label : Nat) (index : Nat) : Node .w64 :=
    { code, flag := flagNode, u := .n (ref label), next := some (ref (index + 1)) }
  let nodes : List (Node .w64) := [{ code := .prolog, next := some (ref 1) }, jump .beqi 4 1,
    { code := .negr, next := some (ref 3) }, jump .jmpi 4 3,
    { code := .label, v := .w 1, link := some (ref 3), next := some (ref 5) }, { code := .epilog, v := .w 2 },
    { next := some (ref 7) }, {}]
  let s : State .w64 :=
    { memory := fun ref => nodes.getD ref.index {}, head := some (ref 0), list := some (ref 6),
      ledger := { next := 1 }, blocks := { labels := [some (ref 0), some (ref 4), some (ref 5)] } }
  have formed : s.listing.Formed (· = ⟨0, 0⟩) ((List.range 6).map ref) := by
    constructor
    · decide
    · rintro other rfl
      decide
    · decide
  have free : s.Free (fun _ => True) [ref 6, ref 7] := by
    constructor
    · decide
    · exact fun _ _ => trivial
    · decide
  have apart : ∀ other ∈ (List.range 6).map ref, other ∉ [ref 6, ref 7] ∧ s.Obtained other := by
    unfold State.Obtained
    decide
  have passed : passes (splitBranches 20).run s (fun _ t =>
      Chain t.listing.next t.head ([0, 1, 6, 2, 3, 4, 5].map ref) ∧
        ([0, 1, 6, 2, 3, 4, 5].map ref).map (fun ref => (t.memory ref).code) =
          [.prolog, .beqi, .label, .negr, .jmpi, .label, .epilog] ∧
        ([0, 1, 6, 2, 3, 4, 5].map ref).map (fun ref => (t.memory ref).v) =
          [.w 0, .w 0, .w 1, .w 0, .w 0, .w 2, .w 3]) = true := by
    decide +kernel
  obtain ⟨_, t, ran, checked⟩ := returns_of_passes _ passed
  obtain ⟨chain, codes, numbers⟩ := of_decide_eq_true checked
  exact ⟨s, t, _, chain, codes, numbers, splitBranches_same formed free apart ran⟩

end Zjit
