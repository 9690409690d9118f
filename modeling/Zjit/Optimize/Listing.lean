import Zjit.Foundation.Chain
import Zjit.Optimize.Meaning

/-!
# Edits of the list

What the optimizer does to the node list, apart from the lists of jumps: a node is replaced or
taken out. The shape that all edits keep, and the way along nodes that do nothing.
-/
namespace Zjit

open Foundation Program StateTransition

variable {W : WordSize} {M : Type}

/-! ### Runs of passes -/

section Runs

variable {s t : State W} {ref : NodeRef}

@[simp] theorem returns_passBind {α β : Type} (x : Pass W α) (f : α → Pass W β) (s t : State W) (b : β) :
    Returns (Pass.run (x >>= f)) s b t ↔ ∃ a u, Returns x.run s a u ∧ Returns (f a).run u b t :=
  Script.returns_run_bind ..

@[simp] theorem returns_passPure {α : Type} (a b : α) (s t : State W) :
    Returns (Pass.run (pure a)) s b t ↔ a = b ∧ s = t :=
  Script.returns_run_pure ..

@[simp] theorem returns_passFault {α : Type} (e : Fault) (s t : State W) (a : α) :
    ¬ Returns (Pass.run (Script.fault e)) s a t :=
  Program.returns_fault e s t a

@[simp] theorem returns_passLook (s t u : State W) : Returns Pass.look.run s t u ↔ s = t ∧ s = u := by
  rw [Pass.look, Pass.run, Script.returns_run_perform]
  exact returns_fetch ..

@[simp] theorem returns_passNode (ref : NodeRef) (s t : State W) (node : Node W) :
    Returns (Pass.node ref).run s node t ↔ s.memory ref = node ∧ s = t := by
  simp only [Pass.node, returns_passBind, returns_passLook, returns_passPure]
  constructor
  · rintro ⟨_, _, ⟨rfl, rfl⟩, rfl, rfl⟩
    exact ⟨rfl, rfl⟩
  · rintro ⟨rfl, rfl⟩
    exact ⟨s, s, ⟨rfl, rfl⟩, rfl, rfl⟩

@[simp] theorem returns_passBody (ref : NodeRef) (f : Body W → Body W) (s t : State W) (a : Unit) :
    Returns (Pass.body ref f).run s a t ↔
      s.setNode ref (fun node => { node with toBody := f node.toBody }) = t := by
  rw [Pass.body, Pass.run, Script.returns_run_perform]
  exact returns_writeNode ..

@[simp] theorem returns_passRaw {α : Type} (op : RawOp W α) (s t : State W) (a : α) :
    Returns (Pass.raw op).run s a t ↔ Returns op.run s a t := by
  rw [Pass.raw, Pass.run, Script.returns_run_perform]
  exact Iff.rfl

@[simp] theorem returns_passScratch (f : Scratch W → Scratch W) (s t : State W) (a : Unit) :
    Returns (Pass.scratch f).run s a t ↔ { s with toScratch := f s.toScratch } = t := by
  rw [Pass.scratch, Pass.run, Script.returns_run_perform]
  exact returns_update ..

@[simp] theorem returns_passDeref {α : Type} (pointer : Option α) (s t : State W) (a : α) :
    Returns (Pass.deref pointer).run s a t ↔ pointer = some a ∧ s = t := by
  cases pointer with
  | none => simp only [Pass.deref, returns_passFault, reduceCtorEq, false_and]
  | some b => simp only [Pass.deref, returns_passPure, Option.some.injEq]

@[simp] theorem returns_passTarget (data : Data W) (s t : State W) :
    Returns (Pass.target data).run s ref t ↔ data = .n ref ∧ s = t := by
  cases data <;>
    simp only [Pass.target, returns_passFault, returns_passPure, Data.n.injEq, reduceCtorEq, false_and]

@[simp] theorem returns_passAssert (c : Prop) [Decidable c] (s t : State W) (a : Unit) :
    Returns (Pass.assert c).run s a t ↔ c ∧ s = t := by
  unfold Pass.assert
  split
  next holds => simp only [returns_passPure, holds, true_and]
  next fails => simp only [returns_passFault, fails, false_and]

@[simp] theorem returns_passClassify (code : Code) (s t : State W) (cc : List Cc) :
    Returns (Pass.classify code).run s cc t ↔ jitClassify code = some cc ∧ s = t := by
  unfold Pass.classify
  split
  next mask found => simp only [returns_passPure, found, Option.some.injEq]
  next missing => simp only [returns_passFault, missing, reduceCtorEq, false_and]

/-- What each round of a loop keeps, the loop keeps. -/
theorem triple_passLoop {κ β : Type} {e : Fault} {body : κ → Pass W (κ ⊕ β)} (J : κ → State W → Prop)
    (Q : β → State W → Prop)
    (round : ∀ k, Triple (J k) (body k).run fun r t => Sum.elim (J · t) (Q · t) r)
    (fuel : Nat) (k : κ) : Triple (J k) (Pass.run (Script.loop e body fuel k)) Q :=
  Script.triple_loop PassOp.run J Q round fuel k

end Runs

/-! ### Edits -/

namespace Listing

def set (l : Listing W) (ref : NodeRef) (node : Node W) : Listing W :=
  { l with node := Function.update l.node ref node }

/-- `ref` leaves the list behind `prev`, or as its head if `prev` is `ref`, and is free. -/
def remove (l : Listing W) (prev ref : NodeRef) : Listing W :=
  let next := l.next ref
  let l := if prev = ref then { l with head := next } else l.set prev { l.node prev with next }
  { l.set ref { next := l.list } with list := some ref }

variable (l : Listing W) {ref other prev : NodeRef} {node : Node W}

@[simp] theorem set_node_same : (l.set ref node).node ref = node := Function.update_self ..

theorem set_node_of_ne (different : other ≠ ref) : (l.set ref node).node other = l.node other :=
  Function.update_of_ne different ..

@[simp] theorem set_self : l.set ref (l.node ref) = l :=
  congrArg (fun node => Listing.mk node l.head l.list) (Function.update_eq_self ..)

@[simp] theorem set_set (node' : Node W) : (l.set ref node).set ref node' = l.set ref node' :=
  congrArg (fun node => Listing.mk node l.head l.list) (Function.update_idem ..)

@[simp] theorem remove_list : (l.remove prev ref).list = some ref := rfl

@[simp] theorem remove_node_same : (l.remove prev ref).node ref = { next := l.list } := by
  unfold remove
  split <;> exact Function.update_self ..

theorem remove_node_prev (different : prev ≠ ref) :
    (l.remove prev ref).node prev = { l.node prev with next := l.next ref } := by
  simp only [remove, if_neg different, set_node_of_ne _ different, set_node_same]

theorem remove_node_of_ne (different : other ≠ ref) (before : other ≠ prev) :
    (l.remove prev ref).node other = l.node other := by
  unfold remove
  split
  · exact set_node_of_ne _ different
  · exact (set_node_of_ne _ different).trans (set_node_of_ne _ before)

/-- What removal leaves of every node but its place. -/
theorem remove_node (different : other ≠ ref) :
    ∃ next, (l.remove prev ref).node other = { l.node other with next } := by
  by_cases before : other = prev
  · subst before
    exact ⟨_, remove_node_prev l different⟩
  · exact ⟨(l.node other).next, remove_node_of_ne l different before⟩

/-- What is left of the list when a node has been taken out. -/
theorem chain_remove {before after : List NodeRef} (chain : Chain l.next l.head (before ++ ref :: after))
    (behind : prev = ref ∧ before = [] ∨ ∃ front, before = front ++ [prev]) :
    Chain (l.remove prev ref).next (l.remove prev ref).head (before ++ after) := by
  have gone := (List.nodup_middle.mp chain.nodup).notMem
  have different {other : NodeRef} (member : other ∈ before ++ after) : other ≠ ref :=
    fun same => gone (same ▸ member)
  have nexts {other : NodeRef} (other_ : other ≠ ref) (noPrev : other ≠ prev) :
      (l.remove prev ref).next other = l.next other := by
    rw [Listing.next, remove_node_of_ne l other_ noPrev, Listing.next]
  have suffix : Chain l.next (l.next ref) after := (Chain.cons_iff.mp chain.suffix).2
  rcases behind with ⟨rfl, rfl⟩ | ⟨front, rfl⟩
  · have head : (l.remove prev prev).head = l.next prev := by
      rw [Listing.remove, if_pos rfl]
      rfl
    rw [head]
    exact suffix.congr fun other member => nexts (different member) (different member)
  · rw [List.append_assoc, List.singleton_append] at chain
    have apart : prev ≠ ref ∧ prev ∉ after ∧ prev ∉ front := by
      have outside := (List.nodup_cons.mp (List.nodup_middle.mp chain.nodup)).1
      simp only [List.mem_append, List.mem_cons, not_or] at outside
      exact ⟨outside.2.1, outside.2.2, outside.1⟩
    obtain ⟨noRef, notAfter, notFront⟩ := apart
    have head : (l.remove prev ref).head = l.head := by
      rw [Listing.remove, if_neg noRef]
      rfl
    rw [head, List.append_assoc, List.singleton_append]
    refine chain.splice (fun other member => ?_) ?_
    · refine nexts (different ?_) fun same => notFront (same ▸ member)
      exact List.mem_append_left _ (List.mem_append_left _ member)
    · have follow : (l.remove prev ref).next prev = l.next ref := by
        rw [Listing.next, remove_node_prev l noRef]
      rw [follow]
      exact suffix.congr fun other member => nexts
        (different (List.mem_append_right _ member)) fun same => notAfter (same ▸ member)

theorem remove_head {before after : List NodeRef}
    (behind : prev = ref ∧ before = [] ∨ ∃ front, before = front ++ [prev])
    (chain : Chain l.next l.head (before ++ ref :: after)) :
    l.head = (l.remove prev ref).head ∨
      l.head = some ref ∧ (l.remove prev ref).head = l.next ref := by
  rcases behind with ⟨rfl, rfl⟩ | ⟨front, rfl⟩
  · right
    refine ⟨chain.start_eq, ?_⟩
    rw [Listing.remove, if_pos rfl]
    rfl
  · left
    have noRef : prev ≠ ref := by
      rintro rfl
      have nodup := chain.nodup
      simp [List.nodup_append] at nodup
    rw [Listing.remove, if_neg noRef]
    rfl

end Listing

section Edits

variable (s t : State W) (ref : NodeRef)

theorem listing_setNode (f : Node W → Node W) :
    (s.setNode ref f).listing = s.listing.set ref (f (s.memory ref)).bare := by
  have nodes : (s.setNode ref f).listing.node = (s.listing.set ref (f (s.memory ref)).bare).node := by
    funext other
    by_cases same : other = ref
    · subst same
      simp [State.listing]
    · simp [State.listing, setNode_memory_of_ne _ _ same, Listing.set_node_of_ne _ same]
  exact congrArg (fun node => Listing.mk node s.head s.list) nodes

/-- A listing does not say which jumps a label has. -/
theorem listing_link {f : Node W → Node W} (same : (f (s.memory ref)).bare = (s.memory ref).bare) :
    (s.setNode ref f).listing = s.listing := by
  rw [listing_setNode, same]
  exact s.listing.set_self

theorem listing_freeNode :
    (s.freeNode ref).listing =
      { s.listing.set ref { next := s.listing.list } with list := some ref } :=
  listing_setNode ..

theorem listing_delNode {prev : Option NodeRef} {result : Unit}
    (ran : Returns (Pass.delNode prev ref).run s result t) :
    ∃ before, prev = some before ∧ (before = ref → s.head = some ref) ∧
      t.listing = s.listing.remove before ref := by
  simp only [Pass.delNode, returns_passBind, returns_passLook] at ran
  obtain ⟨_, _, ⟨rfl, rfl⟩, ran⟩ := ran
  split at ran
  next isHead =>
    simp only [returns_passBind, returns_passAssert, returns_passRaw, RawOp.run, returns_update] at ran
    obtain ⟨_, _, ⟨head, rfl⟩, _, _, rfl, rfl⟩ := ran
    refine ⟨ref, isHead, fun _ => head.trans isHead, ?_⟩
    rw [listing_freeNode, Listing.remove, if_pos rfl]
    rfl
  next other =>
    simp only [returns_passBind, returns_passDeref, returns_passRaw, RawOp.run, returns_update,
      returns_writeNode] at ran
    obtain ⟨before, _, ⟨rfl, rfl⟩, _, _, rfl, rfl⟩ := ran
    have different : before ≠ ref := fun same => other (congrArg some same)
    refine ⟨before, rfl, fun same => absurd same different, ?_⟩
    rw [listing_freeNode, listing_setNode, Listing.remove, if_neg different]
    rfl

end Edits

/-! ### Ways -/

/-- Execution falls through such a node and changes nothing. -/
def Code.silent (code : Code) : Bool := code = .label ∨ code = .name ∨ code = .note

/-- Jumps and branches, which may be patched to lead to a label. -/
def Code.jumps (code : Code) : Bool := code = .jmpi ∨ (condJump code).isSome

/-- The same with calls. -/
def Code.leads (code : Code) : Bool := code.jumps ∨ code = .calli

/-- The jump leads to `label`. -/
def Node.lead (node : Node W) (label : NodeRef) : Node W := { node with u := .n label }

section Lead

variable (node : Node W) (label : NodeRef)

@[simp] theorem lead_code : (node.lead label).code = node.code := rfl

@[simp] theorem lead_has (mask : BitVec 16) : (node.lead label).has mask = node.has mask := rfl

@[simp] theorem lead_u : (node.lead label).u = .n label := rfl

@[simp] theorem lead_v : (node.lead label).v = node.v := rfl

@[simp] theorem lead_w : (node.lead label).w = node.w := rfl

@[simp] theorem lead_next : (node.lead label).next = node.next := rfl

end Lead

/-- Where a transfer leads, if not to the next node or back. -/
def Transfer.target : Transfer W M → Option (Option NodeRef)
  | .goto label _ | .call label _ => some label
  | _ => none

section Moves

variable (p : Processor W M) {node : Node W} {m n : M} {label : Option NodeRef}

theorem move_silent (silent : node.code.silent = true) : p.move node m = .next m := by
  simp only [Code.silent, Bool.decide_or, Bool.or_eq_true, decide_eq_true_eq] at silent
  unfold Processor.move
  rcases silent with code | code | code <;> rw [code]

theorem jump_patched {label : NodeRef} (patched : node.has flagNode = true) (aim : node.u = .n label) :
    node.jump m = (.goto (some label) m : Transfer W M) := by
  rw [Node.jump, if_pos patched, aim]
  rfl

theorem move_jmpi (code : node.code = .jmpi) : p.move node m = node.jump m := by
  unfold Processor.move
  rw [code]

theorem move_jmpr (code : node.code = .jmpr) :
    p.move node m =
      match p.place (p.get m (jitRegno node.u.low)) with
      | some label => .goto (some label) m
      | none => .leave (.jumped (p.get m (jitRegno node.u.low))) m := by
  cases place : p.place (p.get m (jitRegno node.u.low)) <;> simp [Processor.move, code, place]

theorem move_branch {branch : CondJump} (isBranch : condJump node.code = some branch) :
    p.move node m =
      if p.taken branch node.v node.w m then node.jump (p.update branch node.v node.w m)
      else .next (p.update branch node.v node.w m) := by
  unfold Processor.move
  dsimp only
  split
  case h_10 => rw [isBranch]
  all_goals
    next code =>
      rw [code] at isBranch
      cases isBranch

theorem move_calli {label : NodeRef} (code : node.code = .calli) (patched : node.has flagNode = true)
    (aim : node.u = .n label) : p.move node m = .call (some label) m := by
  unfold Processor.move
  rw [code]
  dsimp only
  rw [if_pos patched, aim]
  rfl

theorem move_movi (code : node.code = .movi) :
    p.move node m = .next (p.act .movi node.u node.v node.w m) := by
  unfold Processor.move
  rw [code]
  rfl

theorem jump_target (goes : (node.jump m : Transfer W M).target = some label) :
    node.has flagNode = true ∧ label = node.u.label := by
  unfold Node.jump at goes
  split at goes
  next patched => exact ⟨patched, (Option.some.inj goes).symm⟩
  next => cases goes

/-- Execution goes to labels that nodes are patched with, and to what has an address. -/
theorem move_target (goes : (p.move node m).target = some label) :
    (∃ address ref, p.place address = some ref ∧ label = some ref) ∨
      node.code.leads = true ∧ node.has flagNode = true ∧ label = node.u.label := by
  unfold Processor.move at goes
  dsimp only at goes
  split at goes
  · cases goes
  · cases goes
  · cases goes
  next code => exact .inr ⟨by rw [code]; rfl, jump_target goes⟩
  next =>
    split at goes
    next ref found => exact .inl ⟨_, ref, found, (Option.some.inj goes).symm⟩
    next => cases goes
  next code =>
    split at goes
    next patched => exact .inr ⟨by rw [code]; rfl, patched, (Option.some.inj goes).symm⟩
    next => cases goes
  next =>
    split at goes
    next ref found => exact .inl ⟨_, ref, found, (Option.some.inj goes).symm⟩
    next => cases goes
  · cases goes
  · cases goes
  next =>
    split at goes
    next branch isBranch =>
      split at goes
      · refine .inr ⟨?_, jump_target goes⟩
        simp [Code.leads, Code.jumps, isBranch]
      · cases goes
    next => cases goes

end Moves

namespace Listing

variable (p : Processor W M) {l : Listing W} {start : Option NodeRef} {mid rest : List NodeRef}
  {ref : NodeRef}

theorem step_silent (silent : (l.node ref).code.silent = true) (callers : List NodeRef) (m : M) :
    l.step p (.at_ (some ref) callers m) = some (.at_ (l.next ref) callers m) := by
  rw [step, move_silent p silent, follow]

theorem step_jmpi {label : NodeRef} (code : (l.node ref).code = .jmpi)
    (patched : (l.node ref).has flagNode = true) (aim : (l.node ref).u = .n label)
    (callers : List NodeRef) (m : M) :
    l.step p (.at_ (some ref) callers m) = some (.at_ (some label) callers m) := by
  rw [step, move_jmpi p code, jump_patched patched aim, follow]

theorem step_branch {label : NodeRef} {branch : CondJump}
    (isBranch : condJump (l.node ref).code = some branch)
    (patched : (l.node ref).has flagNode = true) (aim : (l.node ref).u = .n label)
    (callers : List NodeRef) (m : M) :
    l.step p (.at_ (some ref) callers m) =
      some (.at_ (if p.taken branch (l.node ref).v (l.node ref).w m then some label else l.next ref)
        callers (p.update branch (l.node ref).v (l.node ref).w m)) := by
  rw [step, move_branch p isBranch, jump_patched patched aim]
  split <;> rfl

/-- Nodes that do nothing are passed. -/
theorem reaches_silent (chain : Chain l.next start (mid ++ rest))
    (silent : ∀ ref ∈ mid, (l.node ref).code.silent = true) (callers : List NodeRef) (m : M) :
    Reaches (l.step p) (.at_ start callers m) (.at_ rest.head? callers m) := by
  induction mid generalizing start with
  | nil =>
    rw [List.nil_append] at chain
    rw [chain.start_eq]
    exact Relation.ReflTransGen.refl
  | cons ref mid ih =>
    obtain ⟨rfl, chain⟩ := chain
    have first := step_silent p (silent ref List.mem_cons_self) callers m
    have later := ih chain fun other member => silent other (List.mem_cons_of_mem ref member)
    exact Relation.ReflTransGen.head first later

end Listing

end Zjit
