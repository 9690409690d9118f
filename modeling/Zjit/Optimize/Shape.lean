import Mathlib.Data.List.Infix
import Zjit.Optimize.Rewrite

/-!
# The shape of the list

What `thread_jumps` needs of the node list and keeps: list and free list are chains without a
common node, jumps lead to labels of the list, and no jump leads across the end of a function.
-/
namespace Zjit

open Foundation StateTransition

variable {W : WordSize} {M : Type}

/-- What a jump may lead to. -/
def Code.mark (code : Code) : Bool := code = .label ∨ code = .epilog

def Code.comment (code : Code) : Bool := code = .name ∨ code = .note

/-- A jump that is always taken. -/
def Code.away (code : Code) : Bool := code = .jmpi ∨ code = .jmpr

/-- All that a scan for the target of a jump asks about a node. -/
def Code.kind (code : Code) : Bool × Bool × Bool := (code.mark, code.comment, code.away)

theorem mark_of_kind {code code' : Code} (kind : code'.kind = code.kind) : code'.mark = code.mark :=
  congrArg Prod.fst kind

theorem mark_of_jumps {code : Code} (jumps : code.jumps = true) : code.mark = false := by
  cases mark : code.mark with
  | false => rfl
  | true =>
    simp only [Code.mark, Bool.decide_or, Bool.or_eq_true, decide_eq_true_eq] at mark
    rcases mark with rfl | rfl <;> cases jumps

/-- A scan stops at branches. -/
theorem kind_of_branch {code : Code} {branch : CondJump} (isBranch : condJump code = some branch) :
    code.kind = (false, false, false) := by
  have comment : code.comment = false := by
    refine decide_eq_false ?_
    rintro (rfl | rfl)
    · cases isBranch
    · cases isBranch
  have away : code.away = false := by
    refine decide_eq_false ?_
    rintro (rfl | rfl)
    · cases isBranch
    · cases isBranch
  have jumps : code.jumps = true := by simp [Code.jumps, isBranch]
  rw [Code.kind, mark_of_jumps jumps, comment, away]

namespace Listing

/-- Some jump or branch leads to `label`. -/
def Jumped (l : Listing W) (refs : List NodeRef) (label : NodeRef) : Prop :=
  ∃ ref ∈ refs, (l.node ref).code.jumps = true ∧ (l.node ref).has flagNode = true ∧
    (l.node ref).u = .n label

/-- Behind the end of a function, before anything else: nothing that is jumped to, and no jump. -/
def Fence (l : Listing W) (jumped : NodeRef → Prop) : List NodeRef → Prop
  | [] => True
  | ref :: rest =>
    if (l.node ref).code.mark then ¬ jumped ref ∧ l.Fence jumped rest
    else if (l.node ref).code.comment then l.Fence jumped rest
    else (l.node ref).code.away = false

instance (l : Listing W) (refs : List NodeRef) (label : NodeRef) : Decidable (l.Jumped refs label) :=
  inferInstanceAs (Decidable (∃ ref ∈ refs, (l.node ref).code.jumps = true ∧
    (l.node ref).has flagNode = true ∧ (l.node ref).u = .n label))

instance decidableFence (l : Listing W) (jumped : NodeRef → Prop) [DecidablePred jumped] :
    (refs : List NodeRef) → Decidable (l.Fence jumped refs)
  | [] => .isTrue trivial
  | ref :: rest =>
    have := decidableFence l jumped rest
    inferInstanceAs (Decidable (if (l.node ref).code.mark then ¬ jumped ref ∧ l.Fence jumped rest
      else if (l.node ref).code.comment then l.Fence jumped rest
      else (l.node ref).code.away = false))

/-- The list `refs` and the free list `cells`; the code is entered at the head and at `entries`. -/
structure Shaped (l : Listing W) (entries : NodeRef → Prop) (refs cells : List NodeRef) : Prop where
  chain : Chain l.next l.head refs
  free : Chain l.next l.list cells
  blank : ∀ ref ∈ cells, (l.node ref).code = .data ∧ ref ∉ refs
  entry : ∀ ref, entries ref → ref ∈ refs ∧ (l.node ref).code.jumps = false
  target : ∀ ref ∈ refs, (l.node ref).code.leads = true → (l.node ref).has flagNode = true →
    ∃ label ∈ refs, (l.node ref).u = .n label ∧ (l.node label).code.mark = true
  fenced : ∀ before ref after, refs = before ++ ref :: after → (l.node ref).code = .epilog →
    l.Fence (l.Jumped refs) after

variable {l l' : Listing W} {jumped jumped' : NodeRef → Prop} {entries : NodeRef → Prop}
  {refs cells before after mid rest : List NodeRef} {ref prev label : NodeRef} {node : Node W}

/-- It is enough to look at every node once. -/
theorem fenced_of_tails
    (fences : ∀ suffix ∈ refs.tails, ∀ ref ∈ suffix.head?, (l.node ref).code = .epilog →
      l.Fence (l.Jumped refs) suffix.tail) (split : refs = before ++ ref :: after)
    (epilog : (l.node ref).code = .epilog) : l.Fence (l.Jumped refs) after := by
  have suffix : ref :: after ∈ refs.tails := (List.mem_tails _ _).mpr ⟨before, split.symm⟩
  exact fences (ref :: after) suffix ref rfl epilog

/-! ### Fences -/

/-- A scan from the end of a function on meets nothing that is jumped to. -/
theorem fence_passed (fence : l.Fence jumped (mid ++ rest))
    (passed : ∀ ref ∈ mid, (l.node ref).code.mark = true ∨ (l.node ref).code.comment = true) :
    l.Fence jumped rest := by
  induction mid with
  | nil => exact fence
  | cons ref mid ih =>
    have later : l.Fence jumped (mid ++ rest) := by
      rw [List.cons_append, Fence] at fence
      split at fence
      next => exact fence.2
      next other =>
        rw [if_pos ((passed ref List.mem_cons_self).resolve_left other)] at fence
        exact fence
    exact ih later fun other member => passed other (List.mem_cons_of_mem ref member)

/-- A fence depends on the kinds of nodes and on what is jumped to. -/
theorem fence_congr (fence : l.Fence jumped refs)
    (kinds : ∀ ref ∈ refs, (l'.node ref).code.kind = (l.node ref).code.kind)
    (fewer : ∀ ref, jumped' ref → jumped ref) : l'.Fence jumped' refs := by
  induction refs with
  | nil => trivial
  | cons ref rest ih =>
    have kind := kinds ref List.mem_cons_self
    simp only [Code.kind, Prod.mk.injEq] at kind
    obtain ⟨mark, comment, away⟩ := kind
    have later := fun fence => ih fence fun other member => kinds other (List.mem_cons_of_mem ref member)
    unfold Fence at fence ⊢
    rw [mark, comment, away]
    split at fence
    next isMark =>
      rw [if_pos isMark]
      exact ⟨fun again => fence.1 (fewer ref again), later fence.2⟩
    next other =>
      rw [if_neg other]
      split at fence
      next isComment =>
        rw [if_pos isComment]
        exact later fence
      next stops =>
        rw [if_neg stops]
        exact fence

/-- There is no jump behind a fence to take away. -/
theorem fence_erase (fence : l.Fence jumped (before ++ ref :: after))
    (jump : (l.node ref).code = .jmpi) : l.Fence jumped (before ++ after) := by
  induction before with
  | nil =>
    rw [List.nil_append, Fence, jump] at fence
    cases fence
  | cons other before ih =>
    rw [List.cons_append, Fence] at fence ⊢
    split at fence
    next isMark =>
      rw [if_pos isMark]
      exact ⟨fence.1, ih fence.2⟩
    next noMark =>
      rw [if_neg noMark]
      split at fence
      next isComment =>
        rw [if_pos isComment]
        exact ih fence
      next stops =>
        rw [if_neg stops]
        exact fence

namespace Shaped

variable (shaped : l.Shaped entries refs cells)

include shaped

theorem jumped_mark (isJumped : l.Jumped refs label) :
    label ∈ refs ∧ (l.node label).code.mark = true := by
  obtain ⟨ref, member, jumps, patched, aim⟩ := isJumped
  have leads : (l.node ref).code.leads = true := by
    rw [Code.leads, jumps]
    rfl
  obtain ⟨label', inside, aim', mark⟩ := shaped.target ref member leads patched
  obtain rfl := Data.n.inj (aim.symm.trans aim')
  exact ⟨inside, mark⟩

/-- What lies between a node and a label that is jumped to does nothing. -/
theorem silent_of_passed (whole : refs = before ++ ref :: (mid ++ label :: rest))
    (isJumped : l.Jumped refs label)
    (passed : ∀ other ∈ mid, (l.node other).code.mark = true ∨ (l.node other).code.comment = true) :
    ∀ other ∈ mid, (l.node other).code.silent = true := by
  intro other member
  by_cases epilog : (l.node other).code = .epilog
  · obtain ⟨first, last, rfl⟩ := List.append_of_mem member
    have fence := shaped.fenced (before ++ ref :: first) other (last ++ label :: rest)
      (by simp [whole]) epilog
    have reached := fence_passed fence fun node inside => passed node (by simp [inside])
    rw [Fence, if_pos (shaped.jumped_mark isJumped).2] at reached
    exact absurd isJumped reached.1
  · have kind := passed other member
    simp only [Code.mark, Code.comment, decide_eq_true_eq] at kind
    rcases kind with (code | code) | (code | code)
    · rw [code]; rfl
    · exact absurd code epilog
    · rw [code]; rfl
    · rw [code]; rfl

/-- Where nodes of the list lead, nothing can be taken away. -/
theorem target_mem {p : Processor W M} (placed : ∀ address ref, p.place address = some ref → entries ref)
    (member : ref ∈ refs) {m : M} {to_ : Option NodeRef}
    (goes : (p.move (l.node ref) m).target = some to_) :
    ∃ label ∈ refs, to_ = some label ∧
      ((l.node label).code.mark = true ∨ (l.node label).code.jumps = false) := by
  rcases move_target p goes with ⟨address, label, place, rfl⟩ | ⟨leads, patched, rfl⟩
  · obtain ⟨inside, other⟩ := shaped.entry label (placed address label place)
    exact ⟨label, inside, rfl, .inr other⟩
  · obtain ⟨label, inside, aim, mark⟩ := shaped.target ref member leads patched
    rw [aim]
    exact ⟨label, inside, rfl, .inl mark⟩

/-- A jump is replaced by one that leads where some jump leads, or outside. -/
theorem set (member : ref ∈ refs) (jumps : (l.node ref).code.jumps = true)
    (next : node.next = l.next ref) (kind : node.code.kind = (l.node ref).code.kind)
    (aim : node.code.leads = true → node.has flagNode = true →
      ∃ label, node.u = .n label ∧ l.Jumped refs label) :
    (l.set ref node).Shaped entries refs cells := by
  have kinds (other : NodeRef) :
      ((l.set ref node).node other).code.kind = (l.node other).code.kind := by
    by_cases same : other = ref
    · rw [same, set_node_same, kind]
    · rw [set_node_of_ne l same]
  have nexts (other : NodeRef) : (l.set ref node).next other = l.next other := by
    by_cases same : other = ref
    · rw [same, Listing.next, set_node_same, next]
    · rw [Listing.next, set_node_of_ne l same, Listing.next]
  -- The new node leads to a label that was led to before.
  have fewer (label : NodeRef) (isJumped : (l.set ref node).Jumped refs label) :
      l.Jumped refs label := by
    obtain ⟨other, inside, jumps', patched, leads⟩ := isJumped
    by_cases same : other = ref
    · subst same
      rw [set_node_same] at jumps' patched leads
      obtain ⟨label', aim, isJumped⟩ := aim (by rw [Code.leads, jumps']; rfl) patched
      rw [Data.n.inj (leads.symm.trans aim)]
      exact isJumped
    · rw [set_node_of_ne l same] at jumps' patched leads
      exact ⟨other, inside, jumps', patched, leads⟩
  constructor
  · exact shaped.chain.congr fun other _ => nexts other
  · exact shaped.free.congr fun other _ => nexts other
  · intro other isFree
    obtain ⟨code, outside⟩ := shaped.blank other isFree
    have different : other ≠ ref := fun same => outside (same ▸ member)
    rw [set_node_of_ne l different]
    exact ⟨code, outside⟩
  · intro other entry
    obtain ⟨inside, noJump⟩ := shaped.entry other entry
    have different : other ≠ ref := by
      rintro rfl
      rw [jumps] at noJump
      cases noJump
    rw [set_node_of_ne l different]
    exact ⟨inside, noJump⟩
  · intro other inside leads patched
    by_cases same : other = ref
    · subst same
      rw [set_node_same] at leads patched ⊢
      obtain ⟨label, aim, isJumped⟩ := aim leads patched
      obtain ⟨inside, mark⟩ := shaped.jumped_mark isJumped
      exact ⟨label, inside, aim, (mark_of_kind (kinds label)).trans mark⟩
    · rw [set_node_of_ne l same] at leads patched ⊢
      obtain ⟨label, inside, aim, mark⟩ := shaped.target other inside leads patched
      exact ⟨label, inside, aim, (mark_of_kind (kinds label)).trans mark⟩
  · intro before other after split code
    have different : other ≠ ref := by
      rintro rfl
      have mark := mark_of_kind (kinds other)
      rw [code, mark_of_jumps jumps] at mark
      cases mark
    rw [set_node_of_ne l different] at code
    exact fence_congr (shaped.fenced before other after split code) (fun other _ => kinds other) fewer

/-- A jump leaves the list. -/
theorem remove {prev : NodeRef} (split : refs = before ++ ref :: after)
    (code : (l.node ref).code = .jmpi)
    (behind : prev = ref ∧ before = [] ∨ ∃ front, before = front ++ [prev]) :
    (l.remove prev ref).Shaped entries (before ++ after) (ref :: cells) := by
  subst split
  have nodup := shaped.chain.nodup
  have gone : ref ∉ before ++ after := (List.nodup_middle.mp nodup).notMem
  have different {other : NodeRef} (member : other ∈ before ++ after) : other ≠ ref :=
    fun same => gone (same ▸ member)
  have kept {other : NodeRef} (other_ : other ≠ ref) :
      ∃ next, (l.remove prev ref).node other = { l.node other with next } := remove_node l other_
  have jumps : (l.node ref).code.jumps = true := by rw [code]; rfl
  have marked {label : NodeRef} (mark : (l.node label).code.mark = true) : label ≠ ref := by
    rintro rfl
    rw [mark_of_jumps jumps] at mark
    cases mark
  have jumped (label : NodeRef) (isJumped : (l.remove prev ref).Jumped (before ++ after) label) :
      l.Jumped (before ++ ref :: after) label := by
    obtain ⟨other, inside, jumps', patched, leads⟩ := isJumped
    obtain ⟨next, same⟩ := kept (different inside)
    rw [same] at jumps' patched leads
    exact ⟨other, mem_middle inside, jumps', patched, leads⟩
  have nexts {other : NodeRef} (other_ : other ≠ ref) (noPrev : other ≠ prev) :
      (l.remove prev ref).next other = l.next other := by
    rw [Listing.next, remove_node_of_ne l other_ noPrev, Listing.next]
  have prevInside : prev ∈ before ++ ref :: after := by
    rcases behind with ⟨rfl, -⟩ | ⟨front, rfl⟩
    · exact List.mem_append_right _ List.mem_cons_self
    · simp
  have kinds : ∀ other ∈ before ++ after,
      ((l.remove prev ref).node other).code.kind = (l.node other).code.kind := by
    intro other inside
    obtain ⟨next, same⟩ := kept (different inside)
    rw [same]
  constructor
  · exact chain_remove l shaped.chain behind
  · refine ⟨rfl, ?_⟩
    have follow : (l.remove prev ref).next ref = l.list := by
      rw [Listing.next, remove_node_same]
    rw [follow]
    refine shaped.free.congr fun other isFree => ?_
    obtain ⟨-, outside⟩ := shaped.blank other isFree
    refine nexts ?_ ?_
    · rintro rfl
      exact outside (List.mem_append_right _ List.mem_cons_self)
    · rintro rfl
      exact outside prevInside
  · intro other isFree
    rcases List.mem_cons.mp isFree with rfl | isFree
    · rw [remove_node_same]
      exact ⟨rfl, gone⟩
    · obtain ⟨blank, outside⟩ := shaped.blank other isFree
      have noRef : other ≠ ref := by
        rintro rfl
        exact outside (List.mem_append_right _ List.mem_cons_self)
      obtain ⟨next, same⟩ := kept noRef
      rw [same]
      exact ⟨blank, fun inside => outside (mem_middle inside)⟩
  · intro other entry
    obtain ⟨inside, noJump⟩ := shaped.entry other entry
    have noRef : other ≠ ref := by
      rintro rfl
      rw [jumps] at noJump
      cases noJump
    obtain ⟨next, same⟩ := kept noRef
    rw [same]
    exact ⟨mem_without inside noRef, noJump⟩
  · intro other inside leads patched
    obtain ⟨next, same⟩ := kept (different inside)
    rw [same] at leads patched ⊢
    obtain ⟨label, member, aim, mark⟩ := shaped.target other (mem_middle inside) leads patched
    obtain ⟨next', same'⟩ := kept (marked mark)
    refine ⟨label, mem_without member (marked mark), aim, ?_⟩
    rw [same']
    exact mark
  · intro first other last split epilog
    have inside : other ∈ before ++ after := split ▸ List.mem_append_right _ List.mem_cons_self
    obtain ⟨next, same⟩ := kept (different inside)
    rw [same] at epilog
    have rest (other : NodeRef) (member : other ∈ last) :
        ((l.remove prev ref).node other).code.kind = (l.node other).code.kind :=
      kinds other (split ▸ List.mem_append_right _ (List.mem_cons_of_mem _ member))
    -- The end of the function is behind the jump, or before it.
    rcases List.append_eq_append_iff.mp split with ⟨between, rfl, rfl⟩ | ⟨between, rfl, split'⟩
    · refine fence_congr (shaped.fenced (before ++ ref :: between) other last ?_ epilog) rest jumped
      rw [List.append_assoc, List.cons_append]
    · cases between with
      | nil =>
        rw [List.nil_append] at split'
        subst split'
        refine fence_congr (shaped.fenced (first ++ [ref]) other last ?_ epilog) rest jumped
        rw [List.append_nil, List.append_assoc, List.singleton_append]
      | cons between_ between =>
        rw [List.cons_append, List.cons.injEq] at split'
        obtain ⟨rfl, rfl⟩ := split'
        have fence := shaped.fenced first other (between ++ ref :: after) ?_ epilog
        · exact fence_congr (fence_erase fence code) rest jumped
        · rw [List.append_assoc, List.cons_append]

end Shaped

end Listing

end Zjit
