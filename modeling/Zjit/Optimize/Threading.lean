import Zjit.Optimize.Shape

/-!
# Threaded jumps

`thread_jumps` changes neither how the code ends nor what it does on the way, as long as no jump
leads across the end of a function.
-/
namespace Zjit

open Foundation Program StateTransition

variable {W : WordSize} {M : Type}

namespace Listing

variable {l : Listing W} {entries : NodeRef → Prop} {before mid rest cells : List NodeRef}
  {ref prev label : NodeRef}

/-! ### A jump to the next instruction -/

/-- What is left of the list goes on as before. -/
theorem rel_remove {l' : Listing W} {after : List NodeRef} {p : Processor W M}
    {P : Option NodeRef → Option NodeRef → Prop} {alive : NodeRef → Prop} {other : NodeRef}
    {callers : List NodeRef} {m : M} (shaped : l.Shaped entries (before ++ ref :: after) cells)
    (jumps : (l.node ref).code.jumps = true)
    (placed : ∀ address ref, p.place address = some ref → entries ref)
    (member : other ∈ before ++ after) (same : ∃ next, l'.node other = { l.node other with next })
    (known : alive other) (callersKnown : ∀ caller ∈ callers, alive caller)
    (resume : ∀ ref, alive ref → P (l.next ref) (l'.next ref))
    (stay : ∀ target ∈ before ++ after, P (some target) (some target)) :
    (l.follow other callers (p.move (l.node other) m)).Rel P alive
      (l'.follow other callers (p.move (l'.node other) m)) := by
  obtain ⟨next, same⟩ := same
  rw [same, move_next]
  refine rel_follow known callersKnown resume fun to_ goes => ?_
  have inside : other ∈ before ++ ref :: after := mem_middle member
  obtain ⟨target, found, rfl, kind⟩ := shaped.target_mem placed inside goes
  apply stay
  refine mem_without found ?_
  rintro rfl
  rcases kind with mark | noJump
  · rw [mark_of_jumps jumps] at mark
    cases mark
  · rw [jumps] at noJump
    cases noJump

/-- A jump over nothing but labels, names and notes goes away. -/
theorem same_remove (shaped : l.Shaped entries (before ++ ref :: (mid ++ label :: rest)) cells)
    (code : (l.node ref).code = .jmpi) (patched : (l.node ref).has flagNode = true)
    (aim : (l.node ref).u = .n label) (silent : ∀ other ∈ mid, (l.node other).code.silent = true)
    (behind : prev = ref ∧ before = [] ∨ ∃ front, before = front ++ [prev]) :
    Same entries l (l.remove prev ref) := by
  have shaped' := shaped.remove rfl code behind
  have gone := (List.nodup_middle.mp shaped.chain.nodup).notMem
  have jumps : (l.node ref).code.jumps = true := by rw [code]; rfl
  -- Where the jump was, execution is at what followed it.
  let alive (other : NodeRef) : Prop := other ∈ before ++ (mid ++ label :: rest)
  let P (q q' : Option NodeRef) : Prop :=
    q = q' ∧ (∀ other, q = some other → alive other) ∨ q = some ref ∧ q' = l.next ref
  have stay (target : NodeRef) (member : alive target) : P (some target) (some target) := by
    refine .inl ⟨rfl, fun other same => ?_⟩
    obtain rfl := Option.some.inj same
    exact member
  have kept (other : NodeRef) (member : alive other) :
      ∃ next, (l.remove prev ref).node other = { l.node other with next } :=
    remove_node l fun same => gone (same ▸ member)
  have resume (other : NodeRef) (member : alive other) :
      P (l.next other) ((l.remove prev ref).next other) := by
    have noRef : other ≠ ref := fun same => gone (same ▸ member)
    by_cases noPrev : other = prev
    · subst noPrev
      rcases behind with ⟨same, -⟩ | ⟨front, rfl⟩
      · exact absurd same noRef
      · rw [List.append_assoc, List.singleton_append] at shaped
        have follow : (l.remove other ref).next other = l.next ref := by
          rw [Listing.next, remove_node_prev l noRef]
        exact .inr ⟨shaped.chain.next_eq, follow⟩
    · have follow : (l.remove prev ref).next other = l.next other := by
        rw [Listing.next, remove_node_of_ne l noRef noPrev, Listing.next]
      exact .inl ⟨follow.symm, fun target goes => shaped.chain.next_mem_erase behind member noPrev goes⟩
  intro M p placed m
  have bridge : Bridge p l (l.remove prev ref) P alive := by
    constructor
    · rintro q (⟨rfl, -⟩ | ⟨none_, -⟩)
      · rfl
      · cases none_
    · rintro other q callers m (⟨rfl, known'⟩ | ⟨isRef, rfl⟩) known
      · have member := known' other rfl
        exact ⟨_, _, .single rfl, .single rfl,
          rel_remove shaped jumps placed member (kept other member) member known resume stay⟩
      · obtain rfl := Option.some.inj isRef
        -- The jump leads to its label, and so do the nodes behind it.
        have first := step_jmpi p code patched aim callers m
        have chain' : Chain (l.remove prev other).next (l.next other) (mid ++ label :: rest) := by
          rw [shaped.chain.next_eq]
          exact shaped'.chain.rest
        have way := reaches_silent p chain' (fun ref member => ?_) callers m
        · have member : alive label := List.mem_append_right _ (List.mem_append_right _ List.mem_cons_self)
          exact ⟨_, _, .head first (.single rfl), .tail' way rfl,
            rel_remove shaped jumps placed member (kept label member) member known resume stay⟩
        · obtain ⟨next, same⟩ :=
            kept ref (List.mem_append_right _ (List.mem_append_left _ member))
          rw [same]
          exact silent ref member
  refine ⟨bridge.outcome_eq ?_ m, fun other entry => bridge.outcome_eq ?_ m⟩
  · rcases remove_head l behind shaped.chain with head | ⟨head, head'⟩
    · refine .inl ⟨head, fun other isHead => ?_⟩
      rw [head, shaped'.chain.start_eq] at isHead
      exact List.mem_of_mem_head? isHead
    · exact .inr ⟨head, head'⟩
  · exact stay other (shaped'.entry other entry).1

/-! ### A jump to a jump -/

variable {jump : NodeRef}

/-- From a label to the jump behind it. -/
theorem reaches_jump {p : Processor W M} (shaped : l.Shaped entries (before ++ label :: (mid ++ jump :: rest)) cells)
    (isLabel : (l.node label).code = .label)
    (silent : ∀ other ∈ mid, (l.node other).code.silent = true) (callers : List NodeRef) (m : M) :
    Reaches (l.step p) (.at_ (some label) callers m) (.at_ (some jump) callers m) := by
  have chain : Chain l.next (some label) ((label :: mid) ++ jump :: rest) := shaped.chain.suffix
  refine reaches_silent p chain (fun other member => ?_) callers m
  rcases List.mem_cons.mp member with rfl | member
  · rw [isLabel]
    rfl
  · exact silent other member

/-- A jump or branch to a jump leads where the second jump does. -/
theorem same_shortcut {target : NodeRef}
    (shaped : l.Shaped entries (before ++ label :: (mid ++ jump :: rest)) cells)
    (isLabel : (l.node label).code = .label)
    (silent : ∀ other ∈ mid, (l.node other).code.silent = true)
    (code : (l.node jump).code = .jmpi) (patched : (l.node jump).has flagNode = true)
    (aim : (l.node jump).u = .n target) (jumps : (l.node ref).code.jumps = true)
    (patched' : (l.node ref).has flagNode = true) (aim' : (l.node ref).u = .n label) :
    Same entries l (l.set ref ((l.node ref).lead target)) := by
  refine same_set ?_ fun {M} p callers m => ?_
  · rfl
  have way (m : M) : Reaches (l.step p) (.at_ (some label) callers m) (.at_ (some target) callers m) :=
    (reaches_jump shaped isLabel silent callers m).tail (step_jmpi p code patched aim callers m)
  have taken (n : M) : l.follow ref callers ((l.node ref).jump n) = .at_ (some label) callers n := by
    rw [jump_patched patched' aim', follow]
  have taken' (n : M) : (l.set ref ((l.node ref).lead target)).follow ref callers
      (((l.node ref).lead target).jump n) = .at_ (some target) callers n := by
    rw [jump_patched ((lead_has ..).trans patched') (lead_u ..), follow]
  rcases of_decide_eq_true jumps with code | branch
  · refine ⟨.at_ (some target) callers m, ?_, ?_⟩
    · rw [move_jmpi p code, taken]
      exact way m
    · rw [move_jmpi p ((lead_code ..).trans code), taken']
      exact Relation.ReflTransGen.refl
  · obtain ⟨branch, isBranch⟩ := Option.isSome_iff_exists.mp branch
    have isBranch' : condJump ((l.node ref).lead target).code = some branch := isBranch
    rw [move_branch p isBranch, move_branch p isBranch', lead_v, lead_w]
    by_cases holds : p.taken branch (l.node ref).v (l.node ref).w m = true
    · rw [if_pos holds, if_pos holds, taken, taken']
      exact ⟨_, way _, Relation.ReflTransGen.refl⟩
    · rw [if_neg holds, if_neg holds]
      refine ⟨_, Relation.ReflTransGen.refl, ?_⟩
      rw [follow, follow, Listing.next, Listing.next, set_node_same, lead_next]
      exact Relation.ReflTransGen.refl

/-- A jump to a jump through a register is one itself. -/
theorem same_indirect
    (shaped : l.Shaped entries (before ++ label :: (mid ++ jump :: rest)) cells)
    (isLabel : (l.node label).code = .label)
    (silent : ∀ other ∈ mid, (l.node other).code.silent = true)
    (code : (l.node jump).code = .jmpr) (code' : (l.node ref).code = .jmpi)
    (patched : (l.node ref).has flagNode = true) (aim : (l.node ref).u = .n label) (flag : BitVec 16) :
    Same entries l (l.set ref { l.node ref with code := .jmpr, u := (l.node jump).u, flag }) := by
  refine same_set ?_ fun {M} p callers m => ?_
  · rfl
  have first : l.follow ref callers (p.move (l.node ref) m) = .at_ (some label) callers m := by
    rw [move_jmpi p code', jump_patched patched aim, follow]
  have way := reaches_jump (p := p) shaped isLabel silent callers m
  refine ⟨l.follow jump callers (p.move (l.node jump) m), ?_, ?_⟩
  · rw [first]
    exact way.tail rfl
  · rw [move_jmpr p rfl, move_jmpr p code]
    cases p.place (p.get m (jitRegno (l.node jump).u.low)) with
    | none => exact Relation.ReflTransGen.refl
    | some label => exact Relation.ReflTransGen.refl

/-! ### A branch over a jump -/

/-- The branch on the opposite condition, to `label`. -/
def reversed (l : Listing W) (ref label : NodeRef) (code : Code) : Listing W :=
  l.set ref { (l.node ref).lead label with code }

/-- It makes no difference whether the branch or the jump goes first. -/
theorem reversed_remove (l : Listing W) {target : NodeRef} (code : Code) (noRef : ref ≠ jump) :
    (l.reversed ref target code).remove ref jump =
      (l.remove ref jump).set ref { ((l.remove ref jump).node ref).lead target with code } := by
  have nodes : ((l.reversed ref target code).remove ref jump).node =
      ((l.remove ref jump).set ref { ((l.remove ref jump).node ref).lead target with code }).node := by
    funext other
    by_cases isRef : other = ref
    · subst isRef
      rw [set_node_same, remove_node_prev _ noRef, remove_node_prev _ noRef, reversed, set_node_same,
        Listing.next, set_node_of_ne l noRef.symm]
      rfl
    · rw [set_node_of_ne _ isRef]
      by_cases isJump : other = jump
      · subst isJump
        rw [remove_node_same, remove_node_same]
        rfl
      · rw [remove_node_of_ne _ isJump isRef, remove_node_of_ne _ isJump isRef, reversed,
          set_node_of_ne l isRef]
  have head : ((l.reversed ref target code).remove ref jump).head = (l.remove ref jump).head := by
    rw [Listing.remove, Listing.remove, if_neg noRef, if_neg noRef]
    rfl
  exact congrArg₂ (fun node head => Listing.mk node head (some jump)) nodes head

/-- The reversed branch, with the jump behind it gone. -/
theorem step_reversed {p : Processor W M} {target : NodeRef} {code : Code} {branch : CondJump} (noRef : ref ≠ jump)
    (isReversed : condJump code = some branch.negate) (patched : (l.node ref).has flagNode = true)
    (callers : List NodeRef) (m : M) :
    ((l.reversed ref target code).remove ref jump).step p (.at_ (some ref) callers m) =
      some (.at_ (if p.taken branch (l.node ref).v (l.node ref).w m then l.next jump else some target)
        callers (p.update branch (l.node ref).v (l.node ref).w m)) := by
  have node : ((l.reversed ref target code).remove ref jump).node ref =
      { (l.node ref).lead target with code, next := l.next jump } := by
    rw [remove_node_prev _ noRef, reversed, set_node_same, Listing.next, set_node_of_ne l noRef.symm, Listing.next]
  have isBranch : condJump (((l.reversed ref target code).remove ref jump).node ref).code =
      some branch.negate := by
    rw [node]
    exact isReversed
  have patched' : (((l.reversed ref target code).remove ref jump).node ref).has flagNode = true := by
    rw [node]
    exact patched
  have aim : (((l.reversed ref target code).remove ref jump).node ref).u = .n target := by
    rw [node]
    rfl
  have follow : ((l.reversed ref target code).remove ref jump).next ref = l.next jump := by
    rw [Listing.next, node]
  have values : (((l.reversed ref target code).remove ref jump).node ref).v = (l.node ref).v ∧
      (((l.reversed ref target code).remove ref jump).node ref).w = (l.node ref).w := by
    rw [node]
    exact ⟨rfl, rfl⟩
  rw [step_branch p isBranch patched' aim callers m, taken_negate, update_negate, values.1, values.2, follow]
  cases p.taken branch (l.node ref).v (l.node ref).w m <;> rfl

/-- `<cond_jump L0> <jump L1> <label L0>` means what `<reverse_cond_jump L1>` means. -/
theorem same_reverse {target : NodeRef} {code : Code} {branch : CondJump}
    (shaped : l.Shaped entries (before ++ ref :: jump :: (mid ++ label :: rest)) cells)
    (shaped' : (l.reversed ref target code).Shaped entries
      (before ++ ref :: jump :: (mid ++ label :: rest)) cells)
    (isBranch : condJump (l.node ref).code = some branch)
    (isReversed : condJump code = some branch.negate)
    (patched : (l.node ref).has flagNode = true) (aim : (l.node ref).u = .n label)
    (isJump : (l.node jump).code = .jmpi) (patched' : (l.node jump).has flagNode = true)
    (aim' : (l.node jump).u = .n target) (silent : ∀ other ∈ mid, (l.node other).code.silent = true) :
    Same entries l ((l.reversed ref target code).remove ref jump) := by
  have split : before ++ ref :: jump :: (mid ++ label :: rest) =
      (before ++ [ref]) ++ jump :: (mid ++ label :: rest) := by simp
  have nodup := shaped.chain.nodup
  have apart := (List.nodup_middle.mp nodup).notMem
  have noRef : ref ≠ jump := by
    rintro rfl
    exact apart (by simp)
  rw [split] at shaped shaped'
  have code' : ((l.reversed ref target code).node jump).code = .jmpi := by
    rw [reversed, set_node_of_ne l noRef.symm, isJump]
  have behind : ref = jump ∧ before ++ [ref] = [] ∨ ∃ front, before ++ [ref] = front ++ [ref] :=
    .inr ⟨before, rfl⟩
  have shaped'' := shaped'.remove rfl code' behind
  have gone := (List.nodup_middle.mp shaped.chain.nodup).notMem
  have jumps : (l.node jump).code.jumps = true := by rw [isJump]; rfl
  -- Execution is at the same place in both lists, and `ref` is a branch and so no caller.
  let P (q q' : Option NodeRef) : Prop :=
    q = q' ∧ ∀ other, q = some other → other ∈ (before ++ [ref]) ++ (mid ++ label :: rest)
  let alive (other : NodeRef) : Prop :=
    other ∈ (before ++ [ref]) ++ (mid ++ label :: rest) ∧ other ≠ ref
  have stay (target : NodeRef) (member : target ∈ (before ++ [ref]) ++ (mid ++ label :: rest)) :
      P (some target) (some target) := by
    refine ⟨rfl, fun other same => ?_⟩
    obtain rfl := Option.some.inj same
    exact member
  have kept (other : NodeRef) (known : alive other) :
      ((l.reversed ref target code).remove ref jump).node other = l.node other := by
    have noJump : other ≠ jump := fun same => gone (same ▸ known.1)
    rw [remove_node_of_ne _ noJump known.2, reversed, set_node_of_ne l known.2]
  have resume (other : NodeRef) (known : alive other) :
      P (l.next other) (((l.reversed ref target code).remove ref jump).next other) := by
    have follow : ((l.reversed ref target code).remove ref jump).next other = l.next other := by
      rw [Listing.next, kept other known, Listing.next]
    exact ⟨follow.symm, fun target goes => shaped.chain.next_mem_erase behind known.1 known.2 goes⟩
  have shaped_next : l.next ref = some jump := by
    rw [← split] at shaped
    exact shaped.chain.next_eq
  have found : target ∈ (before ++ [ref]) ++ (mid ++ label :: rest) := by
    have leads : (l.node jump).code.leads = true := by rw [isJump]; rfl
    obtain ⟨target', inside, isTarget, mark⟩ := shaped.target jump (by simp) leads patched'
    obtain rfl := Data.n.inj (aim'.symm.trans isTarget)
    have other : target ≠ jump := by
      rintro rfl
      rw [mark_of_jumps jumps] at mark
      cases mark
    simpa [other] using inside
  intro M p placed m
  have bridge : Bridge p l ((l.reversed ref target code).remove ref jump) P alive := by
    constructor
    · rintro q ⟨rfl, -⟩
      rfl
    · rintro other q callers m ⟨rfl, known'⟩ known
      have member := known' other rfl
      by_cases isRef : other = ref
      · subst isRef
        have first := step_branch p isBranch patched aim callers m
        have first' : ((l.reversed other target code).remove other jump).step p (.at_ (some other) callers m) = _ :=
          step_reversed noRef isReversed patched callers m
        generalize p.update branch (l.node other).v (l.node other).w m = n at first first'
        by_cases taken : p.taken branch (l.node other).v (l.node other).w m = true
        · -- The old branch leads to `L0`, the new one falls through to it.
          rw [if_pos taken] at first first'
          have chain' : Chain ((l.reversed other target code).remove other jump).next (l.next jump)
              (mid ++ label :: rest) := by
            rw [shaped.chain.next_eq]
            exact shaped''.chain.rest
          have way := reaches_silent p chain' (fun ref inMid => ?_) callers n
          · exact ⟨_, _, .single first, .head' first' way, stay label (by simp), rfl, known, rfl⟩
          · have known : alive ref := by
              refine ⟨List.mem_append_right _ (List.mem_append_left _ inMid), ?_⟩
              rintro rfl
              exact apart (by simp [inMid])
            rw [kept ref known]
            exact silent ref inMid
        · -- The old branch falls through to the jump to `L1`, the new one leads there.
          rw [if_neg taken] at first first'
          rw [shaped_next] at first
          have last := step_jmpi p isJump patched' aim' callers n
          exact ⟨_, _, .head first (.single last), .single first', stay target found, rfl, known, rfl⟩
      · have known'' : alive other := ⟨member, isRef⟩
        have same : ∃ next, ((l.reversed ref target code).remove ref jump).node other =
            { l.node other with next } := ⟨(l.node other).next, kept other known''⟩
        exact ⟨_, _, .single rfl, .single rfl,
          rel_remove shaped jumps placed member same known'' known resume stay⟩
  refine ⟨bridge.outcome_eq ?_ m, fun other entry => bridge.outcome_eq ?_ m⟩
  · have head : ((l.reversed ref target code).remove ref jump).head = l.head := by
      rw [Listing.remove, if_neg noRef]
      rfl
    refine ⟨head.symm, fun other isHead => ?_⟩
    rw [← head, shaped''.chain.start_eq] at isHead
    exact List.mem_of_mem_head? isHead
  · exact stay other (shaped''.entry other entry).1

end Listing

end Zjit
