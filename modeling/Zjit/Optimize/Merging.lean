import Zjit.Optimize.Rewrite
import Zjit.Optimize.Links

/-!
# Merged labels

A label with another label in front of it is not needed: what refers to it may refer to that one.
-/
namespace Zjit

open Foundation StateTransition

variable {W : WordSize} {M : Type}

/-- Where control flow goes stays within the list. -/
structure Listing.Formed (l : Listing W) (entries : NodeRef → Prop) (refs : List NodeRef) : Prop where
  chain : Chain l.next l.head refs
  entry : ∀ ref, entries ref → ref ∈ refs
  target : ∀ ref ∈ refs, (l.node ref).code.leads = true → (l.node ref).has flagNode = true →
    ∃ label ∈ refs, (l.node ref).u = .n label

/-- A node refers to one label at most. -/
theorem refers_unique {node : Node W} {label label' : NodeRef} (one : node.refers label)
    (other : node.refers label') : label = label' := by
  obtain ⟨-, one⟩ := one
  obtain ⟨-, other⟩ := other
  rcases one with ⟨leads, aim⟩ | ⟨code, aim⟩ <;> rcases other with ⟨leads', aim'⟩ | ⟨code', aim'⟩
  · exact Data.n.inj (aim.symm.trans aim')
  · rw [code'] at leads
    cases leads
  · rw [code] at leads'
    cases leads'
  · exact Data.n.inj (aim.symm.trans aim')

section Refer

variable {node : Node W} {label label' : NodeRef}

theorem refer_refers (refers : node.refers label) : (node.refer label').refers label' := by
  obtain ⟨patched, ⟨leads, -⟩ | ⟨code, -⟩⟩ := refers
  · have noMovi : node.code ≠ .movi := by
      intro code
      rw [code] at leads
      cases leads
    refine ⟨?_, .inl ⟨?_, ?_⟩⟩
    · rw [Body.has, refer_flag]
      exact patched
    · rw [refer_code]
      exact leads
    · rw [Node.refer, if_neg noMovi]
  · refine ⟨?_, .inr ⟨?_, ?_⟩⟩
    · rw [Body.has, refer_flag]
      exact patched
    · rw [refer_code]
      exact code
    · rw [Node.refer, if_pos code]

/-- What a node does when it refers to another label in the place of the first. -/
theorem move_refer (p : Processor W M) {P : Option NodeRef → Option NodeRef → Prop} (m : M)
    (refers : node.refers label) (related : P (some label) (some label'))
    (one : ∀ u w m, p.act .movi u (.n label') w m = p.act .movi u (.n label) w m) :
    (p.move node m).Rel P (p.move (node.refer label') m) := by
  obtain ⟨patched, ⟨leads, aim⟩ | ⟨code, aim⟩⟩ := refers
  · have noMovi : node.code ≠ .movi := by
      intro code
      rw [code] at leads
      cases leads
    have same : node.refer label' = node.lead label' := if_neg noMovi
    have jump (n : M) : (node.jump n : Transfer W M).Rel P ((node.lead label').jump n) := by
      rw [jump_patched patched aim, jump_patched ((lead_has ..).trans patched) (lead_u ..)]
      exact .goto n related
    rw [same]
    rcases of_decide_eq_true leads with jumps | code
    · rcases of_decide_eq_true jumps with code | branch
      · rw [move_jmpi p code, move_jmpi p ((lead_code ..).trans code)]
        exact jump m
      · obtain ⟨branch, isBranch⟩ := Option.isSome_iff_exists.mp branch
        have isBranch' : condJump (node.lead label').code = some branch := isBranch
        rw [move_branch p isBranch, move_branch p isBranch', lead_v, lead_w]
        split
        · exact jump _
        · exact .next _
    · rw [move_calli p code patched aim,
        move_calli p ((lead_code ..).trans code) ((lead_has ..).trans patched) (lead_u ..)]
      exact .call m related
  · have same : node.refer label' = { node with v := .n label' } := if_pos code
    have code' : (node.refer label').code = .movi := by rw [refer_code, code]
    rw [move_movi p code, move_movi p code', same, aim, one]
    exact .next _

end Refer

namespace Listing

variable {l : Listing W} {entries : NodeRef → Prop} {refs before after jumps : List NodeRef}
  {ref prev other : NodeRef} {p : Processor W M}

@[simp] theorem refer_head (label : NodeRef) : (l.refer jumps label).head = l.head := rfl

theorem refer_node_next (label : NodeRef) : (l.refer jumps label).next other = l.next other := by
  rw [Listing.next, Listing.refer]
  dsimp only
  split
  · exact refer_next ..
  · rfl

theorem refer_node_code (label : NodeRef) : ((l.refer jumps label).node other).code = (l.node other).code := by
  rw [Listing.refer]
  dsimp only
  split
  · exact refer_code ..
  · rfl

/-- Where a node of the list goes that does not refer to `ref`. -/
theorem Formed.target_mem (formed : l.Formed entries refs)
    (placed : ∀ address ref, p.place address = some ref → entries ref) (member : other ∈ refs)
    (notRef : ¬ (l.node other).refers ref) (noEntry : ¬ entries ref) {m : M} {to_ : Option NodeRef}
    (goes : (p.move (l.node other) m).target = some to_) :
    ∃ label ∈ refs, label ≠ ref ∧ to_ = some label := by
  rcases move_target p goes with ⟨address, label, place, rfl⟩ | ⟨leads, patched, rfl⟩
  · have entry := placed address label place
    exact ⟨label, formed.entry label entry, fun same => noEntry (same ▸ entry), rfl⟩
  · obtain ⟨label, inside, aim⟩ := formed.target other member leads patched
    rw [aim]
    refine ⟨label, inside, ?_, rfl⟩
    rintro rfl
    exact notRef ⟨patched, .inl ⟨leads, aim⟩⟩

/-- What is left when a label goes away whose jumps lead to the label in front of it. -/
theorem Formed.merge (formed : l.Formed entries (before ++ ref :: after)) (noEntry : ¬ entries ref)
    (behind : prev = ref ∧ before = [] ∨ ∃ front, before = front ++ [prev])
    (all : ∀ other ∈ before ++ ref :: after, other ∈ jumps ↔ (l.node other).refers ref)
    (label : jumps ≠ [] → prev ≠ ref) :
    ((l.refer jumps prev).remove prev ref).Formed entries (before ++ after) := by
  have gone := (List.nodup_middle.mp formed.chain.nodup).notMem
  constructor
  · refine chain_remove _ ?_ behind
    exact formed.chain.congr fun other _ => refer_node_next prev
  · exact fun other entry => mem_without (formed.entry other entry) fun same => noEntry (same ▸ entry)
  · intro other member leads patched
    have noRef : other ≠ ref := fun same => gone (same ▸ member)
    obtain ⟨next, same⟩ : ∃ next, ((l.refer jumps prev).remove prev ref).node other =
        { (l.refer jumps prev).node other with next } := remove_node _ noRef
    rw [same] at leads patched ⊢
    by_cases moved : other ∈ jumps
    · -- What led to the label leads to the one in front of it, which stays.
      have node : (l.refer jumps prev).node other = (l.node other).refer prev := if_pos moved
      rw [node] at leads ⊢
      have noMovi : (l.node other).code ≠ .movi := by
        intro code
        rw [refer_code, code] at leads
        cases leads
      have noRef := label (List.ne_nil_of_mem moved)
      obtain ⟨front, rfl⟩ := behind.resolve_left fun isHead => noRef isHead.1
      refine ⟨prev, by simp, ?_⟩
      rw [Node.refer, if_neg noMovi]
    · have node : (l.refer jumps prev).node other = l.node other := if_neg moved
      rw [node] at leads patched ⊢
      obtain ⟨target, inside, aim⟩ := formed.target other (mem_middle member) leads patched
      refine ⟨target, mem_without inside ?_, aim⟩
      rintro rfl
      exact moved ((all other (mem_middle member)).mpr ⟨patched, .inl ⟨leads, aim⟩⟩)

/-- A label goes away whose jumps lead to the label in front of it. -/
theorem agrees_merge (formed : l.Formed entries (before ++ ref :: after))
    (placed : ∀ address ref, p.place address = some ref → entries ref) (noEntry : ¬ entries ref)
    (silent : (l.node ref).code.silent = true)
    (behind : prev = ref ∧ before = [] ∨ ∃ front, before = front ++ [prev])
    (all : ∀ other ∈ before ++ ref :: after, other ∈ jumps ↔ (l.node other).refers ref)
    (label : jumps ≠ [] → prev ≠ ref ∧ (l.node prev).code = .label ∧
      ∀ u w m, p.act .movi u (.n prev) w m = p.act .movi u (.n ref) w m) :
    l.Agrees p entries ((l.refer jumps prev).remove prev ref) := by
  have gone := (List.nodup_middle.mp formed.chain.nodup).notMem
  have chain : Chain (l.refer jumps prev).next (l.refer jumps prev).head (before ++ ref :: after) :=
    formed.chain.congr fun other _ => refer_node_next prev
  -- Where the label was, execution is behind it, or at the label in front of it.
  let alive (other : NodeRef) : Prop := other ∈ before ++ after
  let P (q q' : Option NodeRef) : Prop := q = q' ∧ (∀ other, q = some other → alive other) ∨
    q = some ref ∧ (q' = l.next ref ∨ jumps ≠ [] ∧ q' = some prev)
  have stay (target : NodeRef) (member : alive target) : P (some target) (some target) := by
    refine .inl ⟨rfl, fun other same => ?_⟩
    obtain rfl := Option.some.inj same
    exact member
  have follow (noRef : prev ≠ ref) : ((l.refer jumps prev).remove prev ref).next prev = l.next ref := by
    rw [Listing.next, remove_node_prev _ noRef, refer_node_next]
  have resume (other : NodeRef) (member : alive other) :
      P (l.next other) (((l.refer jumps prev).remove prev ref).next other) := by
    have noRef : other ≠ ref := fun same => gone (same ▸ member)
    by_cases isPrev : other = prev
    · -- Behind `prev` the old list has the label, the new one what comes after it.
      subst isPrev
      rcases behind with ⟨same, -⟩ | ⟨front, rfl⟩
      · exact absurd same noRef
      · have chain := formed.chain
        rw [List.append_assoc, List.singleton_append] at chain
        exact .inr ⟨chain.next_eq, .inl (follow noRef)⟩
    · have same : ((l.refer jumps prev).remove prev ref).next other = l.next other := by
        rw [Listing.next, remove_node_of_ne _ noRef isPrev, ← Listing.next, refer_node_next]
      exact .inl ⟨same.symm, fun target goes => formed.chain.next_mem_erase behind member isPrev goes⟩
  have ahead (other : NodeRef) (goes : l.next ref = some other) : alive other := by
    rw [formed.chain.next_eq] at goes
    exact List.mem_append_right _ (List.mem_of_mem_head? goes)
  have pair (other : NodeRef) (member : alive other) (callers : List NodeRef)
      (known : ∀ caller ∈ callers, alive caller) (m : M) :
      (l.follow other callers (p.move (l.node other) m)).Rel P alive
        (((l.refer jumps prev).remove prev ref).follow other callers
          (p.move (((l.refer jumps prev).remove prev ref).node other) m)) := by
    have noRef : other ≠ ref := fun same => gone (same ▸ member)
    obtain ⟨next, same⟩ : ∃ next, ((l.refer jumps prev).remove prev ref).node other =
        { (l.refer jumps prev).node other with next } := remove_node _ noRef
    refine follow_rel member known resume ?_
    rw [same, move_next]
    by_cases moved : other ∈ jumps
    · obtain ⟨-, -, one⟩ := label (List.ne_nil_of_mem moved)
      have refers := (all other (mem_middle member)).mp moved
      have related : P (some ref) (some prev) := .inr ⟨rfl, .inr ⟨List.ne_nil_of_mem moved, rfl⟩⟩
      have node : (l.refer jumps prev).node other = (l.node other).refer prev := if_pos moved
      rw [node]
      exact move_refer p m refers related one
    · have node : (l.refer jumps prev).node other = l.node other := if_neg moved
      rw [node]
      refine Transfer.rel_refl fun to_ goes => ?_
      have notRef : ¬ (l.node other).refers ref := fun refers => moved ((all other (mem_middle member)).mpr refers)
      obtain ⟨target, inside, noTarget, rfl⟩ := formed.target_mem placed (mem_middle member) notRef noEntry goes
      exact stay target (mem_without inside noTarget)
  have bridge : Bridge p l ((l.refer jumps prev).remove prev ref) P alive := by
    constructor
    · rintro q (⟨rfl, -⟩ | ⟨none_, -⟩)
      · rfl
      · cases none_
    · rintro other q callers m (⟨rfl, known'⟩ | ⟨isRef, place⟩) known
      · exact ⟨_, _, .single rfl, .single rfl, pair other (known' other rfl) callers known m⟩
      · obtain rfl := Option.some.inj isRef
        -- The old list falls through the label.
        have first := step_silent p silent callers m
        rcases place with rfl | ⟨some_, rfl⟩
        · cases after_ : l.next other with
          | none =>
            rw [after_] at first
            exact ⟨.left .fell m, .left .fell m, .head first (.single rfl), .single rfl, rfl, rfl⟩
          | some next =>
            rw [after_] at first
            exact ⟨_, _, .head first (.single rfl), .single rfl,
              pair next (ahead next after_) callers known m⟩
        · -- So does the new one, through the label in front.
          obtain ⟨noRef, isLabel, -⟩ := label some_
          have silent' : (((l.refer jumps prev).remove prev other).node prev).code.silent = true := by
            rw [remove_node_prev _ noRef, refer_node_code, isLabel]
            rfl
          have first' := step_silent p silent' callers m
          rw [follow noRef] at first'
          exact ⟨_, _, .single first, .single first', .inl ⟨rfl, ahead⟩, rfl, known, rfl⟩
  refine fun m => ⟨bridge.outcome_eq ?_ m, fun other entry => bridge.outcome_eq ?_ m⟩
  · have start := formed.chain.start_eq
    rcases behind with ⟨rfl, rfl⟩ | ⟨front, rfl⟩
    · refine .inr ⟨start, .inl ?_⟩
      rw [Listing.remove, if_pos rfl]
      exact refer_node_next prev
    · have noRef : prev ≠ ref := by
        rintro rfl
        simp at gone
      have head : ((l.refer jumps prev).remove prev ref).head = l.head := by
        rw [Listing.remove, if_neg noRef]
        rfl
      refine .inl ⟨head.symm, fun other isHead => ?_⟩
      rw [start] at isHead
      cases front with
      | nil =>
        obtain rfl := Option.some.inj isHead
        simp [alive]
      | cons first front =>
        obtain rfl := Option.some.inj isHead
        simp [alive]
  · exact stay other (mem_without (formed.entry other entry) fun same => noEntry (same ▸ entry))

end Listing

end Zjit
