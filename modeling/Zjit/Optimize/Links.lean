import Zjit.Optimize.Blocks
import Zjit.Optimize.Listing

/-!
# Lists of jumps

Every label heads a list of the nodes that refer to it, threaded through their `link`. The list is
what `_sequential_labels` goes by when it merges labels.
-/
namespace Zjit

open Foundation Program

variable {W : WordSize} {s t u : State W} {fuel : Nat} {label jump ref : NodeRef}
  {start : Option NodeRef} {jumps old rest : List NodeRef}

def State.link (s : State W) (ref : NodeRef) : Option NodeRef := (s.memory ref).link

/-- The node was patched with `label`. -/
def Node.refers (node : Node W) (label : NodeRef) : Prop :=
  node.has flagNode = true ∧
    (node.code.leads = true ∧ node.u = .n label ∨ node.code = .movi ∧ node.v = .n label)

instance (node : Node W) (label : NodeRef) : Decidable (node.refers label) :=
  inferInstanceAs (Decidable (_ ∧ _))

/-- The node refers to `label` from now on. -/
def Node.refer (node : Node W) (label : NodeRef) : Node W :=
  if node.code = .movi then { node with v := .n label } else { node with u := .n label }

/-- The list of every label has the nodes that refer to it, and no others. -/
def State.Linked (s : State W) (refs : List NodeRef) : Prop :=
  ∀ label ∈ refs, (s.memory label).code = .label → ∃ jumps, Chain s.link (s.memory label).link jumps ∧
    ∀ ref, ref ∈ jumps ↔ ref ∈ refs ∧ (s.memory ref).refers label

/-- Lists in the order of the nodes. -/
theorem State.Linked.of_filter {refs : List NodeRef}
    (lists : ∀ label ∈ refs, (s.memory label).code = .label →
      Chain s.link (s.memory label).link (refs.filter fun ref => (s.memory ref).refers label)) : s.Linked refs := by
  intro label member code
  refine ⟨_, lists label member code, fun ref => ?_⟩
  rw [List.mem_filter, decide_eq_true_iff]

/-- All of `jumps` refer to `label`. -/
def Listing.refer (l : Listing W) (jumps : List NodeRef) (label : NodeRef) : Listing W :=
  { l with node := fun ref => if ref ∈ jumps then (l.node ref).refer label else l.node ref }

@[simp] theorem refer_code (node : Node W) (label : NodeRef) : (node.refer label).code = node.code := by
  unfold Node.refer
  split <;> rfl

@[simp] theorem refer_next (node : Node W) (label : NodeRef) : (node.refer label).next = node.next := by
  unfold Node.refer
  split <;> rfl

@[simp] theorem refer_flag (node : Node W) (label : NodeRef) : (node.refer label).flag = node.flag := by
  unfold Node.refer
  split <;> rfl

theorem refer_bare (node : Node W) (label : NodeRef) : (node.refer label).bare = node.bare.refer label := by
  unfold Node.refer
  by_cases code : node.code = .movi <;> simp [Node.bare, code]

/-! ### Moving a list to another label -/

/-- One jump moves to the list of `label`. -/
structure Joined (label jump : NodeRef) (u v : State W) : Prop where
  listing : v.listing = u.listing.set jump ((u.listing.node jump).refer label)
  link : v.link jump = u.link label
  first : v.link label = some jump
  others : ∀ other, other ≠ jump → other ≠ label → v.memory other = u.memory other
  blocks : v.blocks = u.blocks

theorem setNode_congr (s : State W) (ref : NodeRef) {f g : Node W → Node W}
    (same : f (s.memory ref) = g (s.memory ref)) : s.setNode ref f = s.setNode ref g := by
  unfold State.setNode
  rw [same]

theorem joined_writes (apart : label ≠ jump) :
    Joined label jump s (((s.setNode jump fun node => node.refer label).setNode jump fun node =>
      { node with link := s.link label }).setNode label fun node => { node with link := some jump }) := by
  constructor
  · rw [listing_link _ label rfl, listing_link _ jump rfl, listing_setNode, refer_bare]
    rfl
  · rw [State.link, setNode_memory_of_ne _ _ apart.symm, setNode_memory_same]
  · rw [State.link, setNode_memory_same]
  · intro other noJump noLabel
    rw [setNode_memory_of_ne _ _ noLabel, setNode_memory_of_ne _ _ noJump, setNode_memory_of_ne _ _ noJump]
  · rfl

theorem joined_round {r : Option NodeRef ⊕ Unit} (apart : label ≠ jump)
    (ran : Returns (Pass.run (do
      let before ← Pass.node jump
      let first := (← Pass.node label).link
      if before.code = .movi then Pass.body jump fun node => { node with v := .n label }
      else Pass.body jump fun node => { node with u := .n label }
      Pass.body jump fun node => { node with link := first }
      Pass.body label fun node => { node with link := some jump }
      return .inl before.link)) s r t) : r = .inl (s.link jump) ∧ Joined label jump s t := by
  have writes := joined_writes (s := s) apart
  simp only [returns_passBind, returns_passNode] at ran
  obtain ⟨_, _, ⟨rfl, rfl⟩, _, _, ⟨rfl, rfl⟩, ran⟩ := ran
  split at ran
  next code =>
    simp only [returns_passBind, returns_passBody, returns_passPure] at ran
    obtain ⟨_, _, rfl, _, _, rfl, _, _, rfl, rfl, rfl⟩ := ran
    have same := setNode_congr s jump (f := fun node => node.refer label)
      (g := fun node => { node with v := .n label }) (if_pos code)
    rw [same] at writes
    exact ⟨rfl, writes⟩
  next code =>
    simp only [returns_passBind, returns_passBody, returns_passPure] at ran
    obtain ⟨_, _, rfl, _, _, rfl, _, _, rfl, rfl, rfl⟩ := ran
    have same := setNode_congr s jump (f := fun node => node.refer label)
      (g := fun node => { node with u := .n label }) (if_neg code)
    rw [same] at writes
    exact ⟨rfl, writes⟩

/-- After the jumps in `moved`, the list at `label` and the rest of the list that is moved. -/
structure Moving (s : State W) (label : NodeRef) (old moved : List NodeRef) (u : State W) : Prop where
  listing : u.listing = s.listing.refer moved label
  grown : Chain u.link (u.link label) (moved.reverse ++ old)
  others : ∀ other ∉ moved, other ≠ label → u.memory other = s.memory other
  blocks : u.blocks = s.blocks

theorem refer_snoc (l : Listing W) {moved : List NodeRef} (fresh : jump ∉ moved) :
    (l.refer moved label).set jump (((l.refer moved label).node jump).refer label) =
      l.refer (moved ++ [jump]) label := by
  refine congrArg (fun node => Listing.mk node l.head l.list) (funext fun other => ?_)
  by_cases same : other = jump
  · subst same
    simp [Listing.refer, fresh]
  · simp [Listing.refer, same]

theorem Moving.step {moved : List NodeRef} {v : State W} (moving : Moving s label old moved u)
    (step : Joined label jump u v) (apart : label ≠ jump) (fresh : jump ∉ moved) (noOld : jump ∉ old)
    (noLabel : label ∉ moved ++ old) : Moving s label old (moved ++ [jump]) v := by
  constructor
  · rw [step.listing, moving.listing, refer_snoc _ fresh]
  · rw [step.first, List.reverse_append, List.reverse_singleton, List.singleton_append, List.cons_append]
    refine moving.grown.push (fun other member => ?_) step.link
    rw [State.link, State.link, step.others other]
    · rintro rfl
      simp [fresh, noOld] at member
    · rintro rfl
      simp at member noLabel
      tauto
  · intro other outside different
    simp only [List.mem_append, List.mem_singleton, not_or] at outside
    rw [step.others other outside.2 different, moving.others other outside.1 different]
  · rw [step.blocks, moving.blocks]

/-- The jumps of a list move to `label` one by one. -/
theorem moveJumps_moving {result : Unit} (chain : Chain s.link start jumps)
    (grown : Chain s.link (s.link label) old) (noLabel : label ∉ jumps ++ old)
    (disjoint : ∀ ref ∈ jumps, ref ∉ old) (ran : Returns (Pass.moveJumps fuel label start).run s result t) :
    Moving s label old jumps t := by
  let J (current : Option NodeRef) (u : State W) : Prop :=
    ∃ moved rest, jumps = moved ++ rest ∧ current = rest.head? ∧ Moving s label old moved u
  refine triple_passLoop J (fun _ u => Moving s label old jumps u) (fun current => ?_) fuel start s result
    t ?_ ran
  · rintro u r v ⟨moved, rest, rfl, rfl, moving⟩ step
    cases rest with
    | nil =>
      obtain ⟨rfl, rfl⟩ := (returns_passPure ..).mp step
      simpa using moving
    | cons jump rest =>
      -- The jump has not moved yet, so its link still leads along the old list.
      have unique := (List.nodup_middle.mp chain.nodup).notMem
      have fresh : jump ∉ moved := fun member => unique (List.mem_append_left rest member)
      have apart : label ≠ jump := by
        rintro rfl
        simp at noLabel
      obtain ⟨rfl, one⟩ := joined_round apart step
      refine ⟨moved ++ [jump], rest, by simp, ?_, ?_⟩
      · rw [State.link, moving.others jump fresh apart.symm]
        exact chain.next_eq
      · refine moving.step one apart fresh (disjoint jump (by simp)) fun member => noLabel ?_
        rcases List.mem_append.mp member with member | member
        · exact List.mem_append_left _ (List.mem_append_left _ member)
        · exact List.mem_append_right _ member
  · refine ⟨[], jumps, rfl, chain.start_eq, ?_, grown, fun _ _ _ => rfl, rfl⟩
    simp [Listing.refer]

end Zjit
