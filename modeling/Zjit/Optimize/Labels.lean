import Zjit.Optimize.Merging

/-!
# The pass `sequential_labels`

Labels that nothing refers to go away, and of two labels in a row one does. The code means what it
meant, if the lists of jumps are complete and no three labels stand in a row.
-/
namespace Zjit

open Foundation Program

variable {W : WordSize} {M : Type} {s t u : State W} {fuel : Nat} {refs before after jumps old : List NodeRef}
  {ref p label : NodeRef} {entries : NodeRef → Prop}

/-! ### What the steps do to the state -/

theorem link_setNode (s : State W) (ref : NodeRef) {f : Node W → Node W}
    (same : ∀ node, (f node).link = node.link) (other : NodeRef) :
    (s.setNode ref f).link other = s.link other := by
  by_cases isRef : other = ref
  · subst isRef
    rw [State.link, setNode_memory_same, same, State.link]
  · rw [State.link, setNode_memory_of_ne _ _ isRef, State.link]

theorem link_delNode {prev : Option NodeRef} {result : Unit}
    (ran : Returns (Pass.delNode prev ref).run s result t) {other : NodeRef} (noRef : other ≠ ref) :
    t.link other = s.link other := by
  simp only [Pass.delNode, returns_passBind, returns_passLook] at ran
  obtain ⟨_, _, ⟨rfl, rfl⟩, ran⟩ := ran
  split at ran
  · simp only [returns_passBind, returns_passAssert, returns_passRaw, RawOp.run, returns_update] at ran
    obtain ⟨_, _, ⟨-, rfl⟩, _, _, rfl, rfl⟩ := ran
    rw [State.link, State.freeNode, setNode_memory_of_ne _ _ noRef, State.link]
  · simp only [returns_passBind, returns_passDeref, returns_passRaw, RawOp.run, returns_update,
      returns_writeNode] at ran
    obtain ⟨before, _, ⟨rfl, rfl⟩, _, _, rfl, rfl⟩ := ran
    have kept := link_setNode s before
      (f := fun node => { node with next := (s.memory ref).next }) (fun _ => rfl) other
    rw [State.link, State.freeNode, setNode_memory_of_ne _ _ noRef]
    exact kept

theorem delLabel_removes {prev : Option NodeRef} {result : Unit}
    (ran : Returns (Pass.delLabel prev ref).run s result t) :
    s.link ref = none ∧ (∀ other, other ≠ ref → t.link other = s.link other) ∧
      ∃ p, prev = some p ∧ (p = ref → s.head = some ref) ∧ t.listing = s.listing.remove p ref := by
  simp only [Pass.delLabel, returns_passBind, returns_passLook, returns_passAssert, returns_passScratch,
    returns_passRaw, RawOp.run, returns_update] at ran
  obtain ⟨_, _, ⟨rfl, rfl⟩, _, _, ⟨-, rfl⟩, _, _, rfl, _, _, rfl, _, _, ⟨link, rfl⟩, deleted⟩ := ran
  obtain ⟨p, isPrev, head, edit⟩ := listing_delNode _ t ref deleted
  exact ⟨link, fun other noRef => link_delNode deleted noRef, p, isPrev, head, edit⟩

/-- `ref` has gone, and its jumps are on the list of `p`. -/
structure Merged (s : State W) (p ref : NodeRef) (jumps old : List NodeRef) (t : State W) : Prop where
  listing : t.listing = (s.listing.refer jumps p).remove p ref
  grown : jumps ≠ [] → Chain t.link (t.link p) (jumps.reverse ++ old)
  links : ∀ other ∉ jumps, other ≠ ref → (jumps = [] ∨ other ≠ p) → t.link other = s.link other

theorem refer_nil (l : Listing W) (label : NodeRef) : l.refer [] label = l := by
  simp [Listing.refer]

theorem delLabel_merged {result : Unit} (ran : Returns (Pass.delLabel (some p) ref).run s result t) :
    s.link ref = none ∧ Merged s p ref [] old t := by
  obtain ⟨none_, links, _, isPrev, -, edit⟩ := delLabel_removes ran
  obtain rfl := Option.some.inj isPrev
  refine ⟨none_, ?_, fun some_ => absurd rfl some_, fun other _ noRef _ => links other noRef⟩
  rw [refer_nil, edit]

theorem mergeLabel_merged {result : Unit} (chain : Chain s.link (s.link ref) jumps)
    (grown : Chain s.link (s.link p) old) (noLabel : p ∉ jumps ++ old) (noRef : ref ∉ jumps ++ old)
    (different : p ≠ ref) (disjoint : ∀ other ∈ jumps, other ∉ old)
    (ran : Returns (Pass.mergeLabel fuel p (some p) ref).run s result t) : Merged s p ref jumps old t := by
  rw [Pass.mergeLabel, returns_passBind] at ran
  simp only [returns_passNode] at ran
  obtain ⟨_, _, ⟨rfl, rfl⟩, ran⟩ := ran
  split at ran
  next jump isJump =>
    -- The jumps move to the list of `p`, and then the label goes without any.
    simp only [returns_passBind, returns_passBody] at ran
    obtain ⟨_, u, moved, _, _, rfl, deleted⟩ := ran
    have moving := moveJumps_moving (isJump ▸ chain) grown noLabel disjoint moved
    obtain ⟨-, links, _, isPrev, -, edit⟩ := delLabel_removes deleted
    obtain rfl := Option.some.inj isPrev
    have kept (other : NodeRef) (noRef : other ≠ ref) : t.link other = u.link other := by
      rw [links other noRef, State.link, setNode_memory_of_ne _ _ noRef, State.link]
    refine ⟨?_, fun _ => ?_, fun other outside noRef place => ?_⟩
    · rw [edit, listing_link u ref rfl, moving.listing]
    · rw [kept p different]
      refine moving.grown.congr fun other member => kept other ?_
      rintro rfl
      simp only [List.mem_append, List.mem_reverse] at member noRef
      exact noRef member
    · have noPrev : other ≠ p := by
        refine place.resolve_left fun empty => ?_
        subst empty
        have start : s.link ref = none := chain
        rw [State.link, isJump] at start
        cases start
      rw [kept other noRef, State.link, moving.others other outside noPrev, State.link]
  next isNone =>
    -- Nothing refers to the label, which goes at once.
    have empty : jumps = [] := by
      cases jumps with
      | nil => rfl
      | cons jump rest => exact absurd chain.1 (isNone jump)
    subst empty
    exact (delLabel_merged ran).2

/-! ### What the pass keeps -/

/-- Labels next to each other have one address. -/
def Processor.Joins (p : Processor W M) (l : Listing W) (one other : NodeRef) : Prop :=
  (l.node one).code = .label → (l.node other).code = .label →
    ∀ u w m, p.act .movi u (.n one) w m = p.act .movi u (.n other) w m

/-- Nowhere in the list are there three labels in a row. -/
def Listing.Paired (l : Listing W) : List NodeRef → Prop
  | [] | [_] | [_, _] => True
  | one :: two :: three :: rest =>
    ¬ ((l.node one).code = .label ∧ (l.node two).code = .label ∧ (l.node three).code = .label) ∧
      l.Paired (two :: three :: rest)

/-- The code was `l` and means the same to the processor. -/
structure Sequential (p : Processor W M) (entries : NodeRef → Prop) (l : Listing W) (refs : List NodeRef)
    (s : State W) : Prop where
  agrees : l.Agrees p entries s.listing
  formed : s.listing.Formed entries refs
  linked : s.Linked refs
  plain : ∀ ref, entries ref → (s.memory ref).code = .label → (s.memory ref).flag ≠ 0
  joined : refs.IsChain (p.Joins s.listing)

section Sequential

variable {processor : Processor W M} {l : Listing W}

theorem refers_label {node : Node W} {label : NodeRef} (code : node.code = .label) : ¬ node.refers label := by
  rintro ⟨-, ⟨leads, -⟩ | ⟨movi, -⟩⟩
  · rw [code] at leads
    cases leads
  · rw [code] at movi
    cases movi

section Merged

variable (merged : Merged s p ref jumps old t)

include merged

theorem Merged.node {other : NodeRef} (noRef : other ≠ ref) :
    ∃ next, t.listing.node other =
      { if other ∈ jumps then (s.listing.node other).refer p else s.listing.node other with next } := by
  rw [merged.listing]
  exact Listing.remove_node (s.listing.refer jumps p) noRef

theorem Merged.parts {other : NodeRef} (noRef : other ≠ ref) :
    (t.memory other).code = (s.memory other).code ∧ (t.memory other).flag = (s.memory other).flag := by
  obtain ⟨next, same⟩ := merged.node noRef
  have code : (t.memory other).code = (t.listing.node other).code := rfl
  have flag : (t.memory other).flag = (t.listing.node other).flag := rfl
  rw [code, flag, same]
  split
  · exact ⟨refer_code .., refer_flag ..⟩
  · exact ⟨rfl, rfl⟩

theorem Merged.isLabel {other : NodeRef} (code : (t.memory other).code = .label) :
    other ≠ ref ∧ (s.memory other).code = .label := by
  have noRef : other ≠ ref := by
    rintro rfl
    have blank : (t.listing.node other).code = .data := by
      rw [merged.listing, Listing.remove_node_same]
    cases blank.symm.trans code
  exact ⟨noRef, (merged.parts noRef).1.symm.trans code⟩

/-- What refers to a label now. -/
theorem Merged.refers (all : ∀ other ∈ jumps, (s.memory other).refers ref) {other label : NodeRef}
    (noRef : other ≠ ref) :
    (t.memory other).refers label ↔ if other ∈ jumps then label = p else (s.memory other).refers label := by
  obtain ⟨next, same⟩ := merged.node noRef
  have bare : (t.memory other).refers label ↔ (t.listing.node other).refers label := Iff.rfl
  rw [bare, same]
  split
  next moved =>
    have now : ((s.listing.node other).refer p).refers p := refer_refers (all other moved)
    constructor
    · exact fun refers => refers_unique refers now
    · rintro rfl
      exact now
  next => exact Iff.rfl

/-- The lists of jumps are complete again. -/
theorem Merged.linked (linked : s.Linked (before ++ ref :: after)) (code : (s.memory ref).code = .label)
    (all : ∀ other, other ∈ jumps ↔ other ∈ before ++ ref :: after ∧ (s.memory other).refers ref)
    (label : jumps ≠ [] → (s.memory p).code = .label ∧
      ∀ other, other ∈ old ↔ other ∈ before ++ ref :: after ∧ (s.memory other).refers p)
    (gone : ref ∉ before ++ after) : t.Linked (before ++ after) := by
  -- Labels refer to nothing, so no label is on a list of jumps.
  have apart {other one target : NodeRef} (some_ : (s.memory other).refers one)
      (isLabel : (s.memory target).code = .label) : other ≠ target := by
    rintro rfl
    exact refers_label isLabel some_
  have now {other target : NodeRef} (noRef : other ≠ ref) :
      (t.memory other).refers target ↔ if other ∈ jumps then target = p else (s.memory other).refers target :=
    merged.refers (fun other moved => ((all other).mp moved).2) noRef
  intro target member isLabel
  obtain ⟨noTarget, isLabel⟩ := merged.isLabel isLabel
  have remain {other : NodeRef} (some_ : (s.memory other).refers target) : other ∉ jumps :=
    fun moved => noTarget (refers_unique some_ ((all other).mp moved).2)
  have stay {other : NodeRef} (one : other ∈ before ++ ref :: after ∧ (s.memory other).refers target) :
      other ∈ before ++ after ∧ (t.memory other).refers target := by
    have noRef := apart one.2 code
    refine ⟨mem_without one.1 noRef, (now noRef).mpr ?_⟩
    rw [if_neg (remain one.2)]
    exact one.2
  have back {other : NodeRef} (one : other ∈ before ++ after ∧ (t.memory other).refers target)
      (outside : other ∉ jumps) : other ∈ before ++ ref :: after ∧ (s.memory other).refers target := by
    have some_ := (now fun same => gone (same ▸ one.1)).mp one.2
    rw [if_neg outside] at some_
    exact ⟨mem_middle one.1, some_⟩
  by_cases isPrev : jumps ≠ [] ∧ target = p
  · -- The list of `p` has grown by the jumps.
    obtain ⟨nonempty, rfl⟩ := isPrev
    obtain ⟨-, each⟩ := label nonempty
    refine ⟨jumps.reverse ++ old, merged.grown nonempty, fun other => ?_⟩
    rw [List.mem_append, List.mem_reverse]
    constructor
    · rintro (moved | member)
      · obtain ⟨member, some_⟩ := (all other).mp moved
        have noRef := apart some_ code
        refine ⟨mem_without member noRef, (now noRef).mpr ?_⟩
        rw [if_pos moved]
      · exact stay ((each other).mp member)
    · intro one
      by_cases moved : other ∈ jumps
      · exact .inl moved
      · exact .inr ((each other).mpr (back one moved))
  · -- The lists of other labels have the nodes that they had.
    have place : jumps = [] ∨ target ≠ p := by tauto
    obtain ⟨list, chain, each⟩ := linked target (mem_middle member) isLabel
    have start : t.link target = s.link target :=
      merged.links target (fun moved => apart ((all target).mp moved).2 isLabel rfl) noTarget place
    refine ⟨list, ?_, fun other => ?_⟩
    · refine (start ▸ chain : Chain s.link (t.link target) list).congr fun other member => ?_
      have some_ := ((each other).mp member).2
      refine merged.links other (remain some_) (apart some_ code) ?_
      by_cases empty : jumps = []
      · exact .inl empty
      · exact .inr (apart some_ (label empty).1)
    · rw [each other]
      refine ⟨stay, fun one => back one fun moved => ?_⟩
      have isPrev := (now fun same => gone (same ▸ one.1)).mp one.2
      rw [if_pos moved] at isPrev
      exact place.elim (List.ne_nil_of_mem moved) fun other => other isPrev

/-- Where `ref` was, the label behind it comes next. -/
theorem Merged.joined {processor : Processor W M} {front : List NodeRef}
    (joined : (front ++ p :: ref :: after).IsChain (processor.Joins s.listing))
    (gone : ref ∉ front ++ p :: after) (code : (s.memory ref).code = .label) :
    (front ++ p :: after).IsChain (processor.Joins t.listing) := by
  -- `ref` is a label itself, so its neighbours have its address if they are labels.
  obtain ⟨before, joins, behind⟩ := List.isChain_append_cons_cons.mp joined
  have closed : (front ++ p :: after).IsChain (processor.Joins s.listing) := by
    cases after with
    | nil => exact before
    | cons next rest =>
      obtain ⟨joins', behind⟩ := List.isChain_cons_cons.mp behind
      refine List.isChain_append_cons_cons.mpr ⟨before, fun isLabel isLabel' u w m => ?_, behind⟩
      exact (joins isLabel code u w m).trans (joins' code isLabel' u w m)
  refine closed.imp_of_mem_imp fun one other member member' joins isLabel isLabel' => ?_
  have noRef (other : NodeRef) (member : other ∈ front ++ p :: after) : other ≠ ref :=
    fun same => gone (same ▸ member)
  exact joins ((merged.parts (noRef one member)).1.symm.trans isLabel)
    ((merged.parts (noRef other member')).1.symm.trans isLabel')

end Merged

/-- A label goes away that nothing but `jumps` refers to. -/
theorem Sequential.merged (sequential : Sequential processor entries l (before ++ ref :: after) s)
    (placed : ∀ address ref, processor.place address = some ref → entries ref)
    (code : (s.memory ref).code = .label) (flag : (s.memory ref).flag = 0)
    (behind : ∃ front, before = front ++ [p])
    (all : ∀ other, other ∈ jumps ↔ other ∈ before ++ ref :: after ∧ (s.memory other).refers ref)
    (label : jumps ≠ [] → (s.memory p).code = .label ∧
      ∀ other, other ∈ old ↔ other ∈ before ++ ref :: after ∧ (s.memory other).refers p)
    (merged : Merged s p ref jumps old t) : Sequential processor entries l (before ++ after) t := by
  obtain ⟨front, rfl⟩ := behind
  have gone := (List.nodup_middle.mp sequential.formed.chain.nodup).notMem
  have noRef (other : NodeRef) (member : other ∈ front ++ [p] ++ after) : other ≠ ref :=
    fun same => gone (same ▸ member)
  have noEntry : ¬ entries ref := fun entry => sequential.plain ref entry code flag
  have all' (other : NodeRef) (member : other ∈ front ++ [p] ++ ref :: after) :
      other ∈ jumps ↔ (s.listing.node other).refers ref :=
    (all other).trans (and_iff_right member)
  have joined : (front ++ p :: ref :: after).IsChain (processor.Joins s.listing) := by
    have joined := sequential.joined
    rwa [List.append_assoc, List.singleton_append] at joined
  constructor
  · refine sequential.agrees.trans ?_
    rw [merged.listing]
    refine Listing.agrees_merge sequential.formed placed noEntry ?_ (.inr ⟨front, rfl⟩) all' fun some_ => ?_
    · exact congrArg Code.silent code
    · obtain ⟨isLabel, -⟩ := label some_
      obtain ⟨-, joins, -⟩ := List.isChain_append_cons_cons.mp joined
      exact ⟨noRef p (by simp), isLabel, joins isLabel code⟩
  · rw [merged.listing]
    exact sequential.formed.merge noEntry (.inr ⟨front, rfl⟩) all' fun _ => noRef p (by simp)
  · exact merged.linked sequential.linked code all label gone
  · intro other entry isLabel
    obtain ⟨noRef, isLabel⟩ := merged.isLabel isLabel
    rw [(merged.parts noRef).2]
    exact sequential.plain other entry isLabel
  · rw [List.append_assoc, List.singleton_append] at gone ⊢
    exact merged.joined joined gone code

/-- A step of the pass that takes `ref` away. -/
def Drops (processor : Processor W M) (entries : NodeRef → Prop) (l : Listing W) (refs : List NodeRef)
    (ref : NodeRef) (s t : State W) : Prop :=
  Sequential processor entries l refs t ∧ ∀ other, other ≠ ref → (t.memory other).code = (s.memory other).code

section Drops

variable (sequential : Sequential processor entries l (before ++ ref :: after) s)
  (placed : ∀ address ref, processor.place address = some ref → entries ref)
  (code : (s.memory ref).code = .label) (flag : (s.memory ref).flag = 0)
  (behind : ∃ front, before = front ++ [p])

include sequential placed code flag behind

theorem Sequential.delLabel {result : Unit} (ran : Returns (Pass.delLabel (some p) ref).run s result t) :
    Drops processor entries l (before ++ after) ref s t := by
  obtain ⟨none_, merged⟩ : s.link ref = none ∧ Merged s p ref [] [] t := delLabel_merged ran
  obtain ⟨jumps, chain, all⟩ := sequential.linked ref (by simp) code
  have empty : jumps = [] := chain.unique (show Chain s.link (s.link ref) [] from none_)
  subst empty
  exact ⟨sequential.merged placed code flag behind all (fun some_ => absurd rfl some_) merged,
    fun other noRef => (merged.parts noRef).1⟩

theorem Sequential.mergeLabel {result : Unit} (isLabel : (s.memory p).code = .label)
    (ran : Returns (Pass.mergeLabel fuel p (some p) ref).run s result t) :
    Drops processor entries l (before ++ after) ref s t := by
  obtain ⟨front, rfl⟩ := behind
  have gone := (List.nodup_middle.mp sequential.formed.chain.nodup).notMem
  have different : p ≠ ref := by
    rintro rfl
    simp at gone
  obtain ⟨jumps, chain, all⟩ := sequential.linked ref (by simp) code
  obtain ⟨old, grown, each⟩ := sequential.linked p (by simp) isLabel
  have outside {label : NodeRef} (code : (s.memory label).code = .label) : label ∉ jumps ++ old := by
    intro member
    rcases List.mem_append.mp member with member | member
    · exact refers_label code ((all label).mp member).2
    · exact refers_label code ((each label).mp member).2
  have merged := mergeLabel_merged chain grown (outside isLabel) (outside code) different
    (fun other one two => different (refers_unique ((each other).mp two).2 ((all other).mp one).2)) ran
  exact ⟨sequential.merged placed code flag ⟨front, rfl⟩ all (fun _ => ⟨isLabel, each⟩) merged,
    fun other noRef => (merged.parts noRef).1⟩

end Drops

/-! ### The pass -/

theorem Listing.Paired.congr {l l' : Listing W} (paired : l.Paired refs)
    (same : ∀ ref ∈ refs, (l'.node ref).code = (l.node ref).code) : l'.Paired refs := by
  induction refs using Listing.Paired.induct with
  | case4 one two three rest ih =>
    refine ⟨?_, ih paired.2 fun ref member => same ref (List.mem_cons_of_mem one member)⟩
    rw [same one (by simp), same two (by simp), same three (by simp)]
    exact paired.1
  | _ => trivial

theorem Listing.Paired.tail {l : Listing W} (paired : l.Paired (ref :: after)) : l.Paired after := by
  cases after with
  | nil => trivial
  | cons two rest =>
    cases rest with
    | nil => trivial
    | cons three rest => exact paired.2

section Step

variable {prev : Option NodeRef} {done : List NodeRef}
  (placed : ∀ address ref, processor.place address = some ref → entries ref)
  (sequential : Sequential processor entries l (done ++ ref :: after) s)
  (paired : s.listing.Paired (ref :: after))

include sequential paired

include placed

end Step

/-- Of three labels in a row, the pass may lose the first with all that leads to it: once the second
has been merged into it, `prev` is still the node in front of it when the third goes away. -/
theorem sequentialLabels_loses_label : ∃ s t : State .w64, ∃ (refs refs' : List NodeRef) (jump label : NodeRef),
    s.listing.Formed (· = ⟨0, 0⟩) refs ∧ s.Linked refs ∧
      Returns (Pass.sequentialLabels 20).run s () t ∧ Chain t.listing.next t.head refs' ∧
      jump ∈ refs' ∧ (t.memory jump).refers label ∧ label ∈ refs ∧ label ∉ refs' := by
  let ref (index : Nat) : NodeRef := ⟨0, index⟩
  let label (block : Nat) (from_ : Option NodeRef) (index : Nat) : Node .w64 :=
    { code := .label, v := .w block, link := from_, next := some (ref (index + 1)) }
  let nodes : List (Node .w64) := [{ code := .prolog, next := some (ref 1) },
    { code := .jmpi, flag := flagNode, u := .n (ref 2), next := some (ref 2) },
    label 0 (some (ref 1)) 2, label 1 none 3, label 2 none 4, { code := .epilog }]
  let s : State .w64 :=
    { memory := fun ref => nodes.getD ref.index {}, head := some (ref 0),
      blocks := { labels := [some (ref 2), some (ref 3), some (ref 4)] } }
  have formed : s.listing.Formed (· = ⟨0, 0⟩) ((List.range 6).map ref) := by
    constructor
    · decide
    · rintro other rfl
      decide
    · decide
  have linked : s.Linked ((List.range 6).map ref) := .of_filter (by decide +kernel)
  have passed : passes (Pass.sequentialLabels 20).run s (fun _ t =>
      Chain t.listing.next t.head ([0, 1, 5].map ref) ∧ (t.memory (ref 1)).refers (ref 2)) = true := by
    decide +kernel
  obtain ⟨_, t, ran, checked⟩ := returns_of_passes _ passed
  obtain ⟨chain, refers⟩ := of_decide_eq_true checked
  exact ⟨s, t, _, _, ref 1, ref 2, formed, linked, ran, chain, by decide, refers, by decide, by decide⟩

end Sequential

end Zjit
