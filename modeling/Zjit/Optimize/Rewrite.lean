import Zjit.Optimize.Listing

/-!
# Rewriting the list

When two lists mean the same. Positions of one are related to positions of the other; from related
positions both come to related positions again.
-/
namespace Zjit

open Foundation StateTransition

variable {W : WordSize} {M : Type}

/-- Configurations at related positions, with callers that both lists have. -/
def Config.Rel (P : Option NodeRef → Option NodeRef → Prop) (alive : NodeRef → Prop) :
    Config W M → Config W M → Prop
  | .at_ q callers m, .at_ q' callers' m' =>
    P q q' ∧ callers = callers' ∧ (∀ ref ∈ callers, alive ref) ∧ m = m'
  | .left exit m, .left exit' m' => exit = exit' ∧ m = m'
  | _, _ => False

/-- Transfers of one kind, to related labels. -/
inductive Transfer.Rel (P : Option NodeRef → Option NodeRef → Prop) :
    Transfer W M → Transfer W M → Prop
  | next (m : M) : Rel P (.next m) (.next m)
  | goto {q q' : Option NodeRef} (m : M) (related : P q q') : Rel P (.goto q m) (.goto q' m)
  | call {q q' : Option NodeRef} (m : M) (related : P q q') : Rel P (.call q m) (.call q' m)
  | back (m : M) : Rel P (.back m) (.back m)
  | leave (exit : Exit W) (m : M) : Rel P (.leave exit m) (.leave exit m)

theorem Transfer.rel_refl {P : Option NodeRef → Option NodeRef → Prop} {t : Transfer W M}
    (target : ∀ label, t.target = some label → P label label) : t.Rel P t := by
  cases t with
  | next m => exact .next m
  | goto label m => exact .goto m (target label rfl)
  | call label m => exact .call m (target label rfl)
  | back m => exact .back m
  | leave exit m => exact .leave exit m

namespace Listing

/-- `l'` executes as `l` does, from positions related by `P`. -/
structure Bridge (p : Processor W M) (l l' : Listing W)
    (P : Option NodeRef → Option NodeRef → Prop) (alive : NodeRef → Prop) : Prop where
  fell : ∀ q, P none q → q = none
  step : ∀ ref q callers m, P (some ref) q → (∀ caller ∈ callers, alive caller) →
    ∃ a b, Reaches₁ (l.step p) (.at_ (some ref) callers m) a ∧
      Reaches₁ (l'.step p) (.at_ q callers m) b ∧ a.Rel P alive b

variable {p : Processor W M} {l l' : Listing W} {P : Option NodeRef → Option NodeRef → Prop}
  {alive : NodeRef → Prop} {q q' : Option NodeRef} {ref : NodeRef} {callers : List NodeRef} {m : M}

theorem Bridge.meets (bridge : Bridge p l l' P alive) :
    Meets (l.step p) (l'.step p) (Config.Rel P alive) := by
  intro a b related
  cases a with
  | left exit m =>
    cases b with
    | left exit' m' => exact .inl ⟨rfl, rfl⟩
    | at_ q' callers' m' => exact related.elim
  | at_ q callers m =>
    cases b with
    | left exit' m' => exact related.elim
    | at_ q' callers' m' =>
      obtain ⟨at_, rfl, known, rfl⟩ := related
      right
      cases q with
      | none =>
        obtain rfl := bridge.fell q' at_
        exact ⟨.left .fell m, .left .fell m, .single rfl, .single rfl, rfl, rfl⟩
      | some ref => exact bridge.step ref q' callers m at_ known

/-- From related positions both lists end alike. -/
theorem Bridge.outcome_eq (bridge : Bridge p l l' P alive) (start : P q q') (m : M) :
    l'.outcome p q' m = l.outcome p q m := by
  have started : Config.Rel (W := W) P alive (.at_ q [] m) (.at_ q' [] m) :=
    ⟨start, rfl, fun _ member => absurd member List.not_mem_nil, rfl⟩
  refine (bridge.meets.eval_eq (fun a b related stopped stopped' => ?_) started).symm
  cases a with
  | left exit m =>
    cases b with
    | left exit' m' =>
      obtain ⟨rfl, rfl⟩ := related
      rfl
    | at_ q' callers' m' => exact related.elim
  | at_ q callers m => cases q <;> cases stopped

/-- Two nodes lead to related positions. -/
theorem follow_rel {ref : NodeRef} (known : alive ref) (callersKnown : ∀ caller ∈ callers, alive caller)
    (resume : ∀ ref, alive ref → P (l.next ref) (l'.next ref)) {t t' : Transfer W M} (leads : t.Rel P t') :
    (l.follow ref callers t).Rel P alive (l'.follow ref callers t') := by
  cases leads with
  | next m => exact ⟨resume ref known, rfl, callersKnown, rfl⟩
  | goto m related => exact ⟨related, rfl, callersKnown, rfl⟩
  | call m related =>
    refine ⟨related, rfl, fun caller member => ?_, rfl⟩
    rcases List.mem_cons.mp member with rfl | member
    · exact known
    · exact callersKnown caller member
  | back m =>
    cases callers with
    | nil => exact ⟨rfl, rfl⟩
    | cons caller callers =>
      have first := callersKnown caller List.mem_cons_self
      exact ⟨resume caller first, rfl,
        fun other member => callersKnown other (List.mem_cons_of_mem caller member), rfl⟩
  | leave exit m => exact ⟨rfl, rfl⟩

/-- A node that both lists have takes them to related positions, if it leads to related ones. -/
theorem rel_follow (known : alive ref) (callersKnown : ∀ caller ∈ callers, alive caller)
    (resume : ∀ ref, alive ref → P (l.next ref) (l'.next ref)) {t : Transfer W M}
    (target : ∀ label, t.target = some label → P label label) :
    (l.follow ref callers t).Rel P alive (l'.follow ref callers t) := by
  exact follow_rel known callersKnown resume (Transfer.rel_refl target)

/-- What a node does depends neither on its place in the list nor on its jumps. -/
theorem move_next (node : Node W) (next : Option NodeRef) (m : M) :
    p.move { node with next } m = p.move node m := rfl

/-- To whoever starts at the head or at one of `entries`, both lists end alike. -/
def Agrees (p : Processor W M) (entries : NodeRef → Prop) (l l' : Listing W) : Prop :=
  ∀ m : M, l'.outcome p l'.head m = l.outcome p l.head m ∧
    ∀ ref, entries ref → l'.outcome p (some ref) m = l.outcome p (some ref) m

theorem Agrees.refl (p : Processor W M) (entries : NodeRef → Prop) (l : Listing W) :
    l.Agrees p entries l :=
  fun _ => ⟨rfl, fun _ _ => rfl⟩

theorem Agrees.trans {entries : NodeRef → Prop} {l'' : Listing W} (first : l.Agrees p entries l')
    (second : l'.Agrees p entries l'') : l.Agrees p entries l'' := by
  intro m
  obtain ⟨head, enter⟩ := first m
  obtain ⟨head', enter'⟩ := second m
  exact ⟨head'.trans head, fun ref entry => (enter' ref entry).trans (enter ref entry)⟩

/-- The same on every processor that knows the addresses of `entries` only. -/
def Same (entries : NodeRef → Prop) (l l' : Listing W) : Prop :=
  ∀ {M : Type} (p : Processor W M), (∀ address ref, p.place address = some ref → entries ref) →
    l.Agrees p entries l'

theorem Same.refl (entries : NodeRef → Prop) (l : Listing W) : Same entries l l :=
  fun p _ => Agrees.refl p entries l

theorem Same.trans {entries : NodeRef → Prop} {l l' l'' : Listing W} (first : Same entries l l')
    (second : Same entries l' l'') : Same entries l l'' :=
  fun p placed => (first p placed).trans (second p placed)

/-- Another node in the place of one, which leads to where the first led. -/
theorem same_set {entries : NodeRef → Prop} {node : Node W} (next : node.next = l.next ref)
    (leads : ∀ {M : Type} (p : Processor W M) (callers : List NodeRef) (m : M),
      ∃ c, Reaches (l.step p) (l.follow ref callers (p.move (l.node ref) m)) c ∧
        Reaches ((l.set ref node).step p)
          ((l.set ref node).follow ref callers (p.move node m)) c) :
    Same entries l (l.set ref node) := by
  intro M p placed m
  have nexts (other : NodeRef) : (l.set ref node).next other = l.next other := by
    by_cases same : other = ref
    · subst same
      rw [Listing.next, set_node_same, next]
    · rw [Listing.next, set_node_of_ne l same, Listing.next]
  have bridge : Bridge p l (l.set ref node) Eq fun _ => True := by
    constructor
    · rintro q rfl
      rfl
    · rintro other _ callers m rfl -
      by_cases same : other = ref
      · subst same
        obtain ⟨c, first, second⟩ := leads p callers m
        refine ⟨c, c, .head' rfl first, .head' ?_ second, ?_⟩
        · rw [step, set_node_same]
          rfl
        · cases c with
          | at_ q callers m => exact ⟨rfl, rfl, fun _ _ => trivial, rfl⟩
          | left exit m => exact ⟨rfl, rfl⟩
      · have known : (fun _ : NodeRef => True) other := trivial
        refine ⟨_, _, .single rfl, .single rfl, ?_⟩
        rw [set_node_of_ne l same]
        exact rel_follow known (fun _ _ => trivial) (fun caller _ => (nexts caller).symm)
          fun _ _ => rfl
  exact ⟨bridge.outcome_eq rfl m, fun other _ => bridge.outcome_eq rfl m⟩

end Listing

end Zjit
