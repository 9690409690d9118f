import Zjit.Optimize.Threading

/-!
# The pass `thread_jumps`

Each of its three steps is one of the rewritings, and so the pass keeps the meaning of the code.
-/
namespace Zjit

open Foundation Program StateTransition

variable {W : WordSize} {s t : State W} {entries : NodeRef → Prop}
  {refs cells before after : List NodeRef} {ref : NodeRef} {fuel : Nat}

/-! ### Lists of jumps -/

/-- The jump is taken off the list of a label, and nothing else changes. -/
theorem listing_unlinkJump {fuel : Nat} {label jump : NodeRef} {result : Unit}
    (ran : Returns (Pass.unlinkJump fuel label jump).run s result t) : t.listing = s.listing := by
  simp only [Pass.unlinkJump, returns_passBind, returns_passNode] at ran
  obtain ⟨_, _, ⟨rfl, rfl⟩, _, _, ⟨rfl, rfl⟩, ran⟩ := ran
  split at ran
  · rw [returns_passBody] at ran
    rw [← ran]
    exact listing_link s label rfl
  · simp only [returns_passBind, returns_passNode] at ran
    obtain ⟨_, _, ⟨rfl, rfl⟩, ran⟩ := ran
    refine triple_passLoop (fun _ u => u.listing = s.listing) (fun _ u => u.listing = s.listing)
      (fun temp => ?_) fuel _ s result t rfl ran
    intro u r v before step
    simp only [returns_passBind, returns_passDeref, returns_passNode] at step
    obtain ⟨temp, _, ⟨rfl, rfl⟩, _, _, ⟨rfl, rfl⟩, step⟩ := step
    split at step
    · simp only [returns_passBind, returns_passBody, returns_passPure] at step
      obtain ⟨_, _, rfl, rfl, rfl⟩ := step
      exact (listing_link u temp rfl).trans before
    · obtain ⟨rfl, rfl⟩ := (returns_passPure ..).mp step
      exact before

theorem listing_linkJump {label jump : NodeRef} {result : Unit}
    (ran : Returns (Pass.linkJump label jump).run s result t) :
    t.listing = s.listing.set jump ((s.listing.node jump).lead label) := by
  simp only [Pass.linkJump, returns_passBind, returns_passNode, returns_passBody] at ran
  obtain ⟨_, _, ⟨rfl, rfl⟩, _, _, rfl, rfl⟩ := ran
  rw [listing_link _ label rfl, listing_setNode]
  rfl


theorem listing_code {code : Code} {result : Unit}
    (ran : Returns (Pass.raw (.code ref code)).run s result t) :
    t.listing = s.listing.set ref { s.listing.node ref with code } := by
  rw [returns_passRaw, RawOp.run, returns_writeNode] at ran
  rw [← ran, listing_setNode]
  rfl

/-! ### Scans -/

/-- What scans pass. -/
def Listing.Passed (l : Listing W) (ref : NodeRef) : Prop :=
  (l.node ref).code.mark = true ∨ (l.node ref).code.comment = true

/-- A scan along the list that looks for a place, and passes nodes until it is there. -/
theorem returns_scan (pass : NodeRef → Prop) {Q : Bool → State W → Prop}
    {visit : Option NodeRef → Pass W (Option NodeRef ⊕ Bool)} {start : Option NodeRef} {found : Bool}
    (chain : Chain s.listing.next start after)
    (atEnd : ∀ r u, Returns (visit none).run s r u → ∃ found, r = .inr found ∧ Q found u)
    (round : ∀ mid here rest r u, after = mid ++ here :: rest → (∀ other ∈ mid, pass other) →
      Returns (visit (some here)).run s r u →
        (r = .inl (s.listing.next here) ∧ u = s ∧ pass here) ∨ ∃ found, r = .inr found ∧ Q found u)
    (ran : Returns (Pass.run (Script.loop .outOfFuel visit fuel start)) s found t) : Q found t := by
  let J (next : Option NodeRef) (u : State W) : Prop :=
    u = s ∧ ∃ mid rest, after = mid ++ rest ∧ next = rest.head? ∧ ∀ other ∈ mid, pass other
  refine triple_passLoop J Q (fun next => ?_) fuel start s found t ?_ ran
  · rintro u r v ⟨rfl, mid, rest, split, rfl, passed⟩ step
    cases rest with
    | nil =>
      obtain ⟨found, rfl, holds⟩ := atEnd r v step
      exact holds
    | cons here rest =>
      rcases round mid here rest r v split passed step with ⟨rfl, rfl, passes⟩ | ⟨found, rfl, holds⟩
      · refine ⟨rfl, mid ++ [here], rest, ?_, ?_, ?_⟩
        · rw [split, List.append_assoc, List.singleton_append]
        · rw [split] at chain
          exact chain.next_eq
        · intro other member
          rcases List.mem_append.mp member with member | member
          · exact passed other member
          · exact List.mem_singleton.mp member ▸ passes
      · exact holds
  · exact ⟨rfl, [], after, rfl, chain.start_eq, fun other member => absurd member List.not_mem_nil⟩

/-- The code at `ref`, behind `prev`, is rewritten, and the pass goes on at `current`. The list is
`refs'` then and the free list `cells'`. -/
inductive Listing.Rewritten (l : Listing W) (refs cells : List NodeRef) (prev : Option NodeRef)
    (ref : NodeRef) :
    (current : Option NodeRef) → Listing W → (refs' cells' : List NodeRef) → Prop
  /-- `_redundant_jump`: a jump over nothing but labels, names and notes. -/
  | redundant {p label : NodeRef} {before mid rest : List NodeRef}
      (split : refs = before ++ ref :: (mid ++ label :: rest)) (code : (l.node ref).code = .jmpi)
      (patched : (l.node ref).has flagNode = true) (aim : (l.node ref).u = .n label)
      (passed : ∀ other ∈ mid, l.Passed other) (isPrev : prev = some p)
      (head : p = ref → l.head = some ref) :
      l.Rewritten refs cells prev ref prev (l.remove p ref) (before ++ (mid ++ label :: rest)) (ref :: cells)
  /-- `_shortcut_jump`: a jump to a jump. -/
  | shortcut {label jump target : NodeRef} {before mid rest : List NodeRef}
      (split : refs = before ++ label :: (mid ++ jump :: rest)) (jumps : (l.node ref).code.jumps = true)
      (patched : (l.node ref).has flagNode = true) (aim : (l.node ref).u = .n label)
      (silent : ∀ other ∈ mid, (l.node other).code.silent = true) (code : (l.node jump).code = .jmpi)
      (patched' : (l.node jump).has flagNode = true) (aim' : (l.node jump).u = .n target) :
      l.Rewritten refs cells prev ref (some ref) (l.set ref ((l.node ref).lead target)) refs cells
  /-- `_shortcut_jump`: a jump to a jump through a register. -/
  | indirect {label jump : NodeRef} {before mid rest : List NodeRef} (flag : BitVec 16)
      (split : refs = before ++ label :: (mid ++ jump :: rest)) (code : (l.node ref).code = .jmpi)
      (patched : (l.node ref).has flagNode = true) (aim : (l.node ref).u = .n label)
      (silent : ∀ other ∈ mid, (l.node other).code.silent = true) (code' : (l.node jump).code = .jmpr) :
      l.Rewritten refs cells prev ref (some ref)
        (l.set ref { l.node ref with code := .jmpr, u := (l.node jump).u, flag }) refs cells
  /-- `_reverse_jump`: a branch over a jump. -/
  | reversed {jump label target : NodeRef} {code : Code} {before mid rest : List NodeRef}
      (split : refs = before ++ ref :: jump :: (mid ++ label :: rest))
      (isReversed : reverseJumpCode (l.node ref).code = some code)
      (patched : (l.node ref).has flagNode = true) (aim : (l.node ref).u = .n label)
      (code' : (l.node jump).code = .jmpi) (patched' : (l.node jump).has flagNode = true)
      (aim' : (l.node jump).u = .n target) (passed : ∀ other ∈ mid, l.Passed other) :
      l.Rewritten refs cells prev ref (some ref) ((l.reversed ref target code).remove ref jump)
        (before ++ ref :: (mid ++ label :: rest)) (jump :: cells)

/-- Either nothing was found and nothing is changed, or the code is rewritten. -/
def Found (s : State W) (refs cells : List NodeRef) (prev : Option NodeRef) (ref : NodeRef)
    (current : Option NodeRef) (found : Bool) (t : State W) : Prop :=
  found = false ∧ t = s ∨
    found = true ∧ ∃ refs' cells', s.listing.Rewritten refs cells prev ref current t.listing refs' cells'

section Rounds

open Listing

variable {prev current : Option NodeRef} {found : Bool}

theorem found_nothing {α : Type} (r : α ⊕ Bool) (u : State W)
    (ran : Returns (Pass.run (pure (.inr false))) s r u) :
    ∃ found, r = .inr found ∧ Found s refs cells prev ref current found u := by
  obtain ⟨rfl, rfl⟩ := (returns_passPure ..).mp ran
  exact ⟨false, rfl, .inl ⟨rfl, rfl⟩⟩

theorem redundantJump_found (chain : Chain s.listing.next s.listing.head (before ++ ref :: after))
    (code : (s.listing.node ref).code = .jmpi)
    (ran : Returns (Pass.redundantJump fuel prev ref).run s found t) :
    Found s (before ++ ref :: after) cells prev ref prev found t := by
  simp only [Pass.redundantJump, returns_passBind, returns_passNode] at ran
  obtain ⟨_, _, ⟨rfl, rfl⟩, ran⟩ := ran
  split at ran
  next unpatched =>
    obtain ⟨rfl, rfl⟩ := (returns_passPure ..).mp ran
    exact .inl ⟨rfl, rfl⟩
  next patched =>
    have patched : (s.listing.node ref).has flagNode = true := not_not.mp patched
    have chain' : Chain s.listing.next (s.memory ref).next after := chain.suffix.2
    refine returns_scan s.listing.Passed chain' found_nothing
      (fun mid next rest r u split passed step => ?_) ran
    subst split
    simp only [returns_passBind, returns_passNode] at step
    obtain ⟨_, _, ⟨rfl, rfl⟩, step⟩ := step
    split at step
    -- Labels and ends of functions are treated alike.
    case h_1 isMark | h_2 isMark =>
      have mark : (s.listing.node next).code.mark = true := congrArg Code.mark isMark
      split at step
      next aim =>
        simp only [returns_passBind, returns_passPure] at step
        obtain ⟨_, v, unlinked, _, _, deleted, rfl, rfl⟩ := step
        obtain ⟨p, rfl, head, edit⟩ := listing_delNode v _ ref deleted
        have same := listing_unlinkJump unlinked
        rw [same] at edit
        refine .inr ⟨true, rfl, .inr ⟨rfl, before ++ (mid ++ next :: rest), ref :: cells, ?_⟩⟩
        rw [edit]
        exact .redundant rfl code patched aim passed rfl fun isRef => same ▸ head isRef
      next =>
        obtain ⟨rfl, rfl⟩ := (returns_passPure ..).mp step
        exact .inl ⟨rfl, rfl, .inl mark⟩
    case h_3 isComment | h_4 isComment =>
      obtain ⟨rfl, rfl⟩ := (returns_passPure ..).mp step
      exact .inl ⟨rfl, rfl, .inr (congrArg Code.comment isComment)⟩
    next => exact .inr (found_nothing r u step)

theorem shortcutJump_found (shaped : s.listing.Shaped entries refs cells)
    (member : ref ∈ refs) (jumps : (s.listing.node ref).code.jumps = true)
    (ran : Returns (Pass.shortcutJump fuel ref).run s found t) :
    Found s refs cells prev ref (some ref) found t := by
  simp only [Pass.shortcutJump, returns_passBind, returns_passNode] at ran
  obtain ⟨_, _, ⟨rfl, rfl⟩, ran⟩ := ran
  split at ran
  next unpatched =>
    obtain ⟨rfl, rfl⟩ := (returns_passPure ..).mp ran
    exact .inl ⟨rfl, rfl⟩
  next patched =>
    have patched : (s.listing.node ref).has flagNode = true := not_not.mp patched
    simp only [returns_passBind, returns_passAssert, returns_passTarget, returns_passNode] at ran
    obtain ⟨_, _, ⟨-, rfl⟩, label, _, ⟨aim, rfl⟩, _, _, ⟨rfl, rfl⟩, ran⟩ := ran
    have leads : (s.listing.node ref).code.leads = true := by
      rw [Code.leads, jumps]
      rfl
    obtain ⟨label', inside, aim', -⟩ := shaped.target ref member leads patched
    obtain rfl := Data.n.inj (aim.symm.trans aim')
    obtain ⟨before, after, rfl⟩ := List.append_of_mem inside
    have chain : Chain s.listing.next (s.memory label).next after := shaped.chain.suffix.2
    refine returns_scan (fun other => (s.listing.node other).code.silent = true) chain found_nothing
      (fun mid next rest r u split silent step => ?_) ran
    subst split
    simp only [returns_passBind, returns_passNode] at step
    obtain ⟨_, _, ⟨rfl, rfl⟩, step⟩ := step
    split at step
    next code =>
      -- A jump to a label: this one leads there at once.
      right
      split at step
      next => exact found_nothing r u step
      next patched' =>
        simp only [returns_passBind, returns_passTarget, returns_passPure] at step
        obtain ⟨_, v, unlinked, target, _, ⟨aim'', rfl⟩, _, _, linked, rfl, rfl⟩ := step
        have edit := listing_linkJump linked
        rw [listing_unlinkJump unlinked] at edit
        refine ⟨true, rfl, .inr ⟨rfl, before ++ label :: (mid ++ next :: rest), cells, ?_⟩⟩
        rw [edit]
        exact .shortcut rfl jumps patched aim silent code (not_not.mp patched') aim''
    next code =>
      -- A jump through a register: only a plain jump can become one.
      right
      split at step
      next => exact found_nothing r u step
      next isJump =>
        simp only [returns_passBind, returns_passBody, returns_passPure] at step
        obtain ⟨_, v, coded, _, _, edited, rfl, rfl⟩ := step
        have node : v.listing.node ref = { s.listing.node ref with code := .jmpr } := by
          rw [listing_code coded, set_node_same]
        have same := congrArg (fun node : Node W =>
          { node with u := (s.memory next).u, flag := node.flag &&& ~~~flagNode }) node
        have edit := listing_setNode v ref fun node =>
          { node with u := (s.memory next).u, link := none, flag := node.flag &&& ~~~flagNode }
        rw [listing_code coded, set_set] at edit
        refine ⟨true, rfl, .inr ⟨rfl, before ++ label :: (mid ++ next :: rest), cells, ?_⟩⟩
        rw [← edited]
        exact edit.trans (congrArg (s.listing.set ref) same) ▸
          .indirect _ rfl (not_not.mp isJump) patched aim silent code
    next code =>
      obtain ⟨rfl, rfl⟩ := (returns_passPure ..).mp step
      exact .inl ⟨rfl, rfl, congrArg Code.silent code⟩
    next code =>
      obtain ⟨rfl, rfl⟩ := (returns_passPure ..).mp step
      exact .inl ⟨rfl, rfl, congrArg Code.silent code⟩
    next => exact .inr (found_nothing r u step)

theorem reverseJump_found (chain : Chain s.listing.next s.listing.head (before ++ ref :: after))
    (ran : Returns (Pass.reverseJump fuel ref).run s found t) :
    Found s (before ++ ref :: after) cells prev ref (some ref) found t := by
  simp only [Pass.reverseJump, returns_passBind, returns_passNode] at ran
  obtain ⟨_, _, ⟨rfl, rfl⟩, ran⟩ := ran
  split at ran
  next unpatched =>
    obtain ⟨rfl, rfl⟩ := (returns_passPure ..).mp ran
    exact .inl ⟨rfl, rfl⟩
  next patched =>
    have patched : (s.listing.node ref).has flagNode = true := not_not.mp patched
    simp only [returns_passBind, returns_passDeref, returns_passNode] at ran
    obtain ⟨jump, _, ⟨follow, rfl⟩, _, _, ⟨rfl, rfl⟩, ran⟩ := ran
    split at ran
    next other =>
      obtain ⟨rfl, rfl⟩ := (returns_passPure ..).mp ran
      exact .inl ⟨rfl, rfl⟩
    next isJump =>
      obtain ⟨code, patched'⟩ := not_or.mp isJump
      have code : (s.listing.node jump).code = .jmpi := not_not.mp code
      have patched' : (s.listing.node jump).has flagNode = true := not_not.mp patched'
      simp only [returns_passBind, returns_passTarget] at ran
      obtain ⟨target, _, ⟨aim', rfl⟩, ran⟩ := ran
      obtain ⟨tail, rfl⟩ : ∃ tail, after = jump :: tail := by
        have first : after.head? = some jump := chain.next_eq.symm.trans follow
        exact List.head?_eq_some_iff.mp first
      have noRef : ref ≠ jump := by
        rintro rfl
        have nodup := chain.nodup
        simp [List.nodup_append] at nodup
      have chain' : Chain s.listing.next (s.memory jump).next tail := chain.suffix.2.2
      refine returns_scan s.listing.Passed chain' found_nothing
        (fun mid next rest r u split passed step => ?_) ran
      subst split
      simp only [returns_passBind, returns_passNode] at step
      obtain ⟨_, _, ⟨rfl, rfl⟩, step⟩ := step
      split at step
      -- Labels and ends of functions are treated alike.
      case h_1 isMark | h_2 isMark =>
        have mark : (s.listing.node next).code.mark = true := congrArg Code.mark isMark
        split at step
        next aim =>
          simp only [returns_passBind] at step
          obtain ⟨_, v, unlinked, _, w, deleted, step⟩ := step
          split at step
          next => exact absurd step (returns_passFault .abort w u r)
          next code' isReversed =>
            simp only [returns_passBind, returns_passPure] at step
            obtain ⟨_, x, coded, _, _, linked, rfl, rfl⟩ := step
            obtain ⟨p, isRef, -, removed⟩ := listing_delNode v w jump deleted
            obtain rfl := Option.some.inj isRef
            have edit := listing_linkJump linked
            rw [listing_code coded, removed, listing_unlinkJump unlinked, set_set, set_node_same] at edit
            refine .inr ⟨true, rfl, .inr ⟨rfl, before ++ ref :: (mid ++ next :: rest), jump :: cells, ?_⟩⟩
            rw [edit]
            exact reversed_remove s.listing code' noRef ▸
              .reversed rfl isReversed patched aim code patched' aim' passed
        next =>
          obtain ⟨rfl, rfl⟩ := (returns_passPure ..).mp step
          exact .inl ⟨rfl, rfl, .inl mark⟩
      next code =>
        obtain ⟨rfl, rfl⟩ := (returns_passPure ..).mp step
        exact .inl ⟨rfl, rfl, .inr (congrArg Code.comment code)⟩
      next => exact .inr (found_nothing r u step)

/-- The pass goes on behind `ref`, where a jump cannot be shortened, or the code is rewritten. -/
def Moved (fuel : Nat) (s : State W) (refs cells : List NodeRef) (prev : Option NodeRef) (ref : NodeRef)
    (r : (Option NodeRef × Option NodeRef) ⊕ Unit) (t : State W) : Prop :=
  (r = .inl (some ref, s.listing.next ref) ∧ t = s ∧
    ((s.listing.node ref).code = .jmpi → Returns (Pass.shortcutJump fuel ref).run s false s)) ∨
  ∃ current refs' cells', r = .inl (prev, current) ∧
    s.listing.Rewritten refs cells prev ref current t.listing refs' cells'

theorem moved_found {r : (Option NodeRef × Option NodeRef) ⊕ Unit} {x : Pass W Bool}
    {rest : Pass W ((Option NodeRef × Option NodeRef) ⊕ Unit)}
    (tried : ∀ found u, Returns x.run s found u → Found s refs cells prev ref current found u)
    (otherwise : Returns x.run s false s → Returns rest.run s r t → Moved fuel s refs cells prev ref r t)
    (ran : Returns (Pass.run (do if ← x then return .inl (prev, current) else rest)) s r t) :
    Moved fuel s refs cells prev ref r t := by
  rw [returns_passBind] at ran
  obtain ⟨found, u, once, ran⟩ := ran
  rcases tried found u once with ⟨rfl, rfl⟩ | ⟨rfl, refs', cells', rewritten⟩
  · exact otherwise once ran
  · obtain ⟨rfl, rfl⟩ := (returns_passPure ..).mp ran
    exact .inr ⟨current, refs', cells', rfl, rewritten⟩

/-- All that a round does at a node of the list. -/
theorem threadStep_cases {r : (Option NodeRef × Option NodeRef) ⊕ Unit}
    (shaped : s.listing.Shaped entries refs cells) (member : ref ∈ refs)
    (ran : Returns (Pass.threadStep fuel (prev, some ref)).run s r t) :
    Moved fuel s refs cells prev ref r t := by
  obtain ⟨before, after, rfl⟩ := List.append_of_mem member
  -- The pass goes on, if no shortcut was found for a jump.
  have stay (short : (s.listing.node ref).code = .jmpi → Returns (Pass.shortcutJump fuel ref).run s false s)
      (ran : Returns (Pass.run (pure (.inl (some ref, (s.memory ref).next)))) s r t) :
      Moved fuel s (before ++ ref :: after) cells prev ref r t := by
    obtain ⟨rfl, rfl⟩ := (returns_passPure ..).mp ran
    exact .inl ⟨rfl, rfl, short⟩
  have other {code : Code} (isCode : (s.memory ref).code = code) (noJmpi : code ≠ .jmpi) :
      (s.listing.node ref).code = .jmpi → Returns (Pass.shortcutJump fuel ref).run s false s :=
    fun isJmpi => absurd (isCode.symm.trans isJmpi) noJmpi
  simp only [Pass.threadStep] at ran
  rw [returns_passBind] at ran
  obtain ⟨_, _, read, ran⟩ := ran
  obtain ⟨rfl, rfl⟩ := (returns_passNode ..).mp read
  split at ran
  next code =>
    have jumps : (s.listing.node ref).code.jumps = true := congrArg Code.jumps code
    refine moved_found (fun found u ran => redundantJump_found shaped.chain code ran)
      (fun _ ran => ?_) ran
    exact moved_found (fun found u ran => shortcutJump_found shaped member jumps ran)
      (fun short ran => stay (fun _ => short) ran) ran
  next code => exact stay (other code (by decide)) ran
  next code => exact stay (other code (by decide)) ran
  next code => exact stay (other code (by decide)) ran
  next code noJmpi noJmpr noCallr noCalli =>
    have short := other rfl noJmpi
    rw [returns_passBind] at ran
    obtain ⟨cc, _, classify, ran⟩ := ran
    obtain ⟨classified, rfl⟩ := (returns_passClassify ..).mp classify
    split at ran
    next isJump =>
      have isBranch := condJump_isSome classified isJump (by
        simp only [List.mem_cons, List.not_mem_nil, or_false, not_or]
        exact ⟨noJmpi, noJmpr, noCalli, noCallr⟩)
      have jumps : (s.listing.node ref).code.jumps = true := by
        simp only [Code.jumps, Bool.decide_or, Bool.or_eq_true, decide_eq_true_eq]
        exact .inr isBranch
      refine moved_found (fun found u ran => reverseJump_found shaped.chain ran) (fun _ ran => ?_) ran
      exact moved_found (fun found u ran => shortcutJump_found shaped member jumps ran)
        (fun _ ran => stay short ran) ran
    next => exact stay short ran

end Rounds

/-! ### Where the pass stands -/

/-- The pass is at `current` behind `prev`. Where it dropped the head it goes on along the free
list. -/
def Stands (refs cells : List NodeRef) (prev current : Option NodeRef) : Prop :=
  ∀ ref, current = some ref → ref ∈ cells ∨ ∃ before after, refs = before ++ ref :: after ∧
    ∀ p, prev = some p → p = ref ∨ ∃ front, before = front ++ [p]

section Stands

open Listing

variable {l l' : Listing W} {prev current : Option NodeRef}

/-- A node that is taken out is the head, or behind the one before. -/
theorem place_of_behind {p : NodeRef} (chain : Chain l.next l.head (before ++ ref :: after))
    (behind : p = ref ∨ ∃ front, before = front ++ [p]) (head : p = ref → l.head = some ref) :
    p = ref ∧ before = [] ∨ ∃ front, before = front ++ [p] := by
  rcases behind with rfl | behind
  · left
    refine ⟨rfl, ?_⟩
    cases before with
    | nil => rfl
    | cons first before =>
      obtain rfl := Option.some.inj (chain.start_eq.symm.trans (head rfl))
      have twice := chain.nodup
      simp at twice
  · exact .inr behind

theorem stands_next (shaped : l.Shaped entries refs cells) (stands : Stands refs cells prev (some ref)) :
    Stands refs cells (some ref) (l.next ref) := by
  intro other follow
  rcases stands ref rfl with isFree | ⟨before, after, rfl, -⟩
  · exact .inl (List.mem_of_mem_tail (shaped.free.next_mem isFree follow))
  · right
    cases after with
    | nil =>
      rw [shaped.chain.next_eq] at follow
      cases follow
    | cons next after =>
      rw [shaped.chain.next_eq] at follow
      obtain rfl := Option.some.inj follow
      refine ⟨before ++ [ref], after, by simp, fun p same => ?_⟩
      obtain rfl := Option.some.inj same
      exact .inr ⟨before, rfl⟩

theorem stands_head (chain : Chain l.next l.head refs) : Stands refs cells l.head l.head := by
  intro ref isHead
  have first : refs.head? = some ref := chain.start_eq.symm.trans isHead
  obtain ⟨after, rfl⟩ := List.head?_eq_some_iff.mp first
  exact .inr ⟨[], after, rfl, fun p same => .inl (Option.some.inj (same.symm.trans isHead))⟩

/-- A jump to a label behind which there is only a jump. -/
theorem label_of_silent {label jump : NodeRef} {mid rest : List NodeRef}
    (shaped : l.Shaped entries (before ++ label :: (mid ++ jump :: rest)) cells)
    (mark : (l.node label).code.mark = true)
    (silent : ∀ other ∈ mid, (l.node other).code.silent = true)
    (away : (l.node jump).code.away = true) : (l.node label).code = .label := by
  rcases of_decide_eq_true mark with isLabel | epilog
  · exact isLabel
  · have fence := shaped.fenced before label (mid ++ jump :: rest) rfl epilog
    have reached := fence_passed fence fun other member => by
      rcases of_decide_eq_true (silent other member) with code | code | code
      · exact .inl (congrArg Code.mark code)
      · exact .inr (congrArg Code.comment code)
      · exact .inr (congrArg Code.comment code)
    rcases of_decide_eq_true away with code | code
    · rw [Fence, code] at reached
      cases reached
    · rw [Fence, code] at reached
      cases reached

/-- The place of the pass, if it is on the list. -/
theorem stands_behind (shaped : l.Shaped entries refs cells) (stands : Stands refs cells prev (some ref))
    (split : refs = before ++ ref :: after) {p : NodeRef} (isPrev : prev = some p) :
    p = ref ∨ ∃ front, before = front ++ [p] := by
  rcases stands ref rfl with isFree | ⟨before', after', split', behind⟩
  · subst split
    exact absurd (by simp) (shaped.blank ref isFree).2
  · obtain ⟨rfl, -⟩ := shaped.chain.split_unique split split'
    exact behind p isPrev

/-- Every rewriting keeps the meaning of the code. -/
theorem Listing.Rewritten.same {refs' cells' : List NodeRef}
    (rewritten : l.Rewritten refs cells prev ref current l' refs' cells')
    (shaped : l.Shaped entries refs cells) (member : ref ∈ refs)
    (stands : Stands refs cells prev (some ref)) :
    l.Same entries l' ∧ l'.Shaped entries refs' cells' ∧ Stands refs' cells' prev current := by
  cases rewritten with
  | @redundant p label before mid rest split code patched aim passed isPrev head =>
    subst split isPrev
    have jumped : l.Jumped (before ++ ref :: (mid ++ label :: rest)) label :=
      ⟨ref, by simp, congrArg Code.jumps code, patched, aim⟩
    -- An end of a function that the scan has passed would stop the jump.
    have silent := shaped.silent_of_passed rfl jumped passed
    have place := place_of_behind shaped.chain (stands_behind shaped stands rfl rfl) head
    refine ⟨?_, ?_, fun other isPrev => ?_⟩
    · exact same_remove shaped code patched aim silent place
    · exact shaped.remove rfl code place
    · obtain rfl := Option.some.inj isPrev
      rcases place with ⟨rfl, -⟩ | ⟨front, rfl⟩
      · exact .inl List.mem_cons_self
      · refine .inr ⟨front, mid ++ label :: rest, by simp, fun other same => .inl ?_⟩
        exact (Option.some.inj same).symm
  | @shortcut label jump target before mid rest split jumps patched aim silent code patched' aim' =>
    subst split
    have jumped : l.Jumped (before ++ label :: (mid ++ jump :: rest)) target :=
      ⟨jump, by simp, congrArg Code.jumps code, patched', aim'⟩
    have mark := (shaped.jumped_mark ⟨ref, member, jumps, patched, aim⟩).2
    have isLabel := label_of_silent shaped mark silent (congrArg Code.away code)
    refine ⟨?_, ?_, stands⟩
    · exact same_shortcut shaped isLabel silent code patched' aim' jumps patched aim
    · exact shaped.set member jumps rfl rfl fun _ _ => ⟨target, rfl, jumped⟩
  | @indirect label jump before mid rest flag split code patched aim silent code' =>
    subst split
    have jumps : (l.node ref).code.jumps = true := congrArg Code.jumps code
    have mark := (shaped.jumped_mark ⟨ref, member, jumps, patched, aim⟩).2
    have isLabel := label_of_silent shaped mark silent (congrArg Code.away code')
    refine ⟨?_, ?_, stands⟩
    · exact same_indirect shaped isLabel silent code' code patched aim flag
    · refine shaped.set member jumps rfl ?_ fun leads => ?_
      · rw [code]
        rfl
      · cases leads
  | @reversed jump label target code before mid rest split isReversed patched aim code' patched' aim' passed =>
    obtain ⟨branch, isBranch, isBranch'⟩ := condJump_reverse isReversed
    have jumps : (l.node ref).code.jumps = true := by simp [Code.jumps, isBranch]
    have behind := fun p => stands_behind (p := p) shaped stands split
    subst split
    have split : before ++ ref :: jump :: (mid ++ label :: rest) =
        (before ++ [ref]) ++ jump :: (mid ++ label :: rest) := by simp
    have noRef : ref ≠ jump := by
      rintro rfl
      have nodup := shaped.chain.nodup
      simp [List.nodup_append] at nodup
    have jumped : l.Jumped (before ++ ref :: jump :: (mid ++ label :: rest)) label :=
      ⟨ref, by simp, jumps, patched, aim⟩
    have jumped' : l.Jumped (before ++ ref :: jump :: (mid ++ label :: rest)) target :=
      ⟨jump, by simp, congrArg Code.jumps code', patched', aim'⟩
    have silent := shaped.silent_of_passed split jumped passed
    have shaped' : (l.reversed ref target code).Shaped entries
        (before ++ ref :: jump :: (mid ++ label :: rest)) cells := by
      refine shaped.set (by simp) jumps rfl ?_ fun _ _ => ⟨target, rfl, jumped'⟩
      exact (kind_of_branch isBranch').trans (kind_of_branch isBranch).symm
    have stays : ((l.reversed ref target code).node jump).code = .jmpi := by
      rw [Listing.reversed, set_node_of_ne _ noRef.symm, code']
    refine ⟨?_, ?_, fun other isRef => ?_⟩
    · exact same_reverse shaped shaped' isBranch isBranch' patched aim code' patched' aim' silent
    · have removed := shaped'.remove split stays (.inr ⟨before, rfl⟩)
      rwa [List.append_assoc, List.singleton_append] at removed
    · obtain rfl := Option.some.inj isRef
      exact .inr ⟨before, mid ++ label :: rest, rfl, behind⟩

end Stands

/-! ### The pass -/

section Threading

open Listing

/-- The code was `l` and means the same now. -/
def Threaded (entries : NodeRef → Prop) (l : Listing W) (prev current : Option NodeRef)
    (l' : Listing W) : Prop :=
  ∃ refs cells, l.Same entries l' ∧ l'.Shaped entries refs cells ∧ Stands refs cells prev current

/-- From code that means what `l` does, one round of the pass. -/
theorem threadStep_threaded {l : Listing W} {at_ : Option NodeRef × Option NodeRef}
    {r : (Option NodeRef × Option NodeRef) ⊕ Unit} (threaded : Threaded entries l at_.1 at_.2 s.listing)
    (ran : Returns (Pass.threadStep fuel at_).run s r t) :
    Sum.elim (fun at_ => Threaded entries l at_.1 at_.2 t.listing)
      (fun _ => ∃ refs cells, l.Same entries t.listing ∧ t.listing.Shaped entries refs cells) r := by
  obtain ⟨prev, current⟩ := at_
  obtain ⟨refs, cells, same, shaped, stands⟩ := threaded
  cases current with
  | none =>
    obtain ⟨rfl, rfl⟩ := (returns_passPure ..).mp ran
    exact ⟨refs, cells, same, shaped⟩
  | some ref =>
    have ahead : Threaded entries l (some ref) (s.listing.next ref) s.listing :=
      ⟨refs, cells, same, shaped, stands_next shaped stands⟩
    by_cases isFree : ref ∈ cells
    · have code : (s.memory ref).code = .data := (shaped.blank ref isFree).1
      simp only [Pass.threadStep, returns_passBind, returns_passNode] at ran
      obtain ⟨_, _, ⟨rfl, rfl⟩, ran⟩ := ran
      simp only [code, returns_passBind, returns_passClassify] at ran
      obtain ⟨cc, _, ⟨classified, rfl⟩, ran⟩ := ran
      obtain rfl := Option.some.inj classified
      obtain ⟨rfl, rfl⟩ := (returns_passPure ..).mp ran
      exact ahead
    · have member : ref ∈ refs := by
        obtain ⟨before, after, rfl, -⟩ := (stands ref rfl).resolve_left isFree
        simp
      rcases threadStep_cases shaped member ran with ⟨rfl, rfl, -⟩ | ⟨current, refs', cells', rfl, rewritten⟩
      · exact ahead
      · obtain ⟨same', shaped', stands'⟩ := rewritten.same shaped member stands
        exact ⟨refs', cells', same.trans same', shaped', stands'⟩

theorem threadJumps_threaded {result : Unit} (shaped : s.listing.Shaped entries refs cells)
    (ran : Returns (Pass.threadJumps fuel).run s result t) :
    ∃ refs cells, s.listing.Same entries t.listing ∧ t.listing.Shaped entries refs cells := by
  simp only [Pass.threadJumps, returns_passBind, returns_passLook] at ran
  obtain ⟨_, _, ⟨rfl, rfl⟩, ran⟩ := ran
  refine triple_passLoop (fun at_ u => Threaded entries s.listing at_.1 at_.2 u.listing)
    (fun _ u => ∃ refs cells, s.listing.Same entries u.listing ∧ u.listing.Shaped entries refs cells)
    (fun at_ u r v threaded step => threadStep_threaded threaded step) fuel _ s result t ?_ ran
  exact ⟨refs, cells, Same.refl entries _, shaped, stands_head shaped.chain⟩

/-- `thread_jumps` changes neither what the code does nor how it ends. -/
theorem threadJumps_same {result : Unit} (shaped : s.listing.Shaped entries refs cells)
    (ran : Returns (Pass.threadJumps fuel).run s result t) : s.listing.Same entries t.listing := by
  obtain ⟨_, _, same, -⟩ := threadJumps_threaded shaped ran
  exact same

/-- A branch over a jump to a label, and behind that label a jump to the next one. -/
theorem threadJumps_same_sample : ∃ s t : State .w64, ∃ refs : List NodeRef,
    Chain t.listing.next t.head refs ∧
      refs.map (fun ref => (t.memory ref).code) =
        [.prolog, .bnei, .label, .negr, .label, .note, .label, .epilog] ∧
      s.listing.Same (· = ⟨0, 0⟩) t.listing := by
  let ref (index : Nat) : NodeRef := ⟨0, index⟩
  let jump (code : Code) (label : Nat) (index : Nat) : Node .w64 :=
    { code, flag := flagNode, u := .n (ref label), next := some (ref (index + 1)) }
  let plain (code : Code) (index : Nat) : Node .w64 := { code, next := some (ref (index + 1)) }
  let label (from_ : Nat) (index : Nat) : Node .w64 :=
    { code := .label, link := some (ref from_), next := some (ref (index + 1)) }
  let nodes : List (Node .w64) := [plain .prolog 0, jump .beqi 3 1, jump .jmpi 5 2, label 1 3,
    plain .negr 4, label 2 5, jump .jmpi 8 6, plain .note 7, label 6 8, { code := .epilog }]
  let s : State .w64 := { memory := fun ref => nodes.getD ref.index {}, head := some (ref 0) }
  have shaped : s.listing.Shaped (· = ⟨0, 0⟩) ((List.range 10).map ref) [] := by
    constructor
    · decide
    · rfl
    · exact fun other isFree => absurd isFree List.not_mem_nil
    · rintro other rfl
      decide
    · decide
    · intro before other after
      exact fenced_of_tails (by decide)
  have passed : passes (Pass.threadJumps 20).run s (fun _ t =>
      Chain t.listing.next t.head ([0, 1, 3, 4, 5, 7, 8, 9].map ref) ∧
        ([0, 1, 3, 4, 5, 7, 8, 9].map ref).map (fun ref => (t.memory ref).code) =
          [.prolog, .bnei, .label, .negr, .label, .note, .label, .epilog]) = true := by
    decide +kernel
  obtain ⟨_, t, ran, checked⟩ := returns_of_passes _ passed
  obtain ⟨chain, codes⟩ := of_decide_eq_true checked
  exact ⟨s, t, _, chain, codes, threadJumps_same shaped ran⟩

end Threading

end Zjit
