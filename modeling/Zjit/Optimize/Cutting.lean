import Zjit.Optimize.Labels
import Zjit.Optimize.Threads

/-!
# The list that `_reverse_jump` cuts

A reversed branch takes the place of the jump behind it, which is freed while it is still on the list
of its label. The link of a free node is null, so the list ends there.
-/
namespace Zjit

open Foundation Program

variable {W : WordSize} {s t u : State W} {fuel : Nat} {refs : List NodeRef} {ref jump label target : NodeRef}

/-! ### Links -/

theorem link_unlinkJump {result : Unit} (ran : Returns (Pass.unlinkJump fuel label jump).run s result t)
    {other : NodeRef} (elsewhere : s.link other ≠ some jump) : t.link other = s.link other := by
  simp only [Pass.unlinkJump, returns_passBind, returns_passNode] at ran
  obtain ⟨_, _, ⟨rfl, rfl⟩, _, _, ⟨rfl, rfl⟩, ran⟩ := ran
  have written {temp : NodeRef} (link : s.link temp = some jump) (rest : Option NodeRef) :
      (s.setNode temp fun node => { node with link := rest }).link other = s.link other := by
    have noTemp : other ≠ temp := fun same => elsewhere (same ▸ link)
    rw [State.link, setNode_memory_of_ne _ _ noTemp, State.link]
  split at ran
  next link =>
    obtain rfl := (returns_passBody ..).mp ran
    exact written link _
  next =>
    simp only [returns_passBind, returns_passNode] at ran
    obtain ⟨_, _, ⟨rfl, rfl⟩, ran⟩ := ran
    refine triple_passLoop (fun _ u => u = s) (fun _ u => u.link other = s.link other) (fun temp => ?_) fuel _
      s result t rfl ran
    rintro u r v rfl step
    simp only [returns_passBind, returns_passDeref, returns_passNode] at step
    obtain ⟨temp, _, ⟨rfl, rfl⟩, _, _, ⟨rfl, rfl⟩, step⟩ := step
    split at step
    next link =>
      simp only [returns_passBind, returns_passBody, returns_passPure] at step
      obtain ⟨_, _, rfl, rfl, rfl⟩ := step
      exact written link _
    next =>
      obtain ⟨rfl, rfl⟩ := (returns_passPure ..).mp step
      rfl

/-- A freed node has no link. -/
theorem link_delNode_same {prev : Option NodeRef} {result : Unit}
    (ran : Returns (Pass.delNode prev ref).run s result t) : t.link ref = none := by
  simp only [Pass.delNode, returns_passBind, returns_passLook] at ran
  obtain ⟨_, _, ⟨rfl, rfl⟩, ran⟩ := ran
  split at ran
  · simp only [returns_passBind, returns_passAssert, returns_passRaw, RawOp.run, returns_update] at ran
    obtain ⟨_, _, ⟨-, rfl⟩, _, _, rfl, rfl⟩ := ran
    rw [State.link, State.freeNode, setNode_memory_same]
  · simp only [returns_passBind, returns_passDeref, returns_passRaw, RawOp.run, returns_update,
      returns_writeNode] at ran
    obtain ⟨before, _, ⟨rfl, rfl⟩, _, _, rfl, rfl⟩ := ran
    rw [State.link, State.freeNode, setNode_memory_same]

/-- What has become of the links when `ref` has been reversed. -/
structure Cut (s : State W) (ref jump target : NodeRef) (t : State W) : Prop where
  first : t.link target = some ref
  rest : t.link ref = s.link target
  gone : t.link jump = none
  others : ∀ other, other ≠ ref → other ≠ jump → other ≠ target → s.link other ≠ some ref →
    t.link other = s.link other
  nodes : ∀ other, other ≠ ref → other ≠ jump → t.listing.node other = s.listing.node other
  free : t.list = some jump

theorem cut_of_steps {v w x : State W} {code : Code} {one two three four : Unit} (noRef : ref ≠ jump)
    (apart : target ≠ ref) (apart' : target ≠ jump) (elsewhere : s.link target ≠ some ref)
    (unlinked : Returns (Pass.unlinkJump fuel label ref).run s one v)
    (deleted : Returns (Pass.delNode (some ref) jump).run v two w)
    (coded : Returns (Pass.raw (.code ref code)).run w three x)
    (linked : Returns (Pass.linkJump target ref).run x four t) : Cut s ref jump target t := by
  have atLink := listing_linkJump linked
  have atCode := listing_code coded
  obtain ⟨_, isRef, -, removed⟩ := listing_delNode v w jump deleted
  obtain rfl := Option.some.inj isRef
  rw [listing_unlinkJump unlinked] at removed
  have nodes (other : NodeRef) (noRef : other ≠ ref) (noJump : other ≠ jump) :
      t.listing.node other = s.listing.node other := by
    rw [atLink, Listing.set_node_of_ne _ noRef, atCode, Listing.set_node_of_ne _ noRef, removed,
      Listing.remove_node_of_ne _ noJump noRef]
  have free : t.list = some jump := by
    have same : t.listing.list = x.listing.list := by
      rw [atLink]
      rfl
    have same' : x.listing.list = w.listing.list := by
      rw [atCode]
      rfl
    refine (same.trans same').trans ?_
    rw [removed]
    rfl
  rw [returns_passRaw, RawOp.run, returns_writeNode] at coded
  have recoded (other : NodeRef) : x.link other = w.link other := by
    rw [← coded]
    exact link_setNode w ref (f := fun node => { node with code }) (fun _ => rfl) other
  have kept (other : NodeRef) (noJump : other ≠ jump) (elsewhere : s.link other ≠ some ref) :
      x.link other = s.link other := by
    rw [recoded, link_delNode deleted noJump, link_unlinkJump unlinked elsewhere]
  simp only [Pass.linkJump, returns_passBind, returns_passNode, returns_passBody] at linked
  obtain ⟨_, _, ⟨rfl, rfl⟩, _, _, rfl, rfl⟩ := linked
  constructor
  · rw [State.link, setNode_memory_same]
  · rw [State.link, setNode_memory_of_ne _ _ apart.symm, setNode_memory_same]
    exact kept target apart' elsewhere
  · rw [State.link, setNode_memory_of_ne _ _ apart'.symm, setNode_memory_of_ne _ _ noRef.symm, ← State.link,
      recoded]
    exact link_delNode_same deleted
  · intro other noRef noJump noTarget elsewhere
    rw [State.link, setNode_memory_of_ne _ _ noTarget, setNode_memory_of_ne _ _ noRef]
    exact kept other noJump elsewhere
  · exact nodes
  · exact free

/-! ### The pass -/

/-- What `_reverse_jump` does where it finds something to do. -/
theorem reverseJump_cuts {found : Bool} (follow : (s.memory ref).next = some jump)
    (aim : (s.memory jump).u = .n target) (noRef : ref ≠ jump) (apart : target ≠ ref) (apart' : target ≠ jump)
    (elsewhere : s.link target ≠ some ref) (ran : Returns (Pass.reverseJump fuel ref).run s found t) :
    found = true → Cut s ref jump target t ∧ (s.memory jump).has flagNode = true := by
  simp only [Pass.reverseJump, returns_passBind, returns_passNode] at ran
  obtain ⟨_, _, ⟨rfl, rfl⟩, ran⟩ := ran
  split at ran
  next =>
    obtain ⟨rfl, rfl⟩ := (returns_passPure ..).mp ran
    exact fun found => absurd found Bool.false_ne_true
  next =>
    simp only [returns_passBind, returns_passDeref, returns_passNode] at ran
    obtain ⟨skipped, _, ⟨follow', rfl⟩, _, _, ⟨rfl, rfl⟩, ran⟩ := ran
    obtain rfl := Option.some.inj (follow.symm.trans follow')
    split at ran
    next =>
      obtain ⟨rfl, rfl⟩ := (returns_passPure ..).mp ran
      exact fun found => absurd found Bool.false_ne_true
    next isJump =>
      obtain ⟨-, patched'⟩ := not_or.mp isJump
      simp only [returns_passBind, returns_passTarget] at ran
      obtain ⟨label, _, ⟨aim', rfl⟩, ran⟩ := ran
      obtain rfl := Data.n.inj (aim.symm.trans aim')
      refine triple_passLoop (fun _ u => u = s) (fun found u => found = true → Cut s ref jump target u ∧
        (s.memory jump).has flagNode = true) (fun next => ?_) fuel _ s found t rfl ran
      rintro u r v rfl step
      cases next with
      | none =>
        obtain ⟨rfl, rfl⟩ := (returns_passPure ..).mp step
        exact fun found => absurd found Bool.false_ne_true
      | some next =>
        simp only [returns_passBind, returns_passNode] at step
        obtain ⟨_, _, ⟨rfl, rfl⟩, step⟩ := step
        split at step
        case h_1 | h_2 =>
          split at step
          next =>
            simp only [returns_passBind] at step
            obtain ⟨_, v, unlinked, _, w, deleted, step⟩ := step
            split at step
            next => exact absurd step (returns_passFault .abort w _ r)
            next =>
              simp only [returns_passBind, returns_passPure] at step
              obtain ⟨_, x, coded, _, _, linked, rfl, rfl⟩ := step
              refine fun _ => ⟨?_, not_not.mp patched'⟩
              exact cut_of_steps noRef apart apart' elsewhere unlinked deleted coded linked
          next =>
            obtain ⟨rfl, rfl⟩ := (returns_passPure ..).mp step
            rfl
        case h_3 =>
          obtain ⟨rfl, rfl⟩ := (returns_passPure ..).mp step
          rfl
        next =>
          obtain ⟨rfl, rfl⟩ := (returns_passPure ..).mp step
          exact fun found => absurd found Bool.false_ne_true

/-- Where `_reverse_jump` reverses a branch, the list of the label that the branch leads to from now on
ends at the freed jump; what came behind that still refers to the label. -/
theorem reverseJump_loses_jumps {branch : CondJump} (linked : s.Linked refs)
    (isBranch : condJump (s.memory ref).code = some branch) (inside : jump ∈ refs)
    (isJump : (s.memory jump).code = .jmpi) (follow : (s.memory ref).next = some jump)
    (isTarget : target ∈ refs) (isLabel : (s.memory target).code = .label) (aim : (s.memory jump).u = .n target)
    (elsewhere : (s.memory ref).u ≠ .n target) (ran : Returns (Pass.reverseJump fuel ref).run s true t) :
    ∃ front back, Chain s.link (s.link target) (front ++ jump :: back) ∧
      Chain t.link (t.link target) (ref :: (front ++ [jump])) ∧ t.list = some jump ∧
      ∀ other ∈ back, (t.memory other).refers target := by
  have noBranch {code : Code} (none_ : condJump code = none) {other : NodeRef}
      (isCode : (s.memory other).code = code) : other ≠ ref := by
    rintro rfl
    rw [isCode, none_] at isBranch
    cases isBranch
  have noRef : ref ≠ jump := (noBranch rfl isJump).symm
  have apart : target ≠ ref := noBranch rfl isLabel
  have apart' : target ≠ jump := by
    rintro rfl
    cases isLabel.symm.trans isJump
  obtain ⟨jumps, chain, all⟩ := linked target isTarget isLabel
  have outside : ref ∉ jumps := by
    intro member
    obtain ⟨-, ⟨-, aim⟩ | ⟨code, -⟩⟩ := ((all ref).mp member).2
    · exact elsewhere aim
    · exact noBranch rfl code rfl
  have start : s.link target ≠ some ref := by
    intro isFirst
    have first : s.link target = jumps.head? := chain.start_eq
    exact outside (List.mem_of_mem_head? (first.symm.trans isFirst))
  obtain ⟨cut, patched⟩ := reverseJump_cuts follow aim noRef apart apart' start ran rfl
  have leads : (s.memory jump).code.leads = true := by
    rw [isJump]
    rfl
  obtain ⟨front, back, rfl⟩ := List.append_of_mem ((all jump).mpr ⟨inside, patched, .inl ⟨leads, aim⟩⟩)
  have unique := (List.nodup_middle.mp chain.nodup).notMem
  refine ⟨front, back, chain, ⟨cut.first, ?_⟩, cut.free, fun other member => ?_⟩
  · rw [cut.rest]
    refine chain.cut (fun other member => ?_) cut.gone
    have known : other ∈ front ++ jump :: back := List.mem_append_left _ member
    refine cut.others other (fun same => outside (same ▸ known)) ?_ ?_ fun same => ?_
    · exact fun same => unique (List.mem_append_left back (same ▸ member))
    · exact fun same => refers_label isLabel (same ▸ ((all other).mp known).2)
    · exact outside (List.mem_of_mem_tail (chain.next_mem known same))
  · have known : other ∈ front ++ jump :: back := List.mem_append_right _ (List.mem_cons_of_mem jump member)
    have noRef : other ≠ ref := fun same => outside (same ▸ known)
    have noJump : other ≠ jump := fun same => unique (List.mem_append_right front (same ▸ member))
    have refers : (s.listing.node other).refers target := ((all other).mp known).2
    rw [← cut.nodes other noRef noJump] at refers
    exact refers

/-- A branch to a label that the skipped jump leads to as well. -/
theorem reverseJump_loses_jumps_sample : ∃ s t : State .w64, ∃ refs : List NodeRef,
    ∃ ref jump lost target : NodeRef, s.Linked refs ∧ Returns (Pass.reverseJump 20 ref).run s true t ∧
      Chain t.link (t.link target) [ref, jump] ∧ t.list = some jump ∧ lost ∈ refs ∧
      (t.memory lost).refers target := by
  let ref (index : Nat) : NodeRef := ⟨0, index⟩
  let jump (code : Code) (label : Nat) (link : Option NodeRef) (index : Nat) : Node .w64 :=
    { code, flag := flagNode, u := .n (ref label), link, next := some (ref (index + 1)) }
  let plain (code : Code) (link : Option NodeRef) (index : Nat) : Node .w64 :=
    { code, link, next := some (ref (index + 1)) }
  let nodes : List (Node .w64) := [plain .prolog none 0, jump .bnei 6 none 1, jump .beqi 4 none 2,
    jump .jmpi 6 (some (ref 1)) 3, plain .label (some (ref 2)) 4, plain .negr none 5,
    plain .label (some (ref 3)) 6, { code := .epilog }]
  let s : State .w64 := { memory := fun ref => nodes.getD ref.index {}, head := some (ref 0) }
  -- Jumps come to the front of a list, so the lists are in the reverse order.
  have linked : s.Linked ((List.range 8).reverse.map ref) := .of_filter (by decide +kernel)
  have passed : passes (Pass.reverseJump 20 (ref 2)).run s (fun found _ => found) = true := by
    decide +kernel
  obtain ⟨found, t, ran, checked⟩ := returns_of_passes _ passed
  obtain rfl : found = true := checked
  obtain ⟨front, back, before, after, free, lost⟩ :=
    reverseJump_loses_jumps linked rfl (by decide) rfl rfl (by decide) rfl rfl (by decide) ran
  have chain : Chain s.link (s.link (ref 6)) [ref 3, ref 1] := by decide
  have same : front ++ ref 3 :: back = [] ++ ref 3 :: [ref 1] := before.unique chain
  obtain ⟨rfl, rfl⟩ := before.split_unique rfl same
  exact ⟨s, t, _, ref 2, ref 3, ref 1, ref 6, linked, ran, after, free, by decide, lost _ List.mem_cons_self⟩

end Zjit
