import Zjit.Frame
import Zjit.Note

/-!
# What stores no constants

Apart from `_jit_data`, what backends and the optimizer do changes neither the pool of constants nor
the fields outside of their reach.
-/
namespace Zjit

open Foundation Program

variable {W : WordSize} {s t : State W}

/-! ### The pool -/

/-- The pool, and the length of the buffer behind it. -/
def State.store (s : State W) : DataPool × Nat := (s.data, s.dataLength)

theorem store_ready (s : State W) : s.ready.store = s.store := by
  unfold State.ready State.growPool
  split
  · split
    · rfl
    · rfl
  · rfl

theorem store_linkNode (s : State W) (ref : NodeRef) : (s.linkNode ref).store = s.store := by
  unfold State.linkNode
  split
  · rfl
  · rfl

theorem store_newNode {code : Code} {ref : NodeRef} (ran : Returns (newNode code) s ref t) :
    t.store = s.store := by
  obtain ⟨-, rfl⟩ := (returns_newNode code s t ref).mp ran
  exact store_ready s

theorem store_newNodeNoLink {code : Code} {ref : NodeRef}
    (ran : Returns (jitNewNodeNoLink code) s ref t) : t.store = s.store := by
  simp only [jitNewNodeNoLink, returns_bind, returns_assertConstructing] at ran
  obtain ⟨_, _, ⟨-, rfl⟩, ran⟩ := ran
  exact store_newNode ran

theorem store_append (call : NewNode W) {ref : NodeRef} (ran : Returns call.run s ref t) :
    t.store = s.store := by
  obtain ⟨-, -, -, rfl⟩ := (call.returns_run s t ref).mp ran
  exact (store_linkNode _ ref).trans (store_ready s)

theorem data_newNodeNoLink {code : Code} {ref : NodeRef}
    (ran : Returns (jitNewNodeNoLink code) s ref t) : t.data = s.data :=
  congrArg Prod.fst (store_newNodeNoLink ran)

theorem store_op {α : Type} (op : Op W α) (store : DataPool × Nat) :
    Keeps (fun s : State W => s.store = store) op.run := by
  cases op with
  | look => exact keeps_fetch
  | scratch f => exact keeps_update fun _ same => same
  | body ref f => exact keeps_update fun _ same => same
  | append call => exact fun s ref t same ran => (store_append call ran).trans same
  | appendNoLink code => exact fun s ref t same ran => (store_newNodeNoLink ran).trans same
  | link ref =>
    refine keeps_bind (keeps_reads _) fun _ => keeps_bind (keeps_check _ _) fun _ =>
      keeps_bind (keeps_bind (keeps_bind (keeps_reads _) fun _ => keeps_check _ _) fun _ => ?_)
        fun _ => ?_
    · exact keeps_bind (keeps_update fun s same => (store_linkNode s ref).trans same) fun _ =>
        keeps_pure _
    · refine keeps_bind (keeps_update fun s same => ?_) fun _ => keeps_bind (keeps_reads _) fun _ =>
        keeps_bind (keeps_update fun _ same => same) fun _ => keeps_update fun _ same => same
      unfold State.growBlocks
      split
      · exact same
      · exact same
  | function =>
    refine keeps_bind (keeps_update fun s same => ?_) fun _ => keeps_bind (keeps_reads _) fun _ =>
      keeps_bind (keeps_update fun _ same => same) fun _ => keeps_pure _
    unfold State.growFunctions
    split
    · exact same
    · exact same
  | patch =>
    refine keeps_update fun s same => ?_
    unfold State.pushPatch
    split
    · exact same
    · exact same

/-- Backends store no constants. -/
theorem store_build {α : Type} (x : Build W α) (store : DataPool × Nat) :
    Keeps (fun s : State W => s.store = store) x.run :=
  Script.keeps_run _ (fun op => store_op op store) x

theorem data_build {α : Type} (x : Build W α) (pool : DataPool) :
    Keeps (fun s : State W => s.data = pool) x.run :=
  fun s a t same ran => (congrArg Prod.fst (store_build x s.store s a t rfl ran)).trans same

/-! ### Quiet steps -/

/-- From `s` to `t` nothing changes but what backends and the optimizer change without a constant. -/
structure State.Quiet (s t : State W) : Prop where
  outside : { t.outside with split := s.split } = s.outside
  store : t.store = s.store

variable {I : State W → Prop}

theorem State.Frame.outside_split (frame : s.Frame t) :
    { t.outside with split := s.split } = s.outside := by
  rw [frame.outside]
  rfl

theorem quiet_frame (frame : s.Frame t) (store : t.store = s.store) : s.Quiet t :=
  ⟨frame.outside_split, store⟩

theorem quiet_append (call : NewNode W) {ref : NodeRef} (ran : Returns call.run s ref t) : s.Quiet t :=
  quiet_frame (frame_append s call s ref t (.refl s) ran) (store_append call ran)

/-- What only depends on fields outside of their reach is kept by backends. -/
theorem quiet_build (quiet : ∀ s t, s.Quiet t → I s → I t) {α : Type} (x : Build W α) :
    Keeps I x.run :=
  fun s a t holds ran => quiet s t
    (quiet_frame (frame_build s x s a t (.refl s) ran) (store_build x s.store s a t rfl ran)) holds

theorem quiet_passOp (quiet : ∀ s t, s.Quiet t → I s → I t)
    (data : ∀ bytes align, Keeps I (jitData bytes align)) {α : Type} (op : PassOp W α) :
    Keeps I op.run := by
  intro s a t holds ran
  have frame := frame_passOp s op s a t (.refl s) ran
  cases op with
  | inl op => exact quiet s t (quiet_frame frame (store_op op s.store s a t rfl ran)) holds
  | inr op =>
    cases op with
    | newNode code => exact quiet s t (quiet_frame frame (store_newNode ran)) holds
    | data bytes align =>
      obtain ⟨entry, u, stored, ran⟩ := (returns_bind ..).mp ran
      obtain ⟨-, rfl⟩ := (returns_pure ..).mp ran
      exact data bytes align s entry u holds stored
    | _ =>
      obtain rfl := (returns_update ..).mp ran
      exact quiet s _ (quiet_frame frame rfl) holds

/-- What new constants keep as well is kept by the optimizer. -/
theorem quiet_jitOptimize (quiet : ∀ s t, s.Quiet t → I s → I t)
    (data : ∀ bytes align, Keeps I (jitData bytes align)) (platform : Platform W) (fuel : Nat) :
    Keeps I (jitOptimize platform fuel) := by
  have pass {α : Type} (x : Pass W α) : Keeps I x.run := Script.keeps_run _ (quiet_passOp quiet data) x
  have splits {α : Type} (x : Split W α) : Keeps I x.run := by
    refine Script.keeps_run _ (fun op => ?_) x
    cases op with
    | inl op => exact quiet_passOp quiet data op
    | inr op =>
      cases op with
      | pushSplit label live =>
        refine keeps_update fun s holds => quiet s _ ?_ holds
        unfold State.pushSplit
        split
        · exact ⟨rfl, rfl⟩
        · exact ⟨rfl, rfl⟩
      | _ => exact keeps_update fun s holds => quiet s _ ⟨rfl, rfl⟩ holds
  exact keeps_bind (pass _) fun _ => keeps_bind (splits _) fun _ => pass _

/-- What also does not depend on the list of notes is kept by names and notes. -/
theorem quiet_remark (quiet : ∀ s t, s.Quiet t → I s → I t)
    (data : ∀ bytes align, Keeps I (jitData bytes align))
    (push : ∀ s node size, I s → I (s.pushNote node size)) (code : Code) (text : List UInt8)
    (fill : DataEntry → Node W → Node W) (note : NodeRef → DataEntry → NoteNode)
    (size : State W → Nat) : Keeps I (do
      let node ← jitNewNode code
      let entry ← jitData text 1
      writeNode node (fill entry)
      update fun s => s.pushNote (note node entry) (size s)
      pure node) :=
  keeps_bind (fun s _ t holds ran => quiet s t (quiet_append (.plain code) ran) holds) fun _ =>
    keeps_bind (data _ _) fun _ =>
      keeps_bind (keeps_update fun s holds => quiet s _ ⟨rfl, rfl⟩ holds) fun _ =>
        keeps_bind (keeps_update fun s holds => push s _ _ holds) fun _ => keeps_pure _

end Zjit
