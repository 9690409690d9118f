import Zjit.Optimize.Main

/-!
# What building and optimizing leave alone

Neither a backend nor the optimizer touches the list of notes, the annotations, the buffers or the
flags, and the bytes of the constants stay where they are.
-/
namespace Zjit

open Foundation Program

variable {W : WordSize} {s t u : State W}

/-- The fields outside the reach of backends and of the optimizer. -/
structure Outside where
  jit : Option Block
  jitc : Option Block
  realize : Bool
  dataset : Bool
  done : Bool
  noData : Bool
  noNote : Bool
  userCode : Bool
  userData : Bool
  database : Option DataBase
  buffer : List UInt8
  pc : Nat
  notes : List Note
  noteBase : Nat
  note : NoteList
  split : SplitVector

def State.outside (s : State W) : Outside where
  jit := s.jit
  jitc := s.jitc
  realize := s.realize
  dataset := s.dataset
  done := s.done
  noData := s.noData
  noNote := s.noNote
  userCode := s.userCode
  userData := s.userData
  database := s.database
  buffer := s.buffer
  pc := s.pc
  notes := s.notes
  noteBase := s.noteBase
  note := s.note
  split := s.split

/-- From `s` to `t` constants may have been added, and nothing outside has changed. -/
structure State.Frame (s t : State W) : Prop where
  outside : t.outside = s.outside
  bytes : s.data.bytes <+: t.data.bytes

namespace State.Frame

theorem refl (s : State W) : s.Frame s := ⟨rfl, List.prefix_refl _⟩

theorem trans (first : s.Frame t) (second : t.Frame u) : s.Frame u :=
  ⟨second.outside.trans first.outside, first.bytes.trans second.bytes⟩

/-- A change of other fields. -/
theorem of_same (outside : t.outside = s.outside) (bytes : t.data.bytes = s.data.bytes) :
    s.Frame t :=
  ⟨outside, bytes ▸ List.prefix_refl _⟩

theorem notes (frame : s.Frame t) : t.notes = s.notes := congrArg Outside.notes frame.outside

theorem note (frame : s.Frame t) : t.note = s.note := congrArg Outside.note frame.outside

theorem jit (frame : s.Frame t) : t.jit = s.jit := congrArg Outside.jit frame.outside

theorem jitc (frame : s.Frame t) : t.jitc = s.jitc := congrArg Outside.jitc frame.outside

theorem realize (frame : s.Frame t) : t.realize = s.realize :=
  congrArg Outside.realize frame.outside

theorem split (frame : s.Frame t) : t.split = s.split := congrArg Outside.split frame.outside

/-- The vector of blocks under construction is not looked at. -/
theorem setSplit (frame : s.Frame t) (split : SplitVector) :
    State.Frame { s with split := split } { t with split := split } :=
  ⟨congrArg (fun outside => { outside with split := split }) frame.outside, frame.bytes⟩

end State.Frame

theorem frame_update {s₀ : State W} {f : State W → State W} (step : ∀ s : State W, s.Frame (f s)) :
    Keeps s₀.Frame (update f : Jit W Unit) :=
  keeps_update fun s frame => frame.trans (step s)

/-! ### Backends -/

theorem frame_ready (s : State W) : s.Frame s.ready := by
  unfold State.ready State.growPool
  split
  · split
    · exact .of_same rfl rfl
    · exact .of_same rfl rfl
  · exact .refl s

theorem frame_linkNode (s : State W) (ref : NodeRef) : s.Frame (s.linkNode ref) := by
  unfold State.linkNode
  split
  · exact .of_same rfl rfl
  · exact .of_same rfl rfl

theorem frame_newNode (s₀ : State W) (code : Code) : Keeps s₀.Frame (newNode code) := by
  intro s ref t frame ran
  obtain ⟨-, rfl⟩ := (returns_newNode code s t ref).mp ran
  exact frame.trans ((frame_ready s).trans (.of_same rfl rfl))

theorem frame_newNodeNoLink (s₀ : State W) (code : Code) :
    Keeps s₀.Frame (jitNewNodeNoLink code) :=
  keeps_bind (keeps_bind (keeps_reads _) fun _ => keeps_check _ _) fun _ => frame_newNode s₀ code

theorem frame_append (s₀ : State W) (call : NewNode W) : Keeps s₀.Frame call.run := by
  intro s ref t frame ran
  obtain ⟨-, -, -, rfl⟩ := (call.returns_run s t ref).mp ran
  have filled : s.ready.Frame ((s.ready.takeNode ref call.code).setNode ref call.fill) :=
    .of_same rfl rfl
  exact frame.trans ((frame_ready s).trans (filled.trans (frame_linkNode _ ref)))

theorem frame_growBlocks (s : State W) : s.Frame s.growBlocks := by
  unfold State.growBlocks
  split
  · exact .of_same rfl rfl
  · exact .refl s

theorem frame_jitLink (s₀ : State W) (ref : NodeRef) : Keeps s₀.Frame (jitLink ref) := by
  refine keeps_bind (keeps_reads _) fun _ => keeps_bind (keeps_check _ _) fun _ => ?_
  refine keeps_bind (keeps_bind (keeps_bind (keeps_reads _) fun _ => keeps_check _ _) fun _ => ?_)
    fun _ => ?_
  · exact keeps_bind (frame_update (fun s => frame_linkNode s ref)) fun _ => keeps_pure _
  · refine keeps_bind (frame_update frame_growBlocks) fun _ => keeps_bind (keeps_reads _) fun _ => ?_
    refine keeps_bind (frame_update (fun _ => .of_same rfl rfl)) fun _ => ?_
    exact frame_update (fun _ => .of_same rfl rfl)

theorem frame_growFunctions (s : State W) : s.Frame s.growFunctions := by
  unfold State.growFunctions
  split
  · exact .of_same rfl rfl
  · exact .refl s

theorem frame_pushPatch (s : State W) : s.Frame s.pushPatch := by
  unfold State.pushPatch
  split
  · exact .of_same rfl rfl
  · exact .of_same rfl rfl

theorem frame_op {α : Type} (s₀ : State W) (op : Op W α) : Keeps s₀.Frame op.run := by
  cases op with
  | look => exact keeps_fetch
  | scratch f => exact frame_update (fun _ => .of_same rfl rfl)
  | body ref f => exact frame_update (fun _ => .of_same rfl rfl)
  | append call => exact frame_append s₀ call
  | appendNoLink code => exact frame_newNodeNoLink s₀ code
  | link ref => exact frame_jitLink s₀ ref
  | function =>
    refine keeps_bind (frame_update frame_growFunctions) fun _ => keeps_bind (keeps_reads _) fun _ => ?_
    exact keeps_bind (frame_update (fun _ => .of_same rfl rfl)) fun _ => keeps_pure _
  | patch => exact frame_update frame_pushPatch

theorem frame_build {α : Type} (s₀ : State W) (x : Build W α) : Keeps s₀.Frame x.run :=
  Script.keeps_run _ (frame_op s₀) x

/-! ### Constants -/

theorem frame_reserveData (s : State W) (length : Nat) : s.Frame (s.reserveData length) := by
  unfold State.reserveData
  split
  · exact .of_same rfl rfl
  · exact .refl s

theorem frame_reserveTable (s : State W) : s.Frame s.reserveTable := by
  unfold State.reserveTable
  split
  · exact .of_same rfl rfl
  · exact .refl s

theorem frame_growTable (s : State W) : s.Frame s.growTable := by
  unfold State.growTable
  split
  · exact .of_same rfl rfl
  · exact .refl s

/-- New bytes go behind the old ones. -/
theorem prefix_insert (W : WordSize) (pool : DataPool) (bytes : List UInt8) (entry : DataEntry) :
    pool.bytes <+: (pool.insert W bytes entry).bytes := by
  rw [DataPool.insert, List.append_assoc]
  exact List.prefix_append _ _

theorem frame_jitData (s₀ : State W) (bytes : List UInt8) (align : Nat) :
    Keeps s₀.Frame (jitData bytes align) := by
  refine keeps_bind (keeps_bind (keeps_reads _) fun _ => keeps_check _ _) fun _ => ?_
  refine keeps_bind (frame_update (fun s => frame_reserveData s _)) fun _ => ?_
  refine keeps_bind (frame_update frame_reserveTable) fun _ => ?_
  refine keeps_bind (keeps_reads _) fun found => ?_
  cases found with
  | some entry => exact keeps_pure _
  | none =>
    refine keeps_bind (frame_newNodeNoLink s₀ _) fun _ => keeps_bind (keeps_reads _) fun _ => ?_
    refine keeps_bind (frame_update (fun s => ⟨rfl, prefix_insert W _ _ _⟩)) fun _ => ?_
    exact keeps_bind (frame_update frame_growTable) fun _ => keeps_pure _

/-! ### The optimizer -/

theorem frame_rawOp {α : Type} (s₀ : State W) (op : RawOp W α) : Keeps s₀.Frame op.run := by
  cases op with
  | newNode code => exact frame_newNode s₀ code
  | data bytes align => exact keeps_bind (frame_jitData s₀ bytes align) fun _ => keeps_pure _
  | _ => exact frame_update (fun _ => .of_same rfl rfl)

theorem frame_passOp {α : Type} (s₀ : State W) (op : PassOp W α) : Keeps s₀.Frame op.run := by
  cases op with
  | inl op => exact frame_op s₀ op
  | inr op => exact frame_rawOp s₀ op

theorem frame_pass {α : Type} (s₀ : State W) (x : Pass W α) : Keeps s₀.Frame x.run :=
  Script.keeps_run _ (frame_passOp s₀) x

/-! ### The new vector of blocks -/

/-- While the vector of blocks is built, only that changes as well. -/
theorem frame_split {α : Type} (s₀ : State W) (x : Split W α) :
    Keeps (fun t => s₀.Frame { t with split := s₀.split }) x.run := by
  refine Script.keeps_run _ (fun op => ?_) x
  intro t a t' frame ran
  cases op with
  | inl op => exact frame.trans ((frame_passOp t op t a t' (.refl t) ran).setSplit _)
  | inr op =>
    cases op with
    | openSplit =>
      obtain rfl := (returns_update ..).mp ran
      exact frame.trans (.of_same rfl rfl)
    | pushSplit label live =>
      obtain rfl := (returns_update ..).mp ran
      refine frame.trans ?_
      simp only [State.pushSplit]
      split
      · exact .of_same rfl rfl
      · exact .of_same rfl rfl
    | closeSplit =>
      obtain rfl := (returns_update ..).mp ran
      exact frame.trans (.of_same rfl rfl)

theorem outside_build {α β : Type} (part : Outside → β) (value : β) (x : Build W α) :
    Keeps (fun s : State W => part s.outside = value) x.run := by
  intro s a t same ran
  rw [(frame_build s x s a t (.refl s) ran).outside]
  exact same

theorem outside_jitData {β : Type} (part : Outside → β) (value : β) (bytes : List UInt8)
    (align : Nat) : Keeps (fun s : State W => part s.outside = value) (jitData bytes align) := by
  intro s a t same ran
  rw [(frame_jitData s bytes align s a t (.refl s) ran).outside]
  exact same

/-- A part of the state that is not the vector of blocks. -/
theorem outside_jitOptimize {β : Type} (part : Outside → β)
    (blind : ∀ outside split, part { outside with split := split } = part outside) (value : β)
    (platform : Platform W) (fuel : Nat) :
    Keeps (fun s : State W => part s.outside = value) (jitOptimize platform fuel) := by
  have pass {α : Type} (x : Pass W α) : Keeps (fun s : State W => part s.outside = value) x.run := by
    intro s a t same ran
    rw [(frame_pass s x s a t (.refl s) ran).outside]
    exact same
  have split {α : Type} (x : Split W α) :
      Keeps (fun s : State W => part s.outside = value) x.run := by
    intro s a t same ran
    have frame := frame_split s x s a t (.refl s) ran
    calc part t.outside = part { t.outside with split := s.split } := (blind t.outside s.split).symm
      _ = part s.outside := congrArg part frame.outside
      _ = value := same
  exact keeps_bind (pass _) fun _ => keeps_bind (split _) fun _ => pass _

end Zjit
