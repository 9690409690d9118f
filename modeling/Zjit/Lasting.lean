import Zjit.Annotation
import Zjit.Quiet
import Zjit.Run

/-!
# Properties that last

What is kept by the few ways in which the calls of `State` change the compiler state is kept by
every call but `clear` and `deinit`, and by every sequence of them.
-/
namespace Zjit

open Foundation Program

variable {W : WordSize}

/-! ### Names and notes -/

/-- A name, or a note in some line of a file. -/
structure Remark where
  text : CString
  line : Option CInt

/-- The name or the note that a call adds. -/
def LibCall.remark : LibCall W → Option Remark
  | name str => some { text := str, line := none }
  | note file line => some { text := file, line := some line }
  | _ => none

def Call.remark : Call W → Option Remark
  | lib call => call.remark
  | _ => none

/-- All names and notes, in the order they are added. -/
def remarks (calls : List (Call W)) : List Remark := calls.filterMap Call.remark

/-! ### The layout of the constants -/

/-- The state behind `_jit_dataset`. -/
def State.layout (s : State W) : State W :=
  { s.mapData.copyData.placeNotes.baseData with dataset := true }

section Layout

variable (s : State W)

theorem layout_realize : s.layout.realize = s.realize := by
  cases user : s.userData <;> cases data : s.noData <;> cases note : s.noNote <;>
    simp [State.layout, State.mapData, State.copyData, State.placeNotes, State.baseData,
      State.dropData, State.release, user, data, note]

theorem layout_note :
    s.layout.note = if s.noNote then { s.note with size := 0 } else s.note := by
  cases user : s.userData <;> cases data : s.noData <;> cases note : s.noNote <;>
    simp [State.layout, State.mapData, State.copyData, State.placeNotes, State.baseData,
      State.dropData, State.release, user, data, note]

theorem layout_nodes : s.layout.note.nodes = s.note.nodes := by
  rw [layout_note]
  split
  · rfl
  · rfl

end Layout

/-! ### What lasts -/

/-- A property of the compiler state that lasts while the code is placed. -/
structure Placing (I : State W → Prop) : Prop where
  build : ∀ {α : Type} (x : Build W α), Keeps I x.run
  patches : ∀ s, I s → I { s with patches := { s.patches with offset := 0 } }
  flag : ∀ s ref (f : Node W → Node W), I s → I (s.setNode ref f)
  longer : ∀ s length, I s → I { s with codeLength := length }

/-- A property of the compiler state that lasts while no names and notes are added. -/
structure Staying (platform : Platform W) (fuel : Nat) (I : State W → Prop) : Prop
    extends Placing I where
  optimize : Keeps I (jitOptimize platform fuel)
  annotate : ∀ pc, Keeps I (jitAnnotate pc)
  setCode : ∀ length, Keeps I (jitSetCode length)
  setData : ∀ length flags, Keeps I (jitSetData length flags)
  realize : ∀ s, s.realize = false → I s → I
    { s.alignData with realize := true, codeLength := platform.emitter.getSize s.alignData }
  layout : ∀ s, s.realize = true → I s → I s.layout
  emit : ∀ s, I s → I { s with emit := true }
  done : ∀ s pc, I s → I { s with done := true, pc := pc }
  drop : ∀ s, s.userData = true → I s → I s.dropData

/-- A property of the compiler state that lasts until the state is cleared. -/
structure Lasting (platform : Platform W) (fuel : Nat) (I : State W → Prop) : Prop
    extends Staying platform fuel I where
  name : ∀ str, Keeps I (jitName str)
  note : ∀ file line, Keeps I (jitNote file line)

namespace Placing

variable {I : State W → Prop} (placing : Placing I)

include placing

theorem clearPatches (fuel : Nat) : Keeps I (clearPatches (W := W) fuel) := by
  refine keeps_bind (keeps_update placing.patches) fun _ => keeps_bind keeps_fetch fun s =>
    keeps_loop _ _ fun current => ?_
  cases current with
  | none => exact keeps_pure _
  | some ref =>
    refine keeps_bind (keeps_reads _) fun node => keeps_ite ?_ (keeps_pure _)
    exact keeps_bind (keeps_update fun s => placing.flag s ref _) fun _ => keeps_pure _

theorem emitStep (platform : Platform W) (fuel : Nat) (k : Unit) : Keeps I (emitStep platform fuel k) := by
  refine keeps_bind (placing.build _) fun pc => ?_
  cases pc with
  | some pc => exact keeps_pure _
  | none =>
    refine keeps_bind (placing.clearPatches fuel) fun _ => keeps_bind keeps_fetch fun s =>
      keeps_ite (keeps_pure _) ?_
    exact keeps_bind (keeps_update fun s => placing.longer s _) fun _ => keeps_pure _

end Placing

theorem placing_of_quiet {I : State W → Prop} (quiet : ∀ s t, s.Quiet t → I s → I t) : Placing I where
  build := quiet_build quiet
  patches s holds := quiet s _ ⟨rfl, rfl⟩ holds
  flag s _ _ holds := quiet s _ ⟨rfl, rfl⟩ holds
  longer s _ holds := quiet s _ ⟨rfl, rfl⟩ holds

/-- The steps on which a property depends that backends and the optimizer do not reach. -/
structure Steady (I : State W → Prop) : Prop where
  quiet : ∀ s t, s.Quiet t → I s → I t
  data : ∀ bytes align, Keeps I (jitData bytes align)
  annotate : ∀ s t : State W, s.restore t = s → I s → I t
  setCode : ∀ s length, I s → I { s with codeLength := length, userCode := true }
  setData : ∀ s length (noData noNote : Bool), s.realize = true →
    (noNote = false → (if noData then 0 else s.data.offset) + s.note.size ≤ length) → I s → I
      { s with
        noData := s.noData || noData
        noNote := s.noNote || noNote
        dataLength := length
        userData := true }
  realize : ∀ s length, s.realize = false → I s →
    I { s.alignData with realize := true, codeLength := length }
  layout : ∀ s, s.realize = true → I s → I s.layout
  done : ∀ s pc, I s → I { s with done := true, pc := pc }
  drop : ∀ s, s.userData = true → I s → I s.dropData

namespace Steady

variable {I : State W → Prop} (steady : Steady I)

include steady

theorem jitSetData (length : Word W) (flags : CInt) : Keeps I (jitSetData length flags) := by
  intro s _ t holds ran
  simp only [Zjit.jitSetData, returns_bind, returns_fetch, returns_assert, returns_update] at ran
  obtain ⟨_, _, ⟨rfl, rfl⟩, _, _, ⟨realized, rfl⟩, _, _, ⟨rfl, rfl⟩, _, _, ⟨-, rfl⟩, _, _,
    ⟨fits, rfl⟩, rfl⟩ := ran
  refine steady.setData s length.toNat _ _ realized (fun noted => ?_) holds
  rcases fits with absent | fits
  · exact absurd (noted.symm.trans absent) Bool.false_ne_true
  · generalize decide (flags &&& jitDisableData ≠ 0) = noData at fits ⊢
    rw [BitVec.toInt_eq_toNat_cond] at fits
    cases noData with
    | true =>
      simp only [if_true] at fits ⊢
      split at fits <;> omega
    | false =>
      simp only [Bool.false_eq_true, if_false] at fits ⊢
      split at fits <;> omega

theorem staying (platform : Platform W) (fuel : Nat) : Staying platform fuel I where
  toPlacing := placing_of_quiet steady.quiet
  optimize := quiet_jitOptimize steady.quiet steady.data platform fuel
  annotate pc s _ t holds ran :=
    steady.annotate s t (annotates_jitAnnotate pc s _ t (.refl s) ran) holds
  setCode _ := keeps_bind keeps_fetch fun _ => keeps_bind (keeps_check _ _) fun _ =>
    keeps_update fun s holds => steady.setCode s _ holds
  setData := steady.jitSetData
  realize s constructing holds := steady.realize s _ constructing holds
  layout := steady.layout
  emit s holds := steady.quiet s _ ⟨rfl, rfl⟩ holds
  done := steady.done
  drop := steady.drop

/-- Where the list of notes does not matter either. -/
theorem lasting (push : ∀ s node size, I s → I (s.pushNote node size)) (platform : Platform W)
    (fuel : Nat) : Lasting platform fuel I where
  toStaying := steady.staying platform fuel
  name str := quiet_remark steady.quiet steady.data push .name str.stored
    (fun entry n => { n with v := .n entry.node }) _ _
  note file line := quiet_remark steady.quiet steady.data push .note file.stored
    (fun entry n => { n with v := .n entry.node, w := .w line }) _ _

end Steady

namespace Staying

variable {platform : Platform W} {fuel : Nat} {I : State W → Prop} (staying : Staying platform fuel I)

include staying

theorem jitRealize : Triple I (jitRealize platform fuel) fun _ s => I s ∧ s.realize = true := by
  have rest : Triple (fun s => I s ∧ s.realize = false) (do
      jitOptimize platform fuel
      update fun s =>
        { s.alignData with realize := true, codeLength := platform.emitter.getSize s.alignData })
      fun _ s => I s ∧ s.realize = true := by
    refine triple_bind (keeps_and staying.optimize (outside_jitOptimize Outside.realize (fun _ _ => rfl) false platform fuel))
      fun _ => ?_
    rintro s _ t ⟨holds, constructing⟩ ran
    obtain rfl := (returns_update ..).mp ran
    exact ⟨staying.realize s constructing holds, rfl⟩
  intro s _ t holds ran
  obtain ⟨_, _, guard, ran⟩ := (returns_bind ..).mp ran
  obtain ⟨constructing, rfl⟩ := (returns_assertConstructing ..).mp guard
  obtain ⟨_, _, fetched, ran⟩ := (returns_bind ..).mp ran
  obtain ⟨rfl, rfl⟩ := (returns_fetch ..).mp fetched
  split at ran
  · exact triple_bind (keeps_and (staying.build _) (outside_build Outside.realize false _)) (fun _ => rest) s _ t
      ⟨holds, constructing⟩ ran
  · exact rest s _ t ⟨holds, constructing⟩ ran

theorem jitDataset : Triple (fun s => I s ∧ s.realize = true) (jitDataset platform)
    fun _ s => I s ∧ s.realize = true ∧ s.dataset = true := by
  refine triple_bind keeps_fetch fun _ => triple_bind (keeps_check _ _) fun _ =>
    triple_bind keeps_fetch fun _ => triple_bind (keeps_check _ _) fun _ => ?_
  rintro s _ t ⟨holds, realized⟩ ran
  obtain rfl := (returns_update ..).mp ran
  exact ⟨staying.layout s realized holds, (layout_realize s).trans realized, rfl⟩

theorem finishEmit (pc : Nat) : Keeps I (finishEmit (W := W) pc) := by
  have drop : Keeps I (update fun s : State W => if s.userData then s.dropData else s :
      Jit W Unit) := by
    refine keeps_update fun s holds => ?_
    split
    next user => exact staying.drop s user holds
    next => exact holds
  refine keeps_bind (keeps_update fun s => staying.done s pc) fun _ =>
    keeps_bind keeps_fetch fun s => keeps_ite ?_ drop
  exact keeps_bind (staying.annotate pc) fun _ => drop

theorem emitRealized : Keeps I (emitRealized platform fuel) := by
  refine keeps_bind (keeps_update staying.emit) fun _ =>
    keeps_bind keeps_fetch fun _ => keeps_bind (keeps_check _ _) fun _ =>
      keeps_bind (keeps_loop _ _ (staying.emitStep platform fuel)) fun pc => ?_
  cases pc with
  | none => exact keeps_pure _
  | some pc => exact keeps_bind (staying.finishEmit pc) fun _ => keeps_pure _

/-- `_jit_emit` realizes and lays out what has not been before. -/
theorem jitEmit_rule {Q : Bool → State W → Prop}
    (emitted : Triple (fun s => I s ∧ s.realize = true ∧ s.dataset = true)
      (Zjit.emitRealized platform fuel) Q) :
    Triple I (Zjit.jitEmit platform fuel) Q := by
  have layout : Triple (fun s => I s ∧ s.realize = true) (do
      if (← fetch).dataset = false then Zjit.jitDataset platform
      Zjit.emitRealized platform fuel) Q := by
    rintro s done t ⟨holds, realized⟩ ran
    obtain ⟨_, _, fetched, ran⟩ := (returns_bind ..).mp ran
    obtain ⟨rfl, rfl⟩ := (returns_fetch ..).mp fetched
    split at ran
    next =>
      obtain ⟨_, u, laidOut, ran⟩ := (returns_bind ..).mp ran
      exact emitted u done t (staying.jitDataset s _ u ⟨holds, realized⟩ laidOut) ran
    next before => exact emitted s done t ⟨holds, realized, Bool.eq_true_of_not_eq_false before⟩ ran
  intro s done t holds ran
  obtain ⟨_, _, fetched, ran⟩ := (returns_bind ..).mp ran
  obtain ⟨rfl, rfl⟩ := (returns_fetch ..).mp fetched
  split at ran
  next =>
    obtain ⟨_, u, realized, ran⟩ := (returns_bind ..).mp ran
    exact layout u done t (staying.jitRealize s _ u holds realized) ran
  next realized => exact layout s done t ⟨holds, Bool.eq_true_of_not_eq_false realized⟩ ran

theorem jitEmit : Keeps I (jitEmit platform fuel) :=
  staying.jitEmit_rule <|
    triple_weaken staying.emitRealized (fun _ both => both.1) fun _ _ holds => holds

/-! ### Calls -/

omit staying in
theorem keeps_made {x : Jit W NodeRef} (kept : Keeps I x) : Keeps I (made x) :=
  keeps_bind kept fun _ => keeps_pure _

omit staying in
theorem keeps_unit {α : Type} {x : Jit W α} (kept : Keeps I x) : Keeps I (unit x) :=
  keeps_bind kept fun _ => keeps_pure _

/-- A call of the library that adds no remark. -/
theorem libCall (call : LibCall W) (keeps : call.isClear = false) (plain : call.remark = none) :
    Keeps I (call.body platform fuel) := by
  cases call with
  | protocol args call => exact staying.build _
  | label | forward | indirect => exact keeps_made (staying.build _)
  | name str => cases plain
  | note file line => cases plain
  | realize =>
    exact keeps_unit (triple_weaken staying.jitRealize (fun _ h => h) fun _ _ both => both.1)
  | setCode size => exact keeps_unit (staying.setCode size)
  | setData size flags => exact keeps_unit (staying.setData size flags)
  | emit => exact keeps_unit staying.jitEmit
  | clear => cases keeps
  | _ => exact keeps_unit (staying.build _)

end Staying

/-- A call of the state runs a single constructor or a function of the library. -/
theorem call_rule {platform : Platform W} {fuel : Nat} {I Q : State W → Prop} {call : Call W}
    (builds : call.builds = true) (build : ∀ {α : Type} (x : Build W α), Keeps I x.run)
    (plain : ∀ m, call = .instr m → ∀ s, I s → Q s)
    (lib : ∀ body, call = .lib body → Triple I (body.body platform fuel) fun _ => Q)
    {z z' : ZigState W} {result : Option NodeRef} (holds : I z.jit)
    (ran : Returns (call.run platform fuel) z result z') : Q z'.jit := by
  have guarded : Keeps I (compiling (W := W)) := keeps_bind keeps_fetch fun _ => keeps_check _ _
  cases call with
  | deinit => cases builds
  | instr m =>
    obtain ⟨_, u, guard, ran⟩ := (returns_bind ..).mp ran
    obtain ⟨s, passed, rfl⟩ := (returns_callC ..).mp guard
    have holds := guarded z.jit _ s holds passed
    obtain ⟨call, ref, t, -, appended, stored⟩ := (m.wrapper.returns_run _ z' result).mp ran
    have appended := plain m rfl t
      (build (append call) s ref t holds ((Script.returns_run_perform ..).mpr appended))
    split at stored
    · rw [stored.2]
      exact appended
    · rw [stored.2]
      exact appended
  | lib body =>
    obtain ⟨_, u, guard, ran⟩ := (returns_bind ..).mp ran
    obtain ⟨s, passed, rfl⟩ := (returns_callC ..).mp guard
    have holds := guarded z.jit _ s holds passed
    obtain ⟨t, called, rfl⟩ := (returns_callC ..).mp ran
    exact lib body rfl s result t holds called

theorem Staying.call {platform : Platform W} {fuel : Nat} {I : State W → Prop}
    (staying : Staying platform fuel I) (call : Call W) (builds : call.builds = true)
    (plain : call.remark = none) {z z' : ZigState W} {result : Option NodeRef} (holds : I z.jit)
    (ran : Returns (call.run platform fuel) z result z') : I z'.jit := by
  refine call_rule builds staying.build (fun _ _ _ kept => kept) (fun body isLib => ?_) holds ran
  subst isLib
  exact staying.libCall body (Bool.not_eq_true' _ |>.mp builds) plain

namespace Lasting

variable {platform : Platform W} {fuel : Nat} {I : State W → Prop} (lasting : Lasting platform fuel I)

include lasting

omit lasting in
/-- Two properties last together. -/
theorem and {J : State W → Prop} (first : Lasting platform fuel I)
    (second : Lasting platform fuel J) : Lasting platform fuel fun s => I s ∧ J s where
  build x := keeps_and (first.build x) (second.build x)
  optimize := keeps_and first.optimize second.optimize
  annotate pc := keeps_and (first.annotate pc) (second.annotate pc)
  name str := keeps_and (first.name str) (second.name str)
  note file line := keeps_and (first.note file line) (second.note file line)
  setCode length := keeps_and (first.setCode length) (second.setCode length)
  setData length flags := keeps_and (first.setData length flags) (second.setData length flags)
  realize s constructing both :=
    ⟨first.realize s constructing both.1, second.realize s constructing both.2⟩
  layout s realized both := ⟨first.layout s realized both.1, second.layout s realized both.2⟩
  emit s both := ⟨first.emit s both.1, second.emit s both.2⟩
  patches s both := ⟨first.patches s both.1, second.patches s both.2⟩
  flag s ref f both := ⟨first.flag s ref f both.1, second.flag s ref f both.2⟩
  longer s length both := ⟨first.longer s length both.1, second.longer s length both.2⟩
  done s pc both := ⟨first.done s pc both.1, second.done s pc both.2⟩
  drop s user both := ⟨first.drop s user both.1, second.drop s user both.2⟩

/-- A call of the library, whether it adds a remark or not. -/
theorem libCall (call : LibCall W) (keeps : call.isClear = false) :
    Keeps I (call.body platform fuel) := by
  cases call with
  | name str => exact Staying.keeps_made (lasting.name str)
  | note file line => exact Staying.keeps_made (lasting.note file line)
  | _ => exact lasting.toStaying.libCall _ keeps rfl

theorem call (call : Call W) (builds : call.builds = true) {z z' : ZigState W}
    {result : Option NodeRef} (holds : I z.jit)
    (ran : Returns (call.run platform fuel) z result z') : I z'.jit := by
  refine call_rule builds lasting.build (fun _ _ _ kept => kept) (fun body isLib => ?_) holds ran
  subst isLib
  exact lasting.libCall body (Bool.not_eq_true' _ |>.mp builds)

theorem runCalls (calls : List (Call W)) (builds : ∀ call ∈ calls, call.builds = true)
    {z z' : ZigState W} (holds : I z.jit)
    (ran : Returns (runCalls platform fuel calls) z () z') : I z'.jit := by
  induction calls generalizing z with
  | nil =>
    obtain ⟨-, rfl⟩ := (returns_pure ..).mp ran
    exact holds
  | cons first rest ih =>
    obtain ⟨_, u, called, later⟩ := (returns_bind ..).mp ran
    have holds := lasting.call first (builds first List.mem_cons_self) holds called
    exact ih (fun call member => builds call (List.mem_cons_of_mem first member)) holds later

end Lasting

end Zjit
