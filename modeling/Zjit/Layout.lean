import Zjit.Frame
import Zjit.Interning

/-!
# The layout of the constants

Once the constants are laid out, the data buffer has the bytes of every constant, at the place
where code and notes look for it, and the pool does without a block of its own.
-/
namespace Zjit

open Foundation Program

variable {W : WordSize} {s t : State W}

/-- The state of the data buffer behind `_jit_dataset`. -/
structure State.Laid (s : State W) : Prop where
  realized : s.dataset = true → s.realize = true
  copied : s.dataset = true → s.noData = false → s.buffer = s.data.bytes
  based : s.dataset = true → s.noData = false → s.database = some .buffer
  released : s.dataset = true → s.userData = false → s.data.ptr = none

/-- Before the layout there is nothing to say. -/
theorem laid_of_fresh (fresh : s.dataset = false) : s.Laid := by
  have never {p : Prop} (laid : s.dataset = true) : p :=
    absurd (fresh.symm.trans laid) Bool.false_ne_true
  exact ⟨never, fun laid => never laid, fun laid => never laid, fun laid => never laid⟩

theorem State.Laid.fresh (laid : s.Laid) (constructing : s.realize = false) : s.dataset = false :=
  Bool.eq_false_iff.mpr fun done =>
    Bool.false_ne_true (constructing.symm.trans (laid.realized done))

/-- What neither backends nor the optimizer touch stays laid out. -/
theorem laid_of_outside (outside : { t.outside with split := s.split } = s.outside)
    (data : s.dataset = true → t.data = s.data) (laid : s.Laid) : t.Laid := by
  have dataset : t.dataset = s.dataset := congrArg Outside.dataset outside
  have realize : t.realize = s.realize := congrArg Outside.realize outside
  have noData : t.noData = s.noData := congrArg Outside.noData outside
  have buffer : t.buffer = s.buffer := congrArg Outside.buffer outside
  have database : t.database = s.database := congrArg Outside.database outside
  have userData : t.userData = s.userData := congrArg Outside.userData outside
  constructor
  · rw [dataset, realize]
    exact laid.realized
  · intro done enabled
    rw [dataset] at done
    rw [buffer, data done]
    exact laid.copied done (noData ▸ enabled)
  · intro done enabled
    rw [database]
    exact laid.based (dataset ▸ done) (noData ▸ enabled)
  · intro done own
    rw [dataset] at done
    rw [data done]
    exact laid.released done (userData ▸ own)

/-- No constant is stored behind the layout. -/
theorem laid_jitData (bytes : List UInt8) (align : Nat) :
    Keeps State.Laid (jitData (W := W) bytes align) := by
  intro s entry t laid ran
  have outside := (frame_jitData s bytes align s entry t (.refl s) ran).outside_split
  simp only [jitData, returns_bind, returns_assertConstructing] at ran
  obtain ⟨_, _, ⟨constructing, -⟩, -⟩ := ran
  refine laid_of_outside outside (fun done => ?_) laid
  exact absurd ((laid.fresh constructing).symm.trans done) Bool.false_ne_true

/-- The flags of `_jit_set_data` only ever go up. -/
theorem laid_setData (laid : s.Laid) (noData noNote : Bool) (length : Nat) :
    State.Laid
      { s with
        noData := s.noData || noData
        noNote := s.noNote || noNote
        dataLength := length
        userData := true } where
  realized := laid.realized
  copied done enabled := laid.copied done (Bool.or_eq_false_iff.mp enabled).1
  based done enabled := laid.based done (Bool.or_eq_false_iff.mp enabled).1
  released _ own := absurd own.symm Bool.false_ne_true

theorem laid_layout (realized : s.realize = true) :
    s.layout.Laid := by
  cases user : s.userData <;> cases data : s.noData <;> cases note : s.noNote <;>
    constructor <;>
    simp [State.layout, State.mapData, State.copyData, State.placeNotes, State.baseData,
      State.dropData, State.release, user, data, note, realized]

theorem steady_laid : Steady (State.Laid (W := W)) where
  quiet _ _ quiet laid := laid_of_outside quiet.outside (fun _ => congrArg Prod.fst quiet.store) laid
  data := laid_jitData
  annotate s t beside laid := by
    have restored : (s.restore t).Laid := beside.symm ▸ laid
    exact ⟨restored.realized, restored.copied, restored.based, restored.released⟩
  setCode _ _ laid := ⟨laid.1, laid.2, laid.3, laid.4⟩
  setData _ _ _ _ _ _ laid := laid_setData laid _ _ _
  realize _ _ constructing laid := laid_of_fresh (laid.fresh constructing)
  layout _ realized _ := laid_layout realized
  done _ _ laid := ⟨laid.1, laid.2, laid.3, laid.4⟩
  drop _ _ laid := ⟨laid.1, laid.2, laid.3, fun _ _ => rfl⟩

theorem lasting_laid (platform : Platform W) (fuel : Nat) : Lasting platform fuel State.Laid :=
  steady_laid.lasting (fun _ _ _ laid => ⟨laid.1, laid.2, laid.3, laid.4⟩) platform fuel

/-- The layout is not undone. -/
theorem lasting_dataset (platform : Platform W) (fuel : Nat) :
    Lasting platform fuel fun s => s.dataset = true := by
  have steady : Steady fun s : State W => s.dataset = true :=
    { quiet := fun _ _ quiet done => (congrArg Outside.dataset quiet.outside).trans done
      data := outside_jitData Outside.dataset true
      annotate := fun _ _ beside done => (congrArg State.dataset beside).trans done
      setCode := fun _ _ done => done
      setData := fun _ _ _ _ _ _ done => done
      realize := fun _ _ _ done => done
      layout := fun _ _ _ => rfl
      done := fun _ _ done => done
      drop := fun _ _ done => done }
  exact steady.lasting (fun _ _ _ done => done) platform fuel

/-- An emission lays the constants out, if nothing has before. -/
theorem laid_jitEmit (platform : Platform W) (fuel : Nat) {done : Bool} (laid : s.Laid)
    (ran : Returns (jitEmit platform fuel) s done t) : t.Laid ∧ t.dataset = true := by
  have lasting := (lasting_laid platform fuel).and (lasting_dataset platform fuel)
  have emitted : Triple (fun s => s.Laid ∧ s.realize = true ∧ s.dataset = true)
      (emitRealized platform fuel) fun _ s => s.Laid ∧ s.dataset = true :=
    triple_weaken lasting.emitRealized (fun _ all => ⟨all.1, all.2.2⟩) fun _ _ both => both
  exact (lasting_laid platform fuel).jitEmit_rule emitted s done t laid ran

end Zjit
