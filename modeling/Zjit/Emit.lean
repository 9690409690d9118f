import Zjit.Note
import Zjit.Optimize.Main

/-!
# From IR to code

`_jit_realize`, `_jit_dataset` and `_jit_emit`: the IR is optimized, the constants are laid out,
code is generated into a buffer that grows until it fits, and the notes are laid out.
-/
namespace Zjit

open Foundation Program

variable {W : WordSize}

-- The target, and how many rounds a loop may take.
variable (platform : Platform W) (fuel : Nat)

/-- The constants are padded to whole double words. -/
def State.alignData (s : State W) : State W :=
  { s with
    data := { s.data with
      bytes := s.data.bytes ++ List.replicate ((s.data.offset + 7) / 8 * 8 - s.data.offset) 0 } }

/-- `_jit_realize`. -/
def jitRealize : Jit W Unit := do
  assertConstructing
  if (← fetch).function.isSome then jitEpilog.run
  jitOptimize platform fuel
  update fun s =>
    { s.alignData with realize := true, codeLength := platform.emitter.getSize s.alignData }

/-! ### Buffers -/

/-- The flags of `_jit_set_data`. -/
def jitDisableData : CInt := 1
def jitDisableNote : CInt := 2

/-- `_jit_set_code`, without the address of the buffer. -/
def jitSetCode (length : Word W) : Jit W Unit := do
  Jit.assert ((← fetch).realize = true)
  update fun s => { s with codeLength := length.toNat, userCode := true }

/-- `_jit_set_data`, without the address of the buffer. -/
def jitSetData (length : Word W) (flags : CInt) : Jit W Unit := do
  Jit.assert ((← fetch).realize = true)
  let noData := decide (flags &&& jitDisableData ≠ 0)
  let noNote := decide (flags &&& jitDisableNote ≠ 0)
  let s ← fetch
  Jit.assert (noData ∨ (s.data.offset : Int) ≤ length.toInt)
  Jit.assert (noNote ∨
    ((if noData then 0 else s.data.offset) + s.note.size : Int) ≤ length.toInt)
  update fun s =>
    { s with
      noData := s.noData || noData
      noNote := s.noNote || noNote
      dataLength := length.toNat
      userData := true }

/-- The data buffer that is mapped where the user supplies none. -/
def State.mapData (s : State W) : State W :=
  if s.userData then s
  else { s with dataLength := (s.data.offset + s.note.size + 4095) / 4096 * 4096 }

def State.copyData (s : State W) : State W :=
  if s.noData then s else { s with buffer := s.data.bytes }

/-- Where the notes go, behind the constants. -/
def State.placeNotes (s : State W) : State W :=
  if s.noNote then { s with note := { s.note with size := 0 } }
  else { s with noteBase := if s.noData then 0 else s.data.offset }

/-- `_jitc->data.ptr` is released, the entries stay where they are. -/
def State.dropData (s : State W) : State W :=
  { s.release s.data.ptr with data := { s.data with ptr := none } }

/-- The constants get their addresses. With a buffer of the user's, `_jitc->data.ptr` lives on. -/
def State.baseData (s : State W) : State W :=
  if s.userData then
    { s with database := some (if s.noData then .compiler s.data.ptr else .buffer) }
  else { s.dropData with database := some .buffer }

/-- `_jit_dataset`. -/
def jitDataset : Jit W Unit := do
  Jit.assert ((← fetch).dataset = false)
  Jit.assert (platform.haveMmap ∨ (← fetch).userData)
  update fun s => { s.mapData.copyData.placeNotes.baseData with dataset := true }

/-! ### Code -/

/-- Before another attempt, labels are to be patched again. -/
def clearPatches : Jit W Unit := do
  update fun s => { s with patches := { s.patches with offset := 0 } }
  Program.loop .outOfFuel (fun current => do
    match current with
    | none => return .inr ()
    | some ref =>
      let node ← readNode ref
      if node.link.isSome ∧ (node.code = .label ∨ node.code = .epilog) then
        writeNode ref fun node => { node with flag := node.flag &&& ~~~flagPatch }
      return .inl node.next) fuel (← fetch).head

/-- One attempt at the code. Without success it ends in a buffer of the user's. -/
def emitStep (_ : Unit) : Jit W (Unit ⊕ Option Nat) := do
  match ← platform.emitter.emitCode.run with
  | some pc => return .inr (some pc)
  | none =>
    clearPatches fuel
    if platform.haveMmap ∧ (← fetch).userCode then return .inr none
    else
      update fun s =>
        { s with codeLength := if platform.haveMmap then s.codeLength + 4096 else s.codeLength }
      return .inl ()

/-- The end of `_jit_emit`, with the code in place up to `pc`. -/
def finishEmit (pc : Nat) : Jit W Unit := do
  update fun s => { s with done := true, pc := pc }
  if (← fetch).noNote = false then jitAnnotate pc
  update fun s => if s.userData then s.dropData else s

/-- `_jit_emit` once the constants are laid out. -/
def emitRealized : Jit W Bool := do
  update fun s => { s with emit := true }
  Jit.assert (platform.haveMmap ∨ (← fetch).userCode)
  match ← Program.loop .outOfFuel (emitStep platform fuel) fuel () with
  | none => return false
  | some pc =>
    finishEmit pc
    return true

/-- `_jit_emit`, whether it returns the code. -/
def jitEmit : Jit W Bool := do
  if (← fetch).realize = false then jitRealize platform fuel
  if (← fetch).dataset = false then jitDataset platform
  emitRealized platform fuel

/-- `_jit_destroy_state`. The mapped buffers are not blocks of the allocator. -/
def jitDestroyState : Jit W Unit :=
  update fun s => { s.release s.jit with jit := none }

end Zjit
