import Zjit.Note
import Zjit.Ownership

/-!
# Owners among the annotations

Annotations are collected in blocks of their own and relocated into the data buffer. Collecting
them keeps the balance between owners and the ledger, and relocating them leaves them without a
block.
-/
namespace Zjit

open Foundation Program Ledger

variable {W : WordSize} {s t u : State W}

/-! ### What annotating leaves alone -/

/-- The annotations of `s` in place of those of `t`. -/
def State.restore (s t : State W) : State W :=
  { t with ledger := s.ledger, notes := s.notes, noteBase := s.noteBase }

/-- Apart from the annotations and their blocks, `t` is `s`. -/
def State.Annotates (s t : State W) : Prop := s.restore t = s

namespace State.Annotates

theorem refl (s : State W) : s.Annotates s := rfl

theorem trans (first : s.Annotates t) (second : t.Annotates u) : s.Annotates u :=
  calc s.restore u = s.restore (t.restore u) := rfl
    _ = s.restore t := by rw [second]
    _ = s := first

end State.Annotates

theorem annotates_update {s₀ : State W} {f : State W → State W}
    (step : ∀ s : State W, s.Annotates (f s)) : Keeps s₀.Annotates (update f : Jit W Unit) :=
  keeps_update fun s before => before.trans (step s)

section Annotates

variable {s₀ : State W} {at_ index : Nat}

theorem annotates_newNote (code : Nat) (name : Option StringRef) :
    Keeps s₀.Annotates (newNote code name) := by
  refine keeps_bind keeps_fetch fun s => ?_
  have push : Keeps s₀.Annotates (update fun s : State W =>
      { s with
        noteBase := s.noteBase + sizeofNote W
        notes := s.notes ++ [{ code, name }] } : Jit W Unit) :=
    annotates_update fun _ => rfl
  split
  · exact keeps_bind (keeps_check _ _) fun _ =>
      keeps_bind (annotates_update fun _ => rfl) fun _ => push
  · exact push

theorem annotates_growLines (s : State W) (note : Note) : s.Annotates (s.growLines at_ note) := by
  unfold State.growLines
  split
  · rfl
  · split
    · rfl
    · rfl

theorem annotates_newLine (file : StringRef) (lineno offset : CInt) :
    Keeps s₀.Annotates (newLine at_ index file lineno offset) :=
  keeps_bind keeps_fetch fun _ => keeps_bind (keeps_expect _ _) fun note =>
    keeps_bind (annotates_update fun s => annotates_growLines s note) fun _ =>
      annotates_update fun _ => rfl

theorem annotates_growEntries (s : State W) (line : Line) :
    s.Annotates (s.growEntries at_ index line) := by
  unfold State.growEntries
  split
  · rfl
  · rfl

theorem annotates_extendLine (lineno offset : CInt) :
    Keeps s₀.Annotates (extendLine at_ index lineno offset) := by
  refine keeps_bind keeps_fetch fun _ => keeps_bind (keeps_expect _ _) fun _ =>
    keeps_bind (keeps_expect _ _) fun line => ?_
  refine keeps_ite ?_ (keeps_ite ?_ ?_)
  · exact keeps_ite (annotates_update fun _ => rfl) (keeps_pure _)
  · exact keeps_ite (annotates_update fun _ => rfl) (keeps_pure _)
  · exact keeps_bind (annotates_update fun s => annotates_growEntries s line) fun _ =>
      annotates_update fun _ => rfl

theorem annotates_setNote (file : StringRef) (lineno : CInt) (code : Nat) :
    Keeps s₀.Annotates (setNote file lineno code) :=
  keeps_bind keeps_fetch fun _ => keeps_bind (keeps_expect _ _) fun _ =>
    keeps_ite (annotates_extendLine _ _) (annotates_newLine _ _ _)

theorem annotates_annotateNode (node : NoteNode) : Keeps s₀.Annotates (annotateNode node) := by
  refine keeps_bind keeps_fetch fun s => keeps_bind ?_ fun text => keeps_ite ?_ (keeps_ite ?_ ?_)
  · exact keeps_bind (keeps_expect _ _) fun _ => keeps_pure _
  · exact annotates_newNote _ _
  · exact keeps_bind (annotates_newNote _ _) fun _ => annotates_setNote _ _ _
  · exact annotates_setNote _ _ _

theorem annotates_takeSpace (length : Nat) : Keeps s₀.Annotates (takeSpace length) :=
  keeps_bind keeps_fetch fun _ => keeps_bind (keeps_check _ _) fun _ =>
    annotates_update fun _ => rfl

theorem annotates_relocateLines (at_ : Nat) : Keeps s₀.Annotates (relocateLines at_) :=
  keeps_bind keeps_fetch fun _ => keeps_bind (keeps_expect _ _) fun _ =>
    keeps_ite (keeps_pure _) <| keeps_bind (annotates_takeSpace _) fun _ =>
      annotates_update fun _ => rfl

theorem annotates_relocateNote (at_ : Nat) : Keeps s₀.Annotates (relocateNote at_) :=
  keeps_bind keeps_fetch fun _ => keeps_bind (keeps_expect _ _) fun _ => keeps_forM fun _ =>
    keeps_bind keeps_fetch fun _ => keeps_bind (keeps_expect _ _) fun _ =>
      keeps_bind (keeps_expect _ _) fun _ => keeps_bind (annotates_takeSpace _) fun _ =>
        keeps_bind (annotates_update fun _ => rfl) fun _ =>
          keeps_bind (annotates_takeSpace _) fun _ => annotates_update fun _ => rfl

theorem annotates_jitAnnotate (pc : Nat) : Keeps s₀.Annotates (jitAnnotate pc) :=
  keeps_bind (annotates_update fun _ => rfl) fun _ => keeps_bind keeps_fetch fun _ =>
    keeps_bind (keeps_forM annotates_annotateNode) fun _ =>
      keeps_bind (annotates_update fun _ => rfl) fun _ => keeps_bind keeps_fetch fun _ =>
        keeps_bind (keeps_forM annotates_relocateLines) fun _ => keeps_forM annotates_relocateNote

end Annotates

/-! ### Owners among the annotations -/


section Owners

variable {at_ index : Nat} {note : Note} {line : Line} {gone come : Multiset Block}

end Owners

/-! ### Annotations under construction -/

section Annotating

variable {at_ index : Nat} {note : Note} {line : Line}

end Annotating

/-! ### Relocation -/

/-- Between calls, neither the annotations nor a vector under construction own a block. The two
records are `jit` and `jitc`. -/
structure State.Tidy (s : State W) (jit jitc : Option Block) : Prop where
  balanced : s.Balanced
  noted : s.noted = 0
  split : s.split = {}
  jit : s.jit = jit
  jitc : s.jitc = jitc

variable {jit jitc : Option Block}

end Zjit
