import Zjit.Position

/-!
# The space for the notes

`_jit_name` and `_jit_note` count the space that `_jit_annotate` is going to take in the data buffer,
before any address is known. What they count always suffices.
-/
namespace Zjit

open Foundation Program

variable {W : WordSize} {s t : State W}

/-! ### What is counted -/

/-- The file of the last note since the last name. -/
def NoteNode.follow (_ : Option DataEntry) (node : NoteNode) : Option DataEntry :=
  if node.isName then none else some node.text

/-- Where the notes go, as soon as the constants are complete. -/
def State.noteStart (s : State W) : Nat := if s.noData then 0 else s.data.offset

/-- A buffer of the user's has room for what is counted. -/
def State.Provided (s : State W) : Prop :=
  s.userData = true → s.realize = true ∧
    (s.noNote = false → s.noteStart + s.note.size ≤ s.dataLength)

/-- A buffer of the user's is only there once the constants are complete. -/
theorem State.Provided.own (provided : s.Provided) (constructing : s.realize = false) :
    s.userData = false :=
  Bool.eq_false_iff.mpr fun user =>
    Bool.false_ne_true (constructing.symm.trans (provided user).1)

/-- The file of the last line of the last note. -/
def lastFile (notes : List Note) : Option StringRef := notes.getLast?.bind Note.lastFile

section Below

variable {base : DataBase} {start total : Nat} {last : Option DataEntry} {node : NoteNode}
  {rest : List NoteNode} {spans frontSpans : List (Span StringRef)} {span : Span StringRef}

end Below

/-! ### Relocation -/

section Left

variable {erased : List Note} {need : Nat}

end Left

/-! ### The whole of `_jit_annotate` -/

end Zjit
