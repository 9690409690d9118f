import Zjit.Data
import Zjit.Foundation.Search
import Zjit.Lifecycle

/-!
# Names and notes

Source positions attached to the code: collected while IR is built, laid out by `_jit_annotate`
once the code has addresses, and looked up by address afterwards.
-/
namespace Zjit

open Foundation Program

variable {W : WordSize}

/-! ### Collecting -/

/-- The node joins the list of notes. -/
def State.pushNote (s : State W) (node : NoteNode) (size : Nat) : State W :=
  { s with
    note := { s.note with
      nodes := s.note.nodes ++ [node]
      size := s.note.size + size
      name := if node.isName then some node else s.note.name
      note := if node.isName then none else some node } }

/-- `_jit_name`. -/
def jitName (name : CString) : Jit W NodeRef := do
  let node ← jitNewNode .name
  let text ← jitData name.stored 1
  writeNode node fun n => { n with v := .n text.node }
  update fun s => s.pushNote { node, isName := true, text, line := 0 } (sizeofNote W)
  pure node

/-- A note in another file than the one before, or the first since the last name. -/
def State.opensLine (s : State W) (name : CString) : Bool :=
  match s.note.note with
  | none => true
  | some last => s.data.read last.text ≠ name.stored

/-- `_jit_note`. -/
def jitNote (name : CString) (line : CInt) : Jit W NodeRef := do
  let node ← jitNewNode .note
  let text ← jitData name.stored 1
  writeNode node fun n => { n with v := .n text.node, w := .w line }
  update fun s =>
    s.pushNote { node, isName := false, text, line }
      ((if s.opensLine name then sizeofLine W else 0) + 8)
  pure node

/-! ### Searching -/

/-- `line_insert_index` and `offset_insert_index`: behind the keys up to `offset`. -/
def insertIndex (keys : List CInt) (offset : CInt) : Nat :=
  search (fun index => if offset.slt (keys.getD index 0) then .before else .after) keys.length

/-- `line_search_index` and `offset_search_index`: the last key up to `offset`. -/
def searchIndex (keys : List CInt) (offset : CInt) : Nat :=
  search (fun index =>
    if offset.slt (keys.getD index 0) then .before
    else if index = keys.length - 1 ∨
        (keys.getD index 0).sle offset ∧ offset.slt (keys.getD (index + 1) 0) then .here
    else .after) keys.length

/-- `note_search_index`. -/
def noteSearchIndex (notes : List Note) (code : Nat) : Nat :=
  search (fun index =>
    match notes[index]? with
    | some note =>
      if code < note.code then .before
      else if ((code : Int) - note.code) < note.size then .here
      else .after
    | none => .before) notes.length

/-- The first offset of a line. -/
def Line.first (line : Line) : CInt := line.offsets.getD 0 0

/-- `code - note->code` in a `jit_int32_t`. -/
def Note.offset (note : Note) (code : Nat) : CInt := BitVec.ofInt 32 (code - note.code)

/-- `_jit_get_note`: the name, the file and the line number it stores on success. -/
def State.getNote (s : State W) (code : Nat) : Option (Option StringRef × StringRef × CInt) := do
  let note ← s.notes[noteSearchIndex s.notes code]?
  if code < note.code ∨ (code : Int) ≥ note.code + note.size then none
  let offset := note.offset code
  let index := searchIndex (note.lines.map Line.first) offset
  let line ← note.lines[index]?
  if index = 0 ∧ offset.slt line.first then none
  let lineno ← line.linenos[searchIndex line.offsets offset]?
  return (note.name, line.file, lineno)

/-! ### Laying out -/

def State.modifyNote (s : State W) (index : Nat) (f : Note → Note) : State W :=
  { s with notes := s.notes.modify index f }

/-- Where the string of a constant is by now. -/
def State.stringRef (s : State W) (text : DataEntry) : Jit W StringRef :=
  return { base := ← Program.expect .nullDereference s.database, offset := text.offset }

/-- `_new_note`. -/
def newNote (code : Nat) (name : Option StringRef) : Jit W Unit := do
  if let some prev := (← fetch).notes.getLast? then
    Jit.assert (prev.code ≤ code)
    update fun s =>
      s.modifyNote (s.notes.length - 1) fun note => { note with size := (code : Int) - note.code }
  update fun s =>
    { s with noteBase := s.noteBase + sizeofNote W, notes := s.notes ++ [{ code, name }] }

/-- Room for one line more. -/
def State.growLines (s : State W) (at_ : Nat) (note : Note) : State W :=
  if note.linesPtr = none then
    State.modifyNote { s with ledger := s.ledger.alloc } at_ fun note =>
      { note with linesPtr := some s.ledger.next }
  else if note.lines.length % 16 = 15 then
    State.modifyNote { s with ledger := s.ledger.realloc note.linesPtr } at_ fun note =>
      { note with linesPtr := some s.ledger.next }
  else s

/-- `new_line`. -/
def newLine (at_ index : Nat) (file : StringRef) (lineno offset : CInt) : Jit W Unit := do
  let note ← Program.expect .outOfBounds (← fetch).notes[at_]?
  update fun s => s.growLines at_ note
  update fun s =>
    State.modifyNote { s with ledger := s.ledger.alloc.alloc } at_ fun note =>
      { note with
        lines := note.lines.insertIdx index
          { file
            linenosPtr := some s.ledger.next
            offsetsPtr := some (s.ledger.next + 1)
            linenos := [lineno]
            offsets := [offset] } }

def State.modifyLine (s : State W) (at_ index : Nat) (f : Line → Line) : State W :=
  s.modifyNote at_ fun note => { note with lines := note.lines.modify index f }

/-- Room for more line numbers. -/
def State.moveLinenos (s : State W) (at_ index : Nat) (line : Line) : State W :=
  State.modifyLine { s with ledger := s.ledger.realloc line.linenosPtr } at_ index fun line =>
    { line with linenosPtr := some s.ledger.next }

/-- Room for more offsets. -/
def State.moveOffsets (s : State W) (at_ index : Nat) (line : Line) : State W :=
  State.modifyLine { s with ledger := s.ledger.realloc line.offsetsPtr } at_ index fun line =>
    { line with offsetsPtr := some s.ledger.next }

/-- Room for one entry more in both arrays of a line. -/
def State.growEntries (s : State W) (at_ index : Nat) (line : Line) : State W :=
  if line.linenos.length % 16 = 0 then
    (s.moveLinenos at_ index line).moveOffsets at_ index line
  else s

/-- An entry for position `index`. Without `moves` the entries behind stay in place, and the
array ends with an entry nobody wrote. -/
def placeEntry (moves : Bool) (index : Nat) (value : CInt) (entries : List CInt) : List CInt :=
  if moves then entries.insertIdx index value
  else if index < entries.length then entries.set index value ++ [0]
  else entries ++ [value]

/-- `_jit_set_note` for a line of the same file. The entries are moved if their position is below
the number of lines of the note. -/
def extendLine (at_ index : Nat) (lineno offset : CInt) : Jit W Unit := do
  let note ← Program.expect .outOfBounds (← fetch).notes[at_]?
  let line ← Program.expect .outOfBounds note.lines[index]?
  let entry := insertIndex line.offsets offset
  if entry < line.linenos.length ∧ line.offsets.getD entry 0 = offset then
    -- No code was generated for several source lines.
    if (line.linenos.getD entry 0).slt lineno then
      update fun s => s.modifyLine at_ index fun line =>
        { line with linenos := line.linenos.set entry lineno }
  else if entry < line.linenos.length ∧ line.linenos.getD entry 0 = lineno then
    -- The entry is extended.
    if offset.slt (line.offsets.getD entry 0) then
      update fun s => s.modifyLine at_ index fun line =>
        { line with offsets := line.offsets.set entry offset }
  else
    update fun s => s.growEntries at_ index line
    let moves := decide (entry < note.lines.length)
    update fun s => s.modifyLine at_ index fun line =>
      { line with
        linenos := placeEntry moves entry lineno line.linenos
        offsets := placeEntry moves entry offset line.offsets }

/-- `_jit_set_note`, for the last note. -/
def setNote (file : StringRef) (lineno : CInt) (code : Nat) : Jit W Unit := do
  let notes := (← fetch).notes
  let at_ := notes.length - 1
  let note ← Program.expect .outOfBounds notes[at_]?
  let offset := note.offset code
  let index := insertIndex (note.lines.map Line.first) offset
  let last := note.lines[index - 1]?
  let index :=
    if note.lines ≠ [] ∧ index = note.lines.length ∧ last.any (·.file = file) then index - 1
    else index
  if note.lines[index]?.any (·.file = file) then extendLine at_ index lineno offset
  else newLine at_ index file lineno offset

/-- One round of the first loop of `_jit_annotate`. -/
def annotateNode (node : NoteNode) : Jit W Unit := do
  let s ← fetch
  let text ← s.stringRef node.text
  let code := (s.memory node.node).u.toWord.toNat
  if node.isName then newNote code (some text)
  else
    if s.notes = [] then newNote code none
    setNote text node.line code

/-- The next `length` bytes of the reserved space. -/
def takeSpace (length : Nat) : Jit W Unit := do
  let s ← fetch
  Jit.assert (s.noteBase + length ≤ s.dataLength)
  update fun s => { s with noteBase := s.noteBase + length }

/-- The lines of a note are in the data buffer now. -/
def State.dropLines (s : State W) (at_ : Nat) (note : Note) : State W :=
  (s.release note.linesPtr).modifyNote at_ fun note => { note with linesPtr := none }

/-- The line numbers are in the data buffer now. -/
def State.dropLinenos (s : State W) (at_ index : Nat) (line : Line) : State W :=
  (s.release line.linenosPtr).modifyLine at_ index fun line => { line with linenosPtr := none }

/-- The offsets are in the data buffer now. -/
def State.dropOffsets (s : State W) (at_ index : Nat) (line : Line) : State W :=
  (s.release line.offsetsPtr).modifyLine at_ index fun line => { line with offsetsPtr := none }

/-- The lines of a note move to the data buffer. -/
def relocateLines (at_ : Nat) : Jit W Unit := do
  let note ← Program.expect .outOfBounds (← fetch).notes[at_]?
  unless note.lines = [] do
    takeSpace (sizeofLine W * note.lines.length)
    update fun s => s.dropLines at_ note

/-- The two arrays of a line move to the data buffer. -/
def relocateEntries (at_ index : Nat) : Jit W Unit := do
  let note ← Program.expect .outOfBounds (← fetch).notes[at_]?
  let line ← Program.expect .outOfBounds note.lines[index]?
  takeSpace (4 * line.linenos.length)
  update fun s => s.dropLinenos at_ index line
  takeSpace (4 * line.linenos.length)
  update fun s => s.dropOffsets at_ index line

def relocateNote (at_ : Nat) : Jit W Unit := do
  let note ← Program.expect .outOfBounds (← fetch).notes[at_]?
  (List.range note.lines.length).forM (relocateEntries at_)

/-- `_jit_annotate`. -/
def jitAnnotate (pc : Nat) : Jit W Unit := do
  update fun s => { s with notes := [] }
  (← fetch).note.nodes.forM annotateNode
  update fun s =>
    s.modifyNote (s.notes.length - 1) fun note => { note with size := (pc : Int) - note.code }
  let count := (← fetch).notes.length
  (List.range count).forM relocateLines
  (List.range count).forM relocateNote

end Zjit
