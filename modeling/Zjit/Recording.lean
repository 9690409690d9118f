import Zjit.Lookup

/-!
# The annotations record the spans

`_jit_annotate` keeps a note for each span: the lines of a note, flattened, are the entries of its
span, with the addresses relative to the code of the note.
-/
namespace Zjit

open Foundation Program

variable {W : WordSize} {s t : State W}

/-! ### A note and its span -/

/-- A note without lines and arrays of its own. -/
def Line.erase (line : Line) : Line := { line with linenosPtr := none, offsetsPtr := none }

def Note.erase (note : Note) : Note :=
  { note with linesPtr := none, lines := note.lines.map Line.erase }

/-- The entry of a span, relative to the code of a note. -/
def Note.relative (note : Note) (entry : Nat × StringRef × CInt) : CInt × StringRef × CInt :=
  (note.offset entry.1, entry.2)

/-- The note has the code, the name and the entries of the span. -/
structure Note.Records (note : Note) (span : Span StringRef) : Prop where
  code : note.code = span.code
  name : note.name = span.name
  filled : ∀ line ∈ note.lines, line.Filled
  entries : note.lines.flatMap Line.entries = span.entries.map note.relative

/-- There is a note for each span, and each but the last has its size. -/
structure Recorded (notes : List Note) (spans : List (Span StringRef)) : Prop where
  each : List.Forall₂ Note.Records notes spans
  sizes : notes.IsChain fun a b => a.size = (b.code : Int) - a.code

theorem filled_erase (line : Line) : line.erase.Filled ↔ line.Filled :=
  ⟨fun filled => ⟨filled.some_, filled.same⟩, fun filled => ⟨filled.some_, filled.same⟩⟩

theorem entries_erase (note : Note) :
    note.erase.lines.flatMap Line.entries = note.lines.flatMap Line.entries := by
  rw [Note.erase, List.flatMap_map]
  rfl

theorem records_erase (note : Note) (span : Span StringRef) :
    note.erase.Records span ↔ note.Records span := by
  have filled : (∀ line ∈ note.erase.lines, line.Filled) ↔ ∀ line ∈ note.lines, line.Filled := by
    simp only [Note.erase, List.forall_mem_map, filled_erase]
  constructor
  · exact fun records => ⟨records.code, records.name, filled.mp records.filled,
      entries_erase note ▸ records.entries⟩
  · exact fun records => ⟨records.code, records.name, filled.mpr records.filled,
      (entries_erase note).trans records.entries⟩

/-- The blocks of the notes do not matter. -/
theorem recorded_erase (notes : List Note) (spans : List (Span StringRef)) :
    Recorded (notes.map Note.erase) spans ↔ Recorded notes spans := by
  have each : List.Forall₂ Note.Records (notes.map Note.erase) spans ↔
      List.Forall₂ Note.Records notes spans := by
    simp only [List.forall₂_map_left_iff, records_erase]
  constructor
  · exact fun recorded => ⟨each.mp recorded.each, (List.isChain_map Note.erase).mp recorded.sizes⟩
  · exact fun recorded => ⟨each.mpr recorded.each, (List.isChain_map Note.erase).mpr recorded.sizes⟩

/-! ### Offsets -/

/-- Less than 2 GiB behind the code of a note, offsets are ordered as the addresses are. -/
theorem upTo_offset {note : Note} {a b : Nat} (after : note.code ≤ a) (after' : note.code ≤ b)
    (near : a < note.code + 2 ^ 31) (near' : b < note.code + 2 ^ 31) :
    upTo (note.offset b) (note.offset a) = decide (a ≤ b) := by
  have exact_ (c : Nat) (after : note.code ≤ c) (near : c < note.code + 2 ^ 31) :
      (note.offset c).toInt = (c : Int) - note.code := by
    rw [Note.offset, BitVec.toInt_ofInt_eq_self (by omega) (by omega) (by omega)]
  rw [upTo, BitVec.sle_eq_decide, exact_ a after near, exact_ b after' near', decide_eq_decide]
  omega

/-! ### Adding to the last note -/

section Last

variable {front : List Note} {note : Note} {front' : List Line} {line : Line} {offset lineno : CInt}

theorem modify_length {α : Type} (front : List α) (last : α) (f : α → α) :
    (front ++ [last]).modify front.length f = front ++ [f last] := by
  have place := modify_last front last f
  rw [List.length_append, List.length_singleton, Nat.add_sub_cancel] at place
  exact place

theorem getElem?_length {α : Type} (front : List α) (last : α) :
    (front ++ [last])[front.length]? = some last := by
  rw [List.getElem?_append_right (Nat.le_refl _), Nat.sub_self, List.getElem?_cons_zero]

theorem modifyNote_last (notes : s.notes = front ++ [note]) (g : Note → Note) :
    (s.modifyNote front.length g).notes = front ++ [g note] := by
  rw [State.modifyNote, notes, modify_length]

theorem modifyLine_last (notes : s.notes = front ++ [note]) (lines : note.lines = front' ++ [line])
    (h : Line → Line) : (s.modifyLine front.length front'.length h).notes =
      front ++ [{ note with lines := front' ++ [h line] }] := by
  rw [State.modifyLine, modifyNote_last notes, lines, modify_length]

/-- The file of the last line of a note. -/
def Note.lastFile (note : Note) : Option StringRef := note.lines.getLast?.map Line.file

/-- The note has one entry more, at the end, and one line more at most. -/
structure Note.Gains (note : Note) (entry : CInt × StringRef × CInt) (more : Note) : Prop where
  code : more.code = note.code
  name : more.name = note.name
  filled : ∀ line ∈ more.lines, line.Filled
  entries : more.lines.flatMap Line.entries = note.lines.flatMap Line.entries ++ [entry]
  lastFile : more.lastFile = some entry.2.1
  lines : more.lines.length ≤
    note.lines.length + if note.lastFile = some entry.2.1 then 0 else 1

/-- Behind all the keys. -/
theorem insertIndex_last {keys : List CInt} (all : ∀ key ∈ keys, upTo offset key = true) :
    insertIndex keys offset = keys.length := by
  have initial : Initial (upTo offset) keys :=
    List.pairwise_of_forall_mem_list fun key member _ _ _ => all key member
  rw [insertIndex_eq initial, List.countP_eq_length.mpr all]

theorem placeEntry_length (moves : Bool) (value : CInt) (entries : List CInt) :
    placeEntry moves entries.length value entries = entries ++ [value] := by
  cases moves with
  | true => exact List.insertIdx_length_self
  | false => rw [placeEntry, if_neg Bool.false_ne_true, if_neg (Nat.lt_irrefl _)]

theorem growEntries_last (notes : s.notes = front ++ [note]) (lines : note.lines = front' ++ [line]) :
    ∃ linenosPtr offsetsPtr, (s.growEntries front.length front'.length line).notes =
      front ++ [{ note with lines := front' ++ [{ line with linenosPtr, offsetsPtr }] }] := by
  unfold State.growEntries
  split
  · have first : (s.moveLinenos front.length front'.length line).notes =
        front ++ [{ note with lines := front' ++ [{ line with linenosPtr := some s.ledger.next }] }] :=
      modifyLine_last (s := { s with ledger := s.ledger.realloc line.linenosPtr }) notes lines _
    exact ⟨_, _, modifyLine_last
      (s := { s.moveLinenos front.length front'.length line with ledger := _ }) first rfl _⟩
  · exact ⟨line.linenosPtr, line.offsetsPtr, by rw [notes, ← lines]⟩

/-- An entry at the end of the last line. -/
theorem gains_line (lines : note.lines = front' ++ [line]) (filled : ∀ line ∈ note.lines, line.Filled)
    {more : Line} (file : more.file = line.file) (offsets : more.offsets = line.offsets ++ [offset])
    (linenos : more.linenos = line.linenos ++ [lineno]) :
    note.Gains (offset, line.file, lineno) { note with lines := front' ++ [more] } where
  code := rfl
  name := rfl
  filled other member := by
    rcases List.mem_append.mp member with before | isLast
    · exact filled other (lines ▸ List.mem_append_left _ before)
    · obtain rfl := List.mem_singleton.mp isLast
      have same := (filled line (lines ▸ List.mem_append_right _ (List.mem_singleton_self _))).same
      constructor
      · rw [offsets]
        exact List.append_ne_nil_of_right_ne_nil _ (List.cons_ne_nil _ _)
      · rw [offsets, linenos, List.length_append, List.length_append, same]
        rfl
  entries := by
    have same := (filled line (lines ▸ List.mem_append_right _ (List.mem_singleton_self _))).same
    have entries : more.entries = line.entries ++ [(offset, line.file, lineno)] := by
      rw [Line.entries, offsets, linenos, file, List.zip_append same.symm, List.map_append]
      rfl
    simp only [lines, List.flatMap_append, List.flatMap_singleton, entries, List.append_assoc]
  lastFile := by
    rw [Note.lastFile, List.getLast?_concat, Option.map_some, file]
  lines := by
    rw [lines, List.length_append, List.length_append]
    exact Nat.le_add_right _ _

/-- A line at the end. -/
theorem gains_newLine (filled : ∀ line ∈ note.lines, line.Filled) {file : StringRef}
    (other : note.lastFile ≠ some file) (offset lineno : CInt) (linesPtr linenosPtr offsetsPtr : Option Block) :
    note.Gains (offset, file, lineno)
      { note with
        linesPtr
        lines := note.lines ++
          [{ file, linenosPtr, offsetsPtr, linenos := [lineno], offsets := [offset] }] } where
  code := rfl
  name := rfl
  filled other member := by
    rcases List.mem_append.mp member with before | isLast
    · exact filled other before
    · obtain rfl := List.mem_singleton.mp isLast
      exact ⟨List.cons_ne_nil _ _, rfl⟩
  entries := by
    rw [List.flatMap_append, List.flatMap_singleton]
    rfl
  lastFile := by
    rw [Note.lastFile, List.getLast?_concat, Option.map_some]
  lines := by
    rw [List.length_append, if_neg other]
    exact Nat.le_refl _

theorem extendLine_last (notes : s.notes = front ++ [note]) (lines : note.lines = front' ++ [line])
    (filled : ∀ line ∈ note.lines, line.Filled)
    (all : ∀ key ∈ line.offsets, upTo offset key = true)
    (ran : Returns (extendLine front.length front'.length lineno offset) s () t) :
    ∃ more, t.notes = front ++ [more] ∧ note.Gains (offset, line.file, lineno) more := by
  have same := (filled line (lines ▸ List.mem_append_right _ (List.mem_singleton_self _))).same
  have found : s.notes[front.length]? = some note := notes ▸ getElem?_length front note
  have isLine : note.lines[front'.length]? = some line := lines ▸ getElem?_length front' line
  simp only [extendLine, returns_bind, returns_fetch, returns_expect] at ran
  obtain ⟨_, _, ⟨rfl, rfl⟩, _, _, ⟨isNote, rfl⟩, _, _, ⟨isLine', rfl⟩, rest⟩ := ran
  obtain rfl := Option.some.inj (found.symm.trans isNote)
  obtain rfl := Option.some.inj (isLine.symm.trans isLine')
  -- The entry comes behind the others, so none of them is changed.
  have behind : ¬ insertIndex line.offsets offset < line.linenos.length := by
    rw [insertIndex_last all, same]
    exact Nat.lt_irrefl _
  rw [if_neg fun both => behind both.1, if_neg fun both => behind both.1] at rest
  simp only [returns_bind, returns_update] at rest
  obtain ⟨_, _, rfl, rfl⟩ := rest
  obtain ⟨linenosPtr, offsetsPtr, grown⟩ := growEntries_last notes lines
  refine ⟨_, modifyLine_last grown rfl _, gains_line lines filled rfl ?_ ?_⟩
  · rw [insertIndex_last all]
    exact placeEntry_length _ offset line.offsets
  · rw [insertIndex_last all, ← same]
    exact placeEntry_length _ lineno line.linenos

theorem growLines_last (notes : s.notes = front ++ [note]) :
    ∃ linesPtr, (s.growLines front.length note).notes = front ++ [{ note with linesPtr }] := by
  unfold State.growLines
  split
  · exact ⟨_, modifyNote_last (s := { s with ledger := s.ledger.alloc }) notes _⟩
  · split
    · exact ⟨_, modifyNote_last (s := { s with ledger := s.ledger.realloc note.linesPtr }) notes _⟩
    · exact ⟨note.linesPtr, notes⟩

theorem newLine_last {file : StringRef} (notes : s.notes = front ++ [note])
    (filled : ∀ line ∈ note.lines, line.Filled) (other : note.lastFile ≠ some file)
    (ran : Returns (newLine front.length note.lines.length file lineno offset) s () t) :
    ∃ more, t.notes = front ++ [more] ∧ note.Gains (offset, file, lineno) more := by
  have found : s.notes[front.length]? = some note := notes ▸ getElem?_length front note
  simp only [newLine, returns_bind, returns_fetch, returns_expect, returns_update] at ran
  obtain ⟨_, _, ⟨rfl, rfl⟩, _, _, ⟨isNote, rfl⟩, _, _, rfl, rfl⟩ := ran
  obtain rfl := Option.some.inj (found.symm.trans isNote)
  obtain ⟨linesPtr, grown⟩ := growLines_last notes
  refine ⟨_, modifyNote_last (s := { s.growLines front.length note with ledger := _ }) grown _, ?_⟩
  simp only [List.insertIdx_length_self]
  exact gains_newLine filled other offset lineno _ _ _

/-- The last entry joins the last line where the file is the same, and starts a line else. -/
theorem setNote_last {file : StringRef} {code : Nat} (notes : s.notes = front ++ [note])
    (filled : ∀ line ∈ note.lines, line.Filled)
    (all : ∀ entry ∈ note.lines.flatMap Line.entries, upTo (note.offset code) entry.1 = true)
    (ran : Returns (setNote file lineno code) s () t) :
    ∃ more, t.notes = front ++ [more] ∧ note.Gains (note.offset code, file, lineno) more := by
  have at_ : s.notes.length - 1 = front.length := by
    rw [notes, List.length_append, List.length_singleton, Nat.add_sub_cancel]
  have found : s.notes[front.length]? = some note := notes ▸ getElem?_length front note
  have inLine (line : Line) (member : line ∈ note.lines) (key : CInt) (isKey : key ∈ line.offsets) :
      upTo (note.offset code) key = true := by
    rw [← entries_offsets (filled line member)] at isKey
    obtain ⟨entry, isEntry, rfl⟩ := List.mem_map.mp isKey
    exact all entry (List.mem_flatMap.mpr ⟨line, member, isEntry⟩)
  have firsts : ∀ key ∈ note.lines.map Line.first, upTo (note.offset code) key = true := by
    intro key member
    obtain ⟨line, isLine, rfl⟩ := List.mem_map.mp member
    obtain ⟨rest, offsets⟩ := first_cons (filled line isLine)
    exact inLine line isLine line.first (offsets ▸ List.mem_cons_self)
  have index : insertIndex (note.lines.map Line.first) (note.offset code) = note.lines.length :=
    (insertIndex_last firsts).trans (List.length_map _)
  simp only [setNote, returns_bind, returns_fetch, returns_expect] at ran
  obtain ⟨_, _, ⟨rfl, rfl⟩, _, _, ⟨isNote, rfl⟩, rest⟩ := ran
  rw [at_] at isNote rest
  obtain rfl := Option.some.inj (found.symm.trans isNote)
  rw [index] at rest
  rcases List.eq_nil_or_concat note.lines with none_ | ⟨front', line, lines⟩
  · -- The first line of the note is a new one.
    have nowhere : note.lines[note.lines.length]? = none := List.getElem?_eq_none (Nat.le_refl _)
    have apart : ¬ (note.lines ≠ [] ∧ note.lines.length = note.lines.length ∧
        note.lines[note.lines.length - 1]?.any (fun line => line.file = file) = true) :=
      fun both => both.1 none_
    rw [if_neg apart, nowhere, Option.any_none, if_neg Bool.false_ne_true] at rest
    have lastFile : note.lastFile = none := by
      rw [Note.lastFile, none_]
      rfl
    have other : note.lastFile ≠ some file := by
      rw [lastFile]
      exact (Option.some_ne_none file).symm
    exact newLine_last notes filled other rest
  · rw [List.concat_eq_append] at lines
    have nonempty : note.lines ≠ [] :=
      lines ▸ List.append_ne_nil_of_right_ne_nil _ (List.cons_ne_nil _ _)
    have isLast : note.lines.length - 1 = front'.length := by
      rw [lines, List.length_append, List.length_singleton, Nat.add_sub_cancel]
    have isLine : note.lines[front'.length]? = some line := lines ▸ getElem?_length front' line
    rw [isLast, isLine] at rest
    by_cases same : line.file = file
    · -- Another entry of the last line.
      have any : (some line).any (fun line => line.file = file) = true := decide_eq_true same
      have joins : note.lines ≠ [] ∧ note.lines.length = note.lines.length ∧
          (some line).any (fun line => line.file = file) = true := ⟨nonempty, rfl, any⟩
      rw [if_pos joins, isLine, if_pos any] at rest
      have member : line ∈ note.lines := List.mem_of_getElem? isLine
      exact same ▸ extendLine_last notes lines filled (inLine line member) rest
    · -- Another file opens another line.
      have other : ¬ (some line).any (fun line => line.file = file) = true :=
        fun any => same (of_decide_eq_true any)
      have nowhere : note.lines[note.lines.length]? = none := List.getElem?_eq_none (Nat.le_refl _)
      have apart : ¬ (note.lines ≠ [] ∧ note.lines.length = note.lines.length ∧
          (some line).any (fun line => line.file = file) = true) := fun both => other both.2.2
      rw [if_neg apart, nowhere, Option.any_none, if_neg Bool.false_ne_true] at rest
      have lastFile : note.lastFile = some line.file := by
        rw [Note.lastFile, lines, List.getLast?_concat, Option.map_some]
      exact newLine_last notes filled (lastFile ▸ fun joined => same (Option.some.inj joined)) rest

end Last

/-! ### One name or note -/

/-- What a name or a note marks, with the constants at `base`. -/
def State.mark (s : State W) (base : DataBase) (node : NoteNode) : Mark StringRef where
  address := (s.memory node.node).u.toWord.toNat
  isName := node.isName
  text := { base, offset := node.text.offset }
  line := node.line

def State.marks (s : State W) (base : DataBase) : List (Mark StringRef) :=
  s.note.nodes.map (s.mark base)

section Round

variable {front : List Note} {note : Note} {spans frontSpans : List (Span StringRef)}
  {span : Span StringRef} {mark : Mark StringRef}

theorem forall₂_snoc {α β : Type} {R : α → β → Prop} {as : List α} {bs : List β} {a : α} {b : β} :
    List.Forall₂ R (as ++ [a]) (bs ++ [b]) ↔ List.Forall₂ R as bs ∧ R a b := by
  rw [← List.forall₂_reverse_iff, List.reverse_append, List.reverse_append, List.reverse_singleton,
    List.reverse_singleton, List.singleton_append, List.singleton_append, List.forall₂_cons,
    List.forall₂_reverse_iff, and_comm]

/-- The last note, and the ones before it. Its own size is not asked for. -/
theorem recorded_snoc : Recorded (front ++ [note]) (frontSpans ++ [span]) ↔
    Recorded front frontSpans ∧ note.Records span ∧
      ∀ prev ∈ front.getLast?, prev.size = (note.code : Int) - prev.code := by
  constructor
  · intro recorded
    obtain ⟨each, records⟩ := forall₂_snoc.mp recorded.each
    obtain ⟨sizes, -, link⟩ := List.isChain_append.mp recorded.sizes
    exact ⟨⟨each, sizes⟩, records, fun prev isLast => link prev isLast note rfl⟩
  · rintro ⟨before, records, link⟩
    refine ⟨forall₂_snoc.mpr ⟨before.each, records⟩, List.isChain_append.mpr
      ⟨before.sizes, List.isChain_singleton note, fun prev isLast next isHead => ?_⟩⟩
    obtain rfl := Option.some.inj isHead
    exact link prev isLast

/-- The last note changes, but keeps its code. -/
theorem recorded_last {other : Note} {more : Span StringRef}
    (recorded : Recorded (front ++ [note]) (frontSpans ++ [span])) (code : other.code = note.code)
    (records : other.Records more) : Recorded (front ++ [other]) (frontSpans ++ [more]) := by
  obtain ⟨before, -, link⟩ := recorded_snoc.mp recorded
  exact recorded_snoc.mpr ⟨before, records, fun prev isLast => code ▸ link prev isLast⟩

theorem recorded_nil_right {notes : List Note} (recorded : Recorded notes []) : notes = [] :=
  List.forall₂_nil_right_iff.mp recorded.each

theorem recorded_nil_left (recorded : Recorded [] spans) : spans = [] :=
  List.forall₂_nil_left_iff.mp recorded.each

/-- There is a last note where there is a last span. -/
theorem recorded_concat {notes : List Note} (recorded : Recorded notes (frontSpans ++ [span])) :
    ∃ front note, notes = front ++ [note] := by
  rcases List.eq_nil_or_concat notes with rfl | ⟨front, note, rfl⟩
  · exact absurd (recorded_nil_left recorded)
      (List.append_ne_nil_of_right_ne_nil _ (List.cons_ne_nil _ _))
  · exact ⟨front, note, List.concat_eq_append⟩

/-- A note without entries. -/
theorem records_new (code : Nat) (name : Option StringRef) :
    Note.Records { code, name } { code, name, entries := [] } :=
  ⟨rfl, rfl, (fun _ member => nomatch member), rfl⟩

/-- The first note. -/
theorem newNote_nil {code : Nat} {name : Option StringRef} (empty : s.notes = [])
    (ran : Returns (newNote code name) s () t) :
    t.notes = [{ code, name }] ∧ t.noteBase = s.noteBase + sizeofNote W := by
  simp only [newNote, returns_bind, returns_fetch] at ran
  obtain ⟨_, _, ⟨rfl, rfl⟩, rest⟩ := ran
  simp only [empty, List.getLast?_nil, returns_update] at rest
  rw [← rest]
  exact ⟨rfl, rfl⟩

/-- `_new_note` ends the last note and starts another. -/
theorem newNote_last {code : Nat} {name : Option StringRef} (notes : s.notes = front ++ [note])
    (ran : Returns (newNote code name) s () t) :
    t.notes = front ++ [{ note with size := (code : Int) - note.code }] ++ [({ code, name } : Note)] ∧
      t.noteBase = s.noteBase + sizeofNote W := by
  have place : s.notes.length - 1 = front.length := by
    rw [notes, List.length_append, List.length_singleton, Nat.add_sub_cancel]
  simp only [newNote, returns_bind, returns_fetch] at ran
  obtain ⟨_, _, ⟨rfl, rfl⟩, rest⟩ := ran
  simp only [notes, List.getLast?_concat, returns_bind, returns_assert, returns_update] at rest
  obtain ⟨-, _, ⟨-, rfl⟩, -, _, rfl, rfl⟩ := rest
  have modified : (s.modifyNote (s.notes.length - 1) fun note =>
      { note with size := (code : Int) - note.code }).notes =
      front ++ [{ note with size := (code : Int) - note.code }] := place ▸ modifyNote_last notes _
  rw [← modified]
  exact ⟨rfl, rfl⟩

theorem recorded_newNote {code : Nat} {name : Option StringRef} (recorded : Recorded s.notes spans)
    (ran : Returns (newNote code name) s () t) :
    Recorded t.notes (spans ++ [{ code, name, entries := [] }]) := by
  rcases List.eq_nil_or_concat spans with rfl | ⟨frontSpans, span, rfl⟩
  · have empty := recorded_nil_right recorded
    rw [(newNote_nil empty ran).1]
    refine recorded_snoc.mpr ⟨empty ▸ recorded, records_new code name, fun prev isLast => ?_⟩
    cases isLast
  · rw [List.concat_eq_append] at recorded ⊢
    obtain ⟨front, note, notes⟩ := recorded_concat recorded
    rw [notes] at recorded
    obtain ⟨-, records, -⟩ := recorded_snoc.mp recorded
    rw [(newNote_last notes ran).1]
    refine recorded_snoc.mpr ⟨recorded_last recorded rfl
      ⟨records.code, records.name, records.filled, records.entries⟩, records_new code name,
      fun prev isLast => ?_⟩
    rw [List.getLast?_concat] at isLast
    obtain rfl := Option.some.inj isLast
    rfl

theorem gains_records {more : Note} (records : note.Records span)
    (gains : note.Gains (note.offset mark.address, mark.text, mark.line) more) :
    more.Records (span.add mark) where
  code := gains.code.trans records.code
  name := gains.name.trans records.name
  filled := gains.filled
  entries := by
    have relative : more.relative = note.relative := by
      funext entry
      rw [Note.relative, Note.relative, Note.offset, Note.offset, gains.code]
    rw [gains.entries, records.entries, relative, Span.add, List.map_append]
    rfl

/-- The entries of a span in order, with the offsets in order too. -/
theorem relative_upTo (records : note.Records span) {last address : Nat} (fits : span.Fits last)
    (later : last ≤ address) (near : address < span.code + 2 ^ 31) :
    ∀ entry ∈ note.lines.flatMap Line.entries, upTo (note.offset address) entry.1 = true := by
  intro entry member
  rw [records.entries] at member
  obtain ⟨absolute, isEntry, rfl⟩ := List.mem_map.mp member
  obtain ⟨after, before⟩ := fits.inside absolute isEntry
  have inOrder := upTo_offset (records.code ▸ after)
    (records.code ▸ Nat.le_trans fits.code later : note.code ≤ address)
    (records.code ▸ (by omega : absolute.1 < span.code + 2 ^ 31)) (records.code ▸ near)
  exact inOrder.trans (decide_eq_true (Nat.le_trans before later))

/-- `_jit_set_note` adds an entry to the last note. -/
theorem gains_setNote {last : Nat} (recorded : Recorded s.notes (frontSpans ++ [span]))
    (fits : span.Fits last) (later : last ≤ mark.address) (near : mark.address < span.code + 2 ^ 31)
    (ran : Returns (setNote mark.text mark.line mark.address) s () t) :
    ∃ front note more, s.notes = front ++ [note] ∧ t.notes = front ++ [more] ∧
      note.Gains (note.offset mark.address, mark.text, mark.line) more := by
  obtain ⟨front, note, notes⟩ := recorded_concat recorded
  obtain ⟨-, records, -⟩ := recorded_snoc.mp (notes ▸ recorded)
  obtain ⟨more, notes', gains⟩ :=
    setNote_last notes records.filled (relative_upTo records fits later near) ran
  exact ⟨front, note, more, notes, notes', gains⟩

theorem recorded_setNote {last : Nat} (recorded : Recorded s.notes (frontSpans ++ [span]))
    (fits : span.Fits last) (later : last ≤ mark.address) (near : mark.address < span.code + 2 ^ 31)
    (ran : Returns (setNote mark.text mark.line mark.address) s () t) :
    Recorded t.notes (frontSpans ++ [span.add mark]) := by
  obtain ⟨front, note, more, notes, notes', gains⟩ := gains_setNote recorded fits later near ran
  rw [notes] at recorded
  obtain ⟨-, records, -⟩ := recorded_snoc.mp recorded
  rw [notes']
  exact recorded_last recorded gains.code (gains_records records gains)

/-- One round of the first loop of `_jit_annotate` adds the mark of the node. -/
theorem recorded_annotateNode {base : DataBase} {node : NoteNode} {last : Nat}
    (laid : s.database = some base) (recorded : Recorded s.notes spans)
    (ordered : Ordered spans last) (later : last ≤ (s.mark base node).address)
    (near : ∀ span ∈ spans, (s.mark base node).address < span.code + 2 ^ 31)
    (ran : Returns (annotateNode node) s () t) :
    Recorded t.notes (addMark spans (s.mark base node)) := by
  simp only [annotateNode, State.stringRef, returns_bind, returns_fetch, returns_expect,
    returns_pure] at ran
  obtain ⟨_, _, ⟨rfl, rfl⟩, _, _, ⟨_, _, ⟨isBase, rfl⟩, rfl, rfl⟩, rest⟩ := ran
  obtain rfl := Option.some.inj (laid.symm.trans isBase)
  cases isName : node.isName with
  | true =>
    have isName' : (s.mark base node).isName = true := isName
    rw [isName, if_pos rfl] at rest
    rw [addMark_name isName']
    exact recorded_newNote recorded rest
  | false =>
    have isName' : (s.mark base node).isName = false := isName
    rw [isName, if_neg Bool.false_ne_true] at rest
    rcases List.eq_nil_or_concat spans with rfl | ⟨frontSpans, span, rfl⟩
    · rw [if_pos (recorded_nil_right recorded)] at rest
      simp only [returns_bind] at rest
      obtain ⟨_, _, new, rest⟩ := rest
      rw [addMark_first isName']
      exact recorded_setNote (recorded_newNote recorded new) (Span.fits_nil _ _) (Nat.le_refl _)
        (Nat.lt_add_of_pos_right (by decide)) rest
    · rw [List.concat_eq_append] at recorded ordered near ⊢
      obtain ⟨front, note, notes⟩ := recorded_concat recorded
      have nonempty : s.notes ≠ [] :=
        notes ▸ List.append_ne_nil_of_right_ne_nil _ (List.cons_ne_nil _ _)
      rw [if_neg nonempty] at rest
      rw [addMark_note isName']
      exact recorded_setNote recorded (ordered_front ordered).2.1 later
        (near span (List.mem_append_right _ (List.mem_singleton_self _))) rest

/-- Annotating leaves the marks alone. -/
theorem mark_restore (same : s.restore t = s) (base : DataBase) : t.mark base = s.mark base := by
  have memory : (s.restore t).memory = s.memory := congrArg State.memory same
  funext node
  exact congrArg (fun memory => State.mark { s with memory } base node) memory

theorem close_addMark {pc : Nat} (close : ∀ span ∈ spans, pc < span.code + 2 ^ 31)
    (near : pc < mark.address + 2 ^ 31) : ∀ span ∈ addMark spans mark, pc < span.code + 2 ^ 31 := by
  intro span member
  rcases code_addMark member with here | ⟨before, isBefore, code⟩
  · exact here ▸ near
  · exact code ▸ close before isBefore

/-- The first loop of `_jit_annotate` adds the marks of all nodes. -/
theorem recorded_annotateNodes {base : DataBase} {nodes : List NoteNode} {last : Nat} (pc : Nat)
    (laid : s.database = some base) (recorded : Recorded s.notes spans)
    (ordered : Ordered spans last) (close : ∀ span ∈ spans, pc < span.code + 2 ^ 31)
    (sorted : nodes.Pairwise fun a b => (s.mark base a).address ≤ (s.mark base b).address)
    (within : ∀ node ∈ nodes, last ≤ (s.mark base node).address ∧
      (s.mark base node).address ≤ pc ∧ pc < (s.mark base node).address + 2 ^ 31)
    (ran : Returns (nodes.forM annotateNode) s () t) :
    Recorded t.notes ((nodes.map (s.mark base)).foldl addMark spans) := by
  induction nodes generalizing s spans last with
  | nil =>
    obtain ⟨-, rfl⟩ := (returns_pure () () s t).mp ran
    exact recorded
  | cons node rest ih =>
    obtain ⟨_, u, once, later⟩ := (returns_bind ..).mp ran
    obtain ⟨after, reached, near⟩ := within node List.mem_cons_self
    obtain ⟨first, sorted'⟩ := List.pairwise_cons.mp sorted
    have step := recorded_annotateNode laid recorded ordered after
      (fun span member => Nat.lt_of_le_of_lt reached (close span member)) once
    have same : s.restore u = s := annotates_annotateNode node s () u rfl once
    have database : (s.restore u).database = s.database := congrArg State.database same
    have marks := mark_restore same base
    have close' := close_addMark close near
    rw [List.map_cons, List.foldl_cons]
    rw [← marks] at sorted' first within step close' after ⊢
    exact ih (database.trans laid) step (ordered_addMark ordered after) close' sorted'
      (fun other member => ⟨first other member, (within other (List.mem_cons_of_mem _ member)).2⟩)
      later

end Round

/-! ### The whole of `_jit_annotate` -/

/-- The lines and arrays of the notes move to the data buffer, the notes stay as they are. -/
theorem erase_modifyNote {at_ : Nat} {g : Note → Note} (same : ∀ note, (g note).erase = note.erase) :
    (s.modifyNote at_ g).notes.map Note.erase = s.notes.map Note.erase :=
  map_modify_of_eq _ _ same _ _

theorem erase_modifyLine {at_ index : Nat} {h : Line → Line}
    (same : ∀ line, (h line).erase = line.erase) :
    (s.modifyLine at_ index h).notes.map Note.erase = s.notes.map Note.erase := by
  refine erase_modifyNote fun note => ?_
  rw [Note.erase, map_modify_of_eq _ _ same, Note.erase]

section Erase

variable {erased : List Note} (at_ index : Nat)

theorem erase_dropLines (note : Note) :
    (s.dropLines at_ note).notes.map Note.erase = s.notes.map Note.erase :=
  erase_modifyNote (s := s.release note.linesPtr)
    (g := fun note => { note with linesPtr := none }) fun _ => rfl

theorem erase_dropLinenos (line : Line) :
    (s.dropLinenos at_ index line).notes.map Note.erase = s.notes.map Note.erase :=
  erase_modifyLine (s := s.release line.linenosPtr)
    (h := fun line => { line with linenosPtr := none }) fun _ => rfl

theorem erase_dropOffsets (line : Line) :
    (s.dropOffsets at_ index line).notes.map Note.erase = s.notes.map Note.erase :=
  erase_modifyLine (s := s.release line.offsetsPtr)
    (h := fun line => { line with offsetsPtr := none }) fun _ => rfl

theorem erase_takeSpace (length : Nat) :
    Keeps (fun s : State W => s.notes.map Note.erase = erased) (takeSpace length) :=
  keeps_bind keeps_fetch fun _ => keeps_bind (keeps_check _ _) fun _ =>
    keeps_update fun _ before => before

theorem erase_relocateLines :
    Keeps (fun s : State W => s.notes.map Note.erase = erased) (relocateLines at_) :=
  keeps_bind keeps_fetch fun _ => keeps_bind (keeps_expect _ _) fun note =>
    keeps_ite (keeps_pure _) <| keeps_bind (erase_takeSpace _) fun _ =>
      keeps_update fun _ before => (erase_dropLines at_ note).trans before

theorem erase_relocateEntries :
    Keeps (fun s : State W => s.notes.map Note.erase = erased) (relocateEntries at_ index) :=
  keeps_bind keeps_fetch fun _ => keeps_bind (keeps_expect _ _) fun _ =>
    keeps_bind (keeps_expect _ _) fun line => keeps_bind (erase_takeSpace _) fun _ =>
      keeps_bind (keeps_update fun _ before => (erase_dropLinenos at_ index line).trans before)
        fun _ => keeps_bind (erase_takeSpace _) fun _ =>
          keeps_update fun _ before => (erase_dropOffsets at_ index line).trans before

theorem erase_relocateNote :
    Keeps (fun s : State W => s.notes.map Note.erase = erased) (relocateNote at_) :=
  keeps_bind keeps_fetch fun _ => keeps_bind (keeps_expect _ _) fun _ =>
    keeps_forM (erase_relocateEntries at_)

end Erase

/-- The marks are in order, and less than 2 GiB before the end of the code. -/
structure State.Marked (s : State W) (base : DataBase) (pc : Nat) : Prop where
  laid : s.database = some base
  sorted : (s.marks base).Pairwise fun a b => a.address ≤ b.address
  within : ∀ mark ∈ s.marks base, mark.address ≤ pc ∧ pc < mark.address + 2 ^ 31

/-- The last note ends where the code does. -/
def Ends (notes : List Note) (pc : Nat) : Prop :=
  ∀ note ∈ notes.getLast?, note.size = (pc : Int) - note.code

theorem ends_erase (notes : List Note) (pc : Nat) : Ends (notes.map Note.erase) pc ↔ Ends notes pc := by
  rw [Ends, List.getLast?_map, Option.forall_mem_map]
  rfl

/-- The last round leaves the size of the last note open. -/
theorem recorded_end {spans : List (Span StringRef)} (recorded : Recorded s.notes spans) (pc : Nat) :
    let ended := (s.modifyNote (s.notes.length - 1) fun note =>
      { note with size := (pc : Int) - note.code }).notes
    Recorded ended spans ∧ Ends ended pc := by
  intro ended
  rcases List.eq_nil_or_concat spans with rfl | ⟨frontSpans, span, rfl⟩
  · have empty : ended = [] := by
      change s.notes.modify (s.notes.length - 1) _ = []
      rw [recorded_nil_right recorded]
      rfl
    rw [empty, ← recorded_nil_right recorded]
    refine ⟨recorded, fun note isLast => ?_⟩
    rw [recorded_nil_right recorded] at isLast
    cases isLast
  · rw [List.concat_eq_append] at recorded ⊢
    obtain ⟨front, note, notes⟩ := recorded_concat recorded
    have modified : ended = front ++ [{ note with size := (pc : Int) - note.code }] := by
      change s.notes.modify (s.notes.length - 1) _ = _
      rw [notes, modify_last]
    rw [notes] at recorded
    obtain ⟨-, records, -⟩ := recorded_snoc.mp recorded
    rw [modified]
    refine ⟨recorded_last recorded rfl
      ⟨records.code, records.name, records.filled, records.entries⟩, fun last isLast => ?_⟩
    rw [List.getLast?_concat] at isLast
    obtain rfl := Option.some.inj isLast
    rfl

/-- `_jit_annotate` leaves the spans of the marks. -/
theorem recorded_jitAnnotate {base : DataBase} {pc : Nat} (marked : s.Marked base pc)
    (ran : Returns (jitAnnotate pc) s () t) :
    Recorded t.notes (spansOf (s.marks base)) ∧ Ends t.notes pc := by
  simp only [jitAnnotate, returns_bind, returns_update, returns_fetch] at ran
  obtain ⟨_, _, rfl, _, _, ⟨rfl, rfl⟩, _, u, first, _, _, rfl, _, _, ⟨rfl, rfl⟩, _, v, second,
    third⟩ := ran
  have sorted := marked.sorted
  rw [State.marks, List.pairwise_map] at sorted
  have recorded : Recorded u.notes (spansOf (s.marks base)) := by
    refine recorded_annotateNodes (s := { s with notes := [] }) pc marked.laid
      ⟨List.Forall₂.nil, List.isChain_nil⟩ (ordered_nil 0) (fun _ member => absurd member List.not_mem_nil)
      sorted (fun node member => ⟨Nat.zero_le _, ?_⟩) first
    exact marked.within (s.mark base node) (List.mem_map_of_mem member)
  have ended := recorded_end recorded pc
  have moved : t.notes.map Note.erase = _ :=
    keeps_forM erase_relocateNote v () t (keeps_forM erase_relocateLines _ () v rfl second) third
  rw [← recorded_erase, ← ends_erase, moved, recorded_erase, ends_erase]
  exact ended

end Zjit
