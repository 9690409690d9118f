import Zjit.Annotation
import Zjit.Timeline
import Mathlib.Data.List.Forall2
import Mathlib.Data.List.Chain

/-!
# Looking up an address

The annotations that `_jit_annotate` leaves, with their arrays and binary searches, refine the
spans of names and notes: `_jit_get_note` finds the last note up to the address in its span.
-/
namespace Zjit

open Foundation Program

variable {W : WordSize} {s t : State W}

/-! ### Searching an array -/

section Keys

variable {keys : List CInt} {offset : CInt}

/-- The keys up to an offset. -/
def upTo (offset : CInt) (key : CInt) : Bool := key.sle offset

theorem slt_eq_not_upTo (offset key : CInt) : offset.slt key = !upTo offset key := by
  rw [upTo, BitVec.slt_eq_decide, BitVec.sle_eq_decide, ← decide_not, decide_eq_decide]
  exact (Int.not_le).symm

theorem getD_of_found {key : CInt} {i : Nat} (found : keys[i]? = some key) : keys.getD i 0 = key := by
  rw [List.getD_eq_getElem?_getD, found]
  rfl

theorem insertIndex_eq (initial : Initial (upTo offset) keys) :
    insertIndex keys offset = keys.countP (upTo offset) := by
  refine search_count initial (fun i key found lacks => ?_) fun i key found has => ?_
  · rw [getD_of_found found, slt_eq_not_upTo, lacks]
    rfl
  · rw [getD_of_found found, slt_eq_not_upTo, has]
    rfl

/-- The last key up to the offset, or the first key of all. -/
theorem searchIndex_eq (initial : Initial (upTo offset) keys) :
    searchIndex keys offset = keys.countP (upTo offset) - 1 := by
  have bounded : keys.countP (upTo offset) ≤ keys.length := List.countP_le_length
  refine search_floor initial (fun i key found lacks => ?_) (fun i inside last => ?_)
    fun i inner => ?_
  · rw [getD_of_found found, slt_eq_not_upTo, lacks]
    rfl
  · have found : keys[i]? = some keys[i] := List.getElem?_eq_getElem inside
    have has : upTo offset keys[i] = true := (initial.iff_lt_count found).mpr (by omega)
    rw [getD_of_found found, slt_eq_not_upTo, has]
    -- It is the last key, or the next one is beyond the offset.
    have stops : i = keys.length - 1 ∨
        keys[i].sle offset = true ∧ offset.slt (keys.getD (i + 1) 0) = true := by
      by_cases final : i = keys.length - 1
      · exact .inl final
      · have next : keys[i + 1]? = some keys[i + 1] := List.getElem?_eq_getElem (by omega)
        have beyond : upTo offset keys[i + 1] = false := by
          refine Bool.eq_false_iff.mpr fun reached => ?_
          have below := (initial.iff_lt_count next).mp reached
          omega
        refine .inr ⟨has, ?_⟩
        rw [getD_of_found next, slt_eq_not_upTo, beyond]
        rfl
    rw [if_neg (by decide), if_pos stops]
    decide
  · have found : keys[i]? = some keys[i] := List.getElem?_eq_getElem (by omega)
    have has : upTo offset keys[i] = true := (initial.iff_lt_count found).mpr (by omega)
    have next : keys[i + 1]? = some keys[i + 1] := List.getElem?_eq_getElem (by omega)
    have reached : upTo offset keys[i + 1] = true := (initial.iff_lt_count next).mpr inner
    rw [getD_of_found found, slt_eq_not_upTo, has, getD_of_found next, slt_eq_not_upTo, reached]
    rw [if_neg (by decide), if_neg]
    rintro (final | ⟨-, stops⟩)
    · omega
    · cases stops

end Keys

/-! ### Searching the lines of a note -/

section Lines

variable {line : Line} {lines : List Line} {offset : CInt}

/-- The entries of a line, each with its file. -/
def Line.entries (line : Line) : List (CInt × StringRef × CInt) :=
  (line.offsets.zip line.linenos).map fun entry => (entry.1, line.file, entry.2)

/-- Both arrays have the same length, and there is an entry. -/
structure Line.Filled (line : Line) : Prop where
  some_ : line.offsets ≠ []
  same : line.linenos.length = line.offsets.length

def entryUpTo (offset : CInt) (entry : CInt × StringRef × CInt) : Bool := upTo offset entry.1

theorem entries_offsets (filled : line.Filled) : line.entries.map Prod.fst = line.offsets := by
  rw [Line.entries, List.map_map]
  exact List.map_fst_zip (Nat.le_of_eq filled.same.symm)

theorem initial_entries (filled : line.Filled) :
    Initial (entryUpTo offset) line.entries ↔ Initial (upTo offset) line.offsets := by
  rw [← entries_offsets filled, Initial, Initial, List.pairwise_map]
  exact Iff.rfl

theorem countP_entries (filled : line.Filled) :
    line.entries.countP (entryUpTo offset) = line.offsets.countP (upTo offset) := by
  rw [← entries_offsets filled, List.countP_map]
  rfl

theorem entries_getElem {i : Nat} {entry : CInt × StringRef × CInt}
    (found : line.entries[i]? = some entry) :
    entry.2.1 = line.file ∧ line.linenos[i]? = some entry.2.2 := by
  rw [Line.entries, List.getElem?_map] at found
  obtain ⟨pair, isPair, rfl⟩ := Option.map_eq_some_iff.mp found
  exact ⟨rfl, (List.getElem?_zip_eq_some.mp isPair).2⟩

theorem first_cons (filled : line.Filled) : ∃ rest, line.offsets = line.first :: rest := by
  cases offsets : line.offsets with
  | nil => exact absurd offsets filled.some_
  | cons first rest =>
    rw [Line.first, offsets]
    exact ⟨rest, rfl⟩

/-- Where some entry of a line is up to the offset, the first is. -/
theorem first_upTo (filled : line.Filled) (initial : Initial (entryUpTo offset) line.entries)
    {entry : CInt × StringRef × CInt} (member : entry ∈ line.entries)
    (reached : entryUpTo offset entry = true) : upTo offset line.first = true := by
  obtain ⟨rest, offsets⟩ := first_cons filled
  have isOffset : entry.1 ∈ line.offsets := entries_offsets filled ▸ List.mem_map_of_mem member
  have initial' := (initial_entries filled).mp initial
  rw [offsets] at isOffset initial'
  rcases List.mem_cons.mp isOffset with first | later
  · exact first ▸ reached
  · exact (List.pairwise_cons.mp initial').1 entry.1 later reached

theorem first_mem (filled : line.Filled) : ∃ entry ∈ line.entries, entry.1 = line.first := by
  obtain ⟨rest, offsets⟩ := first_cons filled
  have isFirst : line.first ∈ line.entries.map Prod.fst := by
    rw [entries_offsets filled, offsets]
    exact List.mem_cons_self
  exact List.mem_map.mp isFirst

/-- What the second half of `_jit_get_note` finds among the lines of a note. -/
def lookupLines (lines : List Line) (offset : CInt) : Option (StringRef × CInt) := do
  let index := searchIndex (lines.map Line.first) offset
  let line ← lines[index]?
  if index = 0 ∧ offset.slt line.first then none
  let lineno ← line.linenos[searchIndex line.offsets offset]?
  return (line.file, lineno)

theorem initial_firsts (filled : ∀ line ∈ lines, line.Filled)
    (initial : Initial (entryUpTo offset) (lines.flatMap Line.entries)) :
    Initial (upTo offset) (lines.map Line.first) := by
  refine List.pairwise_map.mpr ?_
  refine (List.pairwise_flatMap.mp initial).2.imp_of_mem fun {a b} isA isB cross reached => ?_
  obtain ⟨entryA, memberA, firstA⟩ := first_mem (filled a isA)
  obtain ⟨entryB, memberB, firstB⟩ := first_mem (filled b isB)
  have reachedB : entryUpTo offset entryB = true := by
    rw [entryUpTo, firstB]
    exact reached
  exact firstA ▸ cross entryA memberA entryB memberB reachedB

/-- An element and what stands around it. -/
theorem split_at_index {α : Type} {list : List α} {i : Nat} {a : α} (found : list[i]? = some a) :
    ∃ before after, list = before ++ a :: after ∧ before.length = i := by
  obtain ⟨inside, rfl⟩ := List.getElem?_eq_some_iff.mp found
  refine ⟨list.take i, list.drop (i + 1), ?_, List.length_take_of_le (Nat.le_of_lt inside)⟩
  rw [← List.drop_eq_getElem_cons inside, List.take_append_drop]

/-- The last entry of all lines up to the offset is found through the last line that starts up to
the offset. -/
theorem lookupLines_eq (filled : ∀ line ∈ lines, line.Filled)
    (initial : Initial (entryUpTo offset) (lines.flatMap Line.entries)) :
    lookupLines lines offset =
      (floor (entryUpTo offset) (lines.flatMap Line.entries)).map Prod.snd := by
  have firsts := initial_firsts filled initial
  have inLine (line : Line) (member : line ∈ lines) : Initial (entryUpTo offset) line.entries :=
    (List.pairwise_flatMap.mp initial).1 line member
  -- A line that starts beyond the offset has no entry up to it.
  have beyond (line : Line) (member : line ∈ lines) (late : upTo offset line.first = false) :
      line.entries.countP (entryUpTo offset) = 0 := by
    refine List.countP_eq_zero.mpr fun entry isEntry reached => ?_
    have early := first_upTo (filled line member) (inLine line member) isEntry reached
    exact Bool.false_ne_true (late.symm.trans early)
  have index := searchIndex_eq firsts
  rcases Nat.eq_zero_or_pos ((lines.map Line.first).countP (upTo offset)) with none_ | some_
  · have late (line : Line) (member : line ∈ lines) : upTo offset line.first = false :=
      Bool.eq_false_iff.mpr (List.countP_eq_zero.mp none_ line.first (List.mem_map_of_mem member))
    have nothing : floor (entryUpTo offset) (lines.flatMap Line.entries) = none := by
      refine floor_eq_none (List.countP_eq_zero.mpr fun entry member => ?_)
      obtain ⟨line, isLine, isEntry⟩ := List.mem_flatMap.mp member
      exact List.countP_eq_zero.mp (beyond line isLine (late line isLine)) entry isEntry
    rw [nothing, lookupLines, index, none_]
    cases found : lines[0]? with
    | none => rfl
    | some line =>
      have stops : offset.slt line.first = true := by
        rw [slt_eq_not_upTo, late line (List.mem_of_getElem? found)]
        rfl
      simp only [Option.bind_eq_bind, Option.bind_some, stops, and_self, if_true]
      rfl
  · have bounded : (lines.map Line.first).countP (upTo offset) ≤ (lines.map Line.first).length :=
      List.countP_le_length
    rw [List.length_map] at bounded
    obtain ⟨line, found⟩ :
        ∃ line, lines[(lines.map Line.first).countP (upTo offset) - 1]? = some line :=
      ⟨_, List.getElem?_eq_getElem (by omega)⟩
    have isLine : line ∈ lines := List.mem_of_getElem? found
    have early : upTo offset line.first = true := by
      refine (firsts.iff_lt_count (i := (lines.map Line.first).countP (upTo offset) - 1) ?_).mpr
        (by omega)
      rw [List.getElem?_map, found]
      rfl
    obtain ⟨before, after, parts, place⟩ := split_at_index found
    -- The lines behind the found one start beyond the offset.
    have later : floor (entryUpTo offset) (after.flatMap Line.entries) = none := by
      refine floor_eq_none (List.countP_eq_zero.mpr fun entry member => ?_)
      obtain ⟨other, isOther, isEntry⟩ := List.mem_flatMap.mp member
      obtain ⟨j, inAfter⟩ := List.getElem?_of_mem isOther
      have place' : (lines.map Line.first)[before.length + (j + 1)]? = some other.first := by
        rw [parts, List.getElem?_map, List.getElem?_append_right (Nat.le_add_right _ _),
          Nat.add_sub_cancel_left, List.getElem?_cons_succ, inAfter]
        rfl
      have late : upTo offset other.first = false := by
        refine Bool.eq_false_iff.mpr fun reached => ?_
        have below := (firsts.iff_lt_count place').mp reached
        omega
      have member' : other ∈ lines := parts ▸ List.mem_append_right _ (List.mem_cons_of_mem _ isOther)
      exact List.countP_eq_zero.mp (beyond other member' late) entry isEntry
    have inside : 0 < line.entries.countP (entryUpTo offset) := by
      obtain ⟨entry, isEntry, first⟩ := first_mem (filled line isLine)
      refine List.countP_pos_iff.mpr ⟨entry, isEntry, ?_⟩
      rw [entryUpTo, first]
      exact early
    have here := (inLine line isLine).floor_eq inside
    have inner := searchIndex_eq ((initial_entries (filled line isLine)).mp (inLine line isLine))
    rw [← countP_entries (filled line isLine)] at inner
    have within : line.entries.countP (entryUpTo offset) ≤ line.entries.length :=
      List.countP_le_length
    obtain ⟨last, entry⟩ :
        ∃ last, line.entries[line.entries.countP (entryUpTo offset) - 1]? = some last :=
      ⟨_, List.getElem?_eq_getElem (by omega)⟩
    obtain ⟨file, lineno⟩ := entries_getElem entry
    have allOf : floor (entryUpTo offset) (lines.flatMap Line.entries) = some last := by
      rw [parts, List.flatMap_append, List.flatMap_cons, floor_append, floor_append, later, here,
        entry]
      rfl
    have reached : offset.slt line.first = false := by
      rw [slt_eq_not_upTo, early]
      rfl
    rw [allOf, lookupLines, index, found]
    simp only [Option.bind_eq_bind, Option.bind_some, reached, Bool.false_eq_true, and_false,
      if_false, inner, lineno, Option.map_some, pure, ← file]

end Lines

end Zjit
