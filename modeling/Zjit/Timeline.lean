import Zjit.Foundation.Floor
import Zjit.Word
import Mathlib.Data.List.Induction

/-!
# Names and notes along the code

What a lookup by address is for, whatever strings look like: names divide the code into spans, and
an address belongs to the last note up to it in its span. The same is said twice, as a scan of
everything up to the address and as a search among the spans.
-/
namespace Zjit

open Foundation

variable {σ : Type}

/-- A name or a note, at the address the code had reached. -/
structure Mark (σ : Type) where
  address : Nat
  isName : Bool
  text : σ
  line : CInt

/-! ### Scanning -/

/-- The last name, and the last note since. -/
structure Seen (σ : Type) where
  name : Option σ := none
  note : Option (σ × CInt) := none

def Seen.step (seen : Seen σ) (mark : Mark σ) : Seen σ :=
  if mark.isName then { name := some mark.text }
  else { seen with note := some (mark.text, mark.line) }

def Seen.upTo (marks : List (Mark σ)) (address : Nat) : Seen σ :=
  (marks.filter fun mark => mark.address ≤ address).foldl Seen.step {}

/-- The name, the file and the line for an address of code that ends at `pc`. -/
def lookupMarks (marks : List (Mark σ)) (pc address : Nat) : Option (Option σ × σ × CInt) :=
  let seen := Seen.upTo marks address
  if address < pc then seen.note.map fun note => (seen.name, note) else none

/-! ### Strings read -/

section Map

variable {τ : Type} (f : σ → τ)

def Mark.map (mark : Mark σ) : Mark τ := { mark with text := f mark.text }

def Seen.map (seen : Seen σ) : Seen τ where
  name := seen.name.map f
  note := seen.note.map fun note => (f note.1, note.2)

theorem step_map (seen : Seen σ) (mark : Mark σ) :
    (seen.map f).step (mark.map f) = (seen.step mark).map f := by
  unfold Seen.step
  have same : (mark.map f).isName = mark.isName := rfl
  rw [same]
  split <;> rfl

/-- It does not matter when the strings are read. -/
theorem lookupMarks_map (marks : List (Mark σ)) (pc address : Nat) :
    lookupMarks (marks.map (Mark.map f)) pc address =
      (lookupMarks marks pc address).map fun found => (found.1.map f, f found.2.1, found.2.2) := by
  have seen : Seen.upTo (marks.map (Mark.map f)) address = (Seen.upTo marks address).map f := by
    rw [Seen.upTo, List.filter_map, List.foldl_map, Seen.upTo]
    change List.foldl _ (Seen.map f {}) (marks.filter fun mark => mark.address ≤ address) = _
    exact List.foldl_hom (Seen.map f) (step_map f)
  rw [lookupMarks, lookupMarks, seen]
  split
  · rw [Seen.map, Option.map_map, Option.map_map]
    rfl
  · rfl

end Map

/-! ### Spans -/

/-- The code behind a name, with its notes. The notes before the first name have a span too. -/
structure Span (σ : Type) where
  code : Nat
  name : Option σ
  entries : List (Nat × σ × CInt)

def Mark.entry (mark : Mark σ) : Nat × σ × CInt := (mark.address, mark.text, mark.line)

def Span.add (span : Span σ) (mark : Mark σ) : Span σ :=
  { span with entries := span.entries ++ [mark.entry] }

/-- A name starts a span, a note joins the last one. -/
def addMark (spans : List (Span σ)) (mark : Mark σ) : List (Span σ) :=
  if mark.isName then spans ++ [{ code := mark.address, name := some mark.text, entries := [] }]
  else if spans = [] then [{ code := mark.address, name := none, entries := [mark.entry] }]
  else spans.modify (spans.length - 1) (Span.add · mark)

def spansOf (marks : List (Mark σ)) : List (Span σ) := marks.foldl addMark []

def Span.lookup (span : Span σ) (address : Nat) : Option (σ × CInt) :=
  (floor (fun entry => entry.1 ≤ address) span.entries).map Prod.snd

def spanAt (spans : List (Span σ)) (address : Nat) : Option (Span σ) :=
  floor (fun span => span.code ≤ address) spans

def lookupSpans (spans : List (Span σ)) (pc address : Nat) : Option (Option σ × σ × CInt) :=
  if address < pc then
    (spanAt spans address).bind fun span =>
      (span.lookup address).map fun note => (span.name, note)
  else none

/-! ### The order of the marks -/

/-- The entries of a span are in order, from its code up to `last`. -/
structure Span.Fits (span : Span σ) (last : Nat) : Prop where
  code : span.code ≤ last
  entries : span.entries.Pairwise fun a b => a.1 ≤ b.1
  inside : ∀ entry ∈ span.entries, span.code ≤ entry.1 ∧ entry.1 ≤ last

/-- The spans are in order, up to `last`. -/
structure Ordered (spans : List (Span σ)) (last : Nat) : Prop where
  codes : spans.Pairwise fun a b => a.code ≤ b.code
  fits : ∀ span ∈ spans, span.Fits last

theorem Span.Fits.mono {span : Span σ} {last later : Nat} (fits : span.Fits last)
    (more : last ≤ later) : span.Fits later where
  code := Nat.le_trans fits.code more
  entries := fits.entries
  inside entry member :=
    ⟨(fits.inside entry member).1, Nat.le_trans (fits.inside entry member).2 more⟩

/-- A span without entries. -/
theorem Span.fits_nil (code : Nat) (name : Option σ) :
    Span.Fits { code, name, entries := [] } code :=
  ⟨Nat.le_refl code, List.Pairwise.nil, fun _ member => nomatch member⟩

/-- An entry behind the others. -/
theorem Span.Fits.add {span : Span σ} {mark : Mark σ} {last : Nat} (fits : span.Fits last)
    (later : last ≤ mark.address) : (span.add mark).Fits mark.address where
  code := Nat.le_trans fits.code later
  entries := by
    refine List.pairwise_append.mpr ⟨fits.entries, List.pairwise_singleton _ _, fun a isOld b isNew => ?_⟩
    rw [List.mem_singleton.mp isNew]
    exact Nat.le_trans (fits.inside a isOld).2 later
  inside entry member := by
    rcases List.mem_append.mp member with isOld | isNew
    · exact (fits.mono later).inside entry isOld
    · rw [List.mem_singleton.mp isNew]
      exact ⟨Nat.le_trans fits.code later, Nat.le_refl _⟩

theorem ordered_nil (last : Nat) : Ordered ([] : List (Span σ)) last :=
  ⟨List.Pairwise.nil, fun _ member => nomatch member⟩

/-- A span behind the others. -/
theorem ordered_snoc {front : List (Span σ)} {span : Span σ} {last later : Nat}
    (ordered : Ordered front last) (more : last ≤ later) (fits : span.Fits later)
    (codes : ∀ before ∈ front, before.code ≤ span.code) : Ordered (front ++ [span]) later where
  codes := by
    refine List.pairwise_append.mpr
      ⟨ordered.codes, List.pairwise_singleton _ _, fun before member new isNew => ?_⟩
    rw [List.mem_singleton.mp isNew]
    exact codes before member
  fits other member := by
    rcases List.mem_append.mp member with before | isNew
    · exact (ordered.fits other before).mono more
    · rw [List.mem_singleton.mp isNew]
      exact fits

theorem ordered_front {front : List (Span σ)} {span : Span σ} {last : Nat}
    (ordered : Ordered (front ++ [span]) last) :
    Ordered front last ∧ span.Fits last ∧ ∀ before ∈ front, before.code ≤ span.code := by
  obtain ⟨codes, -, cross⟩ := List.pairwise_append.mp ordered.codes
  refine ⟨⟨codes, fun other member => ordered.fits other (List.mem_append_left _ member)⟩, ?_, ?_⟩
  · exact ordered.fits span (List.mem_append_right _ (List.mem_singleton_self _))
  · exact fun before member => cross before member span (List.mem_singleton_self _)

theorem modify_last {α : Type} (front : List α) (last : α) (f : α → α) :
    (front ++ [last]).modify ((front ++ [last]).length - 1) f = front ++ [f last] := by
  induction front with
  | nil => rfl
  | cons first rest ih =>
    have place : (first :: rest ++ [last]).length - 1 = ((rest ++ [last]).length - 1) + 1 := by
      simp only [List.cons_append, List.length_cons, List.length_append, List.length_nil]
      omega
    rw [place, List.cons_append, List.modify_succ_cons, ih, List.cons_append]

theorem addMark_name {mark : Mark σ} (name : mark.isName = true) (spans : List (Span σ)) :
    addMark spans mark =
      spans ++ [{ code := mark.address, name := some mark.text, entries := [] }] := by
  rw [addMark, name, if_pos rfl]

theorem addMark_first {mark : Mark σ} (note : mark.isName = false) :
    addMark [] mark = [{ code := mark.address, name := none, entries := [mark.entry] }] := by
  rw [addMark, note, if_neg Bool.false_ne_true, if_pos rfl]

theorem addMark_note {mark : Mark σ} (note : mark.isName = false) (front : List (Span σ))
    (last : Span σ) : addMark (front ++ [last]) mark = front ++ [last.add mark] := by
  have nonempty : front ++ [last] ≠ [] := List.append_ne_nil_of_right_ne_nil _ (List.cons_ne_nil _ _)
  rw [addMark, note, if_neg Bool.false_ne_true, if_neg nonempty, modify_last]

/-- Spans start where spans have started before, or at the mark. -/
theorem code_addMark {spans : List (Span σ)} {mark : Mark σ} {span : Span σ}
    (member : span ∈ addMark spans mark) :
    span.code = mark.address ∨ ∃ before ∈ spans, before.code = span.code := by
  cases isName : mark.isName with
  | true =>
    rw [addMark_name isName] at member
    rcases List.mem_append.mp member with before | new
    · exact .inr ⟨span, before, rfl⟩
    · exact .inl (List.mem_singleton.mp new ▸ rfl)
  | false =>
    rcases List.eq_nil_or_concat spans with rfl | ⟨front, last, rfl⟩
    · rw [addMark_first isName] at member
      exact .inl (List.mem_singleton.mp member ▸ rfl)
    · rw [List.concat_eq_append] at member ⊢
      rw [addMark_note isName] at member
      rcases List.mem_append.mp member with before | new
      · exact .inr ⟨span, List.mem_append_left _ before, rfl⟩
      · exact .inr ⟨last, List.mem_append_right _ (List.mem_singleton_self _),
          List.mem_singleton.mp new ▸ rfl⟩

/-- Spans start at marks. -/
theorem code_spansOf {marks : List (Mark σ)} {span : Span σ} (member : span ∈ spansOf marks) :
    ∃ mark ∈ marks, mark.address = span.code := by
  induction marks using List.reverseRecOn generalizing span with
  | nil => cases member
  | append_singleton front mark ih =>
    rw [spansOf, List.foldl_append] at member
    rcases code_addMark member with here | ⟨before, isBefore, code⟩
    · exact ⟨mark, List.mem_append_right _ (List.mem_singleton_self _), here.symm⟩
    · obtain ⟨other, isMark, same⟩ := ih isBefore
      exact ⟨other, List.mem_append_left _ isMark, same.trans code⟩

/-- A mark behind the others keeps the spans in order. -/
theorem ordered_addMark {spans : List (Span σ)} {mark : Mark σ} {last : Nat}
    (ordered : Ordered spans last) (later : last ≤ mark.address) :
    Ordered (addMark spans mark) mark.address := by
  cases isName : mark.isName with
  | true =>
    rw [addMark_name isName]
    refine ordered_snoc ordered later (Span.fits_nil _ _) fun before member => ?_
    exact Nat.le_trans (ordered.fits before member).code later
  | false =>
    rcases List.eq_nil_or_concat spans with rfl | ⟨front, span, rfl⟩
    · rw [addMark_first isName]
      refine ordered_snoc (ordered_nil 0) (Nat.zero_le _) ?_ fun _ member => nomatch member
      exact (Span.fits_nil mark.address none).add (Nat.le_refl _)
    · rw [List.concat_eq_append] at ordered ⊢
      rw [addMark_note isName]
      obtain ⟨front', fits, codes⟩ := ordered_front ordered
      exact ordered_snoc front' later (fits.add later) codes

/-- Marks in the order of their addresses give spans in order. -/
theorem ordered_spansOf {marks : List (Mark σ)}
    (sorted : marks.Pairwise fun a b => a.address ≤ b.address) {last : Nat}
    (bounded : ∀ mark ∈ marks, mark.address ≤ last) : Ordered (spansOf marks) last := by
  induction marks using List.reverseRecOn generalizing last with
  | nil => exact ordered_nil last
  | append_singleton front mark ih =>
    obtain ⟨sorted', -, cross⟩ := List.pairwise_append.mp sorted
    have isLast : mark ∈ front ++ [mark] := List.mem_append_right _ (List.mem_singleton_self _)
    have before := ih sorted' fun other member => cross other member mark (List.mem_singleton_self _)
    rw [spansOf, List.foldl_append]
    have ordered : Ordered (addMark (spansOf front) mark) mark.address :=
      ordered_addMark before (Nat.le_refl _)
    exact ⟨ordered.codes, fun span member => (ordered.fits span member).mono (bounded mark isLast)⟩

/-! ### The two lookups agree -/

/-- What has been seen up to an address is what the span at the address says. -/
def Span.Shows (spans : List (Span σ)) (address : Nat) (seen : Seen σ) : Prop :=
  match spanAt spans address with
  | none => seen = {}
  | some span => seen.name = span.name ∧ seen.note = span.lookup address

theorem spanAt_snoc (front : List (Span σ)) (span : Span σ) (address : Nat) :
    spanAt (front ++ [span]) address =
      if span.code ≤ address then some span else spanAt front address := by
  rw [spanAt, floor_snoc]
  simp only [decide_eq_true_eq]
  rfl

theorem lookup_add (span : Span σ) (mark : Mark σ) (address : Nat) :
    (span.add mark).lookup address =
      if mark.address ≤ address then some (mark.text, mark.line) else span.lookup address := by
  rw [Span.lookup, Span.add, floor_snoc]
  by_cases here : mark.address ≤ address
  · have shown : decide (mark.entry.1 ≤ address) = true := decide_eq_true here
    rw [if_pos shown, if_pos here]
    rfl
  · have hidden : ¬ decide (mark.entry.1 ≤ address) = true := fun shown =>
      here (of_decide_eq_true shown)
    rw [if_neg hidden, if_neg here]
    rfl

theorem upTo_snoc (front : List (Mark σ)) (mark : Mark σ) (address : Nat) :
    Seen.upTo (front ++ [mark]) address =
      if mark.address ≤ address then (Seen.upTo front address).step mark
      else Seen.upTo front address := by
  rw [Seen.upTo, List.filter_append, List.foldl_append]
  by_cases here : mark.address ≤ address
  · simp only [List.filter_cons, here, decide_true, if_true, List.filter_nil, List.foldl_cons,
      List.foldl_nil]
    rfl
  · simp only [List.filter_cons, here, decide_false, Bool.false_eq_true, if_false, List.filter_nil,
      List.foldl_nil]
    rfl

theorem shows_addMark {spans : List (Span σ)} {mark : Mark σ} {last address : Nat} {seen : Seen σ}
    (ordered : Ordered spans last) (later : last ≤ mark.address)
    (shows_ : Span.Shows spans address seen) :
    Span.Shows (addMark spans mark) address
      (if mark.address ≤ address then seen.step mark else seen) := by
  unfold Span.Shows at shows_ ⊢
  cases isName : mark.isName with
  | true =>
    -- A name opens a span of its own.
    rw [addMark_name isName, spanAt_snoc]
    by_cases here : mark.address ≤ address
    · simp only [if_pos here, Seen.step, isName, if_true]
      exact ⟨trivial, rfl⟩
    · simp only [if_neg here]
      exact shows_
  | false =>
    rcases List.eq_nil_or_concat spans with rfl | ⟨front, span, rfl⟩
    · -- A note before all names opens one without a name.
      have fresh : seen = {} := shows_
      rw [addMark_first isName, ← List.nil_append [_], spanAt_snoc]
      by_cases here : mark.address ≤ address
      · simp only [if_pos here, Seen.step, isName, Bool.false_eq_true, if_false, fresh]
        have shown := lookup_add { code := mark.address, name := none, entries := [] } mark address
        rw [if_pos here] at shown
        exact ⟨trivial, shown.symm⟩
      · simp only [if_neg here]
        exact shows_
    · rw [List.concat_eq_append] at ordered shows_ ⊢
      rw [addMark_note isName, spanAt_snoc]
      rw [spanAt_snoc] at shows_
      have same : (span.add mark).code = span.code := rfl
      rw [same]
      by_cases here : mark.address ≤ address
      · -- Marks come in order, so the span is reached where the mark is.
        have reached : span.code ≤ address :=
          Nat.le_trans (ordered_front ordered).2.1.code (Nat.le_trans later here)
        simp only [if_pos reached] at shows_ ⊢
        simp only [if_pos here, Seen.step, isName, Bool.false_eq_true, if_false, lookup_add]
        exact ⟨shows_.1, trivial⟩
      · by_cases reached : span.code ≤ address
        · simp only [if_pos reached] at shows_ ⊢
          simp only [if_neg here, lookup_add]
          exact shows_
        · simp only [if_neg reached] at shows_ ⊢
          rw [if_neg here]
          exact shows_

theorem shows_spansOf {marks : List (Mark σ)}
    (sorted : marks.Pairwise fun a b => a.address ≤ b.address) (address : Nat) :
    Span.Shows (spansOf marks) address (Seen.upTo marks address) := by
  induction marks using List.reverseRecOn with
  | nil => rfl
  | append_singleton front mark ih =>
    obtain ⟨sorted', -, cross⟩ := List.pairwise_append.mp sorted
    have ordered := ordered_spansOf sorted' fun other member =>
      cross other member mark (List.mem_singleton_self _)
    rw [upTo_snoc, spansOf, List.foldl_append]
    exact shows_addMark ordered (Nat.le_refl _) (ih sorted')

/-- The search among the spans finds what the scan finds. -/
theorem lookupSpans_eq {marks : List (Mark σ)}
    (sorted : marks.Pairwise fun a b => a.address ≤ b.address) (pc address : Nat) :
    lookupSpans (spansOf marks) pc address = lookupMarks marks pc address := by
  have shows_ := shows_spansOf sorted address
  unfold Span.Shows at shows_
  unfold lookupSpans lookupMarks
  split
  · split at shows_
    next none_ =>
      rw [none_, shows_]
      rfl
    next span found =>
      obtain ⟨name, note⟩ := shows_
      simp only [found, name, note]
      rfl
  · rfl

end Zjit
