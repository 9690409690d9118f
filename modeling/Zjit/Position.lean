import Zjit.Layout
import Zjit.Recording

/-!
# Positions in the source

`_jit_get_note` finds the span of an address and the last note in it. Over whole runs: the names,
files and lines that the calls have left come back, with their strings in the data buffer.
-/
namespace Zjit

open Foundation Program

variable {W : WordSize} {s t : State W}

/-! ### Finding the note of an address -/

section Search

variable {notes : List Note} {note : Note} {spans : List (Span StringRef)} {pc address i : Nat}

theorem recorded_getElem (recorded : Recorded notes spans) (found : notes[i]? = some note) :
    ∃ span, spans[i]? = some span ∧ note.Records span := by
  obtain ⟨inside, rfl⟩ := List.getElem?_eq_some_iff.mp found
  have inside' : i < spans.length := recorded.each.length_eq ▸ inside
  exact ⟨spans[i], List.getElem?_eq_getElem inside', recorded.each.get inside inside'⟩

/-- Notes start where their spans do. -/
theorem recorded_codes (recorded : Recorded notes spans) :
    notes.map Note.code = spans.map Span.code := by
  refine List.forall₂_eq_eq_eq ▸ ?_
  rw [List.forall₂_map_left_iff, List.forall₂_map_right_iff]
  exact recorded.each.imp fun _ _ records => records.code

/-- A note ends where the next one starts, the last one where the code does. -/
theorem note_end (recorded : Recorded notes spans) (ends : Ends notes pc)
    (found : notes[i]? = some note) :
    note.code + note.size = match notes[i + 1]? with
      | some next => (next.code : Int)
      | none => pc := by
  obtain ⟨inside, rfl⟩ := List.getElem?_eq_some_iff.mp found
  by_cases more : i + 1 < notes.length
  · have size := List.isChain_iff_getElem.mp recorded.sizes i more
    rw [List.getElem?_eq_getElem more, size]
    simp only
    omega
  · have isLast : notes[i] ∈ notes.getLast? := by
      rw [List.getLast?_eq_getElem?, show notes.length - 1 = i by omega]
      exact found
    rw [List.getElem?_eq_none (Nat.le_of_not_lt more), ends _ isLast]
    simp only
    omega

def Note.upTo (address : Nat) (note : Note) : Bool := note.code ≤ address

theorem initial_codes (recorded : Recorded notes spans) (ordered : Ordered spans pc) :
    Initial (Note.upTo address) notes := by
  have codes : (notes.map Note.code).Pairwise (· ≤ ·) := by
    rw [recorded_codes recorded]
    exact List.pairwise_map.mpr ordered.codes
  refine (List.pairwise_map.mp codes).imp fun inOrder reached => ?_
  exact decide_eq_true (Nat.le_trans inOrder (of_decide_eq_true reached))

/-- The last note that starts up to the address covers it. -/
theorem last_covers (recorded : Recorded notes spans) (ends : Ends notes pc)
    (ordered : Ordered spans pc) (below : address < pc) (found : notes[i]? = some note)
    (last : i + 1 = notes.countP (Note.upTo address)) :
    note.code ≤ address ∧ (address : Int) < note.code + note.size := by
  have initial : Initial (Note.upTo address) notes := initial_codes recorded ordered
  refine ⟨of_decide_eq_true ((initial.iff_lt_count found).mpr (by omega)), ?_⟩
  rw [note_end recorded ends found]
  split
  next next isNext =>
    have late : ¬ next.code ≤ address := by
      intro reached
      have inside := (initial.iff_lt_count isNext).mp (decide_eq_true reached)
      omega
    omega
  next => omega

/-- `note_search_index` finds the last note that starts up to the address. -/
theorem noteSearchIndex_eq (recorded : Recorded notes spans) (ends : Ends notes pc)
    (ordered : Ordered spans pc) (below : address < pc) :
    noteSearchIndex notes address = notes.countP (Note.upTo address) - 1 := by
  have initial : Initial (Note.upTo address) notes := initial_codes recorded ordered
  have bounded : notes.countP (Note.upTo address) ≤ notes.length := List.countP_le_length
  refine search_floor initial (fun i note found lacks => ?_) (fun i inside last => ?_)
    fun i inner => ?_
  · have late : address < note.code := Nat.lt_of_not_le (of_decide_eq_false lacks)
    simp only [found, if_pos late]
  · have found : notes[i]? = some notes[i] := List.getElem?_eq_getElem inside
    obtain ⟨early, end_⟩ := last_covers recorded ends ordered below found last
    have covers : ((address : Int) - notes[i].code) < notes[i].size := by omega
    simp only [found, if_neg (Nat.not_lt.mpr early), if_pos covers]
    decide
  · have found : notes[i]? = some notes[i] := List.getElem?_eq_getElem (by omega)
    have isNext : notes[i + 1]? = some notes[i + 1] := List.getElem?_eq_getElem (by omega)
    have early : notes[i].code ≤ address :=
      of_decide_eq_true ((initial.iff_lt_count found).mpr (by omega))
    have reached : notes[i + 1].code ≤ address :=
      of_decide_eq_true ((initial.iff_lt_count isNext).mpr inner)
    have end_ := note_end recorded ends found
    simp only [isNext] at end_
    have ended : ¬ ((address : Int) - notes[i].code) < notes[i].size := by omega
    simp only [found, if_neg (Nat.not_lt.mpr early), if_neg ended]

/-- An address inside a note is looked up among its lines. -/
theorem getNote_inside (found : s.notes[noteSearchIndex s.notes address]? = some note)
    (early : note.code ≤ address) (covers : (address : Int) < note.code + note.size) :
    s.getNote address =
      (lookupLines note.lines (note.offset address)).map fun found => (note.name, found) := by
  have inside : ¬ (address < note.code ∨ (address : Int) ≥ note.code + note.size) := by omega
  simp only [State.getNote, found, Option.bind_eq_bind, Option.bind_some, if_neg inside,
    lookupLines, Option.map_bind]
  refine congrArg _ (funext fun line => ?_)
  rw [Function.comp_apply]
  split
  · rfl
  · rw [Option.map_bind]
    rfl

/-- The lines of a note give the last entry of its span. -/
theorem lookupLines_records {span : Span StringRef} (records : note.Records span)
    (fits : span.Fits pc) (close : pc < span.code + 2 ^ 31) (early : span.code ≤ address)
    (below : address < pc) :
    lookupLines note.lines (note.offset address) = span.lookup address := by
  have upTo_ (entry : Nat × StringRef × CInt) (member : entry ∈ span.entries) :
      entryUpTo (note.offset address) (note.relative entry) = decide (entry.1 ≤ address) := by
    obtain ⟨after, before⟩ := fits.inside entry member
    exact upTo_offset (records.code ▸ after) (records.code ▸ early)
      (records.code ▸ Nat.lt_of_le_of_lt before close)
      (records.code ▸ Nat.lt_trans below close)
  have initial : Initial (entryUpTo (note.offset address)) (note.lines.flatMap Line.entries) := by
    rw [records.entries, Initial, List.pairwise_map]
    refine fits.entries.imp_of_mem fun {a b} isA isB inOrder => ?_
    rw [upTo_ a isA, upTo_ b isB]
    exact fun reached => decide_eq_true (Nat.le_trans inOrder (of_decide_eq_true reached))
  have same : floor (fun entry => entryUpTo (note.offset address) (note.relative entry)) span.entries =
      floor (fun entry => entry.1 ≤ address) span.entries :=
    congrArg List.getLast? (List.filter_congr upTo_)
  rw [lookupLines_eq records.filled initial, records.entries, floor_map, same, Option.map_map]
  rfl

theorem getNote_outside (outside : ∀ note, s.notes[noteSearchIndex s.notes address]? = some note →
    address < note.code ∨ (address : Int) ≥ note.code + note.size) : s.getNote address = none := by
  unfold State.getNote
  cases found : s.notes[noteSearchIndex s.notes address]? with
  | none => rfl
  | some note =>
    simp only [Option.bind_eq_bind, Option.bind_some, if_pos (outside note found)]
    rfl

theorem countP_spans (recorded : Recorded notes spans) :
    spans.countP (fun span => span.code ≤ address) = notes.countP (Note.upTo address) := by
  have codes := congrArg (List.countP fun code => decide (code ≤ address)) (recorded_codes recorded)
  rw [List.countP_map, List.countP_map] at codes
  exact codes.symm

/-- `_jit_get_note` searches the spans. -/
theorem getNote_recorded (recorded : Recorded s.notes spans) (ends : Ends s.notes pc)
    (ordered : Ordered spans pc) (close : ∀ span ∈ spans, pc < span.code + 2 ^ 31) :
    s.getNote address = lookupSpans spans pc address := by
  have initial : Initial (Note.upTo address) s.notes := initial_codes recorded ordered
  have bounded : s.notes.countP (Note.upTo address) ≤ s.notes.length := List.countP_le_length
  have count : spans.countP (fun span => span.code ≤ address) = _ := countP_spans recorded
  rw [lookupSpans]
  by_cases below : address < pc
  · rw [if_pos below]
    have index := noteSearchIndex_eq recorded ends ordered below
    rcases Nat.eq_zero_or_pos (s.notes.countP (Note.upTo address)) with none_ | some_
    · -- The code of every note is beyond the address.
      have late (note : Note) (member : note ∈ s.notes) : address < note.code :=
        Nat.lt_of_not_le fun reached => List.countP_eq_zero.mp none_ note member (decide_eq_true reached)
      rw [spanAt, floor_eq_none (count.trans none_)]
      exact getNote_outside fun note found => .inl (late note (List.mem_of_getElem? found))
    · -- The last note up to the address is the one that answers.
      obtain ⟨note, found⟩ :
          ∃ note, s.notes[s.notes.countP (Note.upTo address) - 1]? = some note :=
        ⟨_, List.getElem?_eq_getElem (by omega)⟩
      obtain ⟨span, isSpan, records⟩ := recorded_getElem recorded found
      have member : span ∈ spans := List.mem_of_getElem? isSpan
      obtain ⟨early, covers⟩ := last_covers recorded ends ordered below found (by omega)
      have initial' : Initial (fun span : Span StringRef => decide (span.code ≤ address)) spans :=
        ordered.codes.imp fun inOrder reached =>
          decide_eq_true (Nat.le_trans inOrder (of_decide_eq_true reached))
      rw [spanAt, initial'.floor_eq (by omega), count, isSpan, getNote_inside (index ▸ found) early covers,
        lookupLines_records records (ordered.fits span member) (close span member)
          (records.code ▸ early) below, records.name]
      rfl
  · -- Every note ends before the address.
    rw [if_neg below]
    refine getNote_outside fun note found => .inr ?_
    have end_ := note_end recorded ends found
    split at end_
    next next isNext =>
      obtain ⟨span, isSpan, records⟩ := recorded_getElem recorded isNext
      have reached := (ordered.fits span (List.mem_of_getElem? isSpan)).code
      rw [← records.code] at reached
      omega
    next => omega

end Search

/-- After `_jit_annotate`, `_jit_get_note` finds for an address the last name up to it and the last
note since. -/
theorem getNote_jitAnnotate {base : DataBase} {pc : Nat} (marked : s.Marked base pc)
    (ran : Returns (jitAnnotate pc) s () t) (address : Nat) :
    t.getNote address = lookupMarks (s.marks base) pc address := by
  obtain ⟨recorded, ends⟩ := recorded_jitAnnotate marked ran
  have ordered : Ordered (spansOf (s.marks base)) pc :=
    ordered_spansOf marked.sorted fun mark member => (marked.within mark member).1
  have close : ∀ span ∈ spansOf (s.marks base), pc < span.code + 2 ^ 31 := by
    intro span member
    obtain ⟨mark, isMark, code⟩ := code_spansOf member
    exact code ▸ (marked.within mark isMark).2
  rw [getNote_recorded recorded ends ordered close, lookupSpans_eq marked.sorted]

/-! ### Remarks over runs -/

/-- The node of a remark, with its text among the constants. -/
structure NoteNode.Stands (pool : DataPool) (node : NoteNode) (remark : Remark) : Prop where
  isName : node.isName = remark.line.isNone
  stored : node.text ∈ pool.entries
  text : pool.read node.text = remark.text.stored
  line : node.line = remark.line.getD 0

/-- The list of notes has a node for each remark. -/
structure State.Remarked (s : State W) (remarks : List Remark) : Prop where
  interned : s.data.Interned W
  nodes : List.Forall₂ (NoteNode.Stands s.data) s.note.nodes remarks

theorem remarked_grow {remarks : List Remark} (remarked : s.Remarked remarks) (stores : s.Stores t)
    (same : t.note.nodes = s.note.nodes) : t.Remarked remarks := by
  refine ⟨stores.interned, ?_⟩
  rw [same]
  refine remarked.nodes.imp fun node remark stands => ⟨stands.isName, ?_, ?_, stands.line⟩
  · exact stores.grows.entries node.text stands.stored
  · exact (stores.grows.read remarked.interned stands.stored).trans stands.text

theorem staying_nodes (platform : Platform W) (fuel : Nat) (nodes : List NoteNode) :
    Staying platform fuel fun s => s.note.nodes = nodes := by
  have steady : Steady fun s : State W => s.note.nodes = nodes :=
    { quiet := fun _ _ quiet same =>
        (congrArg (fun outside => outside.note.nodes) quiet.outside).trans same
      data := outside_jitData (fun outside => outside.note.nodes) nodes
      annotate := fun _ _ beside same => (congrArg (fun s => s.note.nodes) beside).trans same
      setCode := fun _ _ same => same
      setData := fun _ _ _ _ _ _ same => same
      realize := fun _ _ _ same => same
      layout := fun s _ same => (layout_nodes s).trans same
      done := fun _ _ same => same
      drop := fun _ _ same => same }
  exact steady.staying platform fuel

/-- A name or a note adds its node. -/
theorem remarked_push {rs : List Remark} {code : Code} {text : CString} {line : Option CInt}
    {f : DataEntry → Node W → Node W} {size : State W → Nat} (remarked : s.Remarked rs) {ref : NodeRef}
    (ran : Returns (do
      let node ← jitNewNode code
      let entry ← jitData text.stored 1
      writeNode node (f entry)
      update fun s => s.pushNote
        { node, isName := line.isNone, text := entry, line := line.getD 0 } (size s)
      pure node) s ref t) : t.Remarked (rs ++ [⟨text, line⟩]) := by
  simp only [returns_bind, returns_writeNode, returns_update, returns_pure] at ran
  obtain ⟨node, u, made, entry, v, stored, _, _, rfl, _, _, rfl, -, rfl⟩ := ran
  have quiet : s.Quiet u := quiet_append (.plain code) made
  have data : u.data = s.data := congrArg Prod.fst quiet.store
  have note : u.note = s.note := congrArg Outside.note quiet.outside
  obtain ⟨stores, member, read⟩ := stores_jitData (data ▸ remarked.interned) stored
  have note' : v.note = u.note := (frame_jitData u _ _ u entry v (.refl u) stored).note
  have before : v.Remarked rs := by
    have same : v.note.nodes = s.note.nodes := congrArg NoteList.nodes (note'.trans note)
    exact remarked_grow remarked ⟨stores.interned, data ▸ stores.grows⟩ same
  exact ⟨before.interned, forall₂_snoc.mpr ⟨before.nodes, rfl, member, read, rfl⟩⟩

theorem remarked_jitName {rs : List Remark} {str : CString} (remarked : s.Remarked rs)
    {ref : NodeRef} (ran : Returns (jitName str) s ref t) : t.Remarked (rs ++ [⟨str, none⟩]) :=
  remarked_push (f := fun entry n => { n with v := .n entry.node }) remarked ran

theorem remarked_jitNote {rs : List Remark} {file : CString} {line : CInt}
    (remarked : s.Remarked rs) {ref : NodeRef} (ran : Returns (jitNote file line) s ref t) :
    t.Remarked (rs ++ [⟨file, some line⟩]) :=
  remarked_push (f := fun entry n => { n with v := .n entry.node, w := .w line }) remarked ran

/-- A call adds the node of its remark, if it makes one. -/
theorem remarked_call {platform : Platform W} {fuel : Nat} {call : Call W} {rs : List Remark}
    (builds : call.builds = true) {z z' : ZigState W} {result : Option NodeRef}
    (remarked : z.jit.Remarked rs) (ran : Returns (call.run platform fuel) z result z') :
    z'.jit.Remarked (rs ++ call.remark.toList) := by
  cases plain : call.remark with
  | none =>
    rw [Option.toList_none, List.append_nil]
    refine remarked_grow remarked ?_ ?_
    · exact (lasting_stores platform fuel z.jit).call call builds ⟨remarked.interned, .refl _⟩ ran
    · exact (staying_nodes platform fuel z.jit.note.nodes).call call builds plain rfl ran
  | some remark =>
    rw [Option.toList_some]
    refine call_rule (I := fun s => s.Remarked rs) (Q := fun s => s.Remarked (rs ++ [remark])) builds
      (fun x => ?_) (fun m isInstr => ?_) (fun body isLib => ?_) remarked ran
    · intro s a t remarked ran
      exact remarked_grow remarked (.of_data ⟨remarked.interned, .refl _⟩ (data_build x s.data s a t rfl ran))
        (congrArg NoteList.nodes (frame_build s x s a t (.refl s) ran).note)
    · subst isInstr
      cases plain
    · subst isLib
      rintro s result t remarked ran
      cases body with
      | name str =>
        obtain rfl := Option.some.inj plain
        obtain ⟨ref, ran, -⟩ := (returns_map some (jitName str) s t result).mp ran
        exact remarked_jitName remarked ran
      | note file line =>
        obtain rfl := Option.some.inj plain
        obtain ⟨ref, ran, -⟩ := (returns_map some (jitNote file line) s t result).mp ran
        exact remarked_jitNote remarked ran
      | _ => cases plain

/-- A run leaves a node for each name and each note, in the order of the calls. -/
theorem remarked_run {platform : Platform W} {fuel : Nat} {calls : List (Call W)} {rs : List Remark}
    (builds : ∀ call ∈ calls, call.builds = true) {z z' : ZigState W} (remarked : z.jit.Remarked rs)
    (ran : Returns (runCalls platform fuel calls) z () z') :
    z'.jit.Remarked (rs ++ remarks calls) := by
  induction calls generalizing z rs with
  | nil =>
    obtain ⟨-, rfl⟩ := (returns_pure ..).mp ran
    rw [remarks, List.filterMap_nil, List.append_nil]
    exact remarked
  | cons call rest ih =>
    obtain ⟨_, u, called, later⟩ := (returns_bind ..).mp ran
    have step := remarked_call (builds call List.mem_cons_self) remarked called
    have all := ih (fun other member => builds other (List.mem_cons_of_mem call member)) step later
    have parts : remarks (call :: rest) = call.remark.toList ++ remarks rest := by
      rw [remarks, List.filterMap_cons]
      cases call.remark <;> rfl
    rw [parts, ← List.append_assoc]
    exact all

/-! ### Positions after an emission -/

/-- The string at a place in the data buffer, or in the pool where it has not moved. -/
def State.string (s : State W) (ref : StringRef) : List UInt8 :=
  let bytes := match ref.base with
    | .buffer => s.buffer
    | .compiler _ => s.data.bytes
  (bytes.drop ref.offset).takeWhile (· ≠ 0)

/-- The remarks, each at the address of its node. -/
def State.positions (s : State W) (remarks : List Remark) : List (Mark (List UInt8)) :=
  List.zipWith (fun node remark =>
    { address := (s.memory node.node).u.toWord.toNat
      isName := remark.line.isNone
      text := remark.text.bytes
      line := remark.line.getD 0 }) s.note.nodes remarks

/-- Up to the zero byte there is all of a stored string. -/
theorem takeWhile_stored {text : CString} {bytes : List UInt8} {length : Nat}
    (read : bytes.take length = text.stored) : bytes.takeWhile (· ≠ 0) = text.bytes := by
  have nonzero : ∀ byte ∈ text.bytes, decide (byte ≠ 0) = true := by
    intro byte member
    exact decide_eq_true fun zero => text.no_nul (zero ▸ member)
  rw [← List.take_append_drop length bytes, read, CString.stored, List.append_assoc,
    List.takeWhile_append_of_pos nonzero]
  exact List.append_nil _

theorem map_eq_zipWith {α β γ : Type} {R : α → β → Prop} {f : α → γ} {g : α → β → γ} {as : List α}
    {bs : List β} (pairs : List.Forall₂ R as bs) (agree : ∀ a b, R a b → f a = g a b) :
    as.map f = List.zipWith g as bs := by
  induction pairs with
  | nil => rfl
  | cons first _ ih => rw [List.map_cons, List.zipWith_cons_cons, agree _ _ first, ih]

theorem marks_positions {rs : List Remark} (remarked : s.Remarked rs)
    (copied : s.buffer = s.data.bytes) :
    (s.marks .buffer).map (Mark.map s.string) = s.positions rs := by
  rw [State.marks, List.map_map]
  refine map_eq_zipWith remarked.nodes fun node remark stands => ?_
  have text : s.string { base := .buffer, offset := node.text.offset } = remark.text.bytes := by
    have read : (s.buffer.drop node.text.offset).take node.text.length = remark.text.stored :=
      copied ▸ stands.text
    exact takeWhile_stored read
  rw [Function.comp_apply, Mark.map, State.mark, text, stands.isName, stands.line]

/-- The names and notes are found by address, for the addresses that the code generator has put in
their nodes. -/
def State.Answers (s : State W) : Prop :=
  ∀ base, s.Marked base s.pc → ∀ address, s.getNote address = lookupMarks (s.marks base) s.pc address

theorem marks_congr (note : t.note = s.note) (memory : t.memory = s.memory) (base : DataBase) :
    t.marks base = s.marks base := by
  have marks : t.mark base = s.mark base := by
    funext node
    rw [State.mark, State.mark, memory]
  rw [State.marks, State.marks, note, marks]

/-- The answers do not change with fields that neither the lookup nor the marks read. -/
theorem answers_congr (answers : s.Answers) (notes : t.notes = s.notes) (note : t.note = s.note)
    (memory : t.memory = s.memory) (database : t.database = s.database) (pc : t.pc = s.pc) :
    t.Answers := by
  intro base marked address
  have marks := marks_congr note memory base
  have marked' : s.Marked base s.pc := by
    constructor
    · exact database ▸ marked.laid
    · exact marks ▸ marked.sorted
    · exact marks ▸ pc ▸ marked.within
  have same : t.getNote address = s.getNote address := by
    rw [State.getNote, State.getNote, notes]
  rw [same, marks, pc]
  exact answers base marked' address

theorem answers_annotate {pc : Nat} (reached : s.pc = pc) (ran : Returns (jitAnnotate pc) s () t) :
    t.Answers := by
  have beside : s.restore t = s := annotates_jitAnnotate pc s () t (.refl s) ran
  have note : (s.restore t).note = s.note := congrArg State.note beside
  have memory : (s.restore t).memory = s.memory := congrArg State.memory beside
  have database : (s.restore t).database = s.database := congrArg State.database beside
  have pc' : (s.restore t).pc = s.pc := congrArg State.pc beside
  have end_ : t.pc = pc := pc'.trans reached
  intro base marked address
  have marks : t.marks base = s.marks base := marks_congr note memory base
  have marked' : s.Marked base pc := by
    constructor
    · exact database.symm.trans marked.laid
    · exact marks ▸ marked.sorted
    · exact marks ▸ end_ ▸ marked.within
  rw [end_, marks]
  exact getNote_jitAnnotate marked' ran address

theorem answers_finishEmit (pc : Nat) : Triple (fun _ : State W => True) (finishEmit pc)
    fun _ t => t.noNote = false → t.Answers := by
  rintro s _ t - ran named
  obtain ⟨_, u, started, ran⟩ := (returns_bind ..).mp ran
  have reached : u.pc = pc := (returns_update ..).mp started ▸ rfl
  obtain ⟨_, _, fetched, ran⟩ := (returns_bind ..).mp ran
  obtain ⟨rfl, rfl⟩ := (returns_fetch ..).mp fetched
  split at ran
  · obtain ⟨_, v, annotated, ran⟩ := (returns_bind ..).mp ran
    have answers : v.Answers := answers_annotate reached annotated
    obtain rfl := (returns_update ..).mp ran
    split
    · exact answers_congr answers rfl rfl rfl rfl rfl
    · exact answers
  next silent =>
    obtain rfl := (returns_update ..).mp ran
    refine absurd ?_ silent
    split at named
    · exact named
    · exact named

theorem answers_emitRealized (platform : Platform W) (fuel : Nat) :
    Triple (fun _ : State W => True) (emitRealized platform fuel)
      fun done t => done = true → t.noNote = false → t.Answers := by
  have any {α : Type} (x : Jit W α) : Triple (fun _ => True) x fun _ _ => True :=
    fun _ _ _ _ _ => trivial
  refine triple_bind (any _) fun _ => triple_bind (any _) fun _ => triple_bind (any _) fun _ =>
    triple_bind (any _) fun pc => ?_
  cases pc with
  | none => exact triple_pure _ fun s _ failed => absurd failed Bool.false_ne_true
  | some pc =>
    exact triple_bind (answers_finishEmit pc) fun _ => triple_pure _ fun s answers _ => answers

/-- After a successful emission, an address belongs to the last name and the last note since that a
call of the run has left up to there, string for string. -/
theorem position_of_run {platform : Platform W} {fuel : Nat} {calls : List (Call W)} {z : ZigState W}
    (builds : ∀ call ∈ calls, call.builds = true)
    (reached : Returns (runCalls platform fuel calls) (.init W) () z)
    (emitted : Returns (jitEmit platform fuel) z.jit true t) (noted : t.noNote = false)
    (stored : t.noData = false)
    (sorted : (t.positions (remarks calls)).Pairwise fun a b => a.address ≤ b.address)
    (within : ∀ mark ∈ t.positions (remarks calls), mark.address ≤ t.pc ∧ t.pc < mark.address + 2 ^ 31)
    (address : Nat) :
    (t.positions (remarks calls)).length = (remarks calls).length ∧
      (t.getNote address).map (fun found => (found.1.map t.string, t.string found.2.1, found.2.2)) =
        lookupMarks (t.positions (remarks calls)) t.pc address := by
  have fresh : (ZigState.init W).jit.Remarked [] := ⟨interned_initial, List.Forall₂.nil⟩
  have laid : z.jit.Laid := (lasting_laid platform fuel).runCalls calls builds (laid_of_fresh rfl) reached
  have remarked : z.jit.Remarked (remarks calls) := remarked_run builds fresh reached
  have nodes := (staying_nodes platform fuel z.jit.note.nodes).jitEmit z.jit true t rfl emitted
  have stores := (lasting_stores platform fuel z.jit).jitEmit z.jit true t ⟨remarked.interned, .refl _⟩ emitted
  -- Emission adds constants at most, so that the texts are still read from the same entries.
  have remarked' : t.Remarked (remarks calls) := remarked_grow remarked stores nodes
  obtain ⟨laid', done⟩ := laid_jitEmit platform fuel laid emitted
  have positions := marks_positions remarked' (laid'.copied done stored)
  have length : (t.positions (remarks calls)).length = (remarks calls).length := by
    rw [State.positions, List.length_zipWith, remarked'.nodes.length_eq, Nat.min_self]
  have answers : t.Answers := by
    have rule := (lasting_laid platform fuel).jitEmit_rule
      (triple_weaken (answers_emitRealized platform fuel) (fun _ _ => trivial) fun _ _ post => post)
    exact rule z.jit true t laid emitted rfl noted
  rw [← positions] at within
  rw [← positions, List.pairwise_map] at sorted
  have marked : t.Marked .buffer t.pc :=
    ⟨laid'.based done stored, sorted, List.forall_mem_map.mp within⟩
  exact ⟨length, by rw [answers .buffer marked address, ← positions, lookupMarks_map]⟩

/-- Four bytes of code behind each name and each note. -/
def placeRemarks : List NoteNode → Nat → Build W Nat
  | [], pc => pure pc
  | node :: rest, pc => do
    body node.node fun node => { node with u := .w pc }
    placeRemarks rest (pc + 4)

/-- A code generator for the addresses of names and notes alone. -/
def placingEmitter : Emitter .w64 :=
  { (default : Emitter .w64) with
    emitCode := do
      let pc ← placeRemarks (← look).note.nodes 0
      pure (some pc) }

/-- Two functions in two files. -/
theorem position_of_run_sample : ∃ t : State .w64,
    (t.getNote 10).map (fun found => (found.1.map t.string, t.string found.2.1, found.2.2)) =
      some (some [102], [97], 2) := by
  let platform : Platform .w64 := X86.platform false .sysv placingEmitter
  let text (byte : UInt8) (nonzero : 0 ∉ [byte]) : CString := { bytes := [byte], no_nul := nonzero }
  let f := text 102 (by decide)
  let g := text 103 (by decide)
  let a := text 97 (by decide)
  let b := text 98 (by decide)
  let calls : List (Call .w64) :=
    [.lib (.name f), .lib (.note a 1), .lib (.note a 2), .lib (.note b 7), .lib (.name g),
      .lib (.note b 9)]
  have passed : passes (runCalls platform 60 calls) (.init .w64) (fun _ z =>
      passes (jitEmit platform 60) z.jit fun done t => done ∧ t.noNote = false ∧ t.noData = false ∧
        (t.positions (remarks calls)).Pairwise (fun a b => a.address ≤ b.address) ∧
        (∀ mark ∈ t.positions (remarks calls),
          mark.address ≤ t.pc ∧ t.pc < mark.address + 2 ^ 31) ∧
        lookupMarks (t.positions (remarks calls)) t.pc 10 = some (some [102], [97], 2)) = true := by
    decide +kernel
  obtain ⟨_, z, reached, passed⟩ := returns_of_passes _ passed
  obtain ⟨done, t, emitted, checked⟩ := returns_of_passes _ passed
  obtain ⟨rfl, noted, stored, sorted, within, found⟩ := of_decide_eq_true checked
  have builds (call : Call .w64) (member : call ∈ calls) : call.builds = true := by
    simp only [calls, List.mem_cons, List.not_mem_nil, or_false] at member
    rcases member with rfl | rfl | rfl | rfl | rfl | rfl <;> rfl
  exact ⟨t, (position_of_run builds reached emitted noted stored sorted within 10).2.trans found⟩

end Zjit
