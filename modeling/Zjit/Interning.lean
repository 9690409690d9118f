import Zjit.Foundation.Buckets
import Zjit.Annotation
import Zjit.Lasting
import Mathlib.Data.List.Nodup

/-!
# Constants are stored once

The table of constants finds every constant stored so far, also after it has grown, and a constant
keeps its place and its bytes.
-/
namespace Zjit

open Foundation Program

variable {W : WordSize}

namespace DataPool

variable {pool other : DataPool} {bytes : List UInt8} {entry : DataEntry}

/-- The constants in the table. -/
def entries (pool : DataPool) : List DataEntry := pool.buckets.flatten

/-- The table is fit for searches: each constant lies within the buffer and in the bucket for its
bytes, and no two constants have the same bytes. -/
structure Interned (W : WordSize) (pool : DataPool) : Prop where
  inside : ∀ entry ∈ pool.entries, entry.offset + entry.length ≤ pool.bytes.length
  placed : Buckets.Placed (fun entry => hashKey W pool.buckets.length (pool.read entry)) pool.buckets
  distinct : (pool.entries.map pool.read).Nodup
  tabled : pool.table = none ↔ pool.buckets = []

/-- The constants of `pool` are constants of `other`, in the same place. -/
structure Grows (pool other : DataPool) : Prop where
  entries : ∀ entry ∈ pool.entries, entry ∈ other.entries
  bytes : pool.bytes <+: other.bytes

theorem Grows.refl (pool : DataPool) : pool.Grows pool := ⟨fun _ member => member, List.prefix_refl _⟩

theorem Grows.trans {third : DataPool} (first : pool.Grows other) (second : other.Grows third) :
    pool.Grows third :=
  ⟨fun entry member => second.entries entry (first.entries entry member),
    first.bytes.trans second.bytes⟩

/-- What lies within the buffer does not change when the buffer grows. -/
theorem read_of_prefix (inside : entry.offset + entry.length ≤ pool.bytes.length)
    (longer : pool.bytes <+: other.bytes) : other.read entry = pool.read entry := by
  obtain ⟨rest, whole⟩ := longer
  rw [read, read, ← whole, List.drop_append_of_le_length (by omega), List.take_append_of_le_length]
  rw [List.length_drop]
  omega

/-- A constant reads the same in every later state of the pool. -/
theorem Grows.read (grows : pool.Grows other) (interned : pool.Interned W)
    (member : entry ∈ pool.entries) : other.read entry = pool.read entry :=
  read_of_prefix (interned.inside entry member) grows.bytes

theorem length_read (inside : entry.offset + entry.length ≤ pool.bytes.length) :
    (pool.read entry).length = entry.length := by
  rw [read, List.length_take, List.length_drop]
  omega

theorem hashKey_lt {size : Nat} (positive : 0 < size) (bytes : List UInt8) :
    hashKey W size bytes < size := by
  have bounded : hashKey W size bytes ≤ size - 1 := Nat.and_le_right
  omega

/-- Constants with the same bytes are the same. -/
theorem Interned.unique (interned : pool.Interned W) {a b : DataEntry} (isA : a ∈ pool.entries)
    (isB : b ∈ pool.entries) (same : pool.read a = pool.read b) : a = b :=
  List.inj_on_of_nodup_map interned.distinct isA isB same

/-- The search finds exactly the constant with the bytes it is given. -/
theorem lookup_eq_some_iff (interned : pool.Interned W) :
    pool.lookup W bytes = some entry ↔ entry ∈ pool.entries ∧ pool.read entry = bytes := by
  have passes (a : DataEntry) (member : a ∈ pool.entries) :
      decide (a.length = bytes.length ∧ pool.read a = bytes) = true ↔ pool.read a = bytes := by
    rw [decide_eq_true_iff]
    constructor
    · exact fun both => both.2
    · intro same
      exact ⟨same ▸ (length_read (interned.inside a member)).symm, same⟩
  refine (Buckets.find_eq_some_iff interned.placed ?_ ?_).trans ?_
  · intro a member passed
    rw [(passes a member).mp passed]
  · intro a isA b isB first second
    refine interned.unique isA isB ?_
    rw [(passes a isA).mp first, (passes b isB).mp second]
  · exact and_congr_right fun member => passes entry member

theorem lookup_eq_none_iff (interned : pool.Interned W) :
    pool.lookup W bytes = none ↔ ∀ entry ∈ pool.entries, pool.read entry ≠ bytes := by
  rw [← not_iff_not, ← ne_eq, Option.ne_none_iff_exists']
  simp only [lookup_eq_some_iff interned, not_forall, not_not, exists_prop]

/-! ### Storing -/

theorem le_align (offset length alignment : Nat) : offset ≤ align offset length alignment := by
  unfold align
  split <;> omega

/-- The new constant reads back what was stored. -/
theorem read_insert (pool : DataPool) (node : NodeRef) (bytes : List UInt8) (alignment : Nat) :
    (pool.insert W bytes (pool.fresh node bytes alignment)).read (pool.fresh node bytes alignment) =
      bytes := by
  have place := le_align pool.offset bytes.length alignment
  have length : (pool.bytes ++ List.replicate
      (align pool.offset bytes.length alignment - pool.offset) 0).length =
        align pool.offset bytes.length alignment := by
    rw [List.length_append, List.length_replicate]
    exact Nat.add_sub_of_le place
  simp only [read, insert, fresh]
  rw [List.drop_left' length, List.take_length]

theorem insert_bytes (pool : DataPool) (bytes : List UInt8) (entry : DataEntry) :
    pool.bytes <+: (pool.insert W bytes entry).bytes := by
  rw [insert, List.append_assoc]
  exact List.prefix_append _ _

/-- Bytes that were not found are stored. -/
theorem interned_insert (interned : pool.Interned W) (tabled : pool.table ≠ none)
    (absent : pool.lookup W bytes = none) (node : NodeRef) (alignment : Nat) :
    let next := pool.insert W bytes (pool.fresh node bytes alignment)
    next.Interned W ∧ pool.Grows next ∧ pool.fresh node bytes alignment ∈ next.entries := by
  intro next
  have positive : 0 < pool.buckets.length :=
    List.length_pos_of_ne_nil fun empty => tabled (interned.tabled.mpr empty)
  have longer : pool.bytes <+: next.bytes := insert_bytes pool bytes _
  have read : next.read (pool.fresh node bytes alignment) = bytes := read_insert pool node bytes alignment
  have stable (a : DataEntry) (member : a ∈ pool.entries) : next.read a = pool.read a :=
    read_of_prefix (interned.inside a member) longer
  have perm : next.entries.Perm (pool.fresh node bytes alignment :: pool.entries) :=
    Buckets.perm_put _ (hashKey_lt positive bytes)
  have length : next.buckets.length = pool.buckets.length := List.length_modify ..
  constructor
  · constructor
    · intro a member
      rcases List.mem_cons.mp (perm.mem_iff.mp member) with rfl | old
      · simp only [next, insert, fresh, List.length_append]
        have place := le_align pool.offset bytes.length alignment
        rw [List.length_replicate]
        change _ ≤ pool.offset + _ + _
        omega
      · exact (interned.inside a old).trans longer.length_le
    · -- The slots of the old constants have not changed.
      have placed : Buckets.Placed (fun a => hashKey W next.buckets.length (next.read a))
          pool.buckets :=
        interned.placed.congr fun a member => by rw [length, stable a member]
      have put := Buckets.placed_put placed (pool.fresh node bytes alignment)
      rw [read, length] at put
      rw [length]
      exact put
    · -- The search has shown that the bytes are new.
      refine (perm.map _).nodup_iff.mpr ?_
      rw [List.map_cons, read, List.map_congr_left stable]
      refine List.nodup_cons.mpr ⟨fun member => ?_, interned.distinct⟩
      obtain ⟨a, isA, same⟩ := List.mem_map.mp member
      exact (lookup_eq_none_iff interned).mp absent a isA same
    · refine iff_of_false tabled fun empty => ?_
      rw [← List.length_eq_zero_iff, length] at empty
      omega
  · refine ⟨⟨fun a member => ?_, longer⟩, ?_⟩
    · exact perm.mem_iff.mpr (List.mem_cons_of_mem _ member)
    · exact perm.mem_iff.mpr List.mem_cons_self

/-- The table of twice the size has the same constants. -/
theorem interned_rehash (interned : pool.Interned W) (tabled : pool.table ≠ none) :
    (pool.rehash W).Interned W ∧ pool.Grows (pool.rehash W) := by
  have positive : 0 < pool.buckets.length :=
    List.length_pos_of_ne_nil fun empty => tabled (interned.tabled.mpr empty)
  obtain ⟨placed, length, perm⟩ := Buckets.refill pool.entries
    (Buckets.placed_replicate (fun a => hashKey W (2 * pool.buckets.length) (pool.read a))
      (2 * pool.buckets.length)) fun a _ => by
        rw [List.length_replicate]
        exact hashKey_lt (by omega) _
  rw [List.length_replicate] at length
  have perm : (pool.rehash W).entries.Perm pool.entries := by
    refine perm.trans ?_
    rw [List.flatten_replicate_nil, List.append_nil]
  constructor
  · constructor
    · exact fun a member => interned.inside a (perm.mem_iff.mp member)
    · change Buckets.Placed (fun a => hashKey W (pool.rehash W).buckets.length (pool.read a)) _
      have same : (pool.rehash W).buckets.length = 2 * pool.buckets.length := length
      rw [same]
      exact placed
    · exact (perm.map _).nodup_iff.mpr interned.distinct
    · refine iff_of_false tabled fun empty => ?_
      have same : (pool.rehash W).buckets.length = 2 * pool.buckets.length := length
      rw [empty, List.length_nil] at same
      omega
  · exact ⟨fun a member => perm.mem_iff.mpr member, List.prefix_refl _⟩

end DataPool

/-! ### The pool of a state -/

section State

variable {s t s₀ : State W} {bytes : List UInt8}

/-- The pool of `s` is fit for searches and has the constants that `s₀` had. -/
structure State.Stores (s₀ s : State W) : Prop where
  interned : s.data.Interned W
  grows : s₀.data.Grows s.data

theorem interned_reserveTable (interned : s.data.Interned W) :
    s.reserveTable.data.Interned W ∧ s.data.Grows s.reserveTable.data ∧
      s.reserveTable.data.table ≠ none := by
  unfold State.reserveTable
  split
  next absent =>
    have empty : s.data.entries = [] := by
      rw [DataPool.entries, interned.tabled.mp absent, List.flatten_nil]
    have none_ : (List.replicate 16 ([] : List DataEntry)).flatten = [] :=
      List.flatten_replicate_nil
    refine ⟨⟨?_, Buckets.placed_replicate _ 16, ?_, ?_⟩, ⟨?_, List.prefix_refl _⟩, ?_⟩
    · intro entry member
      rw [DataPool.entries, none_] at member
      cases member
    · rw [DataPool.entries, none_]
      exact List.nodup_nil
    · exact iff_of_false (Option.some_ne_none _) (List.cons_ne_nil [] (List.replicate 15 []))
    · intro entry member
      rw [empty] at member
      cases member
    · exact Option.some_ne_none _
  next present => exact ⟨interned, .refl _, present⟩

theorem interned_growTable (interned : s.data.Interned W) (tabled : s.data.table ≠ none) :
    s.growTable.data.Interned W ∧ s.data.Grows s.growTable.data := by
  unfold State.growTable
  split
  · obtain ⟨rehashed, grows⟩ := DataPool.interned_rehash interned tabled
    refine ⟨⟨rehashed.inside, rehashed.placed, rehashed.distinct, ?_⟩, ⟨grows.entries, grows.bytes⟩⟩
    refine iff_of_false (Option.some_ne_none _) fun empty => ?_
    exact tabled (rehashed.tabled.mpr empty)
  · exact ⟨interned, .refl _⟩

/-- `_jit_data` hands out a constant of the pool with the bytes it was given. -/
theorem stores_jitData {align : Nat} {entry : DataEntry} (interned : s.data.Interned W)
    (ran : Returns (jitData bytes align) s entry t) :
    s.Stores t ∧ entry ∈ t.data.entries ∧ t.data.read entry = bytes := by
  simp only [jitData, returns_bind, returns_assertConstructing, returns_update, returns_reads] at ran
  obtain ⟨_, _, ⟨-, rfl⟩, _, _, rfl, _, _, rfl, found, _, ⟨searched, rfl⟩, ran⟩ := ran
  -- The buffer has grown before the search, whatever that finds.
  have reserved : (s.reserveData bytes.length).data.Interned W ∧
      s.data.Grows (s.reserveData bytes.length).data := by
    unfold State.reserveData
    split
    · exact ⟨⟨interned.inside, interned.placed, interned.distinct, interned.tabled⟩,
        ⟨fun _ member => member, List.prefix_refl _⟩⟩
    · exact ⟨interned, .refl _⟩
  obtain ⟨tabled, grows, present⟩ := interned_reserveTable reserved.1
  have grows := reserved.2.trans grows
  cases found with
  | some known =>
    obtain ⟨rfl, rfl⟩ := (returns_pure ..).mp ran
    obtain ⟨member, read⟩ := (DataPool.lookup_eq_some_iff tabled).mp searched
    exact ⟨⟨tabled, grows⟩, member, read⟩
  | none =>
    simp only [insertData, returns_bind, returns_reads, returns_update, returns_pure] at ran
    obtain ⟨node, u, made, _, _, ⟨rfl, rfl⟩, _, _, rfl, _, _, rfl, rfl, rfl⟩ := ran
    have same := data_newNodeNoLink made
    rw [← same] at tabled present searched grows
    obtain ⟨inserted, grows', member⟩ := DataPool.interned_insert tabled present searched node align
    obtain ⟨grown, grows''⟩ := interned_growTable
      (s := { u with data := u.data.insert W bytes (u.data.fresh node bytes align) }) inserted present
    refine ⟨⟨grown, grows.trans (grows'.trans grows'')⟩, grows''.entries _ member, ?_⟩
    rw [grows''.read inserted member]
    exact DataPool.read_insert ..

/-! ### The pool in a run -/

theorem State.Stores.of_data (stores : s₀.Stores s) (same : t.data = s.data) : s₀.Stores t := by
  constructor
  · rw [same]
    exact stores.interned
  · rw [same]
    exact stores.grows

theorem State.Stores.trans (first : s₀.Stores s) (second : s.Stores t) : s₀.Stores t :=
  ⟨second.interned, first.grows.trans second.grows⟩

theorem stores_quiet (s t : State W) (quiet : s.Quiet t) (stores : s₀.Stores s) : s₀.Stores t :=
  stores.of_data (congrArg Prod.fst quiet.store)

theorem keeps_jitData (bytes : List UInt8) (align : Nat) : Keeps s₀.Stores (jitData bytes align) :=
  fun _ _ _ stores ran => stores.trans (stores_jitData stores.interned ran).1

/-- Padding behind the constants changes none of them. -/
theorem stores_alignData (interned : s.data.Interned W) : s.Stores s.alignData := by
  have longer : s.data.bytes <+: s.alignData.data.bytes := List.prefix_append _ _
  have stable (entry : DataEntry) (member : entry ∈ s.data.entries) :
      s.alignData.data.read entry = s.data.read entry :=
    DataPool.read_of_prefix (interned.inside entry member) longer
  refine ⟨⟨?_, ?_, ?_, interned.tabled⟩, ⟨fun _ member => member, longer⟩⟩
  · exact fun entry member => (interned.inside entry member).trans longer.length_le
  · exact interned.placed.congr fun entry member => by rw [stable entry member]; rfl
  · change (s.data.entries.map s.alignData.data.read).Nodup
    rw [List.map_congr_left stable]
    exact interned.distinct

theorem stores_dropData (stores : s₀.Stores s) : s₀.Stores s.dropData :=
  ⟨⟨stores.interned.inside, stores.interned.placed, stores.interned.distinct,
    stores.interned.tabled⟩, ⟨stores.grows.entries, stores.grows.bytes⟩⟩

theorem stores_layout (stores : s₀.Stores s) :
    s₀.Stores s.layout := by
  have same : s.mapData.copyData.placeNotes.data = s.data := by
    unfold State.mapData State.copyData State.placeNotes
    split <;> split <;> split <;> rfl
  have placed := stores.of_data same
  unfold State.layout State.baseData
  split
  · exact placed.of_data rfl
  · exact (stores_dropData placed).of_data rfl

theorem steady_stores (s₀ : State W) : Steady s₀.Stores where
  quiet := stores_quiet
  data := keeps_jitData
  annotate s t beside stores := by
    have same : (s.restore t).data = s.data := congrArg State.data beside
    exact stores.of_data same
  setCode _ _ stores := stores.of_data rfl
  setData _ _ _ _ _ _ stores := stores.of_data rfl
  realize _ _ _ stores := (stores.trans (stores_alignData stores.interned)).of_data rfl
  layout _ _ stores := stores_layout stores
  done _ _ stores := stores.of_data rfl
  drop _ _ stores := stores_dropData stores

theorem lasting_stores (platform : Platform W) (fuel : Nat) (s₀ : State W) :
    Lasting platform fuel s₀.Stores :=
  (steady_stores s₀).lasting (fun _ _ _ stores => stores.of_data rfl) platform fuel

theorem interned_initial : (ZigState.init W).jit.data.Interned W := by
  refine ⟨(fun entry member => nomatch member), (fun i bucket found => nomatch found), ?_, ?_⟩
  · exact List.nodup_nil
  · exact iff_of_true rfl rfl

/-- In every run the table finds exactly the constants that were stored. -/
theorem stores_run {platform : Platform W} {fuel : Nat} {calls : List (Call W)}
    (builds : ∀ call ∈ calls, call.builds = true) {z : ZigState W}
    (ran : Returns (runCalls platform fuel calls) (.init W) () z) : z.jit.data.Interned W :=
  ((lasting_stores platform fuel (ZigState.init W).jit).runCalls calls builds
    ⟨interned_initial, .refl _⟩ ran).interned

/-- Whatever is called in between, and however often the table grows, the same bytes are the same
constant, which still has these bytes. -/
theorem constant_stored_once {platform : Platform W} {fuel : Nat} {before between : List (Call W)}
    {z z' : ZigState W} {bytes : List UInt8} {align align' : Nat} {entry entry' : DataEntry}
    {s t : State W} (first : ∀ call ∈ before, call.builds = true)
    (then_ : ∀ call ∈ between, call.builds = true)
    (reached : Returns (runCalls platform fuel before) (.init W) () z)
    (stored : Returns (jitData bytes align) z.jit entry s)
    (ran : Returns (runCalls platform fuel between) { z with jit := s } () z')
    (again : Returns (jitData bytes align') z'.jit entry' t) :
    entry' = entry ∧ t.data.read entry = bytes := by
  obtain ⟨early, member, read⟩ := stores_jitData (stores_run first reached) stored
  have later : s.Stores z'.jit := (lasting_stores platform fuel s).runCalls between then_
    (z := { z with jit := s }) ⟨early.interned, .refl _⟩ ran
  obtain ⟨last, member', read'⟩ := stores_jitData later.interned again
  have all := later.grows.trans last.grows
  have readLast : t.data.read entry = bytes := (all.read early.interned member).trans read
  exact ⟨last.interned.unique member' (all.entries entry member) (read'.trans readLast.symm), readLast⟩

/-- A name and a string of the program with the same bytes. -/
theorem constant_stored_once_sample : ∃ entry entry' : DataEntry, ∃ t : State .w64,
    entry' = entry ∧ t.data.read entry = [102, 0] := by
  let name : CString := { bytes := [102], no_nul := by decide }
  let platform : Platform .w64 := X86.platform false .sysv default
  have passed : passes (jitData [102, 0] 1) (ZigState.init .w64).jit (fun _ s =>
      passes (runCalls platform 60 [.lib (.name name)]) { ZigState.init .w64 with jit := s }
        fun _ z => passes (jitData [102, 0] 8) z.jit fun _ _ => true) = true := by
    decide +kernel
  obtain ⟨entry, s, stored, passed⟩ := returns_of_passes _ passed
  obtain ⟨_, z, ran, passed⟩ := returns_of_passes _ passed
  obtain ⟨entry', t, again, -⟩ := returns_of_passes _ passed
  have none_ (call : Call .w64) (member : call ∈ []) : call.builds = true := nomatch member
  have builds (call : Call .w64) (member : call ∈ [Call.lib (.name name)]) : call.builds = true := by
    rw [List.mem_singleton.mp member]
    rfl
  have reached : Returns (runCalls platform 60 []) (.init .w64) () (.init .w64) := rfl
  exact ⟨entry, entry', t, constant_stored_once none_ builds reached stored ran again⟩

end State

end Zjit
