import Zjit.Node

/-!
# The pool of constants

`_jit_data` keeps strings and numbers in one buffer and hands out the same node for the same
bytes. The bytes already there never change.
-/
namespace Zjit

open Foundation Program

variable {W : WordSize}

/-! ### Hashing -/

/-- `hash_data`. -/
def hashData (W : WordSize) (bytes : List UInt8) : Word W :=
  bytes.foldl (fun key byte => (key <<< (key &&& 1).toNat) ^^^ byte.toBitVec.setWidth W.bits) 0

/-- The bucket for some bytes in a table of `size` buckets, a power of two. -/
def hashKey (W : WordSize) (size : Nat) (bytes : List UInt8) : Nat :=
  (hashData W bytes).toNat &&& (size - 1)

namespace DataPool

/-- The bytes of a constant. -/
def read (pool : DataPool) (entry : DataEntry) : List UInt8 :=
  (pool.bytes.drop entry.offset).take entry.length

/-- A constant of the same length and the same bytes. -/
def lookup (W : WordSize) (pool : DataPool) (bytes : List UInt8) : Option DataEntry :=
  (pool.buckets.getD (hashKey W pool.buckets.length bytes) []).find? fun entry =>
    entry.length = bytes.length ∧ pool.read entry = bytes

/-- `offset` rounded up as `align` asks for; 0 stands for the length itself. -/
def align (offset length align : Nat) : Nat :=
  match if align = 0 then length else align with
  | 0 | 1 => offset
  | 2 => (offset + 1) / 2 * 2
  | 3 | 4 => (offset + 3) / 4 * 4
  | _ => (offset + 7) / 8 * 8

/-- The entry that `insert` makes. -/
def fresh (pool : DataPool) (node : NodeRef) (bytes : List UInt8) (alignment : Nat) : DataEntry where
  node := node
  offset := align pool.offset bytes.length alignment
  length := bytes.length

/-- The bytes are copied behind the others and their node goes to the front of its bucket. -/
def insert (W : WordSize) (pool : DataPool) (bytes : List UInt8) (entry : DataEntry) : DataPool :=
  { pool with
    bytes := pool.bytes ++ List.replicate (entry.offset - pool.offset) 0 ++ bytes
    buckets := pool.buckets.modify (hashKey W pool.buckets.length bytes) (entry :: ·)
    count := pool.count + 1 }

/-- More than three quarters of the table are used. -/
def crowded (pool : DataPool) : Bool :=
  pool.count > pool.buckets.length / 2 + pool.buckets.length / 4

/-- The table of twice the size, its buckets filled from the front. -/
def rehash (W : WordSize) (pool : DataPool) : DataPool :=
  let size := 2 * pool.buckets.length
  { pool with
    buckets := pool.buckets.flatten.foldl
      (fun hash entry => hash.modify (hashKey W size (pool.read entry)) (entry :: ·))
      (List.replicate size []) }

end DataPool

/-! ### The buffer and the table -/

/-- Room for `length` bytes more, even where they will turn out to be a duplicate. -/
def State.reserveData (s : State W) (length : Nat) : State W :=
  if (s.data.offset + 7) / 8 * 8 + length > s.dataLength then
    -- The mask is `-4095`: the lowest bit stays.
    let size := s.dataLength + length + 4096
    { s with
      ledger := s.ledger.realloc s.data.ptr
      data := { s.data with ptr := some s.ledger.next }
      dataLength := size / 4096 * 4096 + size % 2 }
  else s

def State.reserveTable (s : State W) : State W :=
  if s.data.table = none then
    { s with
      ledger := s.ledger.alloc
      data := { s.data with table := some s.ledger.next, buckets := List.replicate 16 [] } }
  else s

/-- The new table is obtained before the old one is released. -/
def State.growTable (s : State W) : State W :=
  if s.data.crowded then
    { s with
      ledger := s.ledger.alloc.free s.data.table
      data := { s.data.rehash W with table := some s.ledger.next } }
  else s

/-- `_jit_data`, for bytes that are not there yet. -/
def insertData (bytes : List UInt8) (align : Nat) : Jit W DataEntry := do
  let node ← jitNewNodeNoLink .data
  let entry ← reads fun s => s.data.fresh node bytes align
  update fun s => { s with data := s.data.insert W bytes entry }
  update State.growTable
  pure entry

/-- `_jit_data`. -/
def jitData (bytes : List UInt8) (align : Nat) : Jit W DataEntry := do
  assertConstructing
  update fun s => s.reserveData bytes.length
  update State.reserveTable
  match ← reads fun s => s.data.lookup W bytes with
  | some entry => pure entry
  | none => insertData bytes align

end Zjit
