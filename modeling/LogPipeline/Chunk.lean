/-!
# Chunks

Serialized records are packed into chunks. A chunk grows as long as the next fragment fits; a
fragment that is longer than the limit on its own still forms a chunk. Compression changes how a
finished chunk is stored, not what it says, so a chunk holds its content and a mark.
-/

namespace LogPipeline

/-- A unit of output. `data` is the content before any compression, `rawBytes` its length. -/
structure Chunk where
  data : ByteArray
  records : Nat
  rawBytes : Nat
  compressed : Bool
deriving Inhabited

/-- Chunks are compared byte by byte. -/
instance : DecidableEq Chunk := fun a b =>
  decidable_of_iff
    (a.data.data = b.data.data ∧ a.records = b.records ∧ a.rawBytes = b.rawBytes ∧
      a.compressed = b.compressed)
    (by cases a; cases b; simp [ByteArray.ext_iff])

/-- Packs fragments into chunks of at most `maxBytes` bytes. -/
structure ChunkMaker where
  maxBytes : Nat
  compress : Bool := false
  buffer : ByteArray := .empty
  records : Nat := 0
deriving Inhabited

namespace ChunkMaker

def hasPending (m : ChunkMaker) : Bool := 0 < m.buffer.size

/-- The chunk that the buffered fragments form. -/
def chunk (m : ChunkMaker) : Chunk := ⟨m.buffer, m.records, m.buffer.size, m.compress⟩

def emptied (m : ChunkMaker) : ChunkMaker := { m with buffer := .empty, records := 0 }

def added (fragment : ByteArray) (m : ChunkMaker) : ChunkMaker :=
  { m with buffer := m.buffer ++ fragment, records := m.records + 1 }

/-- Buffers a fragment. What was buffered before becomes a chunk if the two do not fit together. -/
def write (fragment : ByteArray) (m : ChunkMaker) : Option Chunk × ChunkMaker :=
  if m.hasPending && decide (m.maxBytes < m.buffer.size + fragment.size) then
    (some m.chunk, m.emptied.added fragment)
  else (none, m.added fragment)

/-- Completes the chunk being built, if it holds any data. -/
def flush (m : ChunkMaker) : Option Chunk × ChunkMaker :=
  if m.hasPending then (some m.chunk, m.emptied) else (none, m)

end ChunkMaker

end LogPipeline
