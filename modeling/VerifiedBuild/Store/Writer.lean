import VerifiedBuild.Store.Write
/-!
# Writing line by line

A writer keeps a file open and puts lines into it one by one. Bytes that wait in its buffer reach
the file when a large piece follows or the writer is closed, at the offset where the ones before
ended, whatever has become of the file in the meantime.
-/

namespace VerifiedBuild

/-- How much a writer has handed over to its file, and what waits. -/
structure Writer where
  offset : Nat := 0
  pending : Octets := []
deriving DecidableEq, Repr, Inhabited

namespace Writer

def handOver (writer : Writer) (store : Store) (place : Place) (piece : Octets) : Writer × Store :=
  let bytes := writer.pending ++ piece
  ({ offset := writer.offset + bytes.length }, store.writeAt place writer.offset bytes)

/-- Put a piece into the writer: it waits if it is shorter than `limit`. -/
def put (writer : Writer) (store : Store) (place : Place) (limit : Nat) (piece : Octets) :
    Writer × Store :=
  if piece.length < limit then ({ writer with pending := writer.pending ++ piece }, store)
  else writer.handOver store place piece

def room (writer : Writer) : Nat :=
  Store.streamCapacity - writer.pending.length

/-- Put in a line: its text is one piece, the character that ends it another. -/
def putLine (writer : Writer) (store : Store) (place : Place) (line : Octets) : Writer × Store :=
  let (started, written) := writer.put store place (min Store.largePiece writer.room) line.dropLast
  started.put written place (started.room + 1) (line.drop (line.length - 1))

end Writer

end VerifiedBuild
