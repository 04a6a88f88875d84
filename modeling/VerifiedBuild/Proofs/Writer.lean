import VerifiedBuild.Proofs.Observation

/-!
# What a writer has taken

A writer and its file together hold the bytes that were put in, in order: what was handed over is
the content of the file, the rest waits. That is so as long as no one else changes the content.
-/

namespace VerifiedBuild

/-! ## Places -/

namespace Store

variable {store : Store} {place : Place} {content : Octets} {executable : Bool}

theorem lookup_set (inside : place ≠ []) (node : Node) :
    (store.set place node).lookup place = some node := by
  rw [lookup, if_neg inside, set]
  split
  next present =>
    -- The first entry of the place is replaced, and none before it is one of the place.
    obtain ⟨entry, here⟩ : ∃ entry : Place × Node,
        store.entries.find? (·.1 = place) = some entry := by
      rw [← Option.isSome_iff_exists, List.find?_isSome]
      exact List.any_eq_true.mp present
    have named : entry.1 = place := by simpa using List.find?_some here
    have same : ((fun entry : Place × Node => decide (entry.1 = place)) ∘
        fun entry : Place × Node => if entry.1 = place then (place, node) else entry) =
          fun entry => decide (entry.1 = place) := by
      funext other
      by_cases equal : other.1 = place <;> simp [equal]
    rw [List.find?_map, same, here]
    simp [named]
  next absent =>
    have none : store.entries.find? (·.1 = place) = none := by
      rw [List.find?_eq_none]
      exact fun entry member here => absent (List.any_eq_true.mpr ⟨entry, member, here⟩)
    simp [List.find?_append, none]

theorem held_set (store : Store) (place : Place) (node : Node) :
    (store.set place node).held = store.held := by
  unfold set
  split <;> rfl

theorem inside_of_lookup (found : store.lookup place = some (.file content executable)) :
    place ≠ [] := by
  rintro rfl
  cases found

theorem patch_length (content bytes : Octets) :
    patch content content.length bytes = content ++ bytes := by
  unfold patch
  split <;> simp_all

theorem lookup_writeAt (found : store.lookup place = some (.file content executable))
    (bytes : Octets) : (store.writeAt place content.length bytes).lookup place =
      some (.file (content ++ bytes) executable) := by
  rw [writeAt, found]
  dsimp only
  rw [lookup_set (inside_of_lookup found), patch_length]

theorem held_writeAt (store : Store) (place : Place) (offset : Nat) (bytes : Octets) :
    (store.writeAt place offset bytes).held = store.held := by
  unfold writeAt
  split
  · exact store.held_set _ _
  · rfl

/-- The content of the file that is held open, if it is there. -/
def openContent (store : Store) : Option Octets :=
  store.held.bind fun place => match store.lookup place with
    | some (.file content _) => some content
    | _ => none

theorem openContent_eq_some_iff : store.openContent = some content ↔
    ∃ place executable, store.held = some place ∧
      store.lookup place = some (.file content executable) := by
  rw [openContent, Option.bind_eq_some_iff]
  refine exists_congr fun place => ?_
  rw [exists_and_left]
  refine and_congr_right fun _ => ?_
  rcases store.lookup place with _ | node
  · simp
  · cases node <;> simp

end Store

/-! ## Writers -/

namespace Writer

/-- The file is held open, and with what waits in the writer it makes up the bytes. -/
structure Keeps (writer : Writer) (store : Store) (place : Place) (bytes : Octets) : Prop where
  held : store.held = some place
  file : ∃ content executable, store.lookup place = some (.file content executable) ∧
    writer.offset = content.length ∧ content ++ writer.pending = bytes

variable {writer : Writer} {store : Store} {place : Place} {bytes : Octets}

theorem Keeps.handOver (keeps : writer.Keeps store place bytes) (piece : Octets) :
    (writer.handOver store place piece).1.Keeps (writer.handOver store place piece).2 place
      (bytes ++ piece) := by
  obtain ⟨held, content, executable, found, offset, rfl⟩ := keeps
  constructor
  case held => exact (store.held_writeAt _ _ _).trans held
  case file =>
    refine ⟨content ++ (writer.pending ++ piece), executable, ?_, ?_, ?_⟩
    · rw [Writer.handOver, offset]
      exact Store.lookup_writeAt found _
    · simp [Writer.handOver, offset]
    · simp [Writer.handOver]

theorem Keeps.put (keeps : writer.Keeps store place bytes) (limit : Nat) (piece : Octets) :
    (writer.put store place limit piece).1.Keeps (writer.put store place limit piece).2 place
      (bytes ++ piece) := by
  unfold Writer.put
  split
  next =>
    obtain ⟨held, content, executable, found, offset, rfl⟩ := keeps
    exact ⟨held, content, executable, found, offset, (List.append_assoc ..).symm⟩
  next => exact keeps.handOver piece

theorem Keeps.putLine (keeps : writer.Keeps store place bytes) (line : Octets) :
    (writer.putLine store place line).1.Keeps (writer.putLine store place line).2 place
      (bytes ++ line) := by
  have whole : line = line.dropLast ++ line.drop (line.length - 1) := by
    rw [List.dropLast_eq_take, List.take_append_drop]
  have started := keeps.put (min Store.largePiece writer.room) line.dropLast
  have ended := started.put (((writer.put store place (min Store.largePiece writer.room)
    line.dropLast).1).room + 1) (line.drop (line.length - 1))
  rw [List.append_assoc, ← whole] at ended
  exact ended

theorem Keeps.takeIn (keeps : writer.Keeps store place bytes) (lines : List Octets) :
    (writer.takeIn store lines).1.Keeps (writer.takeIn store lines).2 place
      (bytes ++ lines.flatten) := by
  rw [Writer.takeIn, keeps.held]
  dsimp only
  induction lines generalizing writer store bytes with
  | nil => simpa using keeps
  | cons line rest ih =>
      rw [List.foldl_cons, List.flatten_cons, ← List.append_assoc]
      exact ih (keeps.putLine line)

theorem Keeps.of_openContent (keeps : writer.Keeps store place bytes) {after : Store}
    (same : after.openContent = store.openContent) : ∃ there, writer.Keeps after there bytes := by
  obtain ⟨held, content, executable, found, offset, whole⟩ := keeps
  have before : store.openContent = some content :=
    Store.openContent_eq_some_iff.mpr ⟨place, executable, held, found⟩
  obtain ⟨there, other, still, same⟩ := Store.openContent_eq_some_iff.mp (same.trans before)
  exact ⟨there, still, content, other, same, offset, whole⟩

end Writer

end VerifiedBuild
