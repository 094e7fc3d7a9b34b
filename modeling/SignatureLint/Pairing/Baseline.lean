import SignatureLint.Dump.Stream
import SignatureLint.Pairing.Visit

/-!
# A baseline that is read on demand

The classes of a current dump are visited as they are read, and their baseline is read only as far as the look-ups
ask for its classes. A `Baseline` is the stream of a baseline with a cursor over what has been read of it and not
handed out; `Baseline.walk` visits what `walk` visits, and leaves both streams where it came to. What the look-ups
never asked for is left unread.
-/

namespace SignatureLint

open Cursor (Misuse)

/-- A baseline that is read as far as its classes are asked for. -/
structure Baseline where
  stream : Stream
  /-- Over the classes that were read and not handed out. -/
  cursor : Cursor Class

namespace Baseline

/-- A baseline of which nothing has been read. -/
def ofStream (stream : Stream) : Baseline := { stream, cursor := .ofList [] }

/-- The cursor with classes that were read for it. -/
def load (cursor : Cursor Class) (classes : List Class) : Cursor Class := { cursor with source := classes }

/-- Hands out the next class: one that waits, or one that is read for it. -/
def next (b : Baseline) : Option Class × Baseline :=
  match b.cursor.next with
  | (some c, cursor) => (some c, { b with cursor })
  | (none, _) =>
    match b.stream.next with
    | (read, stream) =>
      match (load b.cursor read.toList).next with
      | (handed, cursor) => (handed, { stream, cursor })

/-- Takes a class back. -/
def giveBack (b : Baseline) (c : Class) : Except Misuse Baseline :=
  (b.cursor.giveBack c).map fun cursor => { b with cursor }

/-- What bounds the number of classes still to come. -/
def size (b : Baseline) : Nat := b.stream.lines.length + b.cursor.size

theorem toList_load {cursor : Cursor Class} (empty : cursor.toList = []) (classes : List Class) :
    (load cursor classes).toList = classes := by
  obtain ⟨parked, -⟩ := List.append_eq_nil_iff.mp empty
  show cursor.parked.toList ++ classes = classes
  rw [parked, List.nil_append]

theorem size_next {b d : Baseline} {c : Class} (handed : b.next = (some c, d)) : d.size < b.size := by
  unfold next at handed
  split at handed
  next waiting =>
    cases handed
    exact Nat.add_lt_add_left (Cursor.size_next waiting) _
  next empty =>
    obtain ⟨nothing, -⟩ := Cursor.next_eq_none empty
    split at handed
    next read stream drawn =>
      split at handed
      next handed' cursor got =>
        cases handed
        have classes := (Cursor.next_eq_some got).1
        rw [toList_load nothing] at classes
        cases read with
        | none => cases classes
        | some item =>
          have shorter := Stream.length_next drawn
          obtain ⟨-, rest⟩ := List.cons.inj classes
          simp only [size, Cursor.size, ← rest, List.length_nil]
          omega

/-- The class with the name of the target, past everything that comes before it. -/
def find (b : Baseline) (target : ClassName) : Except Misuse (Option Class × Baseline) :=
  match _handed : b.next with
  | (none, b) => .ok (none, b)
  | (some c, b) =>
    match (className c).compare target with
    | .lt => b.find target
    | .eq => .ok (some c, b)
    | .gt => (b.giveBack c).map fun b => (none, b)
termination_by b.size
decreasing_by exact size_next _handed

/-- Looks each name up, and visits what is found. -/
def visitKnown (names : List ClassName) (b : Baseline) : Except Misuse (List Visit × Baseline) :=
  match names with
  | [] => .ok ([], b)
  | name :: names => do
    let (found, b) ← b.find name
    let (visits, b) ← visitKnown names b
    return (found.toList.map .known ++ visits, b)

/-- Visits the known classes before the target. -/
def visitKnownBefore (known : Cursor ClassName) (b : Baseline) (target : Option ClassName) :
    Except Misuse (List Visit × Cursor ClassName × Baseline) := do
  let (names, known) ← known.sweep target
  let (visits, b) ← visitKnown names b
  return (visits, known, b)

/-- Visits the current classes as they are read, and the known classes between and after them. The streams are
left as far as they were read. -/
def walk (known : Cursor ClassName) (b : Baseline) (current : Stream) :
    Except Misuse (List Visit × Stream × Baseline) :=
  match _handed : current.next with
  | (none, current) => do
    let (after, _, b) ← visitKnownBefore known b none
    return (after, current, b)
  | (some c, current) => do
    let (before, known, b) ← visitKnownBefore known b (some c.className)
    let (counterpart, b) ← b.find c.className
    let (after, left) ← walk known b current
    return (before ++ .current c counterpart :: after, left)
termination_by current.lines.length
decreasing_by exact Stream.length_next _handed

end Baseline

/-- A walk over streams, and how far they were read for it. -/
structure StreamWalk where
  walk : Walk
  current : Stream
  base : Baseline

/-- The walk over the stream of a current dump beside that of its baseline. -/
def StreamWalk.of (current base : Stream) (known : List ClassName) : StreamWalk :=
  match Baseline.walk (.ofList known) (.ofStream base) current with
  | .ok (visits, current, base) => { walk := { visits }, current, base }
  | .error _ => { walk := { visits := [] }, current, base := .ofStream base }

end SignatureLint
