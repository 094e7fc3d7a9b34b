import SignatureLint.Dump.Stream

/-!
# A counter of 32 bits

A program counts the lines of a dump in 32 bits, which is enough for 4294967295 lines. What becomes of a line more
is decided where the program is built (`Overflow`): with checks of its arithmetic it panics there, and without them
it counts on from zero. `Reader.feed?` takes the next line under the number that such a counter gives it,
`Stream.next?` hands out one class at a time, and `Dump.contents?` reads a whole dump; where the program panics
there is no answer.

A counter that starts again gives numbers a second time. So a line far down in a dump can be taken for the first
line, which may name the format, and two diagnostics can stand under one number.
-/

namespace SignatureLint

/-- What a program does where its counter of 32 bits has no further number. -/
inductive Overflow where
  /-- It panics, and does no more. -/
  | panics
  /-- The counter starts again at zero. -/
  | wraps
deriving DecidableEq, Repr

/-- The number after `n`; none where the program panics. -/
def Overflow.next? (o : Overflow) (n : UInt32) : Option UInt32 :=
  match o with
  | .panics => if n.toNat + 1 < UInt32.size then some (n + 1) else none
  | .wraps => some (n + 1)

namespace Reader

/-- Takes the next line under the next number of the counter, if the program has one for it. -/
def feed? (o : Overflow) (r : Reader) (text : String) : Option (Reader × Option Class) :=
  (o.next? (.ofNat r.line)).map fun number => r.take (.ofText number.toNat text)

/-- The classes that the lines end, and the reader after them; no reader where the program panics on the way. -/
def feedAll? (o : Overflow) (r : Reader) : List String → List Class × Option Reader
  | [] => ([], some r)
  | text :: texts =>
    match r.feed? o text with
    | none => ([], none)
    | some (r, ended) =>
      let (classes, last) := r.feedAll? o texts
      (ended.toList ++ classes, last)

end Reader

namespace Stream

/-- Reads on to the next class that ends, or to the end of the dump. -/
def next? (o : Overflow) : Stream → Option (Option Class × Stream)
  | ⟨reader, []⟩ => some (none, ⟨reader.finish, []⟩)
  | ⟨reader, text :: texts⟩ =>
    match reader.feed? o text with
    | none => none
    | some (reader, some c) => some (some c, ⟨reader, texts⟩)
    | some (reader, none) => next? o ⟨reader, texts⟩
termination_by s => s.lines.length

/-- All classes that are handed out, one after the other, and the reader at the end of the dump; no reader where the
program panics before it. -/
def drain? (o : Overflow) (s : Stream) : List Class × Option Reader :=
  let (classes, last) := s.reader.feedAll? o s.lines
  (classes, last.map Reader.finish)

variable {o : Overflow} {s left : Stream} {c : Class}

theorem drain?_of_next?_eq_some (handed : s.next? o = some (some c, left)) :
    s.drain? o = (c :: (left.drain? o).1, (left.drain? o).2) := by
  fun_induction next? o s with
  | case1 => cases handed
  | case2 => cases handed
  | case3 reader text texts reader' c' fed =>
    cases handed
    simp only [drain?, Reader.feedAll?, fed]
    rfl
  | case4 reader text texts reader' fed ih =>
    rw [← ih handed]
    simp only [drain?, Reader.feedAll?, fed]
    rfl

theorem drain?_of_next?_eq_end (handed : s.next? o = some (none, left)) : s.drain? o = ([], some left.reader) := by
  fun_induction next? o s with
  | case1 reader =>
    cases handed
    rfl
  | case2 => cases handed
  | case3 => cases handed
  | case4 reader text texts reader' fed ih =>
    rw [← ih handed]
    simp only [drain?, Reader.feedAll?, fed]
    rfl

theorem drain?_of_next?_eq_none (panicked : s.next? o = none) : s.drain? o = ([], none) := by
  fun_induction next? o s with
  | case1 => cases panicked
  | case2 reader text texts fed =>
    simp only [drain?, Reader.feedAll?, fed]
    rfl
  | case3 => cases panicked
  | case4 reader text texts reader' fed ih =>
    rw [← ih panicked]
    simp only [drain?, Reader.feedAll?, fed]
    rfl

end Stream

/-- What a dump declares, read by a program with such a counter; none where it panics. -/
def Dump.contents? (o : Overflow) (d : Dump) : Option Contents :=
  let (classes, last) := d.stream.drain? o
  last.map fun reader => .ofReader reader classes

end SignatureLint
