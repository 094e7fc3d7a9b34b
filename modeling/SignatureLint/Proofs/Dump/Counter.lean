import SignatureLint.Dump.Counter
import SignatureLint.Proofs.Dump.Drain

/-!
# The numbers that a counter of 32 bits gives

A program with a counter of 32 bits reads the lines of a dump as far as it comes, under the numbers that its counter
has for them (`Overflow.numbered`), and reading them is taking them one after the other (`Reader.feedAll?_start`).
A dump with fewer than 2^32 lines is read as it is without a bound (`Dump.contents?_eq`), whatever the program does
beyond. A dump with more is not read to its end where the program panics (`Dump.contents?_eq_none`); where the
counter starts again, a line stands under the remainder of its number.
-/

namespace SignatureLint

namespace Overflow

/-- The program comes to the end of so many lines. -/
def Reaches (o : Overflow) (count : Nat) : Prop := o = .panics → count < UInt32.size

/-- The program gives no two of so many lines one number. -/
def Exact (o : Overflow) (count : Nat) : Prop := o = .wraps → count < UInt32.size

instance (o : Overflow) (count : Nat) : Decidable (o.Reaches count) := inferInstanceAs (Decidable (_ → _))

/-- The lines that the program comes to, with the numbers that it gives them. -/
def numbered (o : Overflow) (texts : List String) : List Line :=
  match o with
  | .panics => SignatureLint.numbered (texts.take (UInt32.size - 1))
  | .wraps => texts.mapIdx fun i text => .ofText ((i + 1) % UInt32.size) text

variable {o : Overflow} {count n : Nat} {texts : List String}

/-- As long as a program gives exact numbers and comes to the end, there are fewer lines than numbers. -/
theorem Exact.lt_size (exact : o.Exact count) (reaches : o.Reaches count) : count < UInt32.size := by
  cases o with
  | panics => exact reaches rfl
  | wraps => exact exact rfl

theorem next?_of_lt (o : Overflow) (inside : n + 1 < UInt32.size) :
    o.next? (.ofNat n) = some (.ofNat (n + 1)) := by
  have number : (UInt32.ofNat n).toNat = n := UInt32.toNat_ofNat_of_lt' (Nat.lt_of_succ_lt inside)
  cases o with
  | panics => rw [next?, number, if_pos inside, UInt32.ofNat_add]; rfl
  | wraps => rw [next?, UInt32.ofNat_add]; rfl

/-- Past its last number the counter starts again. -/
theorem next?_wraps (n : Nat) : Overflow.wraps.next? (.ofNat n) = some (.ofNat (n + 1)) := by
  rw [next?, UInt32.ofNat_add]
  rfl

theorem numbered_eq (few : texts.length < UInt32.size) (o : Overflow) :
    o.numbered texts = SignatureLint.numbered texts := by
  cases o with
  | panics => rw [numbered, List.take_of_length_le (by omega)]
  | wraps =>
    refine List.mapIdx_eq_mapIdx_iff.mpr fun i inside => ?_
    rw [Nat.mod_eq_of_lt (by omega)]

end Overflow

namespace Reader

variable {o : Overflow} {r : Reader} {text : String}

/-! ## One line -/

/-- As long as there are numbers, a line is taken under its own. -/
theorem feed?_of_lt (o : Overflow) (inside : r.line + 1 < UInt32.size) (text : String) :
    r.feed? o text = some (r.feed text) := by
  rw [feed?, o.next?_of_lt inside, Option.map_some, UInt32.toNat_ofNat_of_lt' inside, feed]

theorem feed?_wraps (r : Reader) (text : String) :
    r.feed? .wraps text = some (r.take (.ofText ((r.line + 1) % UInt32.size) text)) := by
  rw [feed?, Overflow.next?_wraps, Option.map_some, UInt32.toNat_ofNat']

/-- The program panics over the line behind the last number. -/
theorem feed?_panics (last : r.line + 1 = UInt32.size) : r.feed? .panics text = none := by
  have number : (UInt32.ofNat r.line).toNat = r.line := UInt32.toNat_ofNat_of_lt' (by omega)
  rw [feed?, Overflow.next?, number, if_neg (by omega), Option.map_none]

/-! ## Runs -/

theorem feedAll?_cons_of_eq_some {texts : List String} {step : Reader × Option Class}
    (fed : r.feed? o text = some step) :
    r.feedAll? o (text :: texts) = (step.2.toList ++ (step.1.feedAll? o texts).1, (step.1.feedAll? o texts).2) := by
  rw [feedAll?, fed]

theorem feedAll?_cons_of_eq_none {texts : List String} (panicked : r.feed? o text = none) :
    r.feedAll? o (text :: texts) = ([], none) := by
  rw [feedAll?, panicked]

/-- Where the program comes to the end of the lines, it goes on from there. -/
theorem feedAll?_append_of_eq_some {texts : List String} {last : Reader}
    (reached : (r.feedAll? o texts).2 = some last) (later : List String) :
    r.feedAll? o (texts ++ later) =
      ((r.feedAll? o texts).1 ++ (last.feedAll? o later).1, (last.feedAll? o later).2) := by
  induction texts generalizing r with
  | nil =>
    cases reached
    rfl
  | cons text texts ih =>
    cases fed : r.feed? o text with
    | none =>
      rw [feedAll?_cons_of_eq_none fed] at reached
      cases reached
    | some step =>
      rw [feedAll?_cons_of_eq_some fed] at reached
      rw [List.cons_append, feedAll?_cons_of_eq_some fed, feedAll?_cons_of_eq_some fed, ih reached, List.append_assoc]

/-- As long as there are numbers, lines are read as they are without a bound. -/
theorem feedAll?_of_lt (o : Overflow) {texts : List String} (inside : r.line + texts.length < UInt32.size) :
    r.feedAll? o texts = ((r.feedAll texts).2, some (r.feedAll texts).1) := by
  induction texts generalizing r with
  | nil => rfl
  | cons text texts ih =>
    rw [List.length_cons] at inside
    have fed := feed?_of_lt o (r := r) (by omega) text
    rw [feedAll?_cons_of_eq_some fed, ih (by rw [line_feed]; omega), feedAll_cons]

/-- A program that panics reads as many lines as there are numbers, and stops. -/
theorem feedAll?_panics {texts : List String} (first : r.line < UInt32.size)
    (beyond : UInt32.size ≤ r.line + texts.length) :
    r.feedAll? .panics texts = ((r.feedAll (texts.take (UInt32.size - 1 - r.line))).2, none) := by
  have inside : r.line + (texts.take (UInt32.size - 1 - r.line)).length < UInt32.size := by
    rw [List.length_take]
    omega
  have before := feedAll?_of_lt .panics inside
  have split := List.take_append_drop (UInt32.size - 1 - r.line) texts
  cases rest : texts.drop (UInt32.size - 1 - r.line) with
  | nil =>
    have short := List.drop_eq_nil_iff.mp rest
    omega
  | cons text later =>
    have last : (r.feedAll (texts.take (UInt32.size - 1 - r.line))).1.line + 1 = UInt32.size := by
      rw [line_feedAll, List.length_take]
      omega
    have run := feedAll?_append_of_eq_some (congrArg Prod.snd before) (text :: later)
    rw [feedAll?_cons_of_eq_none (feed?_panics last), before, List.append_nil, ← rest, split] at run
    exact run

/-- The reader after the lines, and the classes that they ended. -/
def takeAll (r : Reader) : List Line → Reader × List Class
  | [] => (r, [])
  | line :: lines =>
    let (r, ended) := r.take line
    let (r, classes) := r.takeAll lines
    (r, ended.toList ++ classes)

theorem takeAll_cons (r : Reader) (line : Line) (lines : List Line) :
    r.takeAll (line :: lines) =
      (((r.take line).1.takeAll lines).1, (r.take line).2.toList ++ ((r.take line).1.takeAll lines).2) := rfl

/-- One more line. -/
theorem takeAll_snoc (r : Reader) (lines : List Line) (line : Line) :
    r.takeAll (lines ++ [line]) =
      (((r.takeAll lines).1.take line).1, (r.takeAll lines).2 ++ ((r.takeAll lines).1.take line).2.toList) := by
  induction lines generalizing r with
  | nil => simp [takeAll]
  | cons first lines ih =>
    rw [List.cons_append, takeAll_cons, takeAll_cons, ih]
    simp only [List.append_assoc]

/-- To read texts is to take them as lines, with their numbers. -/
theorem feedAll_eq_takeAll (file : String) (texts : List String) :
    (start file).feedAll texts = (start file).takeAll (numbered texts) := by
  induction texts using List.reverseRecOn with
  | nil => rfl
  | append_singleton texts text ih =>
    have count : ((start file).feedAll texts).1.line = texts.length := by
      rw [line_feedAll]
      exact Nat.zero_add _
    rw [feedAll_snoc, numbered_snoc, takeAll_snoc, ← ih, feed, count]

/-- So it is where the counter starts again, with the remainders of the numbers. -/
theorem feedAll?_wraps (file : String) (texts : List String) :
    (start file).feedAll? .wraps texts =
        (((start file).takeAll (Overflow.wraps.numbered texts)).2,
          some ((start file).takeAll (Overflow.wraps.numbered texts)).1) ∧
      ((start file).takeAll (Overflow.wraps.numbered texts)).1.line = texts.length % UInt32.size := by
  induction texts using List.reverseRecOn with
  | nil => exact ⟨rfl, rfl⟩
  | append_singleton texts text ih =>
    obtain ⟨run, line⟩ := ih
    have snoc : Overflow.wraps.numbered (texts ++ [text]) =
        Overflow.wraps.numbered texts ++ [.ofText ((texts.length + 1) % UInt32.size) text] := List.mapIdx_concat
    have fed := feed?_wraps ((start file).takeAll (Overflow.wraps.numbered texts)).1 text
    rw [line, Nat.mod_add_mod] at fed
    rw [feedAll?_append_of_eq_some (congrArg Prod.snd run), feedAll?_cons_of_eq_some fed, snoc, takeAll_snoc, run]
    refine ⟨?_, ?_⟩
    · rw [feedAll?, List.append_nil]
    · rw [line_take, Line.number_ofText, List.length_append, List.length_singleton]

/-- **A program with a counter of 32 bits takes the lines that it has numbers for**, with these numbers, and comes to
the end of the dump if there are no more. -/
theorem feedAll?_start (o : Overflow) (file : String) (texts : List String) :
    (start file).feedAll? o texts =
      (((start file).takeAll (o.numbered texts)).2,
        if o.Reaches texts.length then some ((start file).takeAll (o.numbered texts)).1 else none) := by
  cases o with
  | wraps => rw [(feedAll?_wraps file texts).1, if_pos nofun]
  | panics =>
    have first : (start file).line = 0 := rfl
    by_cases few : texts.length < UInt32.size
    · have inside : (start file).line + texts.length < UInt32.size := by omega
      have reaches : Overflow.panics.Reaches texts.length := fun _ => few
      rw [feedAll?_of_lt _ inside, if_pos reaches, Overflow.numbered_eq few, feedAll_eq_takeAll]
    · have reaches : ¬ Overflow.panics.Reaches texts.length := fun reaches => few (reaches rfl)
      have beyond : UInt32.size ≤ (start file).line + texts.length := by omega
      rw [feedAll?_panics (by rw [first]; decide) beyond, if_neg reaches, Overflow.numbered, ← feedAll_eq_takeAll,
        first, Nat.sub_zero]

/-- The reader after these lines; none where the program panics on the way. -/
def after? (o : Overflow) (file : String) (texts : List String) : Option Reader := ((start file).feedAll? o texts).2

variable {file : String} {texts : List String}

theorem after?_eq_some (reached : after? o file texts = some r) :
    r = ((start file).takeAll (o.numbered texts)).1 := by
  rw [after?, feedAll?_start] at reached
  dsimp only at reached
  split at reached
  · exact (Option.some.inj reached).symm
  · cases reached

theorem reaches_of_after? (reached : after? o file texts = some r) : o.Reaches texts.length := by
  rw [after?, feedAll?_start] at reached
  dsimp only at reached
  split at reached
  next reaches => exact reaches
  next => cases reached

end Reader

/-! ## Whole dumps -/

/-- As long as there are numbers, a stream hands out what it hands out without a bound. -/
theorem Stream.drain?_eq (o : Overflow) {file : String} {texts : List String} (few : texts.length < UInt32.size) :
    (ofLines file texts).drain? o = ((ofLines file texts).drain.1, some (ofLines file texts).drain.2) := by
  have inside : (Reader.start file).line + texts.length < UInt32.size := by
    rw [show (Reader.start file).line = 0 from rfl, Nat.zero_add]
    exact few
  rw [drain?, ofLines, Reader.feedAll?_of_lt o inside, drain_eq]
  rfl

/-- **A dump with fewer lines than numbers is read as it is without a bound.** -/
theorem Dump.contents?_eq (o : Overflow) {d : Dump} (few : (Text.lines d.text).length < UInt32.size) :
    d.contents? o = some d.contents := by
  rw [contents?, stream, Stream.drain?_eq o few, Stream.ofLines, Stream.drain_eq]
  rfl

/-- A dump with more lines is not read to its end where the program panics. -/
theorem Dump.contents?_panics_eq_none {d : Dump} (many : UInt32.size ≤ (Text.lines d.text).length) :
    d.contents? .panics = none := by
  have reaches : ¬ Overflow.panics.Reaches (Text.lines d.text).length := fun reaches => by
    have := reaches rfl
    omega
  simp only [contents?, stream, Stream.drain?, Stream.ofLines, Reader.feedAll?_start, if_neg reaches, Option.map_none]

end SignatureLint
