import Mathlib.Data.List.Infix

/-!
# `std::ostream` in libstdc++

The debug macros write through a `std::ostream` after asking it, with
`exceptions (badbit)`, to throw `ios_base::failure` as soon as it goes bad.
The model keeps what libstdc++ 12 reads and changes on that path: the state
bits, the exception mask, the formatting state (`width ()`, `fill ()` and
the `adjustfield` of `flags ()`), the text written so far, and how much more
the stream buffer takes before a write fails.  Every `failure` is thrown by
`clear`, the one place where libstdc++ compares the state with the mask;
`setstate` and `exceptions` both call it.

What a chain of insertions prints, padding included, is `Format.render`, a
function of the formatting state alone.  `insertAll_of_good` says what the
chain does to a good stream: the buffer takes as much of that text as it has
room for, and the stream goes bad, and throws, exactly when that is not all
of it.
-/

namespace Europa
namespace Cxx

/-- `ios_base::iostate`: the bits `badbit`, `eofbit` and `failbit`. -/
structure Iostate where
  bad : Bool
  eof : Bool
  fail : Bool
deriving DecidableEq, Repr

namespace Iostate

instance : AndOp Iostate := ⟨fun a b => ⟨a.bad && b.bad, a.eof && b.eof, a.fail && b.fail⟩⟩

instance : OrOp Iostate := ⟨fun a b => ⟨a.bad || b.bad, a.eof || b.eof, a.fail || b.fail⟩⟩

/-- An `iostate` used as a condition: whether some bit is set. -/
def any (s : Iostate) : Bool := s.bad || s.eof || s.fail

variable (a b : Iostate)

@[simp] theorem and_bad : (a &&& b).bad = (a.bad && b.bad) := rfl

@[simp] theorem and_eof : (a &&& b).eof = (a.eof && b.eof) := rfl

@[simp] theorem and_fail : (a &&& b).fail = (a.fail && b.fail) := rfl

@[simp] theorem or_bad : (a ||| b).bad = (a.bad || b.bad) := rfl

@[simp] theorem or_eof : (a ||| b).eof = (a.eof || b.eof) := rfl

@[simp] theorem or_fail : (a ||| b).fail = (a.fail || b.fail) := rfl

end Iostate

def goodbit : Iostate := ⟨false, false, false⟩

def badbit : Iostate := ⟨true, false, false⟩

def eofbit : Iostate := ⟨false, true, false⟩

def failbit : Iostate := ⟨false, false, true⟩

/-- What the `failure` thrown by `clear` says (libstdc++ from GCC 5 on). -/
def clearFailure : String := "basic_ios::clear: iostream error"

/-! ## Formatting -/

/-- `ios_base::adjustfield`: `left`, `internal`, or padding first (`right`,
or no flag). -/
inductive Adjust
  | left
  | right
  | internal
deriving DecidableEq, Repr

/-- What formatted output reads of a stream: `width ()`, `fill ()` and the
`adjustfield` of `flags ()`. -/
structure Format where
  width : Nat
  fill : Char
  adjust : Adjust
deriving DecidableEq, Repr

/-- One `<<` of a chain: text (a string, a C string or a `char`), a number
as `num_put` spells it, the manipulators `std::setw`, `std::setfill` and
`std::left`, `std::right`, `std::internal`, and `std::endl`. -/
inductive Insertion
  | text (s : String)
  | number (s : String)
  | setw (n : Nat)
  | setfill (c : Char)
  | adjust (a : Adjust)
  | endl

namespace Format

/-- What `basic_ios::init` sets: width 0, a space as the fill, and no
`adjustfield` flag. -/
def init : Format := ⟨0, ' ', .right⟩

/-- What `__ostream_insert` prints for the text `s`: the fill up to the
width, after the text when `adjustfield` is `left` and before it otherwise
(none when the text is as wide). -/
def padText (f : Format) (s : List Char) : List Char :=
  if f.adjust = .left then s ++ List.replicate (f.width - s.length) f.fill
  else List.replicate (f.width - s.length) f.fill ++ s

/-- How much of a number `__pad::_S_pad` keeps before the fill for
`internal`: its sign, or its `0x`. -/
def signLength : List Char → Nat
  | '-' :: _ => 1
  | '+' :: _ => 1
  | '0' :: 'x' :: _ => 2
  | '0' :: 'X' :: _ => 2
  | _ => 0

/-- What `num_put` prints for a number spelled `s`: the fill up to the
width, after it for `left`, after its sign or `0x` for `internal`, and before
it otherwise. -/
def padNumber (f : Format) (s : List Char) : List Char :=
  match f.adjust with
  | .left => s ++ List.replicate (f.width - s.length) f.fill
  | .internal =>
    s.take (signLength s) ++ List.replicate (f.width - s.length) f.fill ++ s.drop (signLength s)
  | .right => List.replicate (f.width - s.length) f.fill ++ s

/-- What an insertion prints on a stream that stays good, and the format
after it.  Text and numbers reset the width; `std::endl` is `put` and
`flush`, which neither read nor reset it. -/
def write (f : Format) : Insertion → List Char × Format
  | .text s => (f.padText s.toList, { f with width := 0 })
  | .number s => (f.padNumber s.toList, { f with width := 0 })
  | .setw n => ([], { f with width := n })
  | .setfill c => ([], { f with fill := c })
  | .adjust a => ([], { f with adjust := a })
  | .endl => (['\n'], f)

/-- What a chain of insertions prints on a stream that stays good, and the
format it leaves. -/
def render (f : Format) : List Insertion → List Char × Format
  | [] => ([], f)
  | i :: is => ((f.write i).1 ++ ((f.write i).2.render is).1, ((f.write i).2.render is).2)

/-- A width left pending pads the next text, and `std::internal` puts a
number's fill after its sign. -/
example : (render ⟨3, '*', .right⟩
    [.text "[", .text "x", .setw 5, .adjust .internal, .number "-42", .endl]).1 =
      "**[x-**42\n".toList := by
  decide

end Format

/-! ## The stream -/

/-- A `std::ostream`: `rdstate ()`, the mask set with `exceptions ()`, its
formatting state, the characters written so far, and how many more its
buffer takes. -/
structure Ostream where
  rdstate : Iostate
  exceptions : Iostate
  format : Format
  text : List Char
  room : Nat

namespace Ostream

/-- `good ()`: `rdstate () == 0`. -/
def good (os : Ostream) : Bool := !os.rdstate.any

/-- `clear (state)`: sets the state, and throws `failure` (the flag) when a
bit of it is in the exception mask. -/
def clear (os : Ostream) (state : Iostate) : Ostream × Bool :=
  ({ os with rdstate := state }, (state &&& os.exceptions).any)

/-- `setstate (state)`: `clear (rdstate () | state)`. -/
def setstate (os : Ostream) (state : Iostate) : Ostream × Bool :=
  os.clear (os.rdstate ||| state)

/-- `exceptions (except)`: sets the mask, then `clear (rdstate ())`, which
throws at once when the stream already has a bit of the mask. -/
def setExceptions (os : Ostream) (except : Iostate) : Ostream × Bool :=
  { os with exceptions := except }.clear os.rdstate

/-- `width (n)`. -/
def setWidth (os : Ostream) (n : Nat) : Ostream := { os with format := { os.format with width := n } }

/-- The `sentry` of an output operation on a stream that is not good:
nothing is written, and a bad stream gets `failbit`. -/
def sentryFail (os : Ostream) : Ostream × Bool :=
  if os.rdstate.bad then os.setstate failbit else (os, false)

/-- `sputn`: the stream buffer takes what it has room for of `out`, and the
stream gets `badbit` when that is not all of it. -/
def sputn (os : Ostream) (out : List Char) : Ostream × Bool :=
  if out.length ≤ os.room then
    ({ os with text := os.text ++ out, room := os.room - out.length }, false)
  else { os with text := os.text ++ out.take os.room, room := 0 }.setstate badbit

/-- One `<<`.  Text goes through `__ostream_insert`, which resets the width
unless the write threw; `num_put` resets it before it writes; manipulators
act whatever the state; `std::endl` is `put ('\n')` then `flush ()`, and
the stream buffer's `pubsync` never fails here. -/
def insert (os : Ostream) : Insertion → Ostream × Bool
  | .text s =>
    if os.good then
      let r := os.sputn (os.format.padText s.toList)
      if r.2 then r else (r.1.setWidth 0, false)
    else os.sentryFail
  | .number s =>
    if os.good then (os.setWidth 0).sputn (os.format.padNumber s.toList) else os.sentryFail
  | .setw n => (os.setWidth n, false)
  | .setfill c => ({ os with format := { os.format with fill := c } }, false)
  | .adjust a => ({ os with format := { os.format with adjust := a } }, false)
  | .endl =>
    let r := if os.good then os.sputn ['\n'] else os.sentryFail
    if r.2 then r else if r.1.good then r else r.1.sentryFail

/-- A chain `os << i₁ << i₂ << …`, which ends at the first `failure`. -/
def insertAll (os : Ostream) : List Insertion → Ostream × Bool
  | [] => (os, false)
  | i :: is => if (os.insert i).2 then os.insert i else (os.insert i).1.insertAll is

section Lemmas

variable {os : Ostream} {out : List Char}

@[simp] theorem setExceptions_fst (except : Iostate) :
    (os.setExceptions except).1 = { os with exceptions := except } := rfl

@[simp] theorem setExceptions_snd (except : Iostate) :
    (os.setExceptions except).2 = (os.rdstate &&& except).any := rfl

/-- The buffer takes all of `out` when it has room for it. -/
theorem sputn_of_le (hfit : out.length ≤ os.room) :
    os.sputn out = ({ os with text := os.text ++ out, room := os.room - out.length }, false) :=
  if_pos hfit

/-- With only `badbit` in the mask, a write the buffer has no room for makes
the stream bad and throws, after the buffer took what it had room for. -/
theorem sputn_of_lt (hmask : os.exceptions = badbit) (hlt : os.room < out.length) :
    (os.sputn out).1.text = os.text ++ out.take os.room ∧ (os.sputn out).1.exceptions = badbit ∧
      (os.sputn out).2 = true ∧ (os.sputn out).1.rdstate.bad := by
  simp [sputn, Nat.not_le.mpr hlt, setstate, clear, hmask, badbit, Iostate.any]

/-- On a stream that failed without going bad, an insertion writes nothing,
throws nothing and leaves the state bits and the mask as they were. -/
theorem insert_of_failed (h : os.good = false) (hbad : os.rdstate.bad = false) (i : Insertion) :
    (os.insert i).2 = false ∧ (os.insert i).1.text = os.text ∧
      (os.insert i).1.rdstate = os.rdstate ∧ (os.insert i).1.exceptions = os.exceptions := by
  have hsentry : os.sentryFail = (os, false) := if_neg (ne_true_of_eq_false hbad)
  cases i <;> simp [insert, h, hsentry, setWidth]

/-- On a stream that failed without going bad, with only `badbit` in the
mask, a chain of insertions writes nothing, throws nothing and does not make
the stream bad. -/
theorem insertAll_of_failed (h : os.good = false) (hbad : os.rdstate.bad = false)
    (hmask : os.exceptions = badbit) (is : List Insertion) :
    (os.insertAll is).2 = false ∧ (os.insertAll is).1.text = os.text ∧
      (os.insertAll is).1.good = false ∧ (os.insertAll is).1.rdstate.bad = false ∧
      (os.insertAll is).1.exceptions = badbit := by
  induction is generalizing os with
  | nil => exact ⟨rfl, rfl, h, hbad, hmask⟩
  | cons i is ih =>
      obtain ⟨hthrow, htext, hstate, hmask'⟩ := insert_of_failed h hbad i
      have hgood : (os.insert i).1.good = false := by rw [good, hstate]; exact h
      obtain ⟨hthrow', htext', hgood', hbad', hmask''⟩ :=
        ih hgood (by rw [hstate]; exact hbad) (hmask'.trans hmask)
      simp only [insertAll, hthrow, Bool.false_eq_true, if_false]
      exact ⟨hthrow', htext'.trans htext, hgood', hbad', hmask''⟩

/-- One insertion on a good stream with only `badbit` in the mask: the
buffer takes as much of what `Format.write` prints as it has room for; if
that is all, the stream stays good with the format `write` gives, and
otherwise it goes bad and throws. -/
theorem insert_of_good (h : os.good) (hmask : os.exceptions = badbit) (i : Insertion) :
    (os.insert i).1.text = os.text ++ (os.format.write i).1.take os.room ∧
      (os.insert i).1.exceptions = badbit ∧
      if (os.format.write i).1.length ≤ os.room then
        (os.insert i).2 = false ∧ (os.insert i).1.good ∧
          (os.insert i).1.format = (os.format.write i).2 ∧
          (os.insert i).1.room = os.room - (os.format.write i).1.length
      else (os.insert i).2 = true ∧ (os.insert i).1.rdstate.bad := by
  have hany : os.rdstate.any = false := by simpa [good] using h
  by_cases hfit : (os.format.write i).1.length ≤ os.room
  · -- the buffer takes all of it
    rw [if_pos hfit, List.take_of_length_le hfit]
    cases i <;> simp only [Format.write] at hfit ⊢ <;>
      simp only [insert, h, if_true, sputn_of_le hfit, @sputn_of_le (os.setWidth 0) _ hfit] <;>
      simp [setWidth, good, hany, hmask]
  · -- the buffer overflows: what `sputn` returns is what the insertion returns
    rw [if_neg hfit]
    have hlt := Nat.lt_of_not_le hfit
    cases i with
    | text _ | endl =>
        simp only [Format.write] at hlt
        obtain ⟨htext, hmask', hthrow, hbad⟩ := sputn_of_lt hmask hlt
        simp only [insert, h, if_true, hthrow]
        exact ⟨htext, hmask', trivial, hbad⟩
    | number s =>
        simp only [insert, h, if_true]
        exact @sputn_of_lt (os.setWidth 0) _ hmask hlt
    | setw n | setfill c | adjust a => exact absurd hlt (Nat.not_lt_zero _)

/-- A chain of insertions on a good stream with only `badbit` in the mask:
the buffer takes as much of what `Format.render` prints as it has room for;
if that is all, the stream stays good with the format `render` gives, and
otherwise it goes bad and the chain throws. -/
theorem insertAll_of_good (h : os.good) (hmask : os.exceptions = badbit) (is : List Insertion) :
    (os.insertAll is).1.text = os.text ++ (os.format.render is).1.take os.room ∧
      (os.insertAll is).1.exceptions = badbit ∧
      if (os.format.render is).1.length ≤ os.room then
        (os.insertAll is).2 = false ∧ (os.insertAll is).1.good ∧
          (os.insertAll is).1.format = (os.format.render is).2
      else (os.insertAll is).2 = true ∧ (os.insertAll is).1.rdstate.bad := by
  induction is generalizing os with
  | nil => simp [insertAll, Format.render, h, hmask]
  | cons i is ih =>
      obtain ⟨htext, hmask', hend⟩ := insert_of_good h hmask i
      simp only [Format.render, List.length_append]
      split_ifs at hend with hfit
      · -- the insertion is all written: the rest of the chain goes on from there
        obtain ⟨hthrow, hgood, hformat, hroom⟩ := hend
        obtain ⟨htext', hmask'', hrest⟩ := ih hgood hmask'
        rw [hformat, hroom] at htext' hrest
        simp only [insertAll, hthrow, Bool.false_eq_true, if_false]
        refine ⟨?_, hmask'', ?_⟩
        · rw [htext', htext, List.take_append_eq_append_take, List.take_of_length_le hfit,
            List.append_assoc]
        · simpa only [Nat.le_sub_iff_add_le' hfit] using hrest
      · -- the buffer took part of it: the stream is bad and the chain stops
        simp only [insertAll, hend.1, if_true]
        refine ⟨?_, hmask', ?_⟩
        · rw [htext, List.take_append_of_le_length (by omega)]
        · rw [if_neg (by omega)]
          exact ⟨trivial, hend.2⟩

end Lemmas

end Ostream

end Cxx
end Europa
