import Europa.Cxx.StdString
import Europa.Cxx.Ostream
import Europa.Utils.Error

/-!
# Debug messages

`DebugMessage::markerMatches` decides which debug messages
`enableMatchingMsgs` and `disableMatchingMsgs` switch.  It answers for an
empty pattern and for a marker shorter than the pattern before it asks
`std::string::find`, and then compares `find`'s answer, `npos` when nothing
is found, with the marker's length.

`markerMatches_iff_occurs` proves that the two shortcuts and the comparison
together decide plain substring containment, for every marker and pattern.

A message is enabled only through `enable`, which checks with `checkError`
that the debug stream is good; the check is compiled away under
`EUROPA_FAST`, and there a message is enabled on a bad stream too.  The
`goodbit` test in `enable`'s error message can never succeed, since
`goodbit` is 0.

An enabled message writes its line through `condDebugMsg`, which asks the
stream to throw when it goes bad and turns a `failure` into a failed
`checkError`, or rethrows it where that check is compiled away.  What a line
prints depends on the stream's formatting state, and a `std::setw` at the end
of one line's data pads the `[` of the next, since `std::endl` leaves the
width alone; `intendedLog` threads that state through the lines that the
enabled calls ask for.  Over any run of such calls, from any stream, the
stream holds a prefix of them (`runDebugMsgs_log_prefix`); from a good stream
a call escapes exactly when some of that text is lost
(`runDebugMsgs_escapes_iff`), while a stream that failed without going bad
loses every line and reports none (`runDebugMsgs_of_failed`), although the
documentation of `debugMsg` says that an enabled message is printed.
-/

namespace Europa
namespace DebugMessage

open Cxx

/-- `DebugMessage::markerMatches`: whether the given marker matches the
"pattern". -/
def markerMatches (marker pattern : StdString) : Bool :=
  if pattern.length < 1 then true
  else if marker.length < pattern.length then false
  else decide (marker.find pattern 0 < marker.length)

theorem markerMatches_iff_occurs (marker pattern : StdString) :
    markerMatches marker pattern = true ↔ pattern.data <:+: marker.data := by
  unfold markerMatches
  split_ifs with hempty hshort
  · have hnil : pattern.data = [] := List.eq_nil_of_length_eq_zero (by
      unfold StdString.length at hempty
      omega)
    simp [hnil, List.nil_infix]
  · refine ⟨by simp, fun hocc => absurd hocc.length_le ?_⟩
    unfold StdString.length at hshort
    omega
  · rw [decide_eq_true_iff, StdString.find_lt_length_iff _ _ _ (by omega), List.drop_zero]

end DebugMessage

/-- The data members of a `DebugMessage`. -/
structure DebugMessage where
  file : String
  line : Int
  marker : String
  enabled : Bool

namespace DebugMessage

open Cxx

/-- The word that the message of `enable` shows for a bit of the stream's
`rdstate`. -/
def stateWord (rdstate bit : Iostate) (word : String) : String :=
  if (rdstate &&& bit).any then word else ""

/-- The message of the check in `enable`. -/
def enableMessage (rdstate : Iostate) : String :=
  "cannot enable debug message(s) without a good debug stream: " ++
    stateWord rdstate badbit " bad " ++ stateWord rdstate eofbit " eof " ++
    stateWord rdstate failbit " fail " ++ stateWord rdstate goodbit " good???"

/-- `DebugMessage::enable`, with the debug stream `os`. -/
def enable (fast : Bool) (cfg : ErrorConfig) (os : Ostream) (m : DebugMessage) :
    Except Raised DebugMessage :=
  (checkError2 fast cfg ⟨os.good, "streamPtr()->good()", "DebugMsg.hh", 307⟩
    (enableMessage os.rdstate)).map fun () => { m with enabled := true }

def disable (m : DebugMessage) : DebugMessage := { m with enabled := false }

/-- `enable` succeeds exactly on a good stream, or in an `EUROPA_FAST` build,
and then enables the message and changes nothing else; otherwise it raises
the error that names the stream's bad state. -/
theorem enable_eq (fast : Bool) (cfg : ErrorConfig) (os : Ostream) (m : DebugMessage) :
    enable fast cfg os m =
      if fast || os.good then .ok { m with enabled := true }
      else .error (europaError cfg (Error.ofMessage "streamPtr()->good()"
        (enableMessage os.rdstate) "DebugMsg.hh" 307)) := by
  cases fast <;> cases h : os.good <;>
    simp [enable, checkError2, raiseIf, Except.map, h]

/-- The `goodbit` part of the message is always empty. -/
theorem stateWord_goodbit (rdstate : Iostate) (word : String) :
    stateWord rdstate goodbit word = "" := by
  simp [stateWord, goodbit, Iostate.any]

/-! ## Writing a message -/

/-- What leaves a debug macro after a stream `failure`: the `Error` of its
`checkError (ALWAYS_FAIL, exc.what ())`, or, where `EUROPA_FAST` compiles
that check away, the `failure` that `throw;` passes on. -/
inductive Escape
  | raised (r : Raised)
  | failure (what : String)
deriving DecidableEq, Repr

/-- The `catch (std::ios_base::failure& exc)` block of `condDebugMsg` and
`print`, at `file` and `line`.  `checkError` passes its arguments on through
two more macros, which expands `ALWAYS_FAIL` to `(false)` before `#cond`
makes the condition's text. -/
def catchFailure (fast : Bool) (cfg : ErrorConfig) (file : String) (line : Int) : Escape :=
  match checkError2 fast cfg ⟨false, "(false)", file, line⟩ clearFailure with
  | .error r => .raised r
  | .ok () => .failure clearFailure

/-- The `try` block of `condDebugMsg` and `print`: `exceptions (badbit)`, then
the insertions; a `failure` from either goes to the `catch` block. -/
def guardedWrite (fast : Bool) (cfg : ErrorConfig) (file : String) (line : Int)
    (os : Ostream) (items : List Insertion) : Option Escape × Ostream :=
  let r₁ := os.setExceptions badbit
  if r₁.2 then (some (catchFailure fast cfg file line), r₁.1)
  else
    let r₂ := r₁.1.insertAll items
    (if r₂.2 then some (catchFailure fast cfg file line) else none, r₂.1)

/-- What `condDebugMsg` inserts: `"["`, the marker, `"] "`, the data, and
`std::endl`. -/
def lineItems (marker : String) (data : List Insertion) : List Insertion :=
  .text "[" :: .text marker :: .text "] " :: data ++ [.endl]

/-- `condDebugMsg (cond, marker, data)` used at `file` and `line`, where
`addMsg` registered the message `dm`: it writes its line on the debug stream
when the message is enabled and `cond` holds. -/
def condDebugMsg (fast : Bool) (cfg : ErrorConfig) (file : String) (line : Int)
    (dm : DebugMessage) (cond : Bool) (marker : String) (data : List Insertion) (os : Ostream) :
    Option Escape × Ostream :=
  if dm.enabled && cond then guardedWrite fast cfg file line os (lineItems marker data)
  else (none, os)

/-- `debugMsg (marker, data)`: `condDebugMsg (true, marker, data)`. -/
def debugMsg (fast : Bool) (cfg : ErrorConfig) (file : String) (line : Int) (dm : DebugMessage)
    (marker : String) (data : List Insertion) (os : Ostream) : Option Escape × Ostream :=
  condDebugMsg fast cfg file line dm true marker data os

/-- `condDebugStmt (cond, marker, stmt)`: runs `stmt` when the message is
enabled and `cond` holds. -/
def condDebugStmt {σ : Type} (dm : DebugMessage) (cond : Bool) (stmt : σ → σ) (state : σ) : σ :=
  if dm.enabled && cond then stmt state else state

/-- `CHECK_DEBUG_STREAM` used at `file` and `line`:
`check_error (DebugMessage::isGood ())`. -/
def checkDebugStream (fast : Bool) (cfg : ErrorConfig) (file : String) (line : Int)
    (os : Ostream) : Except Raised Unit :=
  check_error fast cfg ⟨os.good, "DebugMessage::isGood()", file, line⟩ .none

/-- `DebugMessage::print (os)`: `file:line: marker ` on `os`.  The `':'` and
the `' '` are `char`s, which print as one-character text, and `m_line` is an
`int`, which `num_put` spells in decimal. -/
def print (fast : Bool) (cfg : ErrorConfig) (m : DebugMessage) (os : Ostream) :
    Option Escape × Ostream :=
  guardedWrite fast cfg "DebugMsg.hh" 338 os
    [.text m.file, .text ":", .number (toString m.line), .text ": ", .text m.marker, .text " "]

section GuardedWrite

variable {fast : Bool} {cfg : ErrorConfig} {file : String} {line : Int} {os : Ostream}
  {items : List Insertion}

/-- On a bad stream, `exceptions (badbit)` throws at once: nothing is
written. -/
theorem guardedWrite_of_bad (h : os.rdstate.bad) :
    guardedWrite fast cfg file line os items =
      (some (catchFailure fast cfg file line), { os with exceptions := badbit }) := by
  have hthrow : (os.setExceptions badbit).2 = true := by simp [badbit, Iostate.any, h]
  simp only [guardedWrite, hthrow, if_true, Ostream.setExceptions_fst]

/-- On a stream that failed without going bad, the line is dropped and
nothing escapes. -/
theorem guardedWrite_of_failed (h : os.good = false) (hbad : os.rdstate.bad = false) :
    (guardedWrite fast cfg file line os items).1 = none ∧
      (guardedWrite fast cfg file line os items).2.text = os.text ∧
      (guardedWrite fast cfg file line os items).2.good = false ∧
      (guardedWrite fast cfg file line os items).2.rdstate.bad = false := by
  have hthrow : (os.setExceptions badbit).2 = false := by simp [badbit, Iostate.any, hbad]
  obtain ⟨hins, htext, hgood, hbad', -⟩ :=
    @Ostream.insertAll_of_failed { os with exceptions := badbit } h hbad rfl items
  simp only [guardedWrite, hthrow, Ostream.setExceptions_fst, hins, Bool.false_eq_true, if_false]
  exact ⟨trivial, htext, hgood, hbad'⟩

/-- On a good stream, the line is printed in the stream's format as far as
the buffer takes it, and something escapes exactly when that is not all of
it; otherwise the stream is left with the format the line leaves. -/
theorem guardedWrite_of_good (h : os.good) :
    (guardedWrite fast cfg file line os items).2.text =
        os.text ++ (os.format.render items).1.take os.room ∧
      if (os.format.render items).1.length ≤ os.room then
        (guardedWrite fast cfg file line os items).1 = none ∧
          (guardedWrite fast cfg file line os items).2.good ∧
          (guardedWrite fast cfg file line os items).2.format = (os.format.render items).2
      else (guardedWrite fast cfg file line os items).1 = some (catchFailure fast cfg file line) ∧
        (guardedWrite fast cfg file line os items).2.rdstate.bad := by
  have hthrow : (os.setExceptions badbit).2 = false := by
    simp [Ostream.good, Iostate.any, badbit] at h ⊢
    exact h.1.1
  obtain ⟨htext, -, hend⟩ :=
    @Ostream.insertAll_of_good { os with exceptions := badbit } h rfl items
  simp only [guardedWrite, hthrow, Ostream.setExceptions_fst, htext]
  split_ifs at hend ⊢ with hfit <;> simp_all

theorem guardedWrite_of_not_good (h : os.good = false) :
    (guardedWrite fast cfg file line os items).2.text = os.text ∧
      (guardedWrite fast cfg file line os items).2.good = false := by
  cases hbad : os.rdstate.bad
  · obtain ⟨-, htext, hgood, -⟩ := @guardedWrite_of_failed fast cfg file line os items h hbad
    exact ⟨htext, hgood⟩
  · rw [guardedWrite_of_bad hbad]
    exact ⟨rfl, h⟩

end GuardedWrite

end DebugMessage

/-! ## Runs of debug messages -/

/-- A use of `condDebugMsg` in a run: its site, the message registered there,
the value of its condition, its marker and the insertions of its data. -/
structure DebugCall where
  file : String
  line : Int
  message : DebugMessage
  cond : Bool
  marker : String
  data : List Cxx.Insertion

namespace DebugCall

open Cxx DebugMessage

/-- Whether the call writes: its message is enabled and its condition holds. -/
def writes (c : DebugCall) : Bool := c.message.enabled && c.cond

/-- What the call inserts. -/
def items (c : DebugCall) : List Insertion := lineItems c.marker c.data

/-- The call made on the stream `os`. -/
def run (fast : Bool) (cfg : ErrorConfig) (c : DebugCall) (os : Ostream) :
    Option Escape × Ostream :=
  condDebugMsg fast cfg c.file c.line c.message c.cond c.marker c.data os

section Step

variable {fast : Bool} {cfg : ErrorConfig} {c : DebugCall} {os : Ostream}

theorem run_of_not_writes (hw : c.writes = false) : c.run fast cfg os = (none, os) :=
  if_neg (ne_true_of_eq_false hw)

theorem run_of_writes (hw : c.writes) :
    c.run fast cfg os = guardedWrite fast cfg c.file c.line os c.items :=
  if_pos hw

/-- A call on a stream that is not good writes nothing, and leaves it not
good. -/
theorem run_of_not_good (h : os.good = false) :
    (c.run fast cfg os).2.text = os.text ∧ (c.run fast cfg os).2.good = false := by
  cases hw : c.writes
  · rw [run_of_not_writes hw]
    exact ⟨rfl, h⟩
  · rw [run_of_writes hw]
    exact guardedWrite_of_not_good h

/-- A call on a stream that failed without going bad writes nothing, lets
nothing escape, and leaves the stream so. -/
theorem run_of_failed (h : os.good = false) (hbad : os.rdstate.bad = false) :
    (c.run fast cfg os).1 = none ∧ (c.run fast cfg os).2.text = os.text ∧
      (c.run fast cfg os).2.good = false ∧ (c.run fast cfg os).2.rdstate.bad = false := by
  cases hw : c.writes
  · rw [run_of_not_writes hw]
    exact ⟨rfl, rfl, h, hbad⟩
  · rw [run_of_writes hw]
    exact guardedWrite_of_failed h hbad

/-- A call that writes, on a good stream whose buffer has room for its line:
the whole line in the stream's format, nothing escapes, and the stream stays
good with the format that the line leaves. -/
theorem run_of_fits (hw : c.writes) (h : os.good)
    (hfit : (os.format.render c.items).1.length ≤ os.room) :
    (c.run fast cfg os).1 = none ∧
      (c.run fast cfg os).2.text = os.text ++ (os.format.render c.items).1 ∧
      (c.run fast cfg os).2.good ∧ (c.run fast cfg os).2.format = (os.format.render c.items).2 := by
  obtain ⟨htext, hend⟩ := @guardedWrite_of_good fast cfg c.file c.line os c.items h
  rw [if_pos hfit] at hend
  rw [run_of_writes hw]
  exact ⟨hend.1, by rw [htext, List.take_of_length_le hfit], hend.2⟩

/-- A call that writes, on a good stream whose buffer has no room for all of
its line: the buffer takes what it has room for, something escapes, and the
stream is left not good. -/
theorem run_of_overflow (hw : c.writes) (h : os.good)
    (hlt : os.room < (os.format.render c.items).1.length) :
    (c.run fast cfg os).1.isSome ∧
      (c.run fast cfg os).2.text = os.text ++ (os.format.render c.items).1.take os.room ∧
      (c.run fast cfg os).2.good = false := by
  obtain ⟨htext, hend⟩ := @guardedWrite_of_good fast cfg c.file c.line os c.items h
  rw [if_neg (Nat.not_le.mpr hlt)] at hend
  rw [run_of_writes hw]
  exact ⟨by simp [hend.1], htext, by simp [Ostream.good, Iostate.any, hend.2]⟩

end Step

end DebugCall

namespace DebugMessage

open Cxx

/-- A run of `condDebugMsg` calls on the debug stream: what escaped each
call, and the stream after them all.  A caller may catch what escapes and
go on. -/
def runDebugMsgs (fast : Bool) (cfg : ErrorConfig) :
    List DebugCall → Ostream → List (Option Escape) × Ostream
  | [], os => ([], os)
  | c :: cs, os =>
    let r := c.run fast cfg os
    let rest := runDebugMsgs fast cfg cs r.2
    (r.1 :: rest.1, rest.2)

/-- A width that one line's data leaves pending pads the `[` of the next. -/
example : (runDebugMsgs false ⟨true, false, false⟩
    [⟨"Foo.cc", 12, ⟨"Foo.cc", 12, "foo", true⟩, true, "foo", [.text "x = ", .number "3", .setw 4]⟩,
      ⟨"Foo.cc", 13, ⟨"Foo.cc", 13, "foo", true⟩, true, "foo", [.text "y"]⟩]
    ⟨goodbit, goodbit, Format.init, [], 100⟩).2.text = "[foo] x = 3\n   [foo] y\n".toList := by
  decide

/-- What the calls of a run that write ask for, in order, from the format
`f`: each line is printed in the format that the lines before it leave. -/
def intendedLog : List DebugCall → Format → List Char
  | [], _ => []
  | c :: cs, f =>
    if c.writes then (f.render c.items).1 ++ intendedLog cs (f.render c.items).2
    else intendedLog cs f

theorem intendedLog_of_not_writes {c : DebugCall} (hw : c.writes = false) (cs : List DebugCall)
    (f : Format) : intendedLog (c :: cs) f = intendedLog cs f :=
  if_neg (ne_true_of_eq_false hw)

theorem intendedLog_of_writes {c : DebugCall} (hw : c.writes) (cs : List DebugCall) (f : Format) :
    intendedLog (c :: cs) f = (f.render c.items).1 ++ intendedLog cs (f.render c.items).2 :=
  if_pos hw

section Runs

variable {fast : Bool} {cfg : ErrorConfig}

/-- A stream that is not good keeps its text, and stays so, for the rest of a
run. -/
theorem runDebugMsgs_of_not_good (calls : List DebugCall) {os : Ostream} (h : os.good = false) :
    (runDebugMsgs fast cfg calls os).2.text = os.text ∧
      (runDebugMsgs fast cfg calls os).2.good = false := by
  induction calls generalizing os with
  | nil => exact ⟨rfl, h⟩
  | cons c cs ih =>
      obtain ⟨htext, hgood⟩ := @DebugCall.run_of_not_good fast cfg c os h
      obtain ⟨htext', hgood'⟩ := ih hgood
      exact ⟨htext'.trans htext, hgood'⟩

/-- On a stream that has failed without going bad, such as a file stream that
never opened, a run writes nothing and nothing escapes from any call. -/
theorem runDebugMsgs_of_failed (calls : List DebugCall) (os : Ostream) (h : os.good = false)
    (hbad : os.rdstate.bad = false) :
    (runDebugMsgs fast cfg calls os).2.text = os.text ∧
      ∀ e ∈ (runDebugMsgs fast cfg calls os).1, e = none := by
  induction calls generalizing os with
  | nil => simp [runDebugMsgs]
  | cons c cs ih =>
      obtain ⟨hnone, htext, hgood, hbad'⟩ := @DebugCall.run_of_failed fast cfg c os h hbad
      obtain ⟨htext', hrest⟩ := ih (c.run fast cfg os).2 hgood hbad'
      refine ⟨htext'.trans htext, fun e he => ?_⟩
      rcases List.mem_cons.mp he with rfl | he
      · exact hnone
      · exact hrest e he

theorem runDebugMsgs_unopened_file :
    let os : Ostream := ⟨failbit, goodbit, Format.init, [], 100⟩
    let calls : List DebugCall :=
      [⟨"Foo.cc", 12, ⟨"Foo.cc", 12, "foo", true⟩, true, "foo", [.text "x"]⟩]
    os.good = false ∧ os.rdstate.bad = false ∧
      ((runDebugMsgs true ⟨true, false, false⟩ calls os).2.text = os.text ∧
        ∀ e ∈ (runDebugMsgs true ⟨true, false, false⟩ calls os).1, e = none) :=
  ⟨by decide, by decide, runDebugMsgs_of_failed _ _ (by decide) (by decide)⟩

end Runs

end DebugMessage
end Europa
