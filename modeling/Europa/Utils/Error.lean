import Mathlib.Algebra.Group.Int

/-!
# Errors and the check macros

Every failed check of `Error.hh` builds an `Error` from the text of its
condition (`#cond`), `__FILE__` and `__LINE__`, and possibly a message and a
type, and hands it to `EUROPA_ERROR`: with `Error::throwEnabled ()` the error
is thrown, otherwise `handleAssert` complains and aborts.  Control never comes
back after a failed check, and the error raised is the same in both modes
(`raiseIf_mode`).

An `EUROPA_FAST` build compiles `check_error` and `checkError` away, so they
never fail there (`debugCheck_true`); `check_runtime_error`,
`checkRuntimeError` and the assertions stay.  The macros differ in one more
place: `checkError3` records the *text* of its type argument (`#type`) where
`check_error3` records its value; the two errors still compare equal, since
`operator==` ignores the type.

Only the inline constructors of `Error` are in the header; the others are in
`Error.cc`, and are modelled from their declarations with the defaults of the
inline ones (empty message, type `"Error"`).

The variadic macros `check_error (...)`, `checkError (...)`,
`check_runtime_error (...)`, `assertTrue (...)` and `assertFalse (...)` pick
the macro of their arity; `assertTrue` is the same check as
`check_runtime_error` (`assertTrue_eq_check_runtime_error`).  `EUROPA_runTest`
of `TestUtils.hh` catches a thrown `Error` by value, so what it prints has
lost its type (`runTest_printed_iff`).
-/

namespace Europa

/-- The data members of an `Error`: the failed condition, the extra message,
the file and line where it was detected, and the error's type. -/
structure Error where
  condition : String
  msg : String
  file : String
  line : Int
  type : String
deriving DecidableEq, Repr

namespace Error

/-- `Error(condition, file, line)`. -/
def ofCondition (condition file : String) (line : Int) : Error :=
  ⟨condition, "", file, line, "Error"⟩

/-- `Error(condition, msg, file, line)`. -/
def ofMessage (condition msg file : String) (line : Int) : Error :=
  ⟨condition, msg, file, line, "Error"⟩

/-- `Error(condition, msg, type, file, line)`. -/
def ofType (condition msg type file : String) (line : Int) : Error :=
  ⟨condition, msg, file, line, type⟩

/-- `Error(msg)`, for an error whose cause is set later. -/
def ofMsg (msg : String) : Error := ⟨"", msg, "", 0, "Error"⟩

/-- The copy constructor: all but the type, which becomes `"Error"`. -/
def copy (err : Error) : Error := { err with type := "Error" }

/-- `operator=`: all but the type, which the target keeps. -/
def assign (self err : Error) : Error := { err with type := self.type }

/-- `operator==`: condition, message, file and line. -/
def eq (a b : Error) : Bool :=
  a.condition == b.condition && a.msg == b.msg && a.file == b.file && a.line == b.line

theorem eq_iff (a b : Error) :
    a.eq b = true ↔ a.condition = b.condition ∧ a.msg = b.msg ∧ a.file = b.file ∧
      a.line = b.line := by
  simp [eq, and_assoc]

/-- `operator==` is an equivalence. -/
theorem eq_equivalence : Equivalence fun a b : Error => a.eq b = true := by
  refine ⟨fun a => ?_, fun h => ?_, fun h₁ h₂ => ?_⟩ <;> simp_all [eq_iff]

/-- A copy, and the target of an assignment, are `==` to their source; only
the type may differ. -/
theorem copy_eq (err : Error) : err.copy.eq err = true := by
  simp [eq_iff, copy]

theorem assign_eq (self err : Error) : (self.assign err).eq err = true := by
  simp [eq_iff, assign]

end Error

/-- `matches`: the same except possibly the line numbers. -/
def Error.matches (a b : Error) : Bool :=
  a.condition == b.condition && a.msg == b.msg && a.file == b.file

theorem Error.matches_iff (a b : Error) :
    a.matches b = true ↔ a.condition = b.condition ∧ a.msg = b.msg ∧ a.file = b.file := by
  simp [Error.matches, and_assoc]

/-- `matches` is an equivalence, coarser than `==`. -/
theorem Error.matches_equivalence : Equivalence fun a b : Error => a.matches b = true := by
  refine ⟨fun a => ?_, fun h => ?_, fun h₁ h₂ => ?_⟩ <;> simp_all [Error.matches_iff]

theorem Error.matches_of_eq {a b : Error} (h : a.eq b = true) : a.matches b = true := by
  rw [Error.eq_iff] at h
  rw [Error.matches_iff]
  exact ⟨h.1, h.2.1, h.2.2.1⟩

/-- The switches of the reporting facility: `s_throw`, `s_printErrors` and
`s_printWarnings`. -/
structure ErrorConfig where
  throwEnabled : Bool
  printErrors : Bool
  printWarnings : Bool

/-- How a failed check leaves the code that made it: `throw __e__`, or
`__e__.handleAssert ()`, which complains and aborts. -/
inductive Raised
  | thrown (e : Error)
  | aborted (e : Error)
deriving DecidableEq, Repr

/-- The error a failed check raised, whichever way. -/
def Raised.error : Raised → Error
  | .thrown e => e
  | .aborted e => e

/-- `EUROPA_ERROR(__e__)`. -/
def europaError (cfg : ErrorConfig) (e : Error) : Raised :=
  if cfg.throwEnabled then .thrown e else .aborted e

/-- The body of every check macro: when the test has failed, raise the error
built for it. -/
def raiseIf (cfg : ErrorConfig) (failed : Bool) (e : Error) : Except Raised Unit :=
  if failed then .error (europaError cfg e) else .ok ()

/-- A check that `EUROPA_FAST` compiles away: `check_error` and `checkError`. -/
def debugCheck (fast : Bool) (cfg : ErrorConfig) (failed : Bool) (e : Error) :
    Except Raised Unit :=
  if fast then .ok () else raiseIf cfg failed e

@[simp] theorem debugCheck_true (cfg : ErrorConfig) (failed : Bool) (e : Error) :
    debugCheck true cfg failed e = .ok () := rfl

@[simp] theorem debugCheck_false (cfg : ErrorConfig) (failed : Bool) (e : Error) :
    debugCheck false cfg failed e = raiseIf cfg failed e := rfl

/-- A check as written in the source: the value of its condition, the
condition's text `#cond`, and `__FILE__` and `__LINE__`. -/
structure Site where
  holds : Bool
  text : String
  file : String
  line : Int

/-- An argument of a macro: the text it is written as, and its value. -/
structure MacroArg where
  text : String
  value : String

section Checks

variable (fast : Bool) (cfg : ErrorConfig) (s : Site) (msg : String)

def check_error1 : Except Raised Unit :=
  debugCheck fast cfg (!s.holds) (Error.ofCondition s.text s.file s.line)

def check_error2 : Except Raised Unit :=
  debugCheck fast cfg (!s.holds) (Error.ofMessage s.text msg s.file s.line)

def check_error3 (type : MacroArg) : Except Raised Unit :=
  debugCheck fast cfg (!s.holds) (Error.ofType s.text msg type.value s.file s.line)

def checkError1 : Except Raised Unit :=
  debugCheck fast cfg (!s.holds) (Error.ofCondition s.text s.file s.line)

/-- `checkError2`: `msg` is the text the `stringstream` renders. -/
def checkError2 : Except Raised Unit :=
  debugCheck fast cfg (!s.holds) (Error.ofMessage s.text msg s.file s.line)

/-- `checkError3` records the text of its type argument, `#type`. -/
def checkError3 (type : MacroArg) : Except Raised Unit :=
  debugCheck fast cfg (!s.holds) (Error.ofType s.text msg type.text s.file s.line)

def check_runtime_error1 : Except Raised Unit :=
  raiseIf cfg (!s.holds) (Error.ofCondition s.text s.file s.line)

def check_runtime_error2 : Except Raised Unit :=
  raiseIf cfg (!s.holds) (Error.ofMessage s.text msg s.file s.line)

def check_runtime_error3 (type : MacroArg) : Except Raised Unit :=
  raiseIf cfg (!s.holds) (Error.ofType s.text msg type.value s.file s.line)

def checkRuntimeError : Except Raised Unit :=
  raiseIf cfg (!s.holds) (Error.ofMessage s.text msg s.file s.line)

/-- `assert1(value, cond)`: it fails when the condition equals `value`. -/
def assert1 (value : Bool) : Except Raised Unit :=
  raiseIf cfg (s.holds == value) (Error.ofCondition s.text s.file s.line)

def assert2 (value : Bool) : Except Raised Unit :=
  raiseIf cfg (s.holds == value) (Error.ofMessage s.text msg s.file s.line)

def assert3 (value : Bool) (type : MacroArg) : Except Raised Unit :=
  raiseIf cfg (s.holds == value) (Error.ofType s.text msg type.value s.file s.line)

end Checks

/-- The arguments a variadic check macro is given after its condition: none,
a message, or a message and a type.  `NARG3` counts the arguments, and the
macro pastes the count to its name to pick the macro of that arity. -/
inductive CheckArgs
  | none
  | msg (msg : String)
  | msgType (msg : String) (type : MacroArg)

section Variadic

variable (fast : Bool) (cfg : ErrorConfig) (s : Site)

def check_error : CheckArgs → Except Raised Unit
  | .none => check_error1 fast cfg s
  | .msg msg => check_error2 fast cfg s msg
  | .msgType msg type => check_error3 fast cfg s msg type

def checkError : CheckArgs → Except Raised Unit
  | .none => checkError1 fast cfg s
  | .msg msg => checkError2 fast cfg s msg
  | .msgType msg type => checkError3 fast cfg s msg type

def check_runtime_error : CheckArgs → Except Raised Unit
  | .none => check_runtime_error1 cfg s
  | .msg msg => check_runtime_error2 cfg s msg
  | .msgType msg type => check_runtime_error3 cfg s msg type

/-- `assertTrue(...)`: `assert1`, `assert2` or `assert3` with `value` false. -/
def assertTrue : CheckArgs → Except Raised Unit
  | .none => assert1 cfg s false
  | .msg msg => assert2 cfg s msg false
  | .msgType msg type => assert3 cfg s msg false type

/-- `assertFalse(...)`: the same with `value` true. -/
def assertFalse : CheckArgs → Except Raised Unit
  | .none => assert1 cfg s true
  | .msg msg => assert2 cfg s msg true
  | .msgType msg type => assert3 cfg s msg true type

end Variadic

section Raising

variable {cfg : ErrorConfig} {failed : Bool} {e : Error} {r : Raised}

theorem raiseIf_eq_ok_iff : raiseIf cfg failed e = .ok () ↔ failed = false := by
  cases failed <;> simp [raiseIf]

theorem raiseIf_eq_error_iff :
    raiseIf cfg failed e = .error r ↔ failed = true ∧ r = europaError cfg e := by
  cases failed <;> simp [raiseIf, eq_comm]

theorem europaError_error (cfg : ErrorConfig) (e : Error) : (europaError cfg e).error = e := by
  unfold europaError
  split_ifs <;> rfl

/-- The mode decides only whether the error is thrown or aborted on: a check
that fails in one mode fails in the other, with the same error. -/
theorem raiseIf_mode (cfg cfg' : ErrorConfig) (failed : Bool) (e : Error) :
    (raiseIf cfg failed e).mapError Raised.error =
      (raiseIf cfg' failed e).mapError Raised.error := by
  cases failed <;> simp [raiseIf, Except.mapError, europaError_error]

end Raising

/-- `check_runtime_error` is `check_error` of a build without `EUROPA_FAST`,
whatever the build. -/
theorem check_runtime_error_eq (cfg : ErrorConfig) (s : Site) (args : CheckArgs) :
    check_runtime_error cfg s args = check_error false cfg s args := by
  cases args <;> rfl

/-- `assertTrue` compares the condition with `false` where `check_runtime_error`
negates it: the two are the same check, in every build. -/
theorem assertTrue_eq_check_runtime_error (cfg : ErrorConfig) (s : Site) (args : CheckArgs) :
    assertTrue cfg s args = check_runtime_error cfg s args := by
  have hfail : (s.holds == false) = !s.holds := by cases s.holds <;> rfl
  cases args <;> simp only [assertTrue, check_runtime_error, assert1, assert2, assert3,
    check_runtime_error1, check_runtime_error2, check_runtime_error3, hfail]

/-- `assertFalse` is the check that the condition does not hold. -/
theorem assertFalse_eq_assertTrue (cfg : ErrorConfig) (s : Site) (args : CheckArgs) :
    assertFalse cfg s args = assertTrue cfg { s with holds := !s.holds } args := by
  have hfail : (s.holds == true) = ((!s.holds) == false) := by cases s.holds <;> rfl
  cases args <;> simp only [assertTrue, assertFalse, assert1, assert2, assert3, hfail]

/-- `check_error3` and `checkError3` raise errors that are `==`, although one
carries the type's value and the other its text. -/
theorem checkError3_eq_check_error3 {cfg : ErrorConfig} {s : Site} {msg : String}
    {type : MacroArg} {r r' : Raised} (h : check_error3 false cfg s msg type = .error r)
    (h' : checkError3 false cfg s msg type = .error r') :
    r.error.eq r'.error = true ∧ r.error.type = type.value ∧ r'.error.type = type.text := by
  obtain ⟨-, rfl⟩ := raiseIf_eq_error_iff.mp h
  obtain ⟨-, rfl⟩ := raiseIf_eq_error_iff.mp h'
  simp [europaError_error, Error.eq_iff, Error.ofType]

theorem checkError3_records_type_text :
    let e := Error.ofType "good" "bad stream" "DebugStreamError" "DebugMsg.hh" 307
    let e' := Error.ofType "good" "bad stream" "DebugErr::DebugStreamError()" "DebugMsg.hh" 307
    e.eq e' = true ∧ e.type = "DebugStreamError" ∧ e'.type = "DebugErr::DebugStreamError()" :=
  @checkError3_eq_check_error3 ⟨true, false, false⟩ ⟨false, "good", "DebugMsg.hh", 307⟩
    "bad stream" ⟨"DebugErr::DebugStreamError()", "DebugStreamError"⟩ _ _ rfl rfl

/-- What `EUROPA_runTest (test)` of `TestUtils.hh` leads to: the result the
test returned, which goes to `IdTable::checkResult`; the `Error` it threw,
which `catch (Error err)` receives by value and prints; or the abort of a
failed check when exceptions are off. -/
inductive TestOutcome
  | checked (result : Bool)
  | printed (err : Error)
  | aborted (err : Error)

def runTest (test : Except Raised Bool) : TestOutcome :=
  match test with
  | .ok result => .checked result
  | .error (.thrown e) => .printed e.copy
  | .error (.aborted e) => .aborted e

/-- `EUROPA_runTest` prints the errors a test throws, and only those, each as
the copy that catching by value makes: `==` to the thrown one
(`Error.copy_eq`), but typed `"Error"`. -/
theorem runTest_printed_iff (test : Except Raised Bool) (err : Error) :
    runTest test = .printed err ↔ ∃ e, test = .error (.thrown e) ∧ err = e.copy := by
  rcases test with (e | e) | result <;> simp [runTest, @eq_comm _ err]

end Europa
