import Europa.Cxx.Strtol
import Europa.Utils.Error

/-!
# `IntervalIntTypeFactory`

The factory of integer-interval variables builds variables with
`createVariable` and turns literals into values with `createValue`.

`createVariable` casts its base domain to `IntervalIntDomain` and checks the
cast with `check_error`, so the kind check exists only in a build without
`EUROPA_FAST`; there a base domain of another kind is dereferenced through
the null pointer the cast returns.  The domain classes and `Variable` are not
in the source: the cast is a parameter, and the new variable is modelled by
the arguments it is built from.

`createValue` returns `atoi (value.c_str ())`.  Every `int` is a `double`, so
the `edouble` it returns is modelled by that integer.  It checks nothing: it
reads a literal after white space exactly, whatever follows it that is not a
digit, and reads a text with no digit as 0
(`createValue_reads_leading_literal`).  A literal past `int` wraps
(`createValue_literal_wraps`), and only the bytes between the leading white
space and the first NUL of the string count (`createValue_eq_of_trimmed_eq`).
-/

namespace Europa
namespace IntervalIntTypeFactory

open Cxx

section CreateVariable

variable {D I : Type} (asIntervalInt : D → Option I)

/-- What `createVariable` passes to `new Variable<IntervalIntDomain>`: the
engine, the base domain as an `IntervalIntDomain`, the two flags, the name,
the parent and the index. -/
structure VariableArgs (I : Type) where
  constraintEngine : Nat
  baseDomain : I
  internal : Bool
  canBeSpecified : Bool
  name : String
  parent : Nat
  index : Int

def kindMismatchMessage : String :=
  "tried to create an IntervalIntDomain variable with a different kind of base domain"

/-- `IntervalIntTypeFactory::createVariable`; `none` is the undefined
behaviour of dereferencing a failed cast.  `new` never returns null, so the
second check always passes; the third, on the new variable's `Id`, is left
out with `Variable`.  `check_error` passes its arguments on through two more
macros, which expands `NULL` to GCC's `__null` before `#cond` makes the
condition's text. -/
def createVariable (fast : Bool) (cfg : ErrorConfig) (constraintEngine : Nat)
    (baseDomain : D) (internal canBeSpecified : Bool) (name : String) (parent : Nat)
    (index : Int) : Option (Except Raised (VariableArgs I)) :=
  let intervalIntDomain := asIntervalInt baseDomain
  match check_error2 fast cfg ⟨intervalIntDomain.isSome, "intervalIntDomain != __null",
      "IntervalIntTypeFactory.cc", 31⟩ kindMismatchMessage with
  | .error r => some (.error r)
  | .ok () =>
    intervalIntDomain.map fun d =>
      (check_error2 fast cfg ⟨true, "variable != __null", "IntervalIntTypeFactory.cc", 34⟩
        ("failed to create Variable for IntervalIntDomain with name '" ++ name ++ "'")).map
        fun () => ⟨constraintEngine, d, internal, canBeSpecified, name, parent, index⟩

variable {fast : Bool} {cfg : ErrorConfig} {constraintEngine : Nat} {baseDomain : D}
  {internal canBeSpecified : Bool} {name : String} {parent : Nat} {index : Int}

/-- Without `EUROPA_FAST`, `createVariable` builds the variable over the base
domain exactly when it is an `IntervalIntDomain`, and otherwise raises the
error of its first check, thrown or aborted on as configured. -/
theorem createVariable_checked :
    createVariable asIntervalInt false cfg constraintEngine baseDomain internal canBeSpecified
        name parent index =
      some (match asIntervalInt baseDomain with
        | some d => .ok ⟨constraintEngine, d, internal, canBeSpecified, name, parent, index⟩
        | none => .error (europaError cfg (Error.ofMessage "intervalIntDomain != __null"
            kindMismatchMessage "IntervalIntTypeFactory.cc" 31))) := by
  cases hcast : asIntervalInt baseDomain <;>
    simp [createVariable, check_error2, hcast, raiseIf, Except.map]

/-- Under `EUROPA_FAST` nothing checks the kind: a base domain of another
kind is dereferenced as a null pointer. -/
theorem createVariable_fast :
    createVariable asIntervalInt true cfg constraintEngine baseDomain internal canBeSpecified
        name parent index =
      (asIntervalInt baseDomain).map fun d =>
        .ok ⟨constraintEngine, d, internal, canBeSpecified, name, parent, index⟩ := by
  cases hcast : asIntervalInt baseDomain <;> simp [createVariable, check_error2, hcast, Except.map]

end CreateVariable

/-- `IntervalIntTypeFactory::createValue`: `atoi (value.c_str ())`. -/
def createValue (value : StdString) : Int := atoi value.cStr

/-- The NUL that ends `c_str ()` is no digit. -/
theorem head?_append_nul {rest : List UInt8} (hrest : ∀ c ∈ rest.head?, isdigit c = false) :
    ∀ c ∈ (rest ++ [0]).head?, isdigit c = false := by
  cases rest with
  | nil => decide
  | cons c rest => simpa using hrest

/-- `createValue` reads a decimal literal after white space exactly when its
value is an `int`, whatever follows that is not a digit, and reads a text with
no digit as 0.  It reports no error on any text. -/
theorem createValue_reads_leading_literal :
    (∀ (s : StdString) (ws lit rest : List UInt8) (n : Int),
      s.data = ws ++ lit ++ rest → (∀ c ∈ ws, isspace c) → decimalLiteral? lit = some n →
      (∀ c ∈ rest.head?, isdigit c = false) → intMin ≤ n → n ≤ intMax →
      createValue s = n) ∧
    (∀ s : StdString, (∀ c ∈ s.data, isdigit c = false) → createValue s = 0) := by
  refine ⟨fun s ws lit rest n hs hws hlit hrest hlo hhi => ?_, fun s hs => ?_⟩
  · rw [createValue, StdString.cStr, hs, List.append_assoc (ws ++ lit)]
    exact atoi_literal hws hlit (head?_append_nul hrest) hlo hhi
  · refine atoi_of_no_digit fun c hc => ?_
    rcases List.mem_append.mp hc with hc | hc
    · exact hs c hc
    · rw [List.mem_singleton.mp hc]
      rfl

theorem createValue_reads_signed_prefix :
    createValue ⟨ascii " -12x", by decide⟩ = -12 ∧
      createValue ⟨ascii "+inf", by decide⟩ = 0 :=
  ⟨createValue_reads_leading_literal.1 _ (ascii " ") (ascii "-12") (ascii "x") (-12) rfl
      (by decide) (by decide) (by decide) (by decide) (by decide),
    createValue_reads_leading_literal.2 _ (by decide)⟩

/-- `createValue` substitutes 0 for a text that is no literal, and the value
of the digits for a literal followed by other text. -/
theorem createValue_substitutes_for_malformed :
    decimalLiteral? (ascii "abc") = none ∧ createValue ⟨ascii "abc", by decide⟩ = 0 ∧
      decimalLiteral? (ascii "12x") = none ∧ createValue ⟨ascii "12x", by decide⟩ = 12 := by
  decide

/-- A decimal literal outside `int` is not refused either: `strtol` clamps it
to `long`, and the conversion to `int` keeps the low 32 bits. -/
theorem createValue_literal_wraps (s : StdString) (ws lit rest : List UInt8) (n : Int)
    (hs : s.data = ws ++ lit ++ rest) (hws : ∀ c ∈ ws, isspace c)
    (hlit : decimalLiteral? lit = some n) (hrest : ∀ c ∈ rest.head?, isdigit c = false) :
    createValue s = (max longMin (min longMax n)).bmod (2 ^ 32) := by
  rw [createValue, StdString.cStr, hs, List.append_assoc (ws ++ lit), atoi, strtol_eq_strtolStandard,
    strtolStandard_literal hws hlit (head?_append_nul hrest)]

theorem createValue_past_int_max :
    createValue ⟨ascii "2147483648", by decide⟩ = -2147483648 ∧
      createValue ⟨ascii "99999999999999999999", by decide⟩ = -1 :=
  ⟨(createValue_literal_wraps _ [] (ascii "2147483648") [] 2147483648 rfl (by decide)
      (by decide) (by decide)).trans (by decide),
    (createValue_literal_wraps _ [] (ascii "99999999999999999999") [] 99999999999999999999 rfl
      (by decide) (by decide) (by decide)).trans (by decide)⟩

/-- `createValue` reads only the bytes between the string's leading white
space and its first NUL, where `c_str ()` ends for `atoi`: two strings that
agree there give the same value. -/
theorem createValue_eq_of_trimmed_eq (s t : StdString)
    (h : (s.data.takeWhile (· != 0)).dropWhile isspace =
      (t.data.takeWhile (· != 0)).dropWhile isspace) :
    createValue s = createValue t := by
  rw [createValue, createValue, StdString.cStr, StdString.cStr, atoi_append_nul, atoi_append_nul,
    ← strtolStandard_dropWhile_isspace (s.data.takeWhile (· != 0)), h,
    strtolStandard_dropWhile_isspace]

theorem createValue_embedded_nul :
    createValue ⟨ascii " 12" ++ 0 :: ascii "34", by decide⟩ = createValue ⟨ascii "12", by decide⟩ :=
  createValue_eq_of_trimmed_eq _ _ (by decide)

end IntervalIntTypeFactory
end Europa
