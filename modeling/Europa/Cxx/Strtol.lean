import Europa.Cxx.StdString

/-!
# `strtol` and `atoi`

`IntervalIntTypeFactory::createValue` hands its text to the C library's `atoi`.
It is modelled here as glibc implements it on LP64 Linux in the "C" locale:
`atoi` is `(int) strtol (nptr, NULL, 10)`, and `strtol` skips white space,
reads an optional sign, then reads digits into an `unsigned long` accumulator
that stops growing once the next digit would pass `ULONG_MAX`.  A value
outside `long` comes back as `LONG_MIN` or `LONG_MAX`, and the conversion to
`int` keeps the low 32 bits.

ISO C says what `strtol` returns without the loop: the subject sequence, an
optional sign and the longest run of digits after the white space, is read
as an integer and clamped to `long`.  `strtol_eq_standard` proves that
glibc's loop computes exactly that on every byte string; the facts about
literals below are proved about the standard's reading.  A byte that is no
white space, sign or digit, such as the NUL that ends a C string, ends the
reading: nothing after it counts (`strtolStandard_append_stop`).
-/

namespace Europa
namespace Cxx

/-- `isspace` in the "C" locale: space, `\t`, `\n`, `\v`, `\f` and `\r`. -/
def isspace (c : UInt8) : Bool := c.toNat = 32 || (9 ≤ c.toNat && c.toNat ≤ 13)

/-- `isdigit`: the bytes `'0'` to `'9'`. -/
def isdigit (c : UInt8) : Bool := 48 ≤ c.toNat && c.toNat ≤ 57

theorem isdigit_iff {c : UInt8} : isdigit c ↔ 48 ≤ c.toNat ∧ c.toNat ≤ 57 := by
  simp [isdigit]

/-- The sign test of `strtol`: a `'-'` makes the result negative and a `'+'`
is skipped. -/
def readSign : List UInt8 → Bool × List UInt8
  | c :: s =>
    if c.toNat = 45 then (true, s)
    else if c.toNat = 43 then (false, s)
    else (false, c :: s)
  | [] => (false, [])

/-- `ULONG_MAX` on LP64. -/
def ulongMax : Nat := 2 ^ 64 - 1

def longMin : Int := -2 ^ 63

def longMax : Int := 2 ^ 63 - 1

def intMin : Int := -2 ^ 31

def intMax : Int := 2 ^ 31 - 1

/-- The variables of `strtol`'s digit loop: the `unsigned long` accumulator
`i` and the `overflow` flag. -/
structure Accum where
  i : Nat
  overflow : Bool

/-- One turn of the digit loop on the digit value `d`.  glibc compares `i`
with `cutoff = ULONG_MAX / 10` and `d` with `cutlim = ULONG_MAX % 10` before
it multiplies, so `i` never wraps. -/
def Accum.push (a : Accum) (d : Nat) : Accum :=
  if a.i > ulongMax / 10 ∨ (a.i = ulongMax / 10 ∧ d > ulongMax % 10) then
    { a with overflow := true }
  else { a with i := a.i * 10 + d }

/-- The digit loop, run while the next byte is a digit. -/
def digitLoop (a : Accum) : List UInt8 → Accum
  | c :: s => if isdigit c then digitLoop (a.push (c.toNat - 48)) s else a
  | [] => a

/-- The end of `strtol`: an overflow, or an accumulator past the range of
`long` for the sign, gives `LONG_MIN` or `LONG_MAX`. -/
def Accum.toLong (a : Accum) (negative : Bool) : Int :=
  if a.overflow || (if negative then 2 ^ 63 < a.i else 2 ^ 63 - 1 < a.i) then
    (if negative then longMin else longMax)
  else if negative then -(a.i : Int) else a.i

/-- glibc's `strtol (nptr, NULL, 10)`.  With no digit after the sign nothing
is converted and the result is 0. -/
def strtol (nptr : List UInt8) : Int :=
  let t := readSign (nptr.dropWhile isspace)
  if t.2.head?.any isdigit then (digitLoop ⟨0, false⟩ t.2).toLong t.1 else 0

/-- glibc's `atoi`: `(int) strtol (nptr, NULL, 10)`; GCC converts a `long`
to `int` modulo `2 ^ 32`. -/
def atoi (nptr : List UInt8) : Int := (strtol nptr).bmod (2 ^ 32)

/-- One digit appended to a decimal value. -/
def digitStep (v : Nat) (c : UInt8) : Nat := v * 10 + (c.toNat - 48)

/-- The value of a run of decimal digits, most significant first. -/
def digitsValue (ds : List UInt8) : Nat := ds.foldl digitStep 0

/-- ISO C's `strtol` in base 10: the subject sequence is an optional sign and
the longest run of digits after the leading white space; its value, negated
after a minus, is clamped to `long`.  With no digit the value is 0. -/
def strtolStandard (nptr : List UInt8) : Int :=
  let t := readSign (nptr.dropWhile isspace)
  let v : Int := digitsValue (t.2.takeWhile isdigit)
  max longMin (min longMax (if t.1 then -v else v))

/-- The loop invariant: `i` stays an `unsigned long`, it is the exact value
`v` of the digits read while no overflow is flagged, and the flag is set
only once `v` is past `ULONG_MAX`. -/
structure Accum.Tracks (a : Accum) (v : Nat) : Prop where
  le_ulongMax : a.i ≤ ulongMax
  exact : a.overflow = false → a.i = v
  overflowed : a.overflow = true → ulongMax < v

section Loop

variable {a : Accum} {v : Nat}

theorem Accum.Tracks.push (h : a.Tracks v) {d : Nat} (hd : d < 10) :
    (a.push d).Tracks (v * 10 + d) := by
  obtain ⟨hle, hexact, hover⟩ := h
  have hwas : ulongMax < v ∨ a.i = v := by
    cases hflag : a.overflow
    · exact .inr (hexact hflag)
    · exact .inl (hover hflag)
  unfold Accum.push
  split_ifs with hcut
  · refine ⟨hle, by simp, fun _ => ?_⟩
    simp only [ulongMax] at *
    omega
  · refine ⟨?_, fun hflag => ?_, fun hflag => ?_⟩
    · simp only [ulongMax] at *
      omega
    · simp only [hexact hflag]
    · have := hover hflag
      omega

theorem isdigit_sub_lt {c : UInt8} (hc : isdigit c) : c.toNat - 48 < 10 := by
  rw [isdigit_iff] at hc
  omega

/-- The run lemma: the loop reads exactly the leading digits, and keeps the
invariant for the value they extend `v` to. -/
theorem Accum.Tracks.digitLoop (h : a.Tracks v) (s : List UInt8) :
    (digitLoop a s).Tracks ((s.takeWhile isdigit).foldl digitStep v) := by
  induction s generalizing a v with
  | nil => exact h
  | cons c s ih =>
      by_cases hc : isdigit c
      · simp only [Cxx.digitLoop, hc, if_true, List.takeWhile_cons, List.foldl_cons]
        exact ih (h.push (isdigit_sub_lt hc))
      · simp only [Cxx.digitLoop, hc, List.takeWhile_cons]
        exact h

/-- The range check and the sign give the clamped value of the digits. -/
theorem Accum.Tracks.toLong (h : a.Tracks v) (negative : Bool) :
    a.toLong negative = max longMin (min longMax (if negative then -(v : Int) else v)) := by
  unfold Accum.toLong longMin longMax
  cases hflag : a.overflow
  · have hv := h.exact hflag
    cases negative <;> simp only [hv, Bool.false_or, decide_eq_true_eq, if_true, if_false,
      Bool.false_eq_true] <;> split_ifs <;> omega
  · have hv := h.overflowed hflag
    simp only [ulongMax] at hv
    cases negative <;> simp only [Bool.true_or, if_true, if_false, Bool.false_eq_true] <;> omega

end Loop

/-- With no digit in the subject sequence, the standard's value is 0. -/
theorem clampLong_digitsValue_nil (negative : Bool) :
    max longMin (min longMax (if negative then -((digitsValue [] : Nat) : Int)
      else digitsValue [])) = 0 := by
  cases negative <;> decide

/-- The refinement proof: the invariant holds at the start of the digit
loop, and whatever it ends with, the range check gives the standard's value. -/
theorem strtol_eq_strtolStandard (nptr : List UInt8) : strtol nptr = strtolStandard nptr := by
  unfold strtol strtolStandard
  generalize readSign (nptr.dropWhile isspace) = t
  obtain ⟨negative, s⟩ := t
  have hstart : (Accum.mk 0 false).Tracks 0 := ⟨by simp [ulongMax], fun _ => rfl, by simp⟩
  cases s with
  | nil => exact (clampLong_digitsValue_nil negative).symm
  | cons c s =>
      by_cases hc : isdigit c
      · simp only [List.head?_cons, Option.any_some, hc, if_true]
        exact (hstart.digitLoop (c :: s)).toLong negative
      · simp only [if_neg (show ¬ (c :: s).head?.any isdigit = true by simpa using hc),
          List.takeWhile_cons_of_neg hc]
        exact (clampLong_digitsValue_nil negative).symm

/-- glibc's loop computes ISO C's value of `strtol`, on every byte string. -/
theorem strtol_eq_standard (nptr : List UInt8) : strtol nptr = strtolStandard nptr :=
  strtol_eq_strtolStandard nptr

/-- A run of one or more decimal digits, and its value. -/
def digitRun? (ds : List UInt8) : Option Nat :=
  if ds ≠ [] ∧ ∀ c ∈ ds, isdigit c then some (digitsValue ds) else none

/-- A decimal literal as the contract of `createValue` reads one: an optional
sign followed by one or more decimal digits, and nothing else. -/
def decimalLiteral? : List UInt8 → Option Int
  | c :: ds =>
    if c.toNat = 45 then (digitRun? ds).map fun (v : Nat) => -(v : Int)
    else if c.toNat = 43 then (digitRun? ds).map fun (v : Nat) => (v : Int)
    else (digitRun? (c :: ds)).map fun (v : Nat) => (v : Int)
  | [] => none

section Literal

variable {ws ds rest : List UInt8} {c : UInt8} {v : Nat}

theorem isspace_of_toNat {c : UInt8} (hc : c.toNat = 45 ∨ c.toNat = 43 ∨ isdigit c) :
    isspace c = false := by
  rw [isdigit_iff] at hc
  simp only [isspace, Bool.or_eq_false_iff, decide_eq_false_iff_not, Bool.and_eq_false_imp,
    decide_eq_true_eq]
  omega

theorem digitRun?_eq_some :
    digitRun? ds = some v ↔ ds ≠ [] ∧ (∀ c ∈ ds, isdigit c) ∧ digitsValue ds = v := by
  unfold digitRun?
  split_ifs with hds <;> simp_all

/-- The digits of a run are what `takeWhile isdigit` keeps when the rest does
not go on with a digit. -/
theorem takeWhile_isdigit_of_digitRun (h : digitRun? ds = some v)
    (hrest : ∀ c ∈ rest.head?, isdigit c = false) :
    (ds ++ rest).takeWhile isdigit = ds ∧ digitsValue ds = v := by
  obtain ⟨-, hdigits, hval⟩ := digitRun?_eq_some.mp h
  refine ⟨?_, hval⟩
  rw [List.takeWhile_append_of_pos hdigits]
  cases rest with
  | nil => simp
  | cons c rest => simp [hrest c rfl]

/-- Leading white space is skipped up to a byte that is not white space. -/
theorem dropWhile_isspace_append (hws : ∀ c ∈ ws, isspace c) (hc : isspace c = false) :
    (ws ++ c :: rest).dropWhile isspace = c :: rest := by
  rw [List.dropWhile_append_of_pos hws, List.dropWhile_cons_of_neg (by simp [hc])]

/-- A decimal literal is a sign as `readSign` reads it followed by a run of
digits, and it does not start with white space. -/
theorem readSign_literal {lit : List UInt8} {n : Int} (rest : List UInt8)
    (hlit : decimalLiteral? lit = some n) :
    ∃ negative ds v, readSign (lit ++ rest) = (negative, ds ++ rest) ∧
      digitRun? ds = some v ∧ n = (if negative then -(v : Int) else v) ∧
      ∀ c ∈ lit.head?, isspace c = false := by
  cases lit with
  | nil => simp [decimalLiteral?] at hlit
  | cons c ds =>
      simp only [decimalLiteral?] at hlit
      split_ifs at hlit with hminus hplus <;> obtain ⟨v, hv, rfl⟩ := Option.map_eq_some'.mp hlit
      · exact ⟨true, ds, v, by simp [readSign, hminus], hv, rfl,
          by simpa using isspace_of_toNat (.inl hminus)⟩
      · exact ⟨false, ds, v, by simp [readSign, hplus], hv, rfl,
          by simpa using isspace_of_toNat (.inr (.inl hplus))⟩
      · have hdigit := (digitRun?_eq_some.mp hv).2.1 c (List.mem_cons_self c ds)
        exact ⟨false, c :: ds, v, by simp [readSign, hminus, hplus], hv, rfl,
          by simpa using isspace_of_toNat (.inr (.inr hdigit))⟩

/-- The standard reading of white space, then a decimal literal, then a rest
that does not go on with a digit: the literal's value, clamped to `long`. -/
theorem strtolStandard_literal {lit : List UInt8} {n : Int}
    (hws : ∀ c ∈ ws, isspace c) (hlit : decimalLiteral? lit = some n)
    (hrest : ∀ c ∈ rest.head?, isdigit c = false) :
    strtolStandard (ws ++ lit ++ rest) = max longMin (min longMax n) := by
  obtain ⟨negative, ds, v, hsign, hrun, rfl, hhead⟩ := readSign_literal rest hlit
  obtain ⟨htake, hval⟩ := takeWhile_isdigit_of_digitRun hrun hrest
  cases lit with
  | nil => simp [decimalLiteral?] at hlit
  | cons c lit =>
      rw [List.append_assoc, List.cons_append, strtolStandard,
        dropWhile_isspace_append hws (hhead c rfl), ← List.cons_append]
      simp only [hsign, htake, hval]

theorem readSign_snd_subset (l : List UInt8) : ∀ c ∈ (readSign l).2, c ∈ l := by
  cases l with
  | nil => simp [readSign]
  | cons c s =>
      simp only [readSign]
      split_ifs <;> simp_all

/-- A text with no digit at all reads as 0. -/
theorem strtolStandard_of_no_digit {l : List UInt8} (h : ∀ c ∈ l, isdigit c = false) :
    strtolStandard l = 0 := by
  have hnil : ((readSign (l.dropWhile isspace)).2.takeWhile isdigit) = [] := by
    refine List.eq_nil_iff_forall_not_mem.mpr fun c hc => ?_
    have hl : c ∈ l := (List.dropWhile_suffix isspace).subset
      (readSign_snd_subset _ c ((List.takeWhile_prefix isdigit).subset hc))
    exact absurd (List.mem_takeWhile_imp hc) (by simp [h c hl])
  simp only [strtolStandard]
  rw [hnil]
  exact clampLong_digitsValue_nil _

/-- The conversion to `int` keeps every value that `int` holds. -/
theorem bmod_of_int_range {n : Int} (hlo : intMin ≤ n) (hhi : n ≤ intMax) :
    n.bmod (2 ^ 32) = n := by
  unfold intMin intMax at *
  rw [Int.bmod_def]
  split_ifs <;> omega

/-- `atoi` reads a decimal literal after white space exactly, whatever follows
it that is not a digit. -/
theorem atoi_literal {lit : List UInt8} {n : Int} (hws : ∀ c ∈ ws, isspace c)
    (hlit : decimalLiteral? lit = some n) (hrest : ∀ c ∈ rest.head?, isdigit c = false)
    (hlo : intMin ≤ n) (hhi : n ≤ intMax) :
    atoi (ws ++ lit ++ rest) = n := by
  have hclamp : max longMin (min longMax n) = n := by
    unfold intMin intMax longMin longMax at *
    omega
  rw [atoi, strtol_eq_strtolStandard, strtolStandard_literal hws hlit hrest, hclamp,
    bmod_of_int_range hlo hhi]

theorem atoi_of_no_digit {l : List UInt8} (h : ∀ c ∈ l, isdigit c = false) : atoi l = 0 := by
  rw [atoi, strtol_eq_strtolStandard, strtolStandard_of_no_digit h]
  rfl

end Literal

section Stop

/-! A byte that is no white space, no sign and no digit, such as the NUL
that ends a C string, stops `strtol` in each of its phases: nothing after it
is read. -/

variable {a r : List UInt8} {c : UInt8}

theorem dropWhile_isspace_append_stop (hc : isspace c = false) :
    (a ++ c :: r).dropWhile isspace = a.dropWhile isspace ++ c :: r := by
  rw [List.dropWhile_append]
  split_ifs with h
  · rw [List.isEmpty_iff.mp h, List.nil_append, List.dropWhile_cons_of_neg (by simp [hc])]
  · rfl

theorem readSign_append_stop (hc : c.toNat ≠ 45 ∧ c.toNat ≠ 43) :
    readSign (a ++ c :: r) = ((readSign a).1, (readSign a).2 ++ c :: r) := by
  cases a with
  | nil => simp [readSign, hc.1, hc.2]
  | cons b a =>
      simp only [List.cons_append, readSign]
      split_ifs <;> rfl

theorem takeWhile_isdigit_append_stop (hc : isdigit c = false) :
    (a ++ c :: r).takeWhile isdigit = a.takeWhile isdigit := by
  rw [List.takeWhile_append]
  split_ifs with h
  · rw [List.takeWhile_cons_of_neg (by simp [hc]), List.append_nil,
      (List.takeWhile_prefix isdigit).eq_of_length h]
  · rfl

theorem strtolStandard_append_stop (hspace : isspace c = false)
    (hsign : c.toNat ≠ 45 ∧ c.toNat ≠ 43) (hdigit : isdigit c = false) :
    strtolStandard (a ++ c :: r) = strtolStandard a := by
  simp only [strtolStandard, dropWhile_isspace_append_stop hspace, readSign_append_stop hsign,
    takeWhile_isdigit_append_stop hdigit]

/-- Leading white space does not count: the standard's reading is the same
once it is dropped. -/
theorem strtolStandard_dropWhile_isspace (l : List UInt8) :
    strtolStandard (l.dropWhile isspace) = strtolStandard l := by
  have hidem : (l.dropWhile isspace).dropWhile isspace = l.dropWhile isspace := by
    cases h : l.dropWhile isspace with
    | nil => rfl
    | cons c r =>
        have hc := List.head_dropWhile_not isspace l (by simp [h])
        simp only [h, List.head_cons] at hc
        exact List.dropWhile_cons_of_neg (by simp [hc])
  simp only [strtolStandard, hidem]

/-- A C string ends at its first NUL: `c_str ()` of bytes `l` is read as the
bytes of `l` before the first NUL. -/
theorem atoi_append_nul (l : List UInt8) :
    atoi (l ++ [0]) = (strtolStandard (l.takeWhile (· != 0))).bmod (2 ^ 32) := by
  obtain ⟨r, hr⟩ : ∃ r, l ++ [0] = l.takeWhile (· != 0) ++ 0 :: r := by
    have hl := List.takeWhile_append_dropWhile (· != 0) l
    cases hdrop : l.dropWhile (· != 0) with
    | nil => exact ⟨[], by conv_lhs => rw [← hl, hdrop, List.append_nil]⟩
    | cons d r =>
        have hd := List.head_dropWhile_not (· != 0) l (by simp [hdrop])
        simp only [hdrop, List.head_cons, bne_eq_false_iff_eq] at hd
        exact ⟨r ++ [0], by conv_lhs => rw [← hl, hdrop, hd, List.append_assoc, List.cons_append]⟩
  rw [atoi, hr, strtol_eq_strtolStandard, strtolStandard_append_stop (by decide) (by decide) (by decide)]

end Stop

end Cxx
end Europa
