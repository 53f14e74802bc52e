import Mathlib.Data.List.Infix
import Mathlib.Algebra.Group.Int

/-!
# `std::string` and its `find`

A C++ `char` is one byte and a `std::string` a finite byte sequence whose size
stays below `npos`, the largest `size_t`, which `find` returns when it finds
nothing.  `find` is the search loop of libstdc++: it tries each start position
from `pos` on at which the needle still fits, and returns the first one at
which the whole needle matches.

The main results say that this loop returns the least occurrence of the
needle (`findFrom_of_occurs`), and `npos` exactly when there is none
(`findFrom_of_not_occurs`).  Occurrence is `List.IsInfix`, the library's
contiguous sublist.  From these, `find` returns what the C++ standard
specifies (`StdString.find_spec`).

libstdc++ from GCC 8 on searches differently, jumping with `memchr` to the
next byte that can start the needle; `StdString.findMemchr_eq_find` proves
that both searches return the same position on every input.
-/

namespace Europa
namespace Cxx

/-- `std::string::npos`, the largest `size_t` on LP64. -/
def npos : Nat := 2 ^ 64 - 1

/-- A `std::string`: its bytes, fewer than `npos` of them (`max_size() < npos`). -/
structure StdString where
  data : List UInt8
  size_lt_npos : data.length < npos

/-- The bytes of an ASCII text. -/
def ascii (t : String) : List UInt8 := t.toList.map Char.toUInt8

namespace StdString

def length (s : StdString) : Nat := s.data.length

/-- What `c_str()` points to: the bytes, then the terminating NUL.  A C function
reads it up to the first NUL, which may be one inside the string. -/
def cStr (s : StdString) : List UInt8 := s.data ++ [0]

theorem length_lt_npos (s : StdString) : s.length < npos := s.size_lt_npos

end StdString

/-- The search loop of `basic_string::find(str, pos)`: `rest` holds the bytes
from the position `pos` on.  While the needle still fits it compares the
needle with the bytes at `pos`, and moves one byte on when they differ. -/
def findFrom (needle rest : List UInt8) (pos : Nat) : Nat :=
  if rest.length < needle.length then npos
  else if needle.isPrefixOf rest then pos
  else
    match rest with
    | [] => npos
    | _ :: rest' => findFrom needle rest' (pos + 1)

/-- `basic_string::find(str, pos)`: an empty needle is found at `pos` when
`pos` is inside the string. -/
def StdString.find (s str : StdString) (pos : Nat) : Nat :=
  if str.length = 0 then (if pos ≤ s.length then pos else npos)
  else findFrom str.data (s.data.drop pos) pos

section FindFrom

variable {needle rest : List UInt8} {c : UInt8} {pos : Nat}

theorem findFrom_of_isPrefix (h : needle <+: rest) : findFrom needle rest pos = pos := by
  rw [findFrom.eq_def, if_neg (Nat.not_lt.mpr h.length_le),
    if_pos (List.isPrefixOf_iff_prefix.mpr h)]

theorem findFrom_nil (hne : needle ≠ []) : findFrom needle [] pos = npos := by
  have hlen : ([] : List UInt8).length < needle.length := by
    simpa [List.length_pos] using hne
  rw [findFrom.eq_def, if_pos hlen]

/-- Where the needle does not start, the loop moves one byte on; when the
needle no longer fits, both sides are `npos`. -/
theorem findFrom_cons_of_not_isPrefix (h : ¬ needle <+: c :: rest) :
    findFrom needle (c :: rest) pos = findFrom needle rest (pos + 1) := by
  have hpre : needle.isPrefixOf (c :: rest) = false :=
    Bool.eq_false_iff.mpr (by rwa [Ne, List.isPrefixOf_iff_prefix])
  by_cases hlen : (c :: rest).length < needle.length
  · have hshort : rest.length < needle.length := by
      simp only [List.length_cons] at hlen
      omega
    rw [findFrom.eq_def, if_pos hlen, findFrom.eq_def, if_pos hshort]
  · rw [findFrom.eq_def, if_neg hlen, hpre]
    rfl

theorem findFrom_of_not_occurs (hne : needle ≠ []) (h : ¬ needle <:+: rest) :
    findFrom needle rest pos = npos := by
  induction rest generalizing pos with
  | nil => exact findFrom_nil hne
  | cons c rest ih =>
      rw [List.infix_cons_iff, not_or] at h
      rw [findFrom_cons_of_not_isPrefix h.1]
      exact ih h.2

/-- The loop returns the first position at which the needle starts. -/
theorem findFrom_of_occurs (h : needle <:+: rest) :
    ∃ k, findFrom needle rest pos = pos + k ∧ needle <+: rest.drop k ∧
      ∀ j < k, ¬ needle <+: rest.drop j := by
  induction rest generalizing pos with
  | nil =>
      refine ⟨0, findFrom_of_isPrefix ?_, ?_, by simp⟩ <;>
        simpa [List.infix_nil] using h
  | cons c rest ih =>
      by_cases hpre : needle <+: c :: rest
      · exact ⟨0, findFrom_of_isPrefix hpre, hpre, by simp⟩
      · have hrest : needle <:+: rest := (List.infix_cons_iff.mp h).resolve_left hpre
        obtain ⟨k, hk, hdrop, hfirst⟩ := @ih (pos + 1) hrest
        refine ⟨k + 1, ?_, hdrop, ?_⟩
        · rw [findFrom_cons_of_not_isPrefix hpre, hk]
          omega
        · intro j hj
          cases j with
          | zero => exact hpre
          | succ j => exact hfirst j (by omega)

end FindFrom

/-- `find` with a non-empty needle answers below the string's length exactly
when the needle occurs at or after `pos`. -/
theorem StdString.find_lt_length_iff (s str : StdString) (pos : Nat) (hne : str.length ≠ 0) :
    s.find str pos < s.length ↔ str.data <:+: s.data.drop pos := by
  have hne' : str.data ≠ [] := fun h => hne (by simp [StdString.length, h])
  unfold StdString.find
  rw [if_neg hne]
  constructor
  · intro hlt
    by_contra hnot
    rw [findFrom_of_not_occurs hne' hnot] at hlt
    exact absurd s.length_lt_npos (by omega)
  · intro hocc
    obtain ⟨k, hk, hpre, -⟩ := @findFrom_of_occurs _ _ pos hocc
    have hfit := hpre.length_le
    simp only [List.length_drop] at hfit
    unfold StdString.length at hne ⊢
    omega

/-! ## What the standard specifies

[string.find] specifies `find (str, pos)` as the lowest `xpos` such that
`pos ≤ xpos`, `xpos + str.size () ≤ size ()` and `str` matches at `xpos`, and
`npos` when there is none. -/

/-- The condition of [string.find] on a position: the needle fits there and
matches. -/
def MatchAt (s str : List UInt8) (xpos : Nat) : Prop :=
  xpos + str.length ≤ s.length ∧ str <+: s.drop xpos

section Spec

variable {needle rest : List UInt8} {pos j : Nat}

/-- A needle that starts at an offset of `rest` occurs in it, and the loop
returns an offset no larger. -/
theorem findFrom_of_isPrefix_drop (h : needle <+: rest.drop j) :
    ∃ k ≤ j, findFrom needle rest pos = pos + k ∧ needle <+: rest.drop k := by
  obtain ⟨k, hk, hpre, hfirst⟩ :=
    @findFrom_of_occurs _ _ pos (h.isInfix.trans (List.drop_suffix j rest).isInfix)
  exact ⟨k, Nat.le_of_not_lt fun hjk => hfirst j hjk h, hk, hpre⟩

theorem not_infix_of_forall_drop (h : ∀ j, ¬ needle <+: rest.drop j) : ¬ needle <:+: rest := by
  rw [List.infix_iff_prefix_suffix]
  rintro ⟨t, hpre, hsuf⟩
  exact h _ (List.suffix_iff_eq_drop.mp hsuf ▸ hpre)

/-- A non-empty needle that starts at a position fits there. -/
theorem matchAt_of_isPrefix_drop (hne : needle ≠ []) (h : needle <+: rest.drop j) :
    MatchAt rest needle j := by
  have hfit := h.length_le
  have hlen : 0 < needle.length := List.length_pos.mpr hne
  rw [List.length_drop] at hfit
  exact ⟨by omega, h⟩

end Spec

/-- `find` returns what [string.find] specifies: the lowest position from
`pos` on at which the needle fits and matches, and `npos` when there is
none. -/
theorem StdString.find_spec (s str : StdString) (pos : Nat) :
    (∀ xpos, pos ≤ xpos → MatchAt s.data str.data xpos →
      pos ≤ s.find str pos ∧ s.find str pos ≤ xpos ∧ MatchAt s.data str.data (s.find str pos)) ∧
    ((∀ xpos, pos ≤ xpos → ¬ MatchAt s.data str.data xpos) → s.find str pos = npos) := by
  unfold StdString.find
  split_ifs with hempty hpos
  · -- an empty needle matches at every position up to the size
    simp only [MatchAt, StdString.length, List.eq_nil_of_length_eq_zero hempty, List.length_nil,
      Nat.add_zero, List.nil_prefix, and_true] at hpos ⊢
    exact ⟨fun xpos hle _ => by omega, fun h => absurd hpos (h pos le_rfl)⟩
  · simp only [MatchAt, StdString.length, List.eq_nil_of_length_eq_zero hempty, List.length_nil,
      Nat.add_zero, List.nil_prefix, and_true] at hpos ⊢
    exact ⟨fun xpos hle hfit => absurd (hle.trans hfit) hpos, fun _ => trivial⟩
  · have hne : str.data ≠ [] := fun h => hempty (by simp [StdString.length, h])
    refine ⟨fun xpos hle ⟨_, hmatch⟩ => ?_, fun h => findFrom_of_not_occurs hne
      (not_infix_of_forall_drop fun j hpre => h (pos + j) (by omega)
        (matchAt_of_isPrefix_drop hne (by rwa [List.drop_drop] at hpre)))⟩
    rw [← Nat.add_sub_cancel' hle, ← List.drop_drop] at hmatch
    obtain ⟨k, hk, hfind, hpre⟩ := @findFrom_of_isPrefix_drop _ _ pos _ hmatch
    rw [List.drop_drop] at hpre
    rw [hfind]
    exact ⟨by omega, by omega, matchAt_of_isPrefix_drop hne hpre⟩

/-! ## `find` in libstdc++ from GCC 8 on

From GCC 8 on, libstdc++ no longer tries every position: it asks `memchr`
for the next byte equal to the needle's first, among those at which the
needle still fits, compares the whole needle there with `memcmp`, and goes on
after that byte when they differ.  `findMemchr_eq_find` proves that it
returns what the byte-by-byte loop returns, on every string, needle and
start. -/

/-- `char_traits<char>::find (p, n, c)`, a `memchr` over the `n` bytes from
`p` on: the offset of the first `c` among them. -/
def traitsFind : List UInt8 → Nat → UInt8 → Option Nat
  | b :: p, n + 1, c => if b = c then some 0 else (traitsFind p n c).map (· + 1)
  | _, _, _ => none

/-- `char_traits<char>::compare (p, q, n)`, a `memcmp` of the first `n`
bytes, read as `unsigned char`. -/
def traitsCompare : List UInt8 → List UInt8 → Nat → Int
  | a :: p, b :: q, n + 1 =>
    if a.toNat < b.toNat then -1 else if b.toNat < a.toNat then 1 else traitsCompare p q n
  | _, _, _ => 0

section Traits

variable {p q : List UInt8} {n k : Nat} {c : UInt8}

/-- `memchr` answers with the first `c` in its range. -/
theorem traitsFind_eq_some (h : traitsFind p n c = some k) :
    k < n ∧ p[k]? = some c ∧ ∀ j < k, p[j]? ≠ some c := by
  induction p generalizing n k with
  | nil => cases n <;> simp [traitsFind] at h
  | cons b p ih =>
      cases n with
      | zero => simp [traitsFind] at h
      | succ n =>
          simp only [traitsFind] at h
          split_ifs at h with hb
          · cases h
            simp [hb]
          · obtain ⟨k, hk, rfl⟩ := Option.map_eq_some'.mp h
            obtain ⟨hlt, hget, hfirst⟩ := ih hk
            refine ⟨by omega, by simpa using hget, fun j hj => ?_⟩
            cases j with
            | zero => simpa using hb
            | succ j => simpa using hfirst j (by omega)

/-- `memchr` finds nothing only when no byte of its range is `c`. -/
theorem traitsFind_eq_none (h : traitsFind p n c = none) : ∀ j < n, p[j]? ≠ some c := by
  induction p generalizing n with
  | nil => simp
  | cons b p ih =>
      cases n with
      | zero => simp
      | succ n =>
          simp only [traitsFind] at h
          split_ifs at h with hb
          intro j hj
          cases j with
          | zero => simpa using hb
          | succ j => simpa using ih (Option.map_eq_none'.mp h) j (by omega)

theorem traitsFind_lt_length (h : traitsFind p n c = some k) : k < p.length :=
  (List.getElem?_eq_some_iff.mp (traitsFind_eq_some h).2.1).1

/-- `memcmp` returns 0 exactly when the compared bytes are equal. -/
theorem traitsCompare_eq_zero_iff (hp : n ≤ p.length) (hq : n ≤ q.length) :
    traitsCompare p q n = 0 ↔ p.take n = q.take n := by
  induction n generalizing p q with
  | zero => simp [traitsCompare]
  | succ n ih =>
      obtain ⟨a, p, rfl⟩ := List.exists_cons_of_length_pos (by omega : 0 < p.length)
      obtain ⟨b, q, rfl⟩ := List.exists_cons_of_length_pos (by omega : 0 < q.length)
      simp only [List.length_cons] at hp hq
      simp only [traitsCompare, List.take_succ_cons, List.cons.injEq]
      split_ifs with hab hba
      · exact ⟨fun h => absurd h (by decide), fun h => absurd (congrArg UInt8.toNat h.1) (by omega)⟩
      · exact ⟨fun h => absurd h (by decide), fun h => absurd (congrArg UInt8.toNat h.1) (by omega)⟩
      · rw [ih (by omega) (by omega)]
        exact ⟨fun h => ⟨UInt8.toNat.inj (by omega), h⟩, fun h => h.2⟩

/-- `memcmp` of a whole needle against bytes with room for it is 0 exactly
where the needle starts. -/
theorem traitsCompare_eq_zero_iff_isPrefix (h : q.length ≤ p.length) :
    traitsCompare p q q.length = 0 ↔ q <+: p := by
  rw [traitsCompare_eq_zero_iff h le_rfl, List.take_length, List.prefix_iff_eq_take, eq_comm]

end Traits

/-- The `while (__len >= __n)` loop of libstdc++'s `find` from GCC 8 on:
`first` holds the bytes from `__first` to the end of the string, and they
start at `pos`.  `__len` is `first.length`, and `memchr` looks at the
`__len - __n + 1` bytes at which the needle still fits. -/
def findMemchrFrom (needle : List UInt8) (elem0 : UInt8) (first : List UInt8) (pos : Nat) :
    Nat :=
  if needle.length ≤ first.length then
    match h : traitsFind first (first.length - needle.length + 1) elem0 with
    | none => npos
    | some k =>
      if traitsCompare (first.drop k) needle needle.length = 0 then pos + k
      else findMemchrFrom needle elem0 (first.drop (k + 1)) (pos + k + 1)
  else npos
termination_by first.length
decreasing_by
  have := traitsFind_lt_length h
  simp only [List.length_drop]
  omega

/-- `basic_string::find (str, pos)` of libstdc++ from GCC 8 on. -/
def StdString.findMemchr (s str : StdString) (pos : Nat) : Nat :=
  match str.data with
  | [] => if pos ≤ s.length then pos else npos
  | elem0 :: _ => if s.length ≤ pos then npos else findMemchrFrom str.data elem0 (s.data.drop pos) pos

section Memchr

variable {needle first rest : List UInt8} {elem0 : UInt8} {pos k : Nat}

theorem findMemchrFrom_of_lt (h : first.length < needle.length) :
    findMemchrFrom needle elem0 first pos = npos := by
  rw [findMemchrFrom, if_neg (Nat.not_le.mpr h)]

theorem findMemchrFrom_of_none (hfit : needle.length ≤ first.length)
    (h : traitsFind first (first.length - needle.length + 1) elem0 = none) :
    findMemchrFrom needle elem0 first pos = npos := by
  rw [findMemchrFrom, if_pos hfit]
  split <;> simp_all

theorem findMemchrFrom_of_some (hfit : needle.length ≤ first.length)
    (h : traitsFind first (first.length - needle.length + 1) elem0 = some k) :
    findMemchrFrom needle elem0 first pos =
      if traitsCompare (first.drop k) needle needle.length = 0 then pos + k
      else findMemchrFrom needle elem0 (first.drop (k + 1)) (pos + k + 1) := by
  rw [findMemchrFrom, if_pos hfit]
  split <;> simp_all

theorem findFrom_of_length_lt (h : rest.length < needle.length) : findFrom needle rest pos = npos := by
  rw [findFrom.eq_def, if_pos h]

/-- Where the needle starts nowhere before `k`, the byte-by-byte loop moves
`k` bytes on. -/
theorem findFrom_drop (hk : k ≤ rest.length) (h : ∀ j < k, ¬ needle <+: rest.drop j) :
    findFrom needle rest pos = findFrom needle (rest.drop k) (pos + k) := by
  induction k generalizing rest pos with
  | zero => rfl
  | succ k ih =>
      obtain ⟨c, rest, rfl⟩ := List.exists_cons_of_length_pos (by omega : 0 < rest.length)
      rw [findFrom_cons_of_not_isPrefix (h 0 (by omega)), List.drop_succ_cons,
        ih (by simp at hk; omega) fun j hj => h (j + 1) (by omega), Nat.add_right_comm]
      rfl

/-- A needle does not start where its first byte is not. -/
theorem not_isPrefix_of_getElem? {t : List UInt8} {j : Nat} (h : rest[j]? ≠ some elem0) :
    ¬ elem0 :: t <+: rest.drop j := by
  intro hpre
  obtain ⟨u, hu⟩ := hpre
  rw [← List.head?_drop, ← hu] at h
  exact h rfl

/-- The memchr-driven loop returns what the byte-by-byte loop returns. -/
theorem findMemchrFrom_eq_findFrom {t : List UInt8} (first : List UInt8) (pos : Nat) :
    findMemchrFrom (elem0 :: t) elem0 first pos = findFrom (elem0 :: t) first pos := by
  have hlen : 0 < (elem0 :: t).length := List.length_pos.mpr (List.cons_ne_nil _ _)
  induction first, pos using findMemchrFrom.induct (elem0 :: t) elem0 with
  | case1 first pos hfit hnone =>
      -- no first byte where the needle fits: nor does the needle
      have hmiss := traitsFind_eq_none hnone
      rw [findMemchrFrom_of_none hfit hnone,
        findFrom_drop (by omega) fun j hj => not_isPrefix_of_getElem? (hmiss j hj),
        findFrom_of_length_lt (by rw [List.length_drop]; omega)]
  | case2 first pos hfit k hsome hcmp =>
      -- the needle matches at the first byte found
      obtain ⟨hk, -, hfirst⟩ := traitsFind_eq_some hsome
      have hpre := (traitsCompare_eq_zero_iff_isPrefix (by rw [List.length_drop]; omega)).mp hcmp
      rw [findMemchrFrom_of_some hfit hsome, if_pos hcmp,
        findFrom_drop (by omega) fun j hj => not_isPrefix_of_getElem? (hfirst j hj),
        findFrom_of_isPrefix hpre]
  | case3 first pos hfit k hsome hcmp ih =>
      -- it does not: go on after that byte
      obtain ⟨hk, -, hfirst⟩ := traitsFind_eq_some hsome
      have hnot := mt (traitsCompare_eq_zero_iff_isPrefix (by rw [List.length_drop]; omega)).mpr hcmp
      have hskip : ∀ j < k + 1, ¬ elem0 :: t <+: first.drop j := fun j hj => by
        rcases Nat.lt_succ_iff_lt_or_eq.mp hj with hj | rfl
        · exact not_isPrefix_of_getElem? (hfirst j hj)
        · exact hnot
      rw [findMemchrFrom_of_some hfit hsome, if_neg hcmp, ih, findFrom_drop (by omega) hskip,
        Nat.add_assoc]
  | case4 first pos hshort =>
      rw [findMemchrFrom_of_lt (Nat.lt_of_not_le hshort), findFrom_of_length_lt (Nat.lt_of_not_le hshort)]

end Memchr

/-- libstdc++'s `find` from GCC 8 on returns what the byte-by-byte search
returns, for every string, needle and start position. -/
theorem StdString.findMemchr_eq_find (s str : StdString) (pos : Nat) :
    s.findMemchr str pos = s.find str pos := by
  unfold StdString.findMemchr StdString.find
  split
  · next hnil => simp [StdString.length, hnil]
  · next elem0 t hcons =>
      rw [if_neg (show ¬ str.length = 0 by simp [StdString.length, hcons]), hcons]
      split_ifs with hpos
      · rw [List.drop_eq_nil_of_le hpos, findFrom_nil (List.cons_ne_nil _ _)]
      · exact findMemchrFrom_eq_findFrom _ _

end Cxx
end Europa
