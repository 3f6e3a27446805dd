import Mathlib.Algebra.Order.Ring.Int
import Mathlib.Tactic.Common

/-
  Readings of the clocks on POSIX platforms and what
  `cxplat_posix.c` and `cxplat_posix.h` make of them, for
  `time_t` and `long` of 32 and of 64 bits.

  Both conversions multiply the seconds by an `int` constant
  and add the rest.  The product has the type of the seconds,
  and is converted to 64 bits only with the sum.

  Key definitions include:
    * `Types`, `Timespec`, `Timeval`
    * `timespecToUs`, `timeUs64`, `getTimerResolution`
    * `timeEpochMs64`
    * `Fits`

  Key theorems include:
    * `scaleAdd_eq`, `scaleAdd_narrow`
    * `timespecToUs_eq_iff`
    * `getTimerResolution_eq`
    * `timeEpochMs64_eq_iff`
    * `clock_exact_iff`
-/

------------------------------------------------------------
-- Signed Integers
------------------------------------------------------------

namespace CxPlat

namespace PosixClock

/- The widths of the integer types. -/
inductive Width where
  | bits32
  | bits64
deriving DecidableEq, Repr

def Width.bits : Width → Nat
  | .bits32 => 32
  | .bits64 => 64

/- The types that depend on the data model. -/
structure Types where
  timeT : Width
  long : Width
deriving DecidableEq, Repr

/- A result in a signed type, with wrap around. -/
def signed
    (w : Width)
    (x : Int) : Int :=
  x.bmod (2 ^ w.bits)

/- The type of a sum of two signed integers. -/
def common : Width → Width → Width
  | .bits32, .bits32 => .bits32
  | _, _ => .bits64

/- Conversion to `uint64_t`. -/
def toUint64
    (x : Int) : Nat :=
  (x % 2 ^ 64).toNat

/- Where the values of a signed type end. -/
def Width.limit
    (w : Width) : Int :=
  2 ^ (w.bits - 1)

theorem limit_bits32 :
    Width.bits32.limit = 2147483648 := rfl

theorem limit_bits64 :
    Width.bits64.limit = 9223372036854775808 := rfl

theorem signed_bounds
    (w : Width)
    (x : Int) :
    -w.limit ≤ signed w x ∧ signed w x < w.limit := by
  have hPos : 0 < 2 ^ w.bits := Nat.two_pow_pos _
  have hLow := Int.le_bmod (x := x) hPos
  have hHigh := Int.bmod_lt (x := x) hPos
  unfold signed
  cases w with
  | bits32 =>
      rw [limit_bits32]
      simp only [Width.bits] at hLow hHigh ⊢
      omega
  | bits64 =>
      rw [limit_bits64]
      simp only [Width.bits] at hLow hHigh ⊢
      omega

/- A value of the type is not changed. -/
theorem signed_of_lt
    {w : Width}
    {x : Int}
    (hLow : -w.limit ≤ x)
    (hHigh : x < w.limit) :
    signed w x = x := by
  unfold signed
  apply Int.bmod_eq_of_le_mul_two
  · cases w with
    | bits32 =>
        rw [limit_bits32] at hLow
        simp only [Width.bits]
        omega
    | bits64 =>
        rw [limit_bits64] at hLow
        simp only [Width.bits]
        omega
  · cases w with
    | bits32 =>
        rw [limit_bits32] at hHigh
        simp only [Width.bits]
        omega
    | bits64 =>
        rw [limit_bits64] at hHigh
        simp only [Width.bits]
        omega

/- A wrapped part of a sum may as well not be. -/
theorem signed_add
    (w : Width)
    (x y : Int) :
    signed w (signed w x + y) = signed w (x + y) :=
  Int.bmod_add_bmod

theorem toUint64_signed
    (x : Int) :
    toUint64 (signed .bits64 x) = toUint64 x := by
  unfold toUint64 signed
  congr 1
  exact Int.bmod_emod

end PosixClock

end CxPlat

------------------------------------------------------------
-- Conversions
------------------------------------------------------------

namespace CxPlat

namespace PosixClock

/- `struct timespec`. -/
structure Timespec where
  tvSec : Int
  tvNsec : Int
deriving DecidableEq, Repr

/- `struct timeval`. -/
structure Timeval where
  tvSec : Int
  tvUsec : Int
deriving DecidableEq, Repr

/-
  `(sec * factor) + (rest / divisor)` with constants of type
  `int`, `sec` of type `time_t` and `rest` of type `long`.
-/
def scaleAdd
    (types : Types)
    (sec factor rest divisor : Int) : Int :=
  signed (common types.timeT types.long)
    (signed types.timeT (sec * factor) + rest.tdiv divisor)

/- `CxPlatTimespecToUs`. -/
def timespecToUs
    (types : Types)
    (time : Timespec) : Nat :=
  toUint64
    (scaleAdd types time.tvSec 1000000 time.tvNsec 1000)

/- `CxPlatTimeUs64` for a reading of the monotonic clock. -/
def timeUs64
    (types : Types)
    (currTime : Timespec) : Nat :=
  timespecToUs types currTime

/- `CxPlatGetTimerResolution` for what `clock_getres` says. -/
def getTimerResolution
    (types : Types)
    (res : Timespec) : Nat :=
  timespecToUs types res

/-
  `CxPlatTimeEpochMs64`, that is `S_TO_MS` of the seconds and
  `US_TO_MS` of the rest, as an `int64_t`.
-/
def timeEpochMs64
    (types : Types)
    (tv : Timeval) : Int :=
  scaleAdd types tv.tvSec 1000 tv.tvUsec 1000

/- The microseconds of a reading. -/
def Timespec.us
    (time : Timespec) : Int :=
  time.tvSec * 1000000 + time.tvNsec / 1000

/- The milliseconds of a reading. -/
def Timeval.ms
    (tv : Timeval) : Int :=
  tv.tvSec * 1000 + tv.tvUsec / 1000

/- A reading of the monotonic clock. -/
structure Timespec.Valid
    (types : Types)
    (time : Timespec) : Prop where
  sec : 0 ≤ time.tvSec ∧ time.tvSec < types.timeT.limit
  small :
    types.timeT = .bits64 → time.tvSec * 1000000 < 2 ^ 63
  nsec : 0 ≤ time.tvNsec ∧ time.tvNsec < 1000000000

/- A reading of the time of day. -/
structure Timeval.Valid
    (types : Types)
    (tv : Timeval) : Prop where
  sec : 0 ≤ tv.tvSec ∧ tv.tvSec < types.timeT.limit
  small :
    types.timeT = .bits64 → (tv.tvSec + 1) * 1000 < 2 ^ 63
  usec : 0 ≤ tv.tvUsec ∧ tv.tvUsec < 1000000

/- One reading is not later than another. -/
def Timespec.Le
    (first second : Timespec) : Prop :=
  first.tvSec < second.tvSec ∨
    first.tvSec = second.tvSec ∧
      first.tvNsec ≤ second.tvNsec

/-
  The seconds, scaled, and their sum with the rest are values
  of the types they have.
-/
def Fits
    (types : Types)
    (scaled rest : Int) : Prop :=
  scaled < types.timeT.limit ∧
    (types.timeT = .bits32 → types.long = .bits32 →
      scaled + rest < 2 ^ 31)

end PosixClock

end CxPlat

------------------------------------------------------------
-- When They Are Exact
------------------------------------------------------------

namespace CxPlat

namespace PosixClock

variable {types : Types}

/- Wrapping makes a number that is not negative smaller. -/
theorem signed_le
    (w : Width)
    {x : Int}
    (hPos : 0 ≤ x) :
    signed w x ≤ x := by
  by_cases hLess : x < w.limit
  · have hLimit : 0 ≤ w.limit := by omega
    rw [signed_of_lt (by omega) hLess]
  · have hBounds := signed_bounds w x
    omega

theorem signed_eq_iff
    (w : Width)
    {x : Int}
    (hPos : 0 ≤ x) :
    signed w x = x ↔ x < w.limit := by
  constructor
  · intro hSame
    have hBounds := signed_bounds w x
    omega
  · intro hLess
    exact signed_of_lt (by omega) hLess

/- A wrapped number is also wrong as a `uint64_t`. -/
theorem toUint64_eq_iff
    {x y : Int}
    (hPos : 0 ≤ y)
    (hSmall : y < 2 ^ 63)
    (hLow : -2 ^ 31 ≤ x)
    (hLe : x ≤ y) :
    toUint64 x = y.toNat ↔ x = y := by
  unfold toUint64
  omega

/- What `scaleAdd` computes, by the types. -/
theorem scaleAdd_eq
    {sec factor rest divisor : Int}
    (hScaled :
      types.timeT = .bits64 → sec * factor < 2 ^ 63)
    (hPos : 0 ≤ sec * factor)
    (hRest :
      0 ≤ rest.tdiv divisor ∧ rest.tdiv divisor < 2 ^ 31) :
    scaleAdd types sec factor rest divisor =
      match types.timeT, types.long with
      | .bits64, _ =>
          signed .bits64 (sec * factor + rest.tdiv divisor)
      | .bits32, .bits32 =>
          signed .bits32 (sec * factor + rest.tdiv divisor)
      | .bits32, .bits64 =>
          signed .bits32 (sec * factor) +
            rest.tdiv divisor := by
  unfold scaleAdd
  rcases types with ⟨timeT, long⟩
  cases timeT with
  | bits64 =>
      have hLess := hScaled rfl
      simp only [common]
      rw [(signed_eq_iff .bits64 hPos).mpr]
      rw [limit_bits64]
      omega
  | bits32 =>
      cases long with
      | bits32 =>
          simp only [common]
          exact signed_add _ _ _
      | bits64 =>
          have hBounds := signed_bounds .bits32 (sec * factor)
          rw [limit_bits32] at hBounds
          simp only [common]
          apply signed_of_lt
          · rw [limit_bits64]
            omega
          · rw [limit_bits64]
            omega

/-
  With a 32-bit `time_t` the result is at most the sum, and
  it is the sum if all values are values of their types.
-/
theorem scaleAdd_narrow
    {sec factor rest divisor : Int}
    (hNarrow : types.timeT = .bits32)
    (hPos : 0 ≤ sec * factor)
    (hRest :
      0 ≤ rest.tdiv divisor ∧ rest.tdiv divisor < 2 ^ 31) :
    -2 ^ 31 ≤ scaleAdd types sec factor rest divisor ∧
      scaleAdd types sec factor rest divisor ≤
        sec * factor + rest.tdiv divisor ∧
      (scaleAdd types sec factor rest divisor =
          sec * factor + rest.tdiv divisor ↔
        Fits types (sec * factor) (rest.tdiv divisor)) := by
  have hWide :
      types.timeT = .bits64 → sec * factor < 2 ^ 63 := by
    intro hWide
    rw [hNarrow] at hWide
    cases hWide
  rw [scaleAdd_eq hWide hPos hRest]
  unfold Fits
  generalize sec * factor = scaled at hPos ⊢
  generalize rest.tdiv divisor = rest at hRest ⊢
  rw [hNarrow, limit_bits32]
  cases hLong : types.long with
  | bits32 =>
      have hBounds := signed_bounds .bits32 (scaled + rest)
      have hLe := signed_le .bits32
        (show 0 ≤ scaled + rest by omega)
      have hIff := signed_eq_iff .bits32
        (show 0 ≤ scaled + rest by omega)
      rw [limit_bits32] at hBounds hIff
      simp only [forall_true_left]
      rw [hIff]
      omega
  | bits64 =>
      have hBounds := signed_bounds .bits32 scaled
      have hLe := signed_le .bits32 hPos
      have hIff := signed_eq_iff .bits32 hPos
      rw [limit_bits32] at hBounds hIff
      simp only [reduceCtorEq, forall_true_left,
        false_implies, and_true]
      rw [← hIff]
      omega

/- A 64-bit `time_t` is wide enough for all readings. -/
theorem fits_wide
    {scaled rest : Int}
    (hWide : types.timeT = .bits64)
    (hLess : scaled < 2 ^ 63) :
    Fits types scaled rest := by
  unfold Fits
  rw [hWide, limit_bits64]
  refine ⟨by omega, ?_⟩
  intro hNarrow
  cases hNarrow

theorem timespecToUs_eq_iff
    {time : Timespec}
    (hValid : time.Valid types) :
    timespecToUs types time = time.us.toNat ↔
      Fits types (time.tvSec * 1000000)
        (time.tvNsec / 1000) := by
  have hSec := hValid.sec
  have hNsec := hValid.nsec
  have hDiv :
      time.tvNsec.tdiv 1000 = time.tvNsec / 1000 :=
    Int.tdiv_eq_ediv_of_nonneg hNsec.1
  have hPos : 0 ≤ time.tvSec * 1000000 := by omega
  have hRest :
      0 ≤ time.tvNsec.tdiv 1000 ∧
        time.tvNsec.tdiv 1000 < 2 ^ 31 := by omega
  unfold timespecToUs Timespec.us
  rw [← hDiv]
  cases hWidth : types.timeT with
  | bits32 =>
      rw [hWidth, limit_bits32] at hSec
      rcases scaleAdd_narrow hWidth hPos hRest with
        ⟨hLow, hLe, hIff⟩
      rw [toUint64_eq_iff (by omega) (by omega) hLow hLe]
      exact hIff
  | bits64 =>
      have hLess := hValid.small hWidth
      rw [scaleAdd_eq hValid.small hPos hRest, hWidth]
      simp only
      rw [toUint64_signed]
      refine iff_of_true ?_ (fits_wide hWidth hLess)
      unfold toUint64
      omega

/-
  A resolution of less than 2147 seconds is converted
  exactly, whatever the types.
-/
theorem getTimerResolution_eq
    {res : Timespec}
    (hValid : res.Valid types)
    (hShort : res.tvSec < 2147) :
    getTimerResolution types res = res.us.toNat := by
  have hNsec := hValid.nsec
  apply (timespecToUs_eq_iff hValid).mpr
  unfold Fits
  refine ⟨?_, fun _ _ => by omega⟩
  cases types.timeT with
  | bits32 =>
      rw [limit_bits32]
      omega
  | bits64 =>
      rw [limit_bits64]
      omega

theorem timeEpochMs64_eq_iff
    {tv : Timeval}
    (hValid : tv.Valid types) :
    timeEpochMs64 types tv = tv.ms ↔
      Fits types (tv.tvSec * 1000) (tv.tvUsec / 1000) := by
  have hSec := hValid.sec
  have hUsec := hValid.usec
  have hDiv : tv.tvUsec.tdiv 1000 = tv.tvUsec / 1000 :=
    Int.tdiv_eq_ediv_of_nonneg hUsec.1
  have hPos : 0 ≤ tv.tvSec * 1000 := by omega
  have hRest :
      0 ≤ tv.tvUsec.tdiv 1000 ∧
        tv.tvUsec.tdiv 1000 < 2 ^ 31 := by omega
  unfold timeEpochMs64 Timeval.ms
  rw [← hDiv]
  cases hWidth : types.timeT with
  | bits32 => exact (scaleAdd_narrow hWidth hPos hRest).2.2
  | bits64 =>
      have hLess := hValid.small hWidth
      have hScaled :
          types.timeT = .bits64 →
            tv.tvSec * 1000 < 2 ^ 63 := by
        intro _
        omega
      rw [scaleAdd_eq hScaled hPos hRest, hWidth]
      simp only
      refine iff_of_true ?_ (fits_wide hWidth (by omega))
      rw [signed_eq_iff .bits64 (by omega), limit_bits64]
      omega

/- Later readings have no fewer microseconds. -/
theorem Timespec.Le.us_le
    {first second : Timespec}
    (hFirst : first.Valid types)
    (hSecond : second.Valid types)
    (hLe : first.Le second) :
    first.us ≤ second.us := by
  have hFirst := hFirst.nsec
  have hSecond := hSecond.nsec
  unfold Timespec.us
  rcases hLe with hLess | ⟨hSame, hRest⟩
  · omega
  · rw [hSame]
    omega

/-
  The conversions are exact, and times do not decrease along
  readings that do not, exactly if all products and sums are
  values of the types that the data model gives them.
-/
theorem clock_exact_iff
    (types : Types)
    (readings : List Timespec)
    (tv : Timeval)
    (hReadings : ∀ time ∈ readings, time.Valid types)
    (hSorted : readings.Pairwise Timespec.Le)
    (hTv : tv.Valid types) :
    ((∀ time ∈ readings,
        timespecToUs types time = time.us.toNat) ∧
      (readings.map (timeUs64 types)).Pairwise (· ≤ ·) ∧
      timeEpochMs64 types tv = tv.ms) ↔
    ((∀ time ∈ readings,
        Fits types (time.tvSec * 1000000)
          (time.tvNsec / 1000)) ∧
      Fits types (tv.tvSec * 1000) (tv.tvUsec / 1000)) := by
  rw [timeEpochMs64_eq_iff hTv]
  constructor
  · rintro ⟨hExact, _, hEpoch⟩
    refine ⟨?_, hEpoch⟩
    intro time hMem
    exact (timespecToUs_eq_iff (hReadings time hMem)).mp
      (hExact time hMem)
  · rintro ⟨hFits, hEpoch⟩
    have hExact :
        ∀ time ∈ readings,
          timespecToUs types time = time.us.toNat := by
      intro time hMem
      exact (timespecToUs_eq_iff (hReadings time hMem)).mpr
        (hFits time hMem)
    refine ⟨hExact, ?_, hEpoch⟩
    rw [List.pairwise_map]
    refine hSorted.imp_of_mem ?_
    intro first second hFirst hSecond hLe
    unfold timeUs64
    rw [hExact first hFirst, hExact second hSecond]
    exact Int.toNat_le_toNat
      (hLe.us_le (hReadings first hFirst)
        (hReadings second hSecond))

/- Both types have 32 bits, or both have 64. -/
def ilp32 : Types where
  timeT := .bits32
  long := .bits32

def lp64 : Types where
  timeT := .bits64
  long := .bits64

theorem clock_exact_lp64 :
    ((∀ time ∈ [Timespec.mk 2148 0, Timespec.mk 4295 999],
        timespecToUs lp64 time = time.us.toNat) ∧
      ([Timespec.mk 2148 0, Timespec.mk 4295 999].map
        (timeUs64 lp64)).Pairwise (· ≤ ·) ∧
      timeEpochMs64 lp64 ⟨1700000000, 500000⟩ =
        Timeval.ms ⟨1700000000, 500000⟩) := by
  refine (clock_exact_iff lp64
    [Timespec.mk 2148 0, Timespec.mk 4295 999]
    ⟨1700000000, 500000⟩ ?_ ?_ ?_).mpr ?_
  · simp only [List.forall_mem_cons, List.not_mem_nil,
      false_implies, implies_true, and_true]
    exact ⟨⟨by decide, by decide, by decide⟩,
      ⟨by decide, by decide, by decide⟩⟩
  · exact List.pairwise_pair.mpr (Or.inl (by decide))
  · exact ⟨by decide, by decide, by decide⟩
  · refine ⟨?_, fits_wide rfl (by decide)⟩
    simp only [List.forall_mem_cons, List.not_mem_nil,
      false_implies, implies_true, and_true]
    exact ⟨fits_wide rfl (by decide),
      fits_wide rfl (by decide)⟩

/-
  A 32-bit machine that has been up for 36 minutes, and then
  for 72: the time is wrong and goes back.  The time of day
  is wrong as well.
-/
theorem upFor36Minutes_wraps :
    Timespec.Valid ilp32 ⟨2148, 0⟩ ∧
      Timespec.Valid ilp32 ⟨4295, 0⟩ ∧
      Timespec.Le ⟨2148, 0⟩ ⟨4295, 0⟩ ∧
      Timeval.Valid ilp32 ⟨1700000000, 0⟩ ∧
      timespecToUs ilp32 ⟨2148, 0⟩ = 18446744071562584320 ∧
      timespecToUs ilp32 ⟨2148, 0⟩ ≠
        (Timespec.us ⟨2148, 0⟩).toNat ∧
      ¬ timeUs64 ilp32 ⟨2148, 0⟩ ≤
        timeUs64 ilp32 ⟨4295, 0⟩ ∧
      timeEpochMs64 ilp32 ⟨1700000000, 0⟩ = -807049216 ∧
      timeEpochMs64 ilp32 ⟨1700000000, 0⟩ ≠
        Timeval.ms ⟨1700000000, 0⟩ := by
  refine ⟨⟨by decide, by decide, by decide⟩,
    ⟨by decide, by decide, by decide⟩,
    Or.inl (by decide),
    ⟨by decide, by decide, by decide⟩, ?_⟩
  decide

end PosixClock

end CxPlat
