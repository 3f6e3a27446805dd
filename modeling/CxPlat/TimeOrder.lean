import CxPlat.Lib.Serial
import Mathlib.Data.Set.Basic

/-
  Differences and comparisons of times, which the headers of
  all platforms define alike, for 64-bit times and for 32-bit
  times.

  A 32-bit time is a 64-bit time cut off, as a serial number.
  The 32-bit functions agree with the 64-bit ones on times
  that are close enough to each other, however often the
  32-bit times have wrapped.

  Key definitions include:
    * `timeDiff64`, `timeDiff32`
    * `timeAtOrBefore64`, `timeAtOrBefore32`
    * `InWindow`, `InTrueOrder`

  Key theorems include:
    * `timeDiff32_eq_sub`
    * `timeDiff32_time32`
    * `timeAtOrBefore32_time32`
    * `times32_agree`
-/

------------------------------------------------------------
-- Time Functions
------------------------------------------------------------

namespace CxPlat

namespace TimeOrder

/- `CxPlatTimeDiff64`. -/
def timeDiff64
    (t1 t2 : BitVec 64) : BitVec 64 :=
  t2 - t1

/- `CxPlatTimeDiff32`. -/
def timeDiff32
    (t1 t2 : BitVec 32) : BitVec 32 :=
  if t2 > t1 then
    t2 - t1
  else
    -- The 32-bit time has wrapped in between.
    t2 + (0xFFFFFFFF#32 - t1) + 1#32

/- `CxPlatTimeAtOrBefore64`. -/
def timeAtOrBefore64
    (t1 t2 : BitVec 64) : Bool :=
  t1 ≤ t2

/- `CxPlatTimeAtOrBefore32`. -/
def timeAtOrBefore32
    (t1 t2 : BitVec 32) : Bool :=
  (t1 - t2).toInt ≤ 0

/- `(uint32_t)t`, as in `CxPlatTimeUs32` and the like. -/
def time32
    (t : BitVec 64) : BitVec 32 :=
  t.setWidth 32

end TimeOrder

end CxPlat

------------------------------------------------------------
-- Two Times
------------------------------------------------------------

namespace CxPlat

namespace TimeOrder

variable {t1 t2 t3 : BitVec 64}

theorem time32_eq_stamp
    (t : BitVec 64) :
    time32 t = Serial.stamp 32 t.toNat := by
  apply BitVec.eq_of_toNat_eq
  simp [time32, Serial.stamp]

/- Both branches subtract modulo the width. -/
theorem timeDiff32_eq_sub
    (t1 t2 : BitVec 32) :
    timeDiff32 t1 t2 = t2 - t1 := by
  unfold timeDiff32
  split
  · rfl
  · bv_omega

theorem toNat_timeDiff64
    (hLe : t1 ≤ t2) :
    (timeDiff64 t1 t2).toNat = t2.toNat - t1.toNat := by
  unfold timeDiff64
  bv_omega

theorem toNat_timeDiff32
    (hLe : t1 ≤ t2)
    (hNear : t2.toNat < t1.toNat + 2 ^ 32) :
    (timeDiff32 (time32 t1) (time32 t2)).toNat =
      t2.toNat - t1.toNat := by
  rw [timeDiff32_eq_sub, time32_eq_stamp, time32_eq_stamp]
  exact Serial.toNat_sub_stamp (BitVec.le_def.mp hLe) hNear

theorem timeDiff32_time32
    (hLe : t1 ≤ t2)
    (hNear : t2.toNat < t1.toNat + 2 ^ 32) :
    (timeDiff32 (time32 t1) (time32 t2)).setWidth 64 =
      timeDiff64 t1 t2 := by
  apply BitVec.eq_of_toNat_eq
  rw [BitVec.toNat_setWidth, toNat_timeDiff32 hLe hNear,
    toNat_timeDiff64 hLe]
  exact Nat.mod_eq_of_lt (by omega)

theorem timeAtOrBefore32_iff
    (hNear : Serial.Near 32 t1.toNat t2.toNat) :
    timeAtOrBefore32 (time32 t1) (time32 t2) = true ↔
      t1 ≤ t2 := by
  unfold timeAtOrBefore32
  rw [time32_eq_stamp, time32_eq_stamp, decide_eq_true_iff,
    Serial.toInt_sub_stamp_nonpos_iff hNear,
    BitVec.le_def]

theorem timeAtOrBefore32_time32
    (hNear : Serial.Near 32 t1.toNat t2.toNat) :
    timeAtOrBefore32 (time32 t1) (time32 t2) =
      timeAtOrBefore64 t1 t2 := by
  rw [Bool.eq_iff_iff, timeAtOrBefore32_iff hNear]
  unfold timeAtOrBefore64
  rw [decide_eq_true_iff]

end TimeOrder

end CxPlat

------------------------------------------------------------
-- Windows of Times
------------------------------------------------------------

namespace CxPlat

namespace TimeOrder

variable {S : Set (BitVec 64)} {t1 t2 t3 : BitVec 64}

/- The times lie in a window shorter than `2 ^ 31`. -/
def InWindow
    (S : Set (BitVec 64)) : Prop :=
  ∃ start : Nat,
    ∀ t ∈ S, start ≤ t.toNat ∧ t.toNat < start + 2 ^ 31

/- The order that 32-bit times give. -/
abbrev Before32
    (t1 t2 : BitVec 64) : Prop :=
  timeAtOrBefore32 (time32 t1) (time32 t2) = true

/-
  The 32-bit order is a total preorder on the times, it sorts
  them as they are, and distances add up along it.
-/
structure InTrueOrder
    (S : Set (BitVec 64)) : Prop where
  refl : ∀ t ∈ S, Before32 t t
  trans :
    ∀ t1 ∈ S, ∀ t2 ∈ S, ∀ t3 ∈ S,
      Before32 t1 t2 → Before32 t2 t3 → Before32 t1 t3
  total :
    ∀ t1 ∈ S, ∀ t2 ∈ S, Before32 t1 t2 ∨ Before32 t2 t1
  order :
    ∀ t1 ∈ S, ∀ t2 ∈ S, Before32 t1 t2 ↔ t1 ≤ t2
  sorted :
    ∀ ts : List (BitVec 64), (∀ t ∈ ts, t ∈ S) →
      (ts.Pairwise Before32 ↔ ts.Pairwise (· ≤ ·))
  additive :
    ∀ t1 ∈ S, ∀ t2 ∈ S, ∀ t3 ∈ S,
      Before32 t1 t2 → Before32 t2 t3 →
        (timeDiff32 (time32 t1) (time32 t3)).toNat =
          (timeDiff32 (time32 t1) (time32 t2)).toNat +
            (timeDiff32 (time32 t2) (time32 t3)).toNat

theorem InWindow.near
    (hWindow : InWindow S)
    (hFirst : t1 ∈ S)
    (hSecond : t2 ∈ S) :
    Serial.Near 32 t1.toNat t2.toNat := by
  rcases hWindow with ⟨start, hIn⟩
  have hFirst := hIn t1 hFirst
  have hSecond := hIn t2 hSecond
  unfold Serial.Near
  omega

theorem InWindow.before32_iff
    (hWindow : InWindow S)
    (hFirst : t1 ∈ S)
    (hSecond : t2 ∈ S) :
    Before32 t1 t2 ↔ t1 ≤ t2 :=
  timeAtOrBefore32_iff (hWindow.near hFirst hSecond)

theorem InWindow.toNat_timeDiff32
    (hWindow : InWindow S)
    (hFirst : t1 ∈ S)
    (hSecond : t2 ∈ S)
    (hLe : t1 ≤ t2) :
    (timeDiff32 (time32 t1) (time32 t2)).toNat =
      t2.toNat - t1.toNat := by
  apply TimeOrder.toNat_timeDiff32 hLe
  have hNear := (hWindow.near hFirst hSecond).2
  omega

theorem InWindow.inTrueOrder
    (hWindow : InWindow S) :
    InTrueOrder S := by
  constructor
  · intro t hMem
    rw [hWindow.before32_iff hMem hMem]
    exact BitVec.le_refl t
  · intro t1 h1 t2 h2 t3 h3
    rw [hWindow.before32_iff h1 h2,
      hWindow.before32_iff h2 h3, hWindow.before32_iff h1 h3]
    exact BitVec.le_trans
  · intro t1 h1 t2 h2
    rw [hWindow.before32_iff h1 h2,
      hWindow.before32_iff h2 h1]
    exact BitVec.le_total t1 t2
  · intro t1 h1 t2 h2
    exact hWindow.before32_iff h1 h2
  · intro ts hAll
    apply List.Pairwise.iff_of_mem
    intro t1 t2 h1 h2
    exact hWindow.before32_iff (hAll t1 h1) (hAll t2 h2)
  · intro t1 h1 t2 h2 t3 h3
    rw [hWindow.before32_iff h1 h2,
      hWindow.before32_iff h2 h3]
    intro hFirst hSecond
    rw [hWindow.toNat_timeDiff32 h1 h2 hFirst,
      hWindow.toNat_timeDiff32 h2 h3 hSecond,
      hWindow.toNat_timeDiff32 h1 h3
        (BitVec.le_trans hFirst hSecond)]
    rw [BitVec.le_def] at hFirst hSecond
    omega

/-
  The 32-bit functions agree with the 64-bit functions across
  any number of wraps.
-/
theorem times32_agree :
    (∀ t1 t2 : BitVec 64,
      t1 ≤ t2 → t2.toNat - t1.toNat < 2 ^ 32 →
        (timeDiff32 (time32 t1) (time32 t2)).setWidth 64 =
          timeDiff64 t1 t2) ∧
    (∀ t1 t2 : BitVec 64,
      ((t1.toNat : Int) - t2.toNat).natAbs < 2 ^ 31 →
        timeAtOrBefore32 (time32 t1) (time32 t2) =
          timeAtOrBefore64 t1 t2) ∧
    (∀ S : Set (BitVec 64), InWindow S → InTrueOrder S) := by
  refine ⟨?_, ?_, ?_⟩
  · intro t1 t2 hLe hNear
    rw [BitVec.le_def] at hLe
    exact timeDiff32_time32 hLe (by omega)
  · intro t1 t2 hNear
    apply timeAtOrBefore32_time32
    unfold Serial.Near
    omega
  · intro S hWindow
    exact hWindow.inTrueOrder

/- Either side of the third wrap. -/
example :
    timeDiff32 (time32 0x2FFFFFFFE#64)
        (time32 0x300000003#64) = 5#32 ∧
      timeAtOrBefore32 (time32 0x2FFFFFFFE#64)
        (time32 0x300000003#64) = true := by
  decide

end TimeOrder

end CxPlat
