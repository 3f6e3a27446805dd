import Mathlib.Algebra.Order.Ring.Int
import Mathlib.Tactic.Common

/-
  Arithmetic on the integer types of C.

  A number has a type and is one of its values.  The operands
  of an operator are converted to their common type and the
  result is a value of that type, wrapped around if need be.
  A calculation records whether all its steps were exact,
  that is, whether no conversion and no operator wrapped.

  `Yields c Q` says that `c` is exact and that `Q` holds of
  its value.

  Key definitions include:
    * `IntType`, `IntType.Holds`, `IntType.wrap`
    * `common`
    * `Number`, `Calc`
    * `num`, `assign`, `binary`, `atLeast`
    * `Calc.Yields`

  Key theorems include:
    * `IntType.wrap_of_holds`
    * `IntType.Holds.common_left`
    * `Calc.Yields.bind`
    * `yields_num`, `yields_binary`
-/

------------------------------------------------------------
-- Types
------------------------------------------------------------

namespace Integers

/- A type that is at least as wide as `int`. -/
structure IntType where
  bits : Nat
  signed : Bool
  wide : 32 ≤ bits
deriving DecidableEq

namespace IntType

/- The least value. -/
def least
    (t : IntType) : Int :=
  if t.signed then -2 ^ (t.bits - 1) else 0

/- Where the values end. -/
def bound
    (t : IntType) : Int :=
  if t.signed then 2 ^ (t.bits - 1) else 2 ^ t.bits

/- A number is a value of the type. -/
def Holds
    (t : IntType)
    (z : Int) : Prop :=
  t.least ≤ z ∧ z < t.bound

instance
    (t : IntType)
    (z : Int) :
    Decidable (t.Holds z) := by
  unfold Holds
  infer_instance

/- Conversion to the type. -/
def wrap
    (t : IntType)
    (z : Int) : Int :=
  if t.signed then z.bmod (2 ^ t.bits) else z % 2 ^ t.bits

/- All the values are twice those of one sign. -/
theorem two_pow_bits
    (t : IntType) :
    (2 : Int) ^ t.bits = 2 * 2 ^ (t.bits - 1) := by
  have hWide := t.wide
  have hBits : t.bits = t.bits - 1 + 1 := by omega
  conv_lhs => rw [hBits, Int.pow_succ]
  exact Int.mul_comm _ _

theorem holds_wrap
    (t : IntType)
    (z : Int) :
    t.Holds (t.wrap z) := by
  have hPos : 0 < 2 ^ t.bits := Nat.two_pow_pos _
  have hTwice := t.two_pow_bits
  have hModulus : (0 : Int) < 2 ^ t.bits :=
    Int.pow_pos (by decide)
  unfold Holds least bound wrap
  cases t.signed with
  | false =>
      simp only [Bool.false_eq_true, if_false]
      exact ⟨Int.emod_nonneg _ (by omega),
        Int.emod_lt_of_pos _ hModulus⟩
  | true =>
      have hLow := Int.le_bmod (x := z) hPos
      have hHigh := Int.bmod_lt (x := z) hPos
      push_cast at hLow hHigh
      simp only [if_true]
      omega

/- A value of the type is not changed. -/
theorem wrap_of_holds
    {t : IntType}
    {z : Int}
    (hHolds : t.Holds z) :
    t.wrap z = z := by
  have hTwice := t.two_pow_bits
  unfold Holds least bound at hHolds
  unfold wrap
  cases hSigned : t.signed with
  | false =>
      simp only [hSigned, Bool.false_eq_true,
        if_false] at hHolds ⊢
      exact Int.emod_eq_of_lt hHolds.1 hHolds.2
  | true =>
      simp only [hSigned, if_true] at hHolds ⊢
      apply Int.bmod_eq_of_le_mul_two
      · push_cast
        omega
      · push_cast
        omega

/- Every type has the values of `int` that have no sign. -/
theorem holds_of_lt
    (t : IntType)
    {z : Int}
    (hLow : 0 ≤ z)
    (hHigh : z < 2 ^ 31) :
    t.Holds z := by
  have hWide := t.wide
  have hHalf : (2 : Int) ^ 31 ≤ 2 ^ (t.bits - 1) :=
    pow_le_pow_right₀ (by decide) (by omega)
  have hTwice := t.two_pow_bits
  unfold Holds least bound
  cases t.signed with
  | false =>
      simp only [Bool.false_eq_true, if_false]
      omega
  | true =>
      simp only [if_true]
      omega

/- Values without a sign have no gaps. -/
theorem Holds.smaller
    {t : IntType}
    {y z : Int}
    (hHolds : t.Holds z)
    (hLow : 0 ≤ y)
    (hLe : y ≤ z) :
    t.Holds y := by
  have hZero := (t.holds_of_lt (Int.le_refl 0) (by decide)).1
  have hBound := hHolds.2
  exact ⟨by omega, by omega⟩

/- Types without a sign have all of `unsigned int`. -/
theorem holds_of_lt_unsigned
    {t : IntType}
    (hUnsigned : t.signed = false)
    {z : Int}
    (hLow : 0 ≤ z)
    (hHigh : z < 2 ^ 32) :
    t.Holds z := by
  have hPow : (2 : Int) ^ 32 ≤ 2 ^ t.bits :=
    pow_le_pow_right₀ (by decide) t.wide
  unfold Holds least bound
  rw [hUnsigned]
  simp only [Bool.false_eq_true, if_false]
  omega

end IntType

/-
  The usual arithmetic conversions: the wider of two types;
  of two types of the same width, the one without a sign.
-/
def common
    (s t : IntType) : IntType :=
  if s.bits < t.bits then t
  else if t.bits < s.bits then s
  else { s with signed := s.signed && t.signed }

/- A value without a sign is one of every wider type. -/
theorem IntType.Holds.widen
    {s t : IntType}
    {z : Int}
    (hHolds : s.Holds z)
    (hLow : 0 ≤ z)
    (hWider : s.bits < t.bits) :
    t.Holds z := by
  have hPow : (2 : Int) ^ s.bits ≤ 2 ^ (t.bits - 1) :=
    pow_le_pow_right₀ (by decide) (by omega)
  have hS := s.two_pow_bits
  have hT := t.two_pow_bits
  have hHigh : z < 2 ^ s.bits := by
    have hBound := hHolds.2
    unfold IntType.bound at hBound
    split at hBound <;> omega
  unfold IntType.Holds IntType.least IntType.bound
  cases t.signed with
  | false =>
      simp only [Bool.false_eq_true, if_false]
      omega
  | true =>
      simp only [if_true]
      omega

/- Taking the sign from a type leaves it these values. -/
theorem IntType.Holds.unsign
    {t : IntType}
    {z : Int}
    (hHolds : t.Holds z)
    (hLow : 0 ≤ z)
    (other : Bool) :
    IntType.Holds
      { t with signed := t.signed && other } z := by
  have hTwice := t.two_pow_bits
  unfold IntType.Holds IntType.least
    IntType.bound at hHolds ⊢
  cases hSigned : t.signed with
  | false =>
      simp only [hSigned, Bool.false_eq_true, if_false,
        Bool.false_and] at hHolds ⊢
      exact hHolds
  | true =>
      simp only [hSigned, if_true,
        Bool.true_and] at hHolds ⊢
      cases other with
      | false =>
          simp only [Bool.false_eq_true, if_false]
          omega
      | true =>
          simp only [if_true]
          exact hHolds

theorem common_comm
    (s t : IntType) :
    common s t = common t s := by
  unfold common
  split
  next hLess =>
    rw [if_neg (by omega)]
  next hNot =>
    split
    next => rfl
    next hSame =>
      have hBits : s.bits = t.bits := by omega
      rcases s with ⟨bits, signed, wide⟩
      rcases t with ⟨bits', signed', wide'⟩
      subst hBits
      simp only [Bool.and_comm]

/- Operands without a sign keep their value. -/
theorem IntType.Holds.common_left
    {s : IntType}
    {z : Int}
    (hHolds : s.Holds z)
    (hLow : 0 ≤ z)
    (t : IntType) :
    (common s t).Holds z := by
  unfold common
  split
  next hWider => exact hHolds.widen hLow hWider
  next =>
    split
    next => exact hHolds
    next => exact hHolds.unsign hLow t.signed

theorem IntType.Holds.common_right
    {t : IntType}
    {z : Int}
    (hHolds : t.Holds z)
    (hLow : 0 ≤ z)
    (s : IntType) :
    (common s t).Holds z := by
  rw [common_comm]
  exact hHolds.common_left hLow s

end Integers

------------------------------------------------------------
-- Calculations
------------------------------------------------------------

namespace Integers

/- A number of some type. -/
structure Number where
  type : IntType
  value : Int
  holds : type.Holds value

/- The number is `z`, of type `t`. -/
structure Number.Is
    (x : Number)
    (t : IntType)
    (z : Int) : Prop where
  type_eq : x.type = t
  value_eq : x.value = z

/-
  A value, and whether all the steps that led to it were
  exact.
-/
structure Calc (α : Type) where
  value : α
  isExact : Bool

instance : Monad Calc where
  pure a := { value := a, isExact := true }
  bind c f :=
    { value := (f c.value).value
      isExact := c.isExact && (f c.value).isExact }

namespace Calc

variable {α β : Type}

/- All steps are exact and `Q` holds of the value. -/
structure Yields
    (c : Calc α)
    (Q : α → Prop) : Prop where
  isExact : c.isExact = true
  post : Q c.value

theorem yields_pure
    {a : α}
    {Q : α → Prop}
    (hPost : Q a) :
    (pure a : Calc α).Yields Q where
  isExact := rfl
  post := hPost

theorem Yields.bind
    {c : Calc α}
    {f : α → Calc β}
    {Q : α → Prop}
    {R : β → Prop}
    (hFirst : c.Yields Q)
    (hRest : ∀ a, Q a → (f a).Yields R) :
    (c >>= f).Yields R where
  isExact :=
    Bool.and_eq_true_iff.mpr
      ⟨hFirst.isExact, (hRest _ hFirst.post).isExact⟩
  post := (hRest _ hFirst.post).post

end Calc

/- A number of type `t`, from any integer. -/
def num
    (t : IntType)
    (z : Int) : Calc Number where
  value :=
    { type := t
      value := t.wrap z
      holds := t.holds_wrap z }
  isExact := t.Holds z

/- Conversion, as in an assignment. -/
def assign
    (t : IntType)
    (x : Number) : Calc Number :=
  num t x.value

/- Both operands, converted to their common type. -/
def operands
    (x y : Number) : Calc (Number × Number) := do
  let t := common x.type y.type
  let x ← assign t x
  let y ← assign t y
  pure (x, y)

/- An operator on operands of any two types. -/
def binary
    (op : Int → Int → Int)
    (x y : Number) : Calc Number := do
  let (x, y) ← operands x y
  num x.type (op x.value y.value)

/- The comparison `x >= y`. -/
def atLeast
    (x y : Number) : Calc Bool := do
  let (x, y) ← operands x y
  pure (x.value ≥ y.value)

variable {s t : IntType} {x y : Number} {a b : Int}

theorem Number.Is.held
    (hX : x.Is t a) :
    t.Holds a := by
  rw [← hX.type_eq, ← hX.value_eq]
  exact x.holds

theorem yields_num
    (hHolds : t.Holds a) :
    (num t a).Yields (fun x => x.Is t a) where
  isExact := decide_eq_true hHolds
  post := ⟨rfl, IntType.wrap_of_holds hHolds⟩

theorem yields_assign
    (hX : x.Is s a)
    (hHolds : t.Holds a) :
    (assign t x).Yields (fun r => r.Is t a) := by
  unfold assign
  rw [hX.value_eq]
  exact yields_num hHolds

/- Operands without a sign are converted exactly. -/
theorem yields_operands
    (hX : x.Is s a)
    (hY : y.Is t b)
    (hLeft : 0 ≤ a)
    (hRight : 0 ≤ b) :
    (operands x y).Yields (fun r =>
      r.1.Is (common s t) a ∧ r.2.Is (common s t) b) := by
  have hA := hX.held.common_left hLeft t
  have hB := hY.held.common_right hRight s
  unfold operands
  rw [hX.type_eq, hY.type_eq]
  refine (yields_assign hX hA).bind ?_
  intro x' hX'
  refine (yields_assign hY hB).bind ?_
  intro y' hY'
  exact Calc.yields_pure ⟨hX', hY'⟩

theorem yields_binary
    {op : Int → Int → Int}
    (hX : x.Is s a)
    (hY : y.Is t b)
    (hLeft : 0 ≤ a)
    (hRight : 0 ≤ b)
    (hHolds : (common s t).Holds (op a b)) :
    (binary op x y).Yields
      (fun r => r.Is (common s t) (op a b)) := by
  unfold binary
  refine (yields_operands hX hY hLeft hRight).bind ?_
  rintro ⟨x', y'⟩ ⟨hX', hY'⟩
  dsimp only at hX' hY' ⊢
  rw [hX'.type_eq, hX'.value_eq, hY'.value_eq]
  exact yields_num hHolds

theorem yields_atLeast
    (hX : x.Is s a)
    (hY : y.Is t b)
    (hLeft : 0 ≤ a)
    (hRight : 0 ≤ b) :
    (atLeast x y).Yields (fun r => r = decide (a ≥ b)) := by
  unfold atLeast
  refine (yields_operands hX hY hLeft hRight).bind ?_
  rintro ⟨x', y'⟩ ⟨hX', hY'⟩
  dsimp only at hX' hY' ⊢
  rw [hX'.value_eq, hY'.value_eq]
  exact Calc.yields_pure rfl

end Integers
