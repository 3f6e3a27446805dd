import CxPlat.KArray.Fill
import CxPlat.KArray.Insertion

/-
  Insertion of an element of the array itself.

  The argument is a reference to a slot of the buffer, and it
  is read only after the buffer may have been exchanged and
  the elements shifted.  What the read sees then decides what
  is inserted, if anything.

  Key definitions include:
    * `seen`
    * `Becomes`
    * `OwnKept`
    * `userPushBack`

  Key theorems include:
    * `returns_place_seen`, `not_returns_place_unseen`
    * `returns_makeRoom_hole`
    * `insertAt_own_iff`
    * `ownElement_inserted_iff`
-/

------------------------------------------------------------
-- Reading The Argument
------------------------------------------------------------

namespace CxPlat

namespace KArray

open Comp

variable {T : Type}
variable {I : Instantiation T} {h : Heap T} {a : KArray}
variable {b j index : Nat}

/- What a read of slot `j` of a buffer sees, if anything. -/
def seen
    (h : Heap T)
    (b j : Nat) : Option T :=
  if j < h.capacity b then h.val b j else none

theorem exec_readAt_seen
    {v : T}
    (hSeen : seen h b j = some v) :
    exec (readAt (some b) j) h = .ok (v, h) := by
  unfold seen at hSeen
  split at hSeen
  next hBound =>
    have hRead :
        Returns (readAt (some b) j) h
          (fun w t => w = v ∧ t = h) :=
      (returns_readAt hBound hSeen).mpr ⟨rfl, rfl⟩
    obtain ⟨w, t, hExec, hValue, hSame⟩ := hRead
    rw [hExec, hValue, hSame]
  next => cases hSeen

/- An element that is seen is as good as its value. -/
theorem returns_place_seen
    {v : T}
    {Q : Bool × KArray → Heap T → Prop}
    (hSeen : seen h b j = some v) :
    Returns (place I .copy a index (.element (some b) j)) h
        Q ↔
      Returns (place I .copy a index (.value v)) h Q := by
  unfold place Ref.take Ref.read
  rw [returns_bind_of_exec (exec_readAt_seen hSeen)]
  simp only [pure_bind]

theorem not_returns_place_unseen
    (hSeen : seen h b j = none)
    (Q : Bool × KArray → Heap T → Prop) :
    ¬ Returns (place I .copy a index (.element (some b) j))
      h Q := by
  unfold place Ref.take Ref.read readAt locate
  unfold seen at hSeen
  split at hSeen
  next hBound =>
    have hSlot := Slot.eq_raw_of_not_isLive
      (isLive_eq_false_of_val hSeen)
    simp [hBound, hSlot]
  next hBound => simp [hBound]

/- The list that an array holds is determined. -/
theorem Holds.unique
    {xs ys : List T}
    (hXs : Holds I h a xs)
    (hYs : Holds I h a ys) :
    xs = ys := by
  have hLength : xs.length = ys.length :=
    hXs.count.symm.trans hYs.count
  apply List.ext_getElem?
  intro i
  by_cases hLt : i < xs.length
  · have hFits := hXs.fits
    obtain ⟨b, hPointer⟩ :=
      hXs.pointer_of_pos (by omega)
    rw [← hXs.elements b hPointer i hLt,
      ← hYs.elements b hPointer i (by omega)]
  · rw [List.getElem?_eq_none (by omega),
      List.getElem?_eq_none (by omega)]

end KArray

end CxPlat

------------------------------------------------------------
-- The Slot Left Open
------------------------------------------------------------

namespace CxPlat

namespace KArray

open Comp

variable {T : Type}
variable {I : Instantiation T} {h : Heap T} {a : KArray}
variable {xs : List T} {b index : Nat}

/- After shifting, the bytes are still there, or nothing is. -/
theorem returns_makeRoom_hole
    (hHolds : Holds I h a xs)
    (hPointer : a.p = some b)
    (hRoom : xs.length < a.bufferSize)
    (hIndex : index < xs.length) :
    Returns (makeRoom I a index) h
      (fun _ t =>
        t.val b index =
          if I.triviallyCopyable then xs[index]?
          else none) := by
  have hMax := hHolds.lt_ulong
  have hCount := hHolds.count
  have hSize := hHolds.size b hPointer
  rw [makeRoom_eq I hHolds hIndex]
  cases hCopy : I.triviallyCopyable with
  | true =>
      apply (returns_moveElements_copied I hPointer
        hHolds.bytes hSize (by omega) (by omega) (by omega)
        (by omega) hCopy).mono
      intro _ t hCopied
      rw [hCopied.values, if_neg (by omega), if_pos rfl]
      exact hHolds.elements b hPointer index hIndex
  | false =>
      apply (returns_moveElements_right I hPointer (by omega)
        hSize (by omega) (by omega) (by omega) (by omega)
        (by omega) hCopy ?_ ?_).mono
      · intro _ t hMoved
        rw [hMoved.values]
        unfold eraseRange
        simp
      · intro i _ hHi
        exact ⟨_, hHolds.live hPointer
          (by omega : i < xs.length)⟩
      · intro hTrivial i hLo hHi
        exact hHolds.spare hTrivial b hPointer i (by omega)
          (by omega)

/- What the argument is by the time it is read. -/
def shifted
    (I : Instantiation T)
    (xs : List T)
    (k j : Nat) : Option T :=
  if j < k then xs[j]?
  else if j = k then
    if I.triviallyCopyable then xs[j]? else none
  else xs[j - 1]?

theorem returns_makeRoom_own
    {j k : Nat}
    (hHolds : Holds I h a xs)
    (hPointer : a.p = some b)
    (hRoom : xs.length < a.bufferSize)
    (hJ : j < xs.length)
    (hK : k ≤ xs.length) :
    Returns (makeRoom I a k) h
      (fun _ t =>
        ∃ f, Rewrites b f h t ∧
          Opened I xs k a.bufferSize f ∧
          f j = shifted I xs k j) := by
  obtain ⟨_, t, hExec, f, hRewrites, hOpened⟩ :=
    returns_makeRoom I hHolds hPointer hRoom hK
  refine returns_of_exec hExec ⟨f, hRewrites, hOpened, ?_⟩
  unfold shifted
  rcases Nat.lt_trichotomy j k with hLt | hEq | hGt
  · rw [if_pos hLt]
    exact hOpened.below j hLt
  · subst hEq
    have hHole := (returns_makeRoom_hole hHolds hPointer
      hRoom hJ).post hExec
    rw [if_neg (by omega), if_pos rfl, ← hRewrites.values]
    exact hHole
  · have hAbove := hOpened.above (j - 1) (by omega)
      (by omega)
    have hNext : j - 1 + 1 = j := by omega
    rw [hNext] at hAbove
    rw [if_neg (by omega), if_neg (by omega)]
    exact hAbove

end KArray

end CxPlat

------------------------------------------------------------
-- Inserting An Own Element
------------------------------------------------------------

namespace CxPlat

namespace KArray

open Comp

variable {T : Type}
variable {I : Instantiation T} {h : Heap T} {a : KArray}
variable {xs : List T} {b j k : Nat}

/- The list becomes `ys` if true is returned. -/
def Becomes
    (I : Instantiation T)
    (xs ys : List T)
    (r : Bool × KArray)
    (t : Heap T) : Prop :=
  Holds I t r.2 (if r.1 then ys else xs)

theorem place_true
    {t : Heap T}
    {pass : Pass}
    {index : Nat}
    {x : Ref T}
    {r : Bool × KArray}
    (hExec : exec (place I pass a index x) h = .ok (r, t)) :
    r.1 = true := by
  unfold place at hExec
  rw [exec_bind] at hExec
  split at hExec
  next =>
    rw [exec_bind] at hExec
    split at hExec
    next =>
      cases hExec
      rfl
    next => cases hExec
  next => cases hExec

/-
  In an array with slot `k` open, the element in slot `j` is
  inserted as `v` just if `v` is what the slot shows.
-/
theorem returns_place_own_iff
    {m : Heap T}
    {f : Nat → Option T}
    (hFresh : h.Fresh)
    (hHolds : Holds I h a xs)
    (hPointer : a.p = some b)
    (hRoom : xs.length < a.bufferSize)
    (hJ : j < xs.length)
    (hK : k ≤ xs.length)
    (hRewrites : Rewrites b f h m)
    (hOpened : Opened I xs k a.bufferSize f)
    (v : T) :
    Returns (place I .copy a k (.element (some b) j)) m
        (Becomes I xs (xs.insertIdx k v)) ↔
      f j = some v := by
  have hSize : m.capacity b = a.bufferSize := by
    rw [hRewrites.capacity]
    exact hHolds.size b hPointer
  have hSeen : seen m b j = f j := by
    unfold seen
    rw [if_pos (by omega), hRewrites.values]
  have hShown : m.val b = f := funext hRewrites.values
  cases hF : f j with
  | none =>
      refine iff_of_false ?_ (by simp)
      exact not_returns_place_unseen (hSeen.trans hF) _
  | some w =>
      rw [returns_place_seen (hSeen.trans hF)]
      have hDenotes : (Ref.value w).Denotes m a w := rfl
      have hPlace :=
        returns_place I .copy
          (Confined.of_rewrites hFresh hPointer hPointer
            hRewrites)
          hDenotes hPointer hHolds.count hHolds.small
          hHolds.bytes hSize hRoom hK (hShown ▸ hOpened)
      constructor
      · -- The array holds the list with `w` in it.
        intro hBecomes
        obtain ⟨r, t, hExec, hInserted⟩ := hPlace
        have hTrue := place_true hExec
        have hWith := hInserted.holds
        have hWanted : Holds I t r.2 _ :=
          hBecomes.post hExec
        rw [if_pos hTrue] at hWith hWanted
        have hLists := hWith.unique hWanted
        have hAt := congrArg (·[k]?) hLists
        simpa [List.getElem?_insertIdx_self, hK] using hAt
      · intro hValue
        cases hValue
        apply hPlace.mono
        intro r t hInserted
        exact hInserted.holds

/-
  When an own element is inserted with its old value: there
  is room, and the slot has not been touched or still shows
  the same value, or growth fails and nothing is inserted.
-/
def OwnKept
    (I : Instantiation T)
    (h : Heap T)
    (a : KArray)
    (xs : List T)
    (k j : Nat) : Prop :=
  if a.numElements < a.bufferSize then
    j < k ∨ (j = k ∧ I.triviallyCopyable = true) ∨
      (k < j ∧ xs[j - 1]? = xs[j]?)
  else
    ¬ Grants I h (growCount I a (a.numElements + 1))

instance
    [DecidableEq T]
    (I : Instantiation T)
    (h : Heap T)
    (a : KArray)
    (xs : List T)
    (k j : Nat) :
    Decidable (OwnKept I h a xs k j) := by
  unfold OwnKept
  infer_instance

theorem shifted_eq_iff
    (hJ : j < xs.length) :
    shifted I xs k j = xs[j]? ↔
      j < k ∨ (j = k ∧ I.triviallyCopyable = true) ∨
        (k < j ∧ xs[j - 1]? = xs[j]?) := by
  unfold shifted
  rcases Nat.lt_trichotomy j k with hLt | hEq | hGt
  · simp [hLt]
  · subst hEq
    cases I.triviallyCopyable with
    | true => simp
    | false => simp [hJ]
  · have hNotLt : ¬ j < k := by omega
    have hNe : j ≠ k := by omega
    simp [hNotLt, hNe, hGt]

/- With room, the read comes after the shift. -/
theorem insertAt_own_room_iff
    (hFresh : h.Fresh)
    (hHolds : Holds I h a xs)
    (hRoom : a.numElements < a.bufferSize)
    (hJ : j < xs.length)
    (hK : k ≤ xs.length)
    (v : T) :
    Returns (insertAt I .copy a k (.element a.p j)) h
        (Becomes I xs (xs.insertIdx k v)) ↔
      shifted I xs k j = some v := by
  have hCount := hHolds.count
  have hMax := hHolds.lt_ulong
  have hWide := I.sizeT.ulong_le_modulus
  obtain ⟨b, hPointer⟩ := hHolds.pointer_of_pos (by omega)
  obtain ⟨_, m, hExec, f, hRewrites, hOpened, hShifted⟩ :=
    returns_makeRoom_own hHolds hPointer (by omega) hJ hK
  unfold insertAt grow
  rw [if_neg (by omega), sizeAdd_of_lt (by omega),
    if_pos (by omega)]
  simp only [pure_bind, Bool.not_true, Bool.false_eq_true,
    if_false]
  rw [returns_bind_of_exec hExec, hPointer,
    returns_place_own_iff hFresh hHolds hPointer (by omega)
      hJ hK hRewrites hOpened v, hShifted]

/- Without it, the buffer that is read has been freed. -/
theorem insertAt_own_full_iff
    (hFresh : h.Fresh)
    (hHolds : Holds I h a xs)
    (hFull : ¬ a.numElements < a.bufferSize)
    (hJ : j < xs.length)
    (hK : k ≤ xs.length)
    (ys : List T) :
    Returns (insertAt I .copy a k (.element a.p j)) h
        (Becomes I xs ys) ↔
      ¬ Grants I h
        (growCount I a (a.numElements + 1)) := by
  have hCount := hHolds.count
  have hFits := hHolds.fits
  have hMax := hHolds.lt_ulong
  have hWide := I.sizeT.ulong_le_modulus
  obtain ⟨b, hPointer⟩ := hHolds.pointer_of_pos (by omega)
  have hLess : a.bufferSize < a.numElements + 1 := by omega
  obtain ⟨⟨ok, a'⟩, u, hExec, hExchanged⟩ :=
    returns_grow_more I hFresh hHolds hLess
  unfold insertAt
  rw [if_neg (by omega), sizeAdd_of_lt (by omega),
    returns_bind_of_exec hExec, ← hExchanged.granted]
  cases ok with
  | false =>
      simp only [Bool.not_false, if_true, returns_pure,
        Bool.false_eq_true, not_false_eq_true, iff_true]
      exact hExchanged.reserved.holds
  | true =>
      refine iff_of_false ?_ (by simp)
      have hHolds' : Holds I u a' xs :=
        hExchanged.reserved.holds
      have hNew : a'.p = some h.next :=
        hExchanged.pointer rfl
      have hMore : growCount I a (a.numElements + 1) ≤
          a'.bufferSize :=
        hExchanged.reserved.room rfl
      have hAtLeast :=
        le_growCount I a (a.numElements + 1)
      have hFreed : u.capacity b = 0 := by
        by_contra hAllocated
        rcases hExchanged.reserved.confined.owned b
          hAllocated with hOwn | ⟨_, hOther⟩
        · exact hHolds.ne_next hFresh hPointer
            (Option.some.inj (hOwn.symm.trans hNew))
        · exact hOther hPointer
      obtain ⟨_, m, hShift, f, hRewrites, _⟩ :=
        returns_makeRoom I hHolds' hNew (by omega) hK
      have hUnseen : seen m b j = none := by
        unfold seen
        rw [hRewrites.capacity, hFreed,
          if_neg (Nat.not_lt_zero j)]
      simp only [Bool.not_true, Bool.false_eq_true, if_false]
      rw [returns_bind_of_exec hShift, hPointer]
      exact not_returns_place_unseen hUnseen _

theorem insertAt_own_iff
    (hFresh : h.Fresh)
    (hHolds : Holds I h a xs)
    (hJ : j < xs.length)
    (hK : k ≤ xs.length) :
    Returns (insertAt I .copy a k (.element a.p j)) h
        (Becomes I xs (xs.insertIdx k xs[j])) ↔
      OwnKept I h a xs k j := by
  unfold OwnKept
  split
  next hRoom =>
    rw [insertAt_own_room_iff hFresh hHolds hRoom hJ hK,
      ← List.getElem?_eq_getElem hJ, shifted_eq_iff hJ]
  next hFull =>
    exact insertAt_own_full_iff hFresh hHolds hFull hJ hK _

/-
  `CxPlatVector::push_back` in user mode.  The value has been
  copied to the parameter, and `std::vector` appends it or
  throws, and then is as it was.
-/
def userPushBack
    (throws : Bool)
    (xs : List T)
    (value : T) : Bool × List T :=
  if throws then (false, xs) else (true, xs ++ [value])

/-
  `push_back(a[j])` appends the old value, as it does in user
  mode, exactly if there is room or growth fails; and when
  `insertAt(k, a[j])` inserts the old value.
-/
theorem ownElement_inserted_iff
    (I : Instantiation T)
    {h : Heap T}
    {a : KArray}
    {xs : List T}
    {j k : Nat}
    (hFresh : h.Fresh)
    (hHolds : Holds I h a xs)
    (hJ : j < xs.length)
    (hK : k ≤ xs.length) :
    (Returns (pushBack I a (.element a.p j)) h
        (fun r t =>
          Holds I t r.2 (userPushBack (!r.1) xs xs[j]).2) ↔
      a.numElements < a.bufferSize ∨
        ¬ Grants I h
          (growCount I a (a.numElements + 1))) ∧
    (Returns (insertAt I .copy a k (.element a.p j)) h
        (fun r t =>
          Holds I t r.2
            (if r.1 then xs.insertIdx k xs[j] else xs)) ↔
      OwnKept I h a xs k j) := by
  constructor
  · have hPost :
        (fun r t =>
          Holds I t r.2 (userPushBack (!r.1) xs xs[j]).2) =
          Becomes I xs (xs.insertIdx xs.length xs[j]) := by
      funext r t
      unfold userPushBack Becomes
      rw [List.insertIdx_length_self]
      cases r.1 with
      | false => rfl
      | true => rfl
    unfold pushBack
    rw [hPost, returns_append_iff I .copy _ hFresh hHolds,
      insertAt_own_iff hFresh hHolds hJ (Nat.le_refl _)]
    unfold OwnKept
    by_cases hRoom : a.numElements < a.bufferSize
    · simp [hRoom, hJ]
    · simp [hRoom]
  · exact insertAt_own_iff hFresh hHolds hJ hK

/- An array of three equal elements, with room for four. -/
theorem ownElement_inserted_threeSevens :
    ∃ h a,
      h.Fresh ∧ Holds (fourBytes true) h a [7, 7, 7] ∧
        Returns (pushBack (fourBytes true) a (.element a.p 2))
          h
          (fun r t =>
            Holds (fourBytes true) t r.2
              (userPushBack (!r.1) [7, 7, 7] 7).2) ∧
        Returns
          (insertAt (fourBytes true) .copy a 0
            (.element a.p 2)) h
          (fun r t =>
            Holds (fourBytes true) t r.2
              (if r.1 then [7, 7, 7].insertIdx 0 7
                else [7, 7, 7])) := by
  have hFresh :
      (Heap.empty (fun _ => true) : Heap Nat).Fresh :=
    fun _ _ => rfl
  have hExec :
      exec (fillConstruct (fourBytes true) 3 7)
          (Heap.empty (fun _ => true)) =
        .ok (⟨some 0, 3, 4⟩, _) :=
    rfl
  have hFilled :=
    (returns_fillConstruct hFresh (by decide) rfl (by decide)
      7).post hExec
  have hInserted :=
    ownElement_inserted_iff (fourBytes true)
      hFilled.1.fresh hFilled.2
      (by decide : 2 < 3) (by decide : 0 ≤ 3)
  refine ⟨_, _, hFilled.1.fresh, hFilled.2, ?_, ?_⟩
  · exact hInserted.1.mpr (by decide)
  · exact hInserted.2.mpr (by decide)

/- Append some values to a new array. -/
def appendAll
    (I : Instantiation T)
    (values : List T) : Code T KArray :=
  values.foldlM
    (fun a v => do
      let (_, a) ← append I .copy a (.value v)
      pure a)
    {}

/-
  In a full array the element is read from a buffer that has
  been freed.  Otherwise the second element inserted in front
  is the first one, and the first one itself is not there.
-/
theorem ownElement_lost :
    exec
        (do
          let a ← appendAll (fourBytes true) [1, 2, 3, 4]
          pushBack (fourBytes true) a (.element a.p 0))
        (Heap.empty (fun _ => true)) =
      .error .outOfBounds ∧
    (∃ a t,
      exec
          (do
            let a ← appendAll (fourBytes true) [1, 2, 3]
            insertAt (fourBytes true) .copy a 0
              (.element a.p 1))
          (Heap.empty (fun _ => true)) = .ok ((true, a), t) ∧
        a = ⟨some 0, 4, 4⟩ ∧
        (List.range 4).map (t.val 0) =
          [some 1, some 1, some 2, some 3]) ∧
    exec
        (do
          let a ← appendAll (fourBytes false) [1, 2, 3]
          insertAt (fourBytes false) .copy a 0
            (.element a.p 0))
        (Heap.empty (fun _ => true)) =
      .error .readOfRaw := by
  refine ⟨rfl, ⟨_, _, rfl, rfl, rfl⟩, rfl⟩

end KArray

end CxPlat
