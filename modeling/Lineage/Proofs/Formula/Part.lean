import Lineage.Formula.Eval

/-!
# Parts of a text

An offset counts from the start of a text, or from its end when it is negative, and
stands for the nearest place in the text. The bounds of a part are sums of 64-bit numbers
that stop at the limits of that range. A sum that has stopped lies beyond an end of the
text, and so does the exact sum, so the bounds are the places that the offsets stand for
(`partBounds_eq`). In any case they are in order and within the text (`partBounds_ordered`),
so that the text can be cut at both.

> `part_cuts`: a part is what lies between its bounds, and the two parts that an offset
> cuts a text into make it up again.
-/

namespace Lineage.Formula

open Decimal (within64 maxInt64)

/-! ## Places, with no limit on the numbers -/

/-- The place in a text of `size` characters that an offset stands for. -/
def place (size : Nat) (offset : Int) : Nat :=
  if offset < 0 then size - offset.natAbs else min offset.natAbs size

/-- The place where the part of a text ends: behind `length` characters, or at the
place that a negative length stands for, but not in front of its start. -/
def partEnd (size : Nat) (start : Int) : Option Int → Nat
  | none => size
  | some length =>
    if length < 0 then max (place size start) (place size length)
    else min (place size start + length.natAbs) size

/-! ## Bounds -/

theorem within64_le_of_le {n m : Int} (h : n ≤ m) (hm : 0 ≤ m) : within64 n ≤ m := by
  simp only [within64, maxInt64]
  omega

/-- The first bound does not depend on the length. -/
theorem fst_partBounds (size start : Int) (length : Option Int) :
    (partBounds size start length).1 =
      if start < 0 then max 0 (within64 (size + start)) else min start size :=
  rfl

/-- **The bounds are in order and within the text**, whatever the offsets are. -/
theorem partBounds_ordered (size : Nat) (start : Int) (length : Option Int) :
    0 ≤ (partBounds size start length).1 ∧
      (partBounds size start length).1 ≤ (partBounds size start length).2 ∧
      (partBounds size start length).2 ≤ size := by
  have hsize : (0 : Int) ≤ size := Int.natCast_nonneg size
  have hfirst : (partBounds size start length).1 ≤ size := by
    rw [fst_partBounds]
    split
    next hneg => exact Int.max_le.mpr ⟨hsize, within64_le_of_le (by omega) hsize⟩
    next => exact Int.min_le_right ..
  refine ⟨?_, Int.le_max_left .., Int.max_le.mpr ⟨hfirst, ?_⟩⟩
  · rw [fst_partBounds]
    split
    next => exact Int.le_max_left ..
    next hpos => exact Int.le_min.mpr ⟨Int.not_lt.mp hpos, hsize⟩
  · split
    next => exact Int.le_refl _
    next l =>
      split
      next hneg => exact within64_le_of_le (by omega) hsize
      next => exact Int.min_le_right ..

theorem fst_partBounds_eq {size : Nat} (hsize : (size : Int) ≤ maxInt64) (start : Int)
    (length : Option Int) : (partBounds size start length).1 = place size start := by
  rw [fst_partBounds, place]
  simp only [within64, maxInt64] at hsize ⊢
  split <;> omega

/-- **The bounds are the places that the offsets stand for**, where the size of the text is
a number of 64 bits. -/
theorem partBounds_eq {size : Nat} (hsize : (size : Int) ≤ maxInt64) (start : Int)
    (length : Option Int) :
    partBounds size start length = (↑(place size start), ↑(partEnd size start length)) := by
  have hfirst := fst_partBounds_eq hsize start length
  refine Prod.ext hfirst ?_
  have hplace : place size start ≤ size := by
    rw [place]
    split <;> omega
  cases length with
  | none =>
    show max (partBounds size start none).1 (size : Int) = _
    rw [hfirst, partEnd]
    omega
  | some l =>
    show max (partBounds size start (some l)).1
      (if l < 0 then within64 (size + l)
        else min (within64 ((partBounds size start (some l)).1 + l)) size) = _
    rw [hfirst, partEnd]
    generalize place size start = first at hplace ⊢
    simp only [place, within64, maxInt64] at hsize ⊢
    split <;> omega

/-! ## Parts -/

/-- **A part is what lies between its bounds.** -/
theorem exists_part (s : String) (start : Int) (length : Option Int) :
    ∃ before behind : List Char,
      s.toList = before ++ (part s start length).toList ++ behind ∧
        (before.length : Int) = (partBounds s.length start length).1 ∧
        (behind.length : Int) = s.length - (partBounds s.length start length).2 := by
  have hordered := partBounds_ordered s.length start length
  have hlength : s.toList.length = s.length := String.length_toList
  have hpart : (part s start length).toList =
      (s.toList.take (partBounds s.length start length).2.toNat).drop
        (partBounds s.length start length).1.toNat := by
    rw [part, String.toList_ofList, hlength]
  generalize (partBounds s.length start length).1 = first at hordered hpart ⊢
  generalize (partBounds s.length start length).2 = last at hordered hpart ⊢
  have hfirst : s.toList.take first.toNat = (s.toList.take last.toNat).take first.toNat := by
    rw [List.take_take, Nat.min_eq_left (by omega)]
  refine ⟨s.toList.take first.toNat, s.toList.drop last.toNat, ?_, ?_, ?_⟩
  · rw [hpart, hfirst, List.take_append_drop, List.take_append_drop]
  · rw [List.length_take, hlength]
    omega
  · rw [List.length_drop, hlength]
    omega

/-- The part in front of an offset ends where the part behind it starts. -/
theorem snd_partBounds_zero (size : Nat) {offset : Int} (h : offset ≤ maxInt64) :
    (partBounds size 0 (some offset)).2 = (partBounds size offset none).1 := by
  have hzero : (partBounds size 0 (some offset)).1 = 0 := by
    rw [fst_partBounds]
    omega
  show max (partBounds size 0 (some offset)).1
    (if offset < 0 then within64 (size + offset)
      else min (within64 ((partBounds size 0 (some offset)).1 + offset)) size) = _
  rw [hzero, fst_partBounds]
  split
  next => rfl
  next hpos =>
    have hkept : within64 (0 + offset) = offset := by
      simp only [within64, maxInt64] at h ⊢
      omega
    rw [hkept]
    omega

/-- **The two parts that an offset cuts a text into make it up again.** -/
theorem part_append_part (s : String) {offset : Int} (h : offset ≤ maxInt64) :
    part s 0 (some offset) ++ part s offset none = s := by
  have hlast := snd_partBounds_zero s.toList.length h
  have hend : (partBounds s.toList.length offset none).2 = s.toList.length := by
    have hordered := partBounds_ordered s.toList.length offset none
    show max (partBounds s.toList.length offset none).1 (s.toList.length : Int) = _
    omega
  have hzero : (partBounds s.toList.length 0 (some offset)).1 = 0 := by
    rw [fst_partBounds]
    omega
  rw [← String.toList_inj, String.toList_append, part, part, String.toList_ofList,
    String.toList_ofList, hlast, hzero, hend, Int.toNat_zero, List.drop_zero, Int.toNat_natCast, List.take_length,
    List.take_append_drop]

/-- **A part lies within its text, and the parts on both sides of an offset are the text.** The
bounds of a part are in order and no greater than the number of characters. That sums stop
at the limits of 64 bits does not change them, and the part is what lies between them. -/
theorem part_cuts (s : String) (start : Int64) (length : Option Int64) :
    (∃ first last : Int,
      partBounds s.length start.toInt (length.map Int64.toInt) = (first, last) ∧
        0 ≤ first ∧ first ≤ last ∧ last ≤ s.length ∧
        ((s.length : Int) ≤ maxInt64 →
          first = place s.length start.toInt ∧
            last = partEnd s.length start.toInt (length.map Int64.toInt)) ∧
        ∃ before behind : List Char,
          s.toList = before ++ (part s start.toInt (length.map Int64.toInt)).toList ++ behind ∧
            (before.length : Int) = first ∧ (behind.length : Int) = s.length - last) ∧
      part s 0 (some start.toInt) ++ part s start.toInt none = s := by
  have hstart : start.toInt ≤ maxInt64 := by
    have hlt := start.toInt_lt
    simp only [maxInt64]
    omega
  obtain ⟨hpos, hordered, hsize⟩ :=
    partBounds_ordered s.length start.toInt (length.map Int64.toInt)
  have hexact (h : (s.length : Int) ≤ maxInt64) :=
    Prod.ext_iff.mp (partBounds_eq h start.toInt (length.map Int64.toInt))
  exact ⟨⟨_, _, rfl, hpos, hordered, hsize, hexact, exists_part s _ _⟩, part_append_part s hstart⟩

/-- The last offset of all and the greatest length leave the whole text. -/
theorem part_cuts_minValue :
    ((("1900" : String).length : Int) ≤ maxInt64) ∧
      partBounds ("1900" : String).length Int64.minValue.toInt
        (some Int64.maxValue.toInt) = (0, 4) ∧
      part "1900" 0 (some Int64.minValue.toInt) ++ part "1900" Int64.minValue.toInt none = "1900" := by
  have hsize : (("1900" : String).length : Int) ≤ maxInt64 := by decide
  obtain ⟨⟨first, last, hbounds, -, -, -, hexact, -⟩, hcut⟩ :=
    part_cuts "1900" Int64.minValue (some Int64.maxValue)
  obtain ⟨rfl, rfl⟩ := hexact hsize
  exact ⟨hsize, hbounds.trans (by decide), hcut⟩

end Lineage.Formula
