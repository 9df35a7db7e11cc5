import Mathlib

/-! A reflected linear shift register of any width, fed one bit at a time. -/

set_option autoImplicit false

namespace KernAid.ShiftRegister

variable {w : Nat}

/-- The lowest bit leaves the register; if it was set, the polynomial is added. -/
def step (poly s : BitVec w) : BitVec w := (s >>> 1) ^^^ (if s.getLsbD 0 then poly else 0#w)

def feedBit (poly s : BitVec w) (bit : Bool) : BitVec w :=
  step poly (s ^^^ (BitVec.ofBool bit).setWidth w)

def feed (poly s : BitVec w) (bits : List Bool) : BitVec w := bits.foldl (feedBit poly) s

variable {poly s t : BitVec w} {i : Nat}

theorem getLsbD_step :
    (step poly s).getLsbD i = (s.getLsbD (i + 1) ^^ (s.getLsbD 0 && poly.getLsbD i)) := by
  rw [step, BitVec.getLsbD_xor, BitVec.getLsbD_ushiftRight, Nat.add_comm 1 i]
  cases s.getLsbD 0 <;> simp

theorem step_xor (poly s t : BitVec w) : step poly (s ^^^ t) = step poly s ^^^ step poly t := by
  apply BitVec.eq_of_getLsbD_eq
  intro i _
  simp only [getLsbD_step, BitVec.getLsbD_xor]
  cases s.getLsbD 0 <;> cases t.getLsbD 0 <;> cases poly.getLsbD i <;> simp

theorem step_injective (hpoly : poly.getLsbD (w - 1) = true) : Function.Injective (step poly) := by
  intro s t h
  have hbit : ∀ i, (s.getLsbD (i + 1) ^^ (s.getLsbD 0 && poly.getLsbD i)) =
      (t.getLsbD (i + 1) ^^ (t.getLsbD 0 && poly.getLsbD i)) := by
    intro i
    rw [← getLsbD_step, h, getLsbD_step]
  have hlow : s.getLsbD 0 = t.getLsbD 0 := by
    have htop := hbit (w - 1)
    rw [BitVec.getLsbD_of_ge s _ (by omega), BitVec.getLsbD_of_ge t _ (by omega), hpoly] at htop
    simpa using htop
  apply BitVec.eq_of_getLsbD_eq
  intro i _
  cases i with
  | zero => exact hlow
  | succ i =>
    have hnext := hbit i
    rw [hlow] at hnext
    simpa using hnext

def packed (w : Nat) (bits : List Bool) : BitVec w := (BitVec.ofBoolListLE bits).setWidth w

theorem getLsbD_packed (bits : List Bool) :
    (packed w bits).getLsbD i = (decide (i < w) && bits.getD i false) := by
  rw [packed, BitVec.getLsbD_setWidth, BitVec.getLsbD_ofBoolListLE]

theorem packed_cons (bit : Bool) (bits : List Bool) :
    packed w (bit :: bits) = (BitVec.ofBool bit).setWidth w ^^^ (packed w bits <<< 1) := by
  apply BitVec.eq_of_getLsbD_eq
  intro i hi
  rw [getLsbD_packed, BitVec.getLsbD_xor, BitVec.getLsbD_shiftLeft, BitVec.getLsbD_setWidth,
    BitVec.getLsbD_ofBool, getLsbD_packed]
  cases i with
  | zero => simp [hi]
  | succ i =>
    have hlt : i < w := by omega
    simp [hi, hlt]

theorem packed_injective {x y : List Bool} (hlength : x.length = y.length) (hx : x.length ≤ w)
    (h : packed w x = packed w y) : x = y := by
  apply List.ext_getElem hlength
  intro i hix hiy
  have hbit : (packed w x).getLsbD i = (packed w y).getLsbD i := by rw [h]
  have hi : i < w := by omega
  rw [getLsbD_packed, getLsbD_packed, List.getD_eq_getElem _ _ hix, List.getD_eq_getElem _ _ hiy] at hbit
  simpa [hi] using hbit

theorem step_shiftLeft (h : s.getLsbD (w - 1) = false) : step poly (s <<< 1) = s := by
  apply BitVec.eq_of_getLsbD_eq
  intro i hi
  rw [getLsbD_step, BitVec.getLsbD_shiftLeft, BitVec.getLsbD_shiftLeft]
  by_cases htop : i + 1 < w
  · simp [htop]
  · obtain rfl : i = w - 1 := by omega
    simp [htop, h]

theorem feed_eq_iterate {bits : List Bool} (h : bits.length ≤ w) (poly s : BitVec w) :
    feed poly s bits = (step poly)^[bits.length] (s ^^^ packed w bits) := by
  induction bits generalizing s with
  | nil => simp [feed, packed, BitVec.ofBoolListLE]
  | cons bit bits ih =>
    simp only [List.length_cons] at h
    have htop : (packed w bits).getLsbD (w - 1) = false := by
      rw [getLsbD_packed, List.getD_eq_default _ _ (by omega), Bool.and_false]
    have hstep : step poly (s ^^^ packed w (bit :: bits)) = feedBit poly s bit ^^^ packed w bits := by
      rw [packed_cons, ← BitVec.xor_assoc, step_xor, step_shiftLeft htop, feedBit]
    rw [List.length_cons, Function.iterate_succ_apply, hstep, ← ih (by omega)]
    rfl

theorem feed_append (poly s : BitVec w) (x y : List Bool) :
    feed poly s (x ++ y) = feed poly (feed poly s x) y := List.foldl_append

theorem feedBit_injective (hpoly : poly.getLsbD (w - 1) = true) (bit : Bool) :
    Function.Injective fun s => feedBit poly s bit := by
  intro s t h
  exact BitVec.xor_left_inj _ |>.mp (step_injective hpoly h)

theorem feed_injective (hpoly : poly.getLsbD (w - 1) = true) (bits : List Bool) :
    Function.Injective fun s => feed poly s bits := by
  induction bits with
  | nil => exact Function.injective_id
  | cons bit bits ih => exact ih.comp (feedBit_injective hpoly bit)

theorem feed_window_injective (hpoly : poly.getLsbD (w - 1) = true) {x y : List Bool}
    (hlength : x.length = y.length) (hx : x.length ≤ w) (h : feed poly s x = feed poly s y) : x = y := by
  rw [feed_eq_iterate hx, feed_eq_iterate (hlength ▸ hx), hlength] at h
  have hpacked := (step_injective hpoly).iterate _ h
  exact packed_injective hlength hx ((BitVec.xor_right_inj _).mp hpacked)

/-- The bits before `start` and the bits from `start + width` on are the same. -/
def AgreeOutside (start width : Nat) (x y : List Bool) : Prop :=
  x.length = y.length ∧ ∀ i, i < start ∨ start + width ≤ i → x[i]? = y[i]?

theorem take_drop_split (start width : Nat) (x : List Bool) :
    x = x.take start ++ ((x.drop start).take width ++ x.drop (start + width)) := by
  rw [← List.drop_drop, List.take_append_drop, List.take_append_drop]

/-- Bit strings that differ only within one window of the register's width leave different values. -/
theorem feed_ne_of_burst (hpoly : poly.getLsbD (w - 1) = true) {x y : List Bool} {start : Nat}
    (h : AgreeOutside start w x y) (hne : x ≠ y) : feed poly s x ≠ feed poly s y := by
  obtain ⟨hlength,hsame⟩ := h
  have hbefore : x.take start = y.take start := by
    apply List.ext_getElem?
    intro i
    rw [List.getElem?_take, List.getElem?_take]
    split_ifs with hi
    · exact hsame i (.inl hi)
    · rfl
  have hafter : x.drop (start + w) = y.drop (start + w) := by
    apply List.ext_getElem?
    intro i
    rw [List.getElem?_drop, List.getElem?_drop]
    exact hsame _ (.inr (by omega))
  intro heq
  apply hne
  rw [take_drop_split start w x, take_drop_split start w y, hbefore, hafter, feed_append, feed_append,
    feed_append, feed_append] at heq
  have hwindow := feed_window_injective hpoly (by simp [hlength]) (by simp) (feed_injective hpoly _ heq)
  rw [take_drop_split start w x, take_drop_split start w y, hbefore, hafter, hwindow]

end KernAid.ShiftRegister
