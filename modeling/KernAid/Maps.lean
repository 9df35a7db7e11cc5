import Mathlib

/-! Lookups in ordered maps after an insertion or an erasure. -/

set_option autoImplicit false

namespace KernAid

variable {κ β : Type} {cmp : κ → κ → Ordering} [Std.TransCmp cmp]

variable {m : Std.ExtTreeMap κ β cmp} {k j : κ}

theorem notMem_of_getElem? (h : m[k]? = none) : k ∉ m := by
  rw [Std.ExtTreeMap.mem_iff_isSome_getElem?, h]
  exact Bool.false_ne_true

theorem size_insert_of_getElem? {v w : β} (h : m[k]? = some w) : (m.insert k v).size = m.size := by
  have hmem : m.contains k = true := by
    rw [Std.ExtTreeMap.contains_eq_isSome_getElem?, h]
    rfl
  rw [Std.ExtTreeMap.size_insert, if_pos hmem]

variable [Std.LawfulEqCmp cmp]

theorem getElem?_insert_ne {v : β} (h : j ≠ k) :
    (m.insert k v)[j]? = m[j]? := by
  rw [Std.ExtTreeMap.getElem?_insert, if_neg]
  exact fun heq => h (Std.LawfulEqCmp.eq_of_compare heq).symm

theorem getElem?_erase_ne (h : j ≠ k) :
    (m.erase k)[j]? = m[j]? := by
  rw [Std.ExtTreeMap.getElem?_erase, if_neg]
  exact fun heq => h (Std.LawfulEqCmp.eq_of_compare heq).symm

theorem contains_insert_ne {s : Std.ExtTreeSet κ cmp} (h : j ≠ k) :
    (s.insert k).contains j = s.contains j := by
  have hne : (cmp k j == .eq) = false := by
    rw [beq_eq_false_iff_ne]
    exact fun heq => h (Std.LawfulEqCmp.eq_of_compare heq).symm
  rw [Std.ExtTreeSet.contains_insert, hne, Bool.false_or]

variable [DecidableEq κ]

theorem getElem?_insert_ite (m : Std.ExtTreeMap κ β cmp) (k j : κ) (v : β) :
    (m.insert k v)[j]? = if j = k then some v else m[j]? := by
  by_cases h : j = k
  · simp [h]
  · rw [getElem?_insert_ne h, if_neg h]

theorem getElem?_erase_ite (m : Std.ExtTreeMap κ β cmp) (k j : κ) :
    (m.erase k)[j]? = if j = k then none else m[j]? := by
  by_cases h : j = k
  · simp [h]
  · rw [getElem?_erase_ne h, if_neg h]

@[simp] theorem insert_insert_self (m : Std.ExtTreeMap κ β cmp) (k : κ) (v w : β) :
    (m.insert k v).insert k w = m.insert k w := by
  refine Std.ExtTreeMap.ext_getElem? fun j => ?_
  simp only [getElem?_insert_ite]
  split_ifs <;> rfl

@[simp] theorem erase_insert (m : Std.ExtTreeMap κ β cmp) (k : κ) (v : β) :
    (m.insert k v).erase k = m.erase k := by
  refine Std.ExtTreeMap.ext_getElem? fun j => ?_
  simp only [getElem?_erase_ite, getElem?_insert_ite]
  split_ifs <;> rfl

theorem erase_of_getElem? (h : m[k]? = none) : m.erase k = m := by
  refine Std.ExtTreeMap.ext_getElem? fun j => ?_
  rw [getElem?_erase_ite]
  split_ifs with hj
  · rw [hj, h]
  · rfl

theorem insert_of_getElem? {v : β} (h : m[k]? = some v) : m.insert k v = m := by
  refine Std.ExtTreeMap.ext_getElem? fun j => ?_
  rw [getElem?_insert_ite]
  split_ifs with hj
  · rw [hj, h]
  · rfl

end KernAid
