import Mathlib.Data.List.Sort
import Mathlib.Data.List.Fold
import Mathlib.Order.Nat
import Mathlib.Data.List.MinMax

/-! A log whose rows are numbered from 1, and of which only the last rows are kept. -/

set_option autoImplicit false

namespace KernAid.RetainedLog

variable {α : Type} {number : α → Nat} {limit n m : Nat} {log log' log'' : List α} {row : α}

/-- The numbers that are kept when `n` rows have been written. -/
def kept (limit n : Nat) : List Nat := (List.range' 1 n).filter fun s => n < s + limit

/-- `n` rows have been written, and the log holds the last of them in order. -/
def Retained (number : α → Nat) (limit n : Nat) (log : List α) : Prop := log.map number = kept limit n

def append (number : α → Nat) (limit : Nat) (log : List α) (row : α) : List α :=
  (log ++ [row]).filter fun other => number row < number other + limit

theorem mem_kept {s : Nat} : s ∈ kept limit n ↔ 1 ≤ s ∧ s ≤ n ∧ n < s + limit := by
  simp only [kept, List.mem_filter, List.mem_range'_1, decide_eq_true_eq]
  omega

theorem kept_of_le (h : n ≤ limit) : kept limit n = List.range' 1 n := by
  rw [kept, List.filter_eq_self]
  intro s hs
  rw [List.mem_range'_1] at hs
  simp only [decide_eq_true_eq]
  omega

theorem retained_nil : Retained number limit 0 [] := by
  simp [Retained, kept]

theorem Retained.number_mem (h : Retained number limit n log) (hrow : row ∈ log) :
    1 ≤ number row ∧ number row ≤ n := by
  have hmem : number row ∈ kept limit n := h ▸ List.mem_map_of_mem hrow
  exact ⟨(mem_kept.mp hmem).1,(mem_kept.mp hmem).2.1⟩

theorem Retained.length (h : Retained number limit n log) (hn : n ≤ limit) : log.length = n := by
  rw [← List.length_map (f := number), h, kept_of_le hn, List.length_range']

theorem Retained.ascending (h : Retained number limit n log) :
    log.Pairwise fun a b => number a < number b := by
  rw [← List.pairwise_map, h]
  exact List.Pairwise.filter _ (List.pairwise_lt_range' (s := 1) (n := n))

theorem Retained.last (h : Retained number limit n log) (hlimit : 0 < limit) :
    (log.map number).foldl max 0 = n := by
  rw [h, List.foldl_eq_foldr]
  apply le_antisymm
  · exact List.max_le_of_forall_le _ _ fun s hs => (mem_kept.mp hs).2.1
  · cases n with
    | zero => exact Nat.zero_le _
    | succ n => exact List.le_max_of_le (mem_kept.mpr ⟨by omega,le_rfl,by omega⟩) le_rfl

theorem Retained.append (h : Retained number limit n log) (hrow : number row = n + 1) :
    Retained number limit (n + 1) (RetainedLog.append number limit log row) := by
  have hkept : kept limit (n + 1) = (kept limit n ++ [n + 1]).filter fun s => n + 1 < s + limit := by
    rw [kept, kept, List.range'_concat, List.filter_append, List.filter_append, List.filter_filter]
    congr 1
    · apply List.filter_congr
      intro s _
      simp
      omega
    · simp [Nat.add_comm 1 n]
  rw [Retained, RetainedLog.append, hkept, ← h, ← hrow, ← List.map_singleton,
    ← List.map_append, List.filter_map]
  rfl

/-- A later log: what it holds of the rows written so far is unchanged, and only the oldest are cut. -/
structure Grows (number : α → Nat) (limit n : Nat) (log : List α) (m : Nat) (log' : List α) : Prop where
  count : n ≤ m
  unchanged : ∀ row ∈ log', number row ≤ n → row ∈ log
  retained : ∀ row ∈ log, m < number row + limit → row ∈ log'

theorem Grows.refl : Grows number limit n log n log := ⟨le_rfl,fun _ hrow _ => hrow,fun _ hrow _ => hrow⟩

theorem Grows.trans {k : Nat} (h : Grows number limit n log m log')
    (h' : Grows number limit m log' k log'') : Grows number limit n log k log'' where
  count := h.count.trans h'.count
  unchanged row hrow hle := h.unchanged row (h'.unchanged row hrow (hle.trans h.count)) hle
  retained row hrow hlt := h'.retained row (h.retained row hrow (by have := h'.count; omega)) hlt

theorem Grows.append (hrow : number row = n + 1) :
    Grows number limit n log (n + 1) (RetainedLog.append number limit log row) where
  count := Nat.le_succ n
  unchanged other hother hle := by
    obtain ⟨hother,_⟩ := List.mem_filter.mp hother
    rcases List.mem_append.mp hother with hold | hnew
    · exact hold
    · rw [List.mem_singleton] at hnew
      subst hnew
      omega
  retained other hother hlt := by
    refine List.mem_filter.mpr ⟨List.mem_append_left _ hother,?_⟩
    simpa [hrow] using hlt

end KernAid.RetainedLog
