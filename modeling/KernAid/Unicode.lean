import Mathlib
import KernAid.JsonValue

/-! UTF-16 code units of a text, and the two orders of keys: by UTF-8 bytes and by UTF-16 units. -/

set_option autoImplicit false

namespace KernAid.Unicode

open Encoding Json

/-- One unit, or the two surrogates of a supplementary character. -/
def utf16OfChar (c : Char) : List UInt16 :=
  if c.toNat < 0x10000 then [UInt16.ofNat c.toNat]
  else [UInt16.ofNat (0xD800 + (c.toNat - 0x10000) / 1024),
    UInt16.ofNat (0xDC00 + (c.toNat - 0x10000) % 1024)]

/-- The units of a text, as a JavaScript string holds them. -/
def utf16 (s : String) : List UInt16 := s.toList.flatMap utf16OfChar

theorem utf16OfChar_basic {c : Char} (h : c.toNat < 0x10000) :
    utf16OfChar c = [UInt16.ofNat c.toNat] := if_pos h

/-- The order of `str` in Rust. -/
def utf8Le (a b : String) : Bool := decide (asBytes a ≤ asBytes b)

/-- The order in which `Array.prototype.sort` puts strings. -/
def utf16Le (a b : String) : Bool := decide (utf16 a ≤ utf16 b)

theorem utf8_keyOrder : KeyOrder utf8Le where
  trans a b c hab hbc := by
    simp only [utf8Le, decide_eq_true_eq] at *
    exact List.le_trans hab hbc
  total a b := by
    simp only [utf8Le, Bool.or_eq_true, decide_eq_true_eq]
    exact List.le_total _ _
  antisymm a b hab hba := by
    simp only [utf8Le, decide_eq_true_eq] at *
    exact asBytes_injective (List.le_antisymm hab hba)

theorem map_lt_map_iff {f : Char → UInt8} {g : Char → UInt16} {cs ds : List Char}
    (hlt : ∀ c ∈ cs ++ ds, ∀ d ∈ cs ++ ds, f c < f d ↔ g c < g d)
    (heq : ∀ c ∈ cs ++ ds, ∀ d ∈ cs ++ ds, f c = f d ↔ g c = g d) :
    cs.map f < ds.map f ↔ cs.map g < ds.map g := by
  induction cs generalizing ds with
  | nil => cases ds <;> simp
  | cons c cs ih =>
    cases ds with
    | nil => simp
    | cons d ds =>
      have hc : c ∈ c :: cs ++ d :: ds := by simp
      have hd : d ∈ c :: cs ++ d :: ds := by simp
      have hsub : ∀ x ∈ cs ++ ds, x ∈ c :: cs ++ d :: ds := by
        intro x hx
        simp only [List.mem_append, List.mem_cons] at hx ⊢
        tauto
      have hrest := ih (fun x hx y hy => hlt x (hsub x hx) y (hsub y hy))
        fun x hx y hy => heq x (hsub x hx) y (hsub y hy)
      simp only [List.map_cons, List.cons_lt_cons_iff, hlt c hc d hd, heq c hc d hd, hrest]

def isAsciiKey (s : String) : Bool := s.toList.all fun c => decide (c.toNat < 128)

theorem asBytes_ascii {s : String} (h : isAsciiKey s = true) :
    asBytes s = s.toList.map fun c => UInt8.ofNat c.toNat := by
  conv_lhs => rw [← String.ofList_toList (s := s), asBytes_ofList]
  have hchar : ∀ c ∈ s.toList, String.utf8EncodeChar c = [UInt8.ofNat c.toNat] := by
    intro c hc
    have hc := List.all_eq_true.mp h c hc
    rw [decide_eq_true_eq] at hc
    rw [String.utf8EncodeChar_eq_singleton (Char.utf8Size_eq_one_iff.mpr ?_)]
    · rfl
    · rw [UInt32.le_iff_toNat_le]
      exact Nat.le_of_lt_succ hc
  rw [List.flatMap_congr hchar, List.map_eq_flatMap]

theorem utf16_ascii {s : String} (h : isAsciiKey s = true) :
    utf16 s = s.toList.map fun c => UInt16.ofNat c.toNat := by
  have hchar : ∀ c ∈ s.toList, utf16OfChar c = [UInt16.ofNat c.toNat] := by
    intro c hc
    have hc := List.all_eq_true.mp h c hc
    rw [decide_eq_true_eq] at hc
    exact utf16OfChar_basic (by omega)
  rw [utf16, List.flatMap_congr hchar, List.map_eq_flatMap]

theorem agreeOn_of_ascii {keys : List String} (h : keys.all isAsciiKey = true) :
    agreeOn utf16Le utf8Le keys = true := by
  rw [agreeOn_iff]
  intro a ha b hb
  have haa := List.all_eq_true.mp h a ha
  have hba := List.all_eq_true.mp h b hb
  have hascii : ∀ c ∈ b.toList ++ a.toList, c.toNat < 128 := by
    intro c hc
    obtain hc | hc := List.mem_append.mp hc
    · simpa using List.all_eq_true.mp hba c hc
    · simpa using List.all_eq_true.mp haa c hc
  simp only [utf16Le, utf8Le, decide_eq_decide, ← List.not_lt, asBytes_ascii haa,
    asBytes_ascii hba, utf16_ascii haa, utf16_ascii hba]
  rw [not_iff_not, iff_comm]
  refine map_lt_map_iff ?_ ?_
  · intro c hc d hd
    have := hascii c hc
    have := hascii d hd
    simp only [UInt8.lt_iff_toNat_lt, UInt16.lt_iff_toNat_lt, UInt8.toNat_ofNat',
      UInt16.toNat_ofNat']
    omega
  · intro c hc d hd
    have := hascii c hc
    have := hascii d hd
    simp only [← UInt8.toNat_inj, ← UInt16.toNat_inj, UInt8.toNat_ofNat', UInt16.toNat_ofNat']
    omega

end KernAid.Unicode
