import Mathlib
import KernAid.JsonReader

/-! Numbers of JSON text as `serde_json` keeps them. -/

set_option autoImplicit false

namespace KernAid.Json

open Encoding

def decimalOf (digits : List UInt8) : Nat := Nat.ofDigitChars 10 (digits.map asciiChar) 0

/-- `serde_json::Number`; a float keeps its digits and is not rounded here. -/
inductive Number where
  | posInt (n : UInt64)
  | negInt (n : Int64) (negative : n.toInt < 0)
  | float (token : List UInt8)
deriving DecidableEq

def Number.asU64 : Number → Option Nat
  | .posInt n => some n.toNat
  | _ => none

def Number.asI64 : Number → Option Int
  | .posInt n => if n.toNat < 2 ^ 63 then some n.toNat else none
  | .negInt n _ => some n.toInt
  | .float _ => none

def Number.text : Number → List UInt8
  | .posInt n => jsonNumber n.toNat
  | .negInt n _ => 45 :: jsonNumber n.toInt.natAbs
  | .float token => token

def readFraction (input : List UInt8) : Option (List UInt8) :=
  match input with
  | [] => some []
  | b :: rest =>
    if b = 46 then
      if rest.takeWhile isAsciiDigit = [] then none else some (rest.dropWhile isAsciiDigit)
    else some (b :: rest)

def readExponent (input : List UInt8) : Option (List UInt8) :=
  match input with
  | [] => some []
  | b :: rest =>
    if b = 69 ∨ b = 101 then
      let digits := match rest with
        | [] => []
        | c :: digits => if c = 43 ∨ c = 45 then digits else c :: digits
      if digits.takeWhile isAsciiDigit = [] then none else some (digits.dropWhile isAsciiDigit)
    else some (b :: rest)

theorem toInt_ofInt_neg {n : Nat} (h : ¬ (n = 0 ∨ 2 ^ 63 < n)) :
    (Int64.ofInt (-n)).toInt = -n := by
  rw [Int64.toInt_ofInt_of_le]
  · have hmin : Int64.minValue.toInt = -2 ^ 63 := by decide
    omega
  · omega

/-- An integer that fits is kept exactly; `-0` and larger integers are floats. -/
def integerNumber (negative : Bool) (token : List UInt8) (n : Nat) : Number :=
  if negative then
    if h : n = 0 ∨ 2 ^ 63 < n then .float token
    else .negInt (Int64.ofInt (-n)) (by rw [toInt_ofInt_neg h]; omega)
  else if n < 2 ^ 64 then .posInt (UInt64.ofNat n)
  else .float token

/-- `parse_integer`, `parse_decimal` and `parse_exponent`. -/
def readUnsigned (negative : Bool) (input : List UInt8) : Option (Number × List UInt8) :=
  let digits := input.takeWhile isAsciiDigit
  let rest := input.dropWhile isAsciiDigit
  if digits = [] ∨ (digits.head? = some 48 ∧ digits ≠ [48]) then none
  else
    match (readFraction rest).bind readExponent with
    | none => none
    | some after =>
      if after = rest then some (integerNumber negative digits (decimalOf digits), rest)
      else some (.float (input.take (input.length - after.length)), after)

/-- A number out of the range of `f64` is read as a float, where `serde_json` refuses the text. -/
def readNumber (input : List UInt8) : Option (Number × List UInt8) :=
  match input with
  | [] => none
  | b :: rest => if b = 45 then readUnsigned true rest else readUnsigned false (b :: rest)

theorem asciiChar_ofNat_of_isDigit {c : Char} (h : c.isDigit = true) :
    asciiChar (UInt8.ofNat c.toNat) = c := by
  have hbound : 48 ≤ c.toNat ∧ c.toNat ≤ 57 := by
    simpa [Char.isDigit, UInt32.le_iff_toNat_le] using h
  have hnat : (UInt8.ofNat c.toNat).toNat = c.toNat := by
    simp only [UInt8.toNat_ofNat']
    omega
  rw [asciiChar, hnat, Char.ofNat_toNat]

theorem map_asciiChar_jsonNumber (n : Nat) :
    (jsonNumber n).map asciiChar = Nat.toDigits 10 n := by
  rw [jsonNumber, List.map_map]
  conv_rhs => rw [← List.map_id (Nat.toDigits 10 n)]
  refine List.map_congr_left fun c hc => ?_
  exact asciiChar_ofNat_of_isDigit (Nat.isDigit_of_mem_toDigits (by decide) (by decide) hc)

theorem decimalOf_jsonNumber (n : Nat) : decimalOf (jsonNumber n) = n := by
  rw [decimalOf, map_asciiChar_jsonNumber, Nat.ofDigitChars_toDigits (by decide) (by decide)]

theorem jsonNumber_ne_nil (n : Nat) : jsonNumber n ≠ [] := by
  simp [jsonNumber]

theorem isAsciiDigit_jsonNumber (n : Nat) : ∀ b ∈ jsonNumber n, isAsciiDigit b = true := by
  intro b hb
  obtain ⟨c,hc,rfl⟩ := List.mem_map.mp hb
  have hdigit := Nat.isDigit_of_mem_toDigits (by decide) (by decide) hc
  have hbound : 48 ≤ c.toNat ∧ c.toNat ≤ 57 := by
    simpa [Char.isDigit, UInt32.le_iff_toNat_le] using hdigit
  have hnat : (UInt8.ofNat c.toNat).toNat = c.toNat := by
    simp only [UInt8.toNat_ofNat']
    omega
  simp only [isAsciiDigit, UInt8.le_iff_toNat_le, hnat, Bool.and_eq_true, decide_eq_true_eq]
  exact hbound

theorem jsonNumber_head (n : Nat) (h : (jsonNumber n).head? = some 48) : n = 0 := by
  induction n using Nat.strongRecOn with
  | _ n ih =>
    by_cases hn : n < 10
    · have hsmall : ∀ m < 10, (jsonNumber m).head? = some 48 → m = 0 := by decide
      exact hsmall n hn h
    · have hsplit : jsonNumber n = jsonNumber (n / 10) ++
          [UInt8.ofNat (Nat.digitChar (n % 10)).toNat] := by
        simp [jsonNumber, Nat.toDigits_of_base_le (by decide : 1 < 10) (by omega : 10 ≤ n)]
      rw [hsplit, List.head?_append_of_ne_nil _ (jsonNumber_ne_nil _)] at h
      have hzero := ih (n / 10) (by omega) h
      omega

theorem takeWhile_digits (n : Nat) {rest : List UInt8} (h : endsNumber rest) :
    (jsonNumber n ++ rest).takeWhile isAsciiDigit = jsonNumber n ∧
      (jsonNumber n ++ rest).dropWhile isAsciiDigit = rest := by
  have hdigits := isAsciiDigit_jsonNumber n
  have hrest : rest.takeWhile isAsciiDigit = [] ∧ rest.dropWhile isAsciiDigit = rest := by
    cases rest with
    | nil => exact ⟨rfl,rfl⟩
    | cons b rest => simp [(h b rfl).1]
  rw [List.takeWhile_append_of_pos hdigits, List.dropWhile_append_of_pos hdigits, hrest.1, hrest.2,
    List.append_nil]
  exact ⟨rfl,rfl⟩

theorem readExponent_ends {rest : List UInt8} (h : endsNumber rest) :
    (readFraction rest).bind readExponent = some rest := by
  cases rest with
  | nil => rfl
  | cons b rest =>
    obtain ⟨_,h46,h69,h101⟩ := h b rfl
    simp [readFraction, readExponent, h46, h69, h101]

theorem readUnsigned_jsonNumber (negative : Bool) (n : Nat) {rest : List UInt8}
    (h : endsNumber rest) :
    readUnsigned negative (jsonNumber n ++ rest) =
      some (integerNumber negative (jsonNumber n) n, rest) := by
  obtain ⟨htake,hdrop⟩ := takeWhile_digits n h
  have hfirst : ¬ (jsonNumber n = [] ∨ ((jsonNumber n).head? = some 48 ∧ jsonNumber n ≠ [48])) := by
    rintro (hnil | ⟨hhead,hne⟩)
    · exact jsonNumber_ne_nil n hnil
    · rw [jsonNumber_head n hhead] at hne
      exact hne rfl
  simp only [readUnsigned, htake, hdrop, if_neg hfirst, readExponent_ends h, if_true,
    decimalOf_jsonNumber]

def Number.isInteger : Number → Bool
  | .float _ => false
  | _ => true

theorem jsonNumber_cons (n : Nat) :
    ∃ b rest, jsonNumber n = b :: rest ∧ isAsciiDigit b = true := by
  obtain ⟨b,rest,h⟩ := List.exists_cons_of_ne_nil (jsonNumber_ne_nil n)
  exact ⟨b,rest,h,isAsciiDigit_jsonNumber n b (h ▸ List.mem_cons_self)⟩

theorem readNumber_jsonNumber (n : Nat) {rest : List UInt8} (h : endsNumber rest) :
    readNumber (jsonNumber n ++ rest) = some (integerNumber false (jsonNumber n) n, rest) := by
  obtain ⟨b,tail,htext,hb⟩ := jsonNumber_cons n
  have hb45 : b ≠ 45 := by
    rintro rfl
    cases hb
  have hread := readUnsigned_jsonNumber false n h
  rw [htext, List.cons_append] at hread ⊢
  rw [readNumber, if_neg hb45, hread]

theorem readNumber_negative (n : Nat) {rest : List UInt8} (h : endsNumber rest) :
    readNumber (45 :: jsonNumber n ++ rest) =
      some (integerNumber true (jsonNumber n) n, rest) := by
  rw [List.cons_append, readNumber, if_pos rfl, readUnsigned_jsonNumber true n h]

theorem integerNumber_negInt {n : Int64} (h : n.toInt < 0) (token : List UInt8) :
    integerNumber true token n.toInt.natAbs = .negInt n h := by
  have hlow := n.le_toInt
  have hbound : ¬ (n.toInt.natAbs = 0 ∨ 2 ^ 63 < n.toInt.natAbs) := by omega
  have hneg : -(n.toInt.natAbs : Int) = n.toInt := by omega
  simp only [integerNumber, if_true, dif_neg hbound, hneg, Int64.ofInt_toInt]

theorem integerNumber_posInt (n : UInt64) (token : List UInt8) :
    integerNumber false token n.toNat = .posInt n := by
  simp [integerNumber, n.toNat_lt]

/-- `serde_json` reads back the integers it writes. -/
theorem number_format : NumberFormat Number.isInteger Number.text readNumber := by
  constructor
  · intro n hn
    cases n with
    | posInt n =>
      obtain ⟨b,rest,htext,hb⟩ := jsonNumber_cons n.toNat
      exact ⟨b,rest,htext,.inr hb⟩
    | negInt n hneg => exact ⟨45,_,rfl,.inl rfl⟩
    | float token => cases hn
  · intro n rest hn hends
    cases n with
    | posInt n =>
      rw [Number.text, readNumber_jsonNumber n.toNat hends, integerNumber_posInt]
    | negInt n hneg =>
      rw [Number.text, readNumber_negative _ hends, integerNumber_negInt hneg]
    | float token => cases hn

end KernAid.Json
