import KernAid.Encoding

/-! JSON text as `serde_json::to_vec` writes it, and bounds on its length. -/

set_option autoImplicit false

namespace KernAid.Json

open Encoding

def escapeByte (b : UInt8) : List UInt8 :=
  if b = 34 then [92,34]
  else if b = 92 then [92,92]
  else if b = 8 then [92,98]
  else if b = 9 then [92,116]
  else if b = 10 then [92,110]
  else if b = 12 then [92,102]
  else if b = 13 then [92,114]
  else if b < 32 then [92,117,48,48] ++ hexPair b
  else [b]

def jsonString (s : String) : List UInt8 := [34] ++ (asBytes s).flatMap escapeByte ++ [34]

def jsonNumber (n : Nat) : List UInt8 := (Nat.toDigits 10 n).map fun c => UInt8.ofNat c.toNat

def jsonBool (b : Bool) : List UInt8 := asBytes (if b then "true" else "false")

def jsonArray (items : List (List UInt8)) : List UInt8 := [91] ++ [44].intercalate items ++ [93]

def jsonObject (fields : List (String × List UInt8)) : List UInt8 :=
  [123] ++ [44].intercalate (fields.map fun field => jsonString field.1 ++ [58] ++ field.2) ++ [125]

def jsonBytes (bytes : Bytes32) : List UInt8 :=
  jsonArray (bytes.toList.map fun b => jsonNumber b.toNat)

def isPlainByte (b : UInt8) : Bool := 32 ≤ b && b != 34 && b != 92

variable {n : Nat} {head value : String}

theorem length_jsonString {s : String} (h : (asBytes s).all isPlainByte = true) :
    (jsonString s).length = byteLength s + 2 := by
  have hplain : ∀ b ∈ asBytes s, escapeByte b = [b] := by
    intro b hb
    exact forall_byte (p := fun b => isPlainByte b = true → escapeByte b = [b]) (by decide +kernel) b
      (List.all_eq_true.mp h b hb)
  have hflat : (asBytes s).flatMap escapeByte = asBytes s := by
    rw [List.flatMap_congr hplain, List.flatMap_singleton']
  simp [jsonString, hflat, byteLength]

theorem length_jsonNumber {digits : Nat} (hdigits : 0 < digits) (h : n < 10 ^ digits) :
    (jsonNumber n).length ≤ digits := by
  simpa [jsonNumber] using Nat.toDigits_length 10 n digits hdigits h

theorem length_intercalate_le (items : List (List UInt8)) :
    ([44].intercalate items).length ≤ (items.map fun item => item.length + 1).sum := by
  induction items with
  | nil => simp [List.intercalate]
  | cons item rest ih =>
    cases rest with
    | nil => simp [List.intercalate]
    | cons next rest =>
      simp only [List.intercalate, List.intersperse_cons_cons, List.flatten_cons, List.length_append,
        List.length_cons, List.length_nil, List.map_cons, List.sum_cons] at ih ⊢
      omega

def shortKeys (fields : List (String × List UInt8)) : Prop :=
  ∀ key ∈ fields.map Prod.fst, (jsonString key).length ≤ 42

theorem length_jsonObject_le {fields : List (String × List UInt8)} (h : shortKeys fields) :
    (jsonObject fields).length ≤ 2 + (fields.map fun field => 44 + field.2.length).sum := by
  have hitems := length_intercalate_le
    (fields.map fun field => jsonString field.1 ++ [58] ++ field.2)
  have hsum : (fields.map fun field => (jsonString field.1 ++ [58] ++ field.2).length + 1).sum ≤
      (fields.map fun field => 44 + field.2.length).sum := by
    apply List.sum_le_sum
    intro field hfield
    have hkey := h field.1 (List.mem_map_of_mem hfield)
    simp only [List.length_append, List.length_cons, List.length_nil]
    omega
  simp only [List.map_map, Function.comp_def] at hitems
  simp only [jsonObject, List.length_append, List.length_cons, List.length_nil]
  omega

/-- The keys are short, and the members take at most `n` bytes. -/
inductive ShortFields : List (String × List UInt8) → Nat → Prop where
  | nil : ShortFields [] 0
  | cons {key : String} {value : List UInt8} {fields : List (String × List UInt8)} {m n : Nat}
      (hkey : (jsonString key).length ≤ 42) (hvalue : value.length ≤ m) (h : ShortFields fields n) :
      ShortFields ((key,value) :: fields) (44 + m + n)

theorem ShortFields.object {fields : List (String × List UInt8)} {n : Nat} (h : ShortFields fields n) :
    (jsonObject fields).length ≤ 2 + n := by
  have hfields : shortKeys fields ∧ (fields.map fun field => 44 + field.2.length).sum ≤ n := by
    induction h with
    | nil => simp [shortKeys]
    | cons hkey hvalue _ ih =>
      refine ⟨List.forall_mem_cons.mpr ⟨hkey,ih.1⟩,?_⟩
      simp only [List.map_cons, List.sum_cons]
      omega
  exact (length_jsonObject_le hfields.1).trans (by omega)

theorem isPlainByte_of_lowerHex (b : UInt8) : isLowerHex b = true → isPlainByte b = true :=
  forall_byte (p := fun b => isLowerHex b = true → isPlainByte b = true)
    (by decide +kernel) b

theorem all_plain_of_stripPrefix {rest : List UInt8} (h : stripPrefix head value = some rest)
    (hhead : (asBytes head).all isPlainByte = true) (hrest : rest.all isPlainByte = true) :
    (asBytes value).all isPlainByte = true := by
  rw [stripPrefix_eq_some.mp h, List.all_append, hhead, hrest]
  rfl

theorem all_plain_of_all {p : UInt8 → Bool} {bytes : List UInt8}
    (hp : ∀ b, p b = true → isPlainByte b = true) (h : bytes.all p = true) :
    bytes.all isPlainByte = true :=
  List.all_eq_true.mpr fun b hb => hp b (List.all_eq_true.mp h b hb)

theorem length_jsonString_lowerHex {s : String} (h : validLowerHex s n = true) :
    (jsonString s).length = n + 2 := by
  simp only [validLowerHex, Bool.and_eq_true, beq_iff_eq] at h
  rw [length_jsonString (all_plain_of_all isPlainByte_of_lowerHex h.2), h.1]

theorem length_jsonString_sha256 (d : Sha256) : (jsonString d.asStr).length = 66 :=
  length_jsonString_lowerHex d.canonical

/-- A prefix of `n` bytes followed by `m` hexadecimal digits. -/
theorem length_jsonString_hexId {m : Nat} (hhead : (asBytes head).all isPlainByte = true)
    (hn : (asBytes head).length = n)
    (h : ((stripPrefix head value).any fun rest => rest.length == m && rest.all isLowerHex) = true) :
    (jsonString value).length = n + m + 2 := by
  simp only [Option.any_eq_true, Bool.and_eq_true, beq_iff_eq] at h
  obtain ⟨rest,hrest,hlength,hall⟩ := h
  rw [length_jsonString (all_plain_of_stripPrefix hrest hhead
    (all_plain_of_all isPlainByte_of_lowerHex hall)), byteLength, stripPrefix_eq_some.mp hrest,
    List.length_append, hlength, hn]

theorem length_jsonString_digestId (hhead : (asBytes head).all isPlainByte = true)
    (hn : (asBytes head).length = n)
    (h : ((stripPrefix head value).any fun rest => rest.length == 64 && rest.all isLowerHex) = true) :
    (jsonString value).length = n + 66 :=
  length_jsonString_hexId hhead hn h

theorem isPlainByte_of_id (b : UInt8) :
    (isAsciiAlphanumeric b || b == 45) = true → isPlainByte b = true :=
  forall_byte (p := fun b => (isAsciiAlphanumeric b || b == 45) = true → isPlainByte b = true)
    (by decide +kernel) b

theorem length_jsonString_id_le (hhead : (asBytes head).all isPlainByte = true)
    (h : (byteLength value ≤ n && (stripPrefix head value).any fun rest => !rest.isEmpty &&
      rest.all fun b => isAsciiAlphanumeric b || b == 45) = true) :
    (jsonString value).length ≤ n + 2 := by
  simp only [Bool.and_eq_true, decide_eq_true_eq, Option.any_eq_true] at h
  obtain ⟨hlength,rest,hrest,_,hall⟩ := h
  rw [length_jsonString (all_plain_of_stripPrefix hrest hhead
    (all_plain_of_all isPlainByte_of_id hall))]
  omega

theorem length_jsonNumber_uint32 (n : UInt32) : (jsonNumber n.toNat).length ≤ 10 := by
  have hlt : n.toNat < 10 ^ 10 := by have := n.toNat_lt; omega
  exact length_jsonNumber (by decide) hlt

theorem length_jsonArray_le {items : List (List UInt8)} (h : ∀ item ∈ items, item.length + 1 ≤ n) :
    (jsonArray items).length ≤ 2 + items.length * n := by
  have hitems := length_intercalate_le items
  have hsum := List.sum_le_card_nsmul (items.map fun item => item.length + 1) n (by simpa using h)
  simp only [List.length_map, smul_eq_mul] at hsum
  simp only [jsonArray, List.length_append, List.length_cons, List.length_nil]
  omega

theorem length_jsonBytes_le (bytes : Bytes32) : (jsonBytes bytes).length ≤ 130 := by
  have harray := length_jsonArray_le (n := 4)
    (fun item (hitem : item ∈ bytes.toList.map fun b => jsonNumber b.toNat) => by
    obtain ⟨b,_,rfl⟩ := List.mem_map.mp hitem
    have hlt : b.toNat < 10 ^ 3 := by have := b.toNat_lt; omega
    have hdigits := length_jsonNumber (by decide) hlt
    omega)
  simp only [List.length_map, Vector.length_toList] at harray
  exact harray

end KernAid.Json
