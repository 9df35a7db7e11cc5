import Mathlib
import KernAid.JsonValue

/-! A reader of JSON text with a limit on nesting, and that it reads back every text written without
blanks. -/

set_option autoImplicit false

namespace KernAid.Json

open Encoding

def isBlank (b : UInt8) : Bool := b == 32 || b == 9 || b == 10 || b == 13

def skipBlanks (input : List UInt8) : List UInt8 := input.dropWhile isBlank

def hexValue (b : UInt8) : Option Nat :=
  if isAsciiDigit b then some (b.toNat - 48)
  else if 97 ≤ b ∧ b ≤ 102 then some (b.toNat - 87)
  else if 65 ≤ b ∧ b ≤ 70 then some (b.toNat - 55)
  else none

def hexQuad (a b c d : UInt8) : Option Nat := do
  let a ← hexValue a
  let b ← hexValue b
  let c ← hexValue c
  let d ← hexValue d
  return ((a * 16 + b) * 16 + c) * 16 + d

def simpleEscape (b : UInt8) : Option UInt8 :=
  if b = 34 ∨ b = 92 ∨ b = 47 then some b
  else if b = 98 then some 8
  else if b = 102 then some 12
  else if b = 110 then some 10
  else if b = 114 then some 13
  else if b = 116 then some 9
  else none

def utf8OfNat (n : Nat) : List UInt8 := String.utf8EncodeChar (Char.ofNat n)

/-- The bytes of a string after its opening quote, and the input after its closing quote. An escaped
surrogate counts only as half of a pair. -/
def readContent : List UInt8 → Option (List UInt8 × List UInt8)
  | [] => none
  | b :: rest =>
    if b = 34 then some ([], rest)
    else if b = 92 then
      match rest with
      | [] => none
      | c :: rest =>
        if c = 117 then
          match rest with
          | h₁ :: h₂ :: h₃ :: h₄ :: rest =>
            match hexQuad h₁ h₂ h₃ h₄ with
            | none => none
            | some first =>
              if 0xD800 ≤ first ∧ first ≤ 0xDBFF then
                match rest with
                | b₁ :: b₂ :: l₁ :: l₂ :: l₃ :: l₄ :: rest =>
                  match hexQuad l₁ l₂ l₃ l₄ with
                  | none => none
                  | some second =>
                    if b₁ = 92 ∧ b₂ = 117 ∧ 0xDC00 ≤ second ∧ second ≤ 0xDFFF then
                      (readContent rest).map fun r =>
                        (utf8OfNat (0x10000 + (first - 0xD800) * 1024 + (second - 0xDC00)) ++ r.1,
                          r.2)
                    else none
                | _ => none
              else if 0xDC00 ≤ first ∧ first ≤ 0xDFFF then none
              else (readContent rest).map fun r => (utf8OfNat first ++ r.1, r.2)
          | _ => none
        else
          match simpleEscape c with
          | none => none
          | some byte => (readContent rest).map fun r => (byte :: r.1, r.2)
    else if b < 32 then none
    else (readContent rest).map fun r => (b :: r.1, r.2)

def readString (input : List UInt8) : Option (String × List UInt8) :=
  (readContent input).bind fun r => (String.fromUTF8? ⟨⟨r.1⟩⟩).map fun s => (s, r.2)

theorem hexQuad_hexPair (b : UInt8) :
    hexQuad 48 48 (hexDigit (b >>> 4)) (hexDigit (b &&& 15)) = some b.toNat := by
  revert b
  apply forall_byte
  decide +kernel

theorem utf8OfNat_control (b : UInt8) : b < 32 → utf8OfNat b.toNat = [b] := by
  revert b
  apply forall_byte
  decide +kernel

theorem readContent_quote (rest : List UInt8) : readContent (34 :: rest) = some ([], rest) := by
  rw [readContent.eq_def]
  rfl

theorem readContent_plain {b : UInt8} (rest : List UInt8) (h34 : b ≠ 34) (h92 : b ≠ 92)
    (h32 : ¬ b < 32) :
    readContent (b :: rest) = (readContent rest).map fun r => (b :: r.1, r.2) := by
  rw [readContent.eq_def]
  simp only [h34, h92, h32, if_false]

theorem readContent_simple {c byte : UInt8} (rest : List UInt8) (hc : c ≠ 117)
    (h : simpleEscape c = some byte) :
    readContent (92 :: c :: rest) = (readContent rest).map fun r => (byte :: r.1, r.2) := by
  rw [readContent.eq_def]
  simp [hc, h]

theorem readContent_control {b : UInt8} (rest : List UInt8) (h : b < 32) :
    readContent ([92,117,48,48] ++ hexPair b ++ rest) =
      (readContent rest).map fun r => (b :: r.1, r.2) := by
  have hlt : b.toNat < 32 := h
  have hhigh : ¬ (0xD800 ≤ b.toNat ∧ b.toNat ≤ 0xDBFF) := by omega
  have hlow : ¬ (0xDC00 ≤ b.toNat ∧ b.toNat ≤ 0xDFFF) := by omega
  rw [readContent.eq_def]
  simp [hexPair, hexQuad_hexPair, hhigh, hlow, utf8OfNat_control b h]

theorem readContent_escapeByte (b : UInt8) (rest : List UInt8) :
    readContent (escapeByte b ++ rest) = (readContent rest).map fun r => (b :: r.1, r.2) := by
  unfold escapeByte
  split_ifs with h34 h92 h8 h9 h10 h12 h13 h32
  · subst h34
    exact readContent_simple rest (by decide) rfl
  · subst h92
    exact readContent_simple rest (by decide) rfl
  · exact h8 ▸ readContent_simple rest (by decide) rfl
  · exact h9 ▸ readContent_simple rest (by decide) rfl
  · exact h10 ▸ readContent_simple rest (by decide) rfl
  · exact h12 ▸ readContent_simple rest (by decide) rfl
  · exact h13 ▸ readContent_simple rest (by decide) rfl
  · exact readContent_control rest h32
  · exact readContent_plain rest h34 h92 h32

theorem readContent_flatMap (bytes rest : List UInt8) :
    readContent (bytes.flatMap escapeByte ++ 34 :: rest) = some (bytes, rest) := by
  induction bytes with
  | nil => exact readContent_quote rest
  | cons b bytes ih => simp [readContent_escapeByte, ih]

theorem fromUTF8?_asBytes (s : String) : String.fromUTF8? ⟨⟨asBytes s⟩⟩ = some s := by
  have hbytes : (⟨⟨asBytes s⟩⟩ : ByteArray) = s.toByteArray := rfl
  rw [hbytes, String.fromUTF8?, dif_pos s.isValidUTF8]
  rfl

theorem readString_jsonString (s : String) (rest : List UInt8) :
    readString ((asBytes s).flatMap escapeByte ++ 34 :: rest) = some (s, rest) := by
  rw [readString, readContent_flatMap, Option.bind_some, fromUTF8?_asBytes, Option.map_some]

section Reader

variable {ν : Type} (readNumber : List UInt8 → Option (ν × List UInt8))

mutual

/-- One value; `limit` arrays and objects may still be opened. -/
def readValue : Nat → Nat → List UInt8 → Option (Value ν × List UInt8)
  | 0, _, _ => none
  | fuel + 1, limit, input =>
    match skipBlanks input with
    | [] => none
    | b :: rest =>
      if b = 34 then (readString rest).map fun r => (.string r.1, r.2)
      else if b = 91 then
        match limit, skipBlanks rest with
        | 0, _ => none
        | _ + 1, [] => none
        | limit + 1, c :: rest =>
          if c = 93 then some (.array [], rest)
          else (readItems fuel limit (c :: rest)).map fun r => (.array r.1, r.2)
      else if b = 123 then
        match limit, skipBlanks rest with
        | 0, _ => none
        | _ + 1, [] => none
        | limit + 1, c :: rest =>
          if c = 125 then some (.object [], rest)
          else (readMembers fuel limit (c :: rest)).map fun r => (.object r.1, r.2)
      else if b = 110 then ((asBytes "ull").isPrefixOf? rest).map fun rest => (.null, rest)
      else if b = 116 then ((asBytes "rue").isPrefixOf? rest).map fun rest => (.bool true, rest)
      else if b = 102 then ((asBytes "alse").isPrefixOf? rest).map fun rest => (.bool false, rest)
      else (readNumber (b :: rest)).map fun r => (.number r.1, r.2)

def readItems : Nat → Nat → List UInt8 → Option (List (Value ν) × List UInt8)
  | 0, _, _ => none
  | fuel + 1, limit, input =>
    match readValue fuel limit input with
    | none => none
    | some (v, rest) =>
      match skipBlanks rest with
      | [] => none
      | b :: rest =>
        if b = 93 then some ([v], rest)
        else if b = 44 then (readItems fuel limit rest).map fun r => (v :: r.1, r.2)
        else none

def readMembers : Nat → Nat → List UInt8 → Option (List (String × Value ν) × List UInt8)
  | 0, _, _ => none
  | fuel + 1, limit, input =>
    match skipBlanks input with
    | [] => none
    | b :: rest =>
      if b = 34 then
        match readString rest with
        | none => none
        | some (key, rest) =>
          match skipBlanks rest with
          | [] => none
          | b :: rest =>
            if b = 58 then
              match readValue fuel limit rest with
              | none => none
              | some (v, rest) =>
                match skipBlanks rest with
                | [] => none
                | b :: rest =>
                  if b = 125 then some ([(key, v)], rest)
                  else if b = 44 then
                    (readMembers fuel limit rest).map fun r => ((key, v) :: r.1, r.2)
                  else none
            else none
      else none

end

def readDocument (limit : Nat) (input : List UInt8) : Option (Value ν) :=
  match readValue readNumber input.length limit input with
  | none => none
  | some (v, rest) => if skipBlanks rest = [] then some v else none

end Reader

/-- The input goes on after a number with something that is no part of a number. -/
def endsNumber (rest : List UInt8) : Prop :=
  ∀ b ∈ rest.head?, isAsciiDigit b = false ∧ b ≠ 46 ∧ b ≠ 69 ∧ b ≠ 101

section RoundTrip

variable {ν : Type}

/-- What the reader needs of a way to write and read the numbers that `good` selects. -/
structure NumberFormat (good : ν → Bool) (number : ν → List UInt8)
    (readNumber : List UInt8 → Option (ν × List UInt8)) : Prop where
  head : ∀ n, good n = true → ∃ b rest, number n = b :: rest ∧ (b = 45 ∨ isAsciiDigit b = true)
  read : ∀ n rest, good n = true → endsNumber rest → readNumber (number n ++ rest) = some (n, rest)

def startsValue (b : UInt8) : Bool :=
  b == 34 || b == 45 || b == 91 || b == 102 || b == 110 || b == 116 || b == 123 || isAsciiDigit b

variable {good : ν → Bool} {number : ν → List UInt8}
  {readNumber : List UInt8 → Option (ν × List UInt8)}

theorem text_head (hn : NumberFormat good number readNumber) {v : Value ν}
    (hgood : v.everyNumber good = true) :
    ∃ b rest, v.text number = b :: rest ∧ startsValue b = true := by
  cases v with
  | null => exact ⟨110,asBytes "ull",rfl,rfl⟩
  | bool b =>
    cases b with
    | false => exact ⟨102,asBytes "alse",rfl,rfl⟩
    | true => exact ⟨116,asBytes "rue",rfl,rfl⟩
  | number n =>
    obtain ⟨b,rest,htext,hb⟩ := hn.head n hgood
    refine ⟨b,rest,htext,?_⟩
    obtain rfl | hb := hb
    · rfl
    · simp [startsValue, hb]
  | string s => exact ⟨34,_,rfl,rfl⟩
  | array items => exact ⟨91,_,rfl,rfl⟩
  | object members => exact ⟨123,_,rfl,rfl⟩

theorem skipBlanks_cons {b : UInt8} (rest : List UInt8) (h : isBlank b = false) :
    skipBlanks (b :: rest) = b :: rest := by
  simp [skipBlanks, h]

theorem startsValue_not_blank (b : UInt8) :
    startsValue b = true → isBlank b = false ∧ b ≠ 93 ∧ b ≠ 125 := by
  revert b
  apply forall_byte
  decide +kernel

theorem startsNumber_plain (b : UInt8) : (b = 45 ∨ isAsciiDigit b = true) →
    isBlank b = false ∧ b ≠ 34 ∧ b ≠ 91 ∧ b ≠ 123 ∧ b ≠ 110 ∧ b ≠ 116 ∧ b ≠ 102 := by
  revert b
  apply forall_byte
  decide +kernel

theorem endsNumber_cons {b : UInt8} (rest : List UInt8)
    (h : isAsciiDigit b = false ∧ b ≠ 46 ∧ b ≠ 69 ∧ b ≠ 101) : endsNumber (b :: rest) := by
  intro c hc
  obtain rfl : b = c := by simpa using hc
  exact h

theorem intercalate_cons_cons (a b : List UInt8) (rest : List (List UInt8)) :
    [44].intercalate (a :: b :: rest) = a ++ 44 :: [44].intercalate (b :: rest) := by
  simp [List.intercalate, List.intersperse_cons_cons]

theorem intercalate_singleton (a : List UInt8) : [44].intercalate [a] = a := by
  simp [List.intercalate]

/-- The text of `v` is read as `v` wherever it stands. -/
def ReadsBack (number : ν → List UInt8) (readNumber : List UInt8 → Option (ν × List UInt8))
    (v : Value ν) : Prop :=
  ∀ fuel limit rest, v.depth ≤ limit → (v.text number).length ≤ fuel → endsNumber rest →
    readValue readNumber fuel limit (v.text number ++ rest) = some (v, rest)

theorem readItems_text {items : List (Value ν)} (hitems : items ≠ [])
    (h : ∀ v ∈ items, ReadsBack number readNumber v) (fuel limit : Nat) (rest : List UInt8)
    (hdepth : ∀ v ∈ items, v.depth ≤ limit)
    (hfuel : ([44].intercalate (items.map (Value.text number))).length < fuel) :
    readItems readNumber fuel limit
      ([44].intercalate (items.map (Value.text number)) ++ 93 :: rest) = some (items, rest) := by
  induction items generalizing fuel with
  | nil => exact absurd rfl hitems
  | cons v items ih =>
    obtain ⟨fuel,rfl⟩ : ∃ f, fuel = f + 1 := ⟨fuel - 1,by omega⟩
    have hv := h v List.mem_cons_self fuel limit
    have hvdepth := hdepth v List.mem_cons_self
    cases items with
    | nil =>
      simp only [List.map_cons, List.map_nil, intercalate_singleton] at hfuel ⊢
      have hread := hv (93 :: rest) hvdepth (by omega) (endsNumber_cons rest (by decide))
      rw [readItems, hread]
      simp [skipBlanks_cons (b := 93) rest rfl]
    | cons w items =>
      simp only [List.map_cons, intercalate_cons_cons, List.length_append, List.length_cons,
        List.append_assoc, List.cons_append] at hfuel ⊢
      have hread := hv (44 :: ([44].intercalate (w.text number :: items.map (Value.text number)) ++
        93 :: rest)) hvdepth (by omega) (endsNumber_cons _ (by decide))
      have hlength : ([44].intercalate ((w :: items).map (Value.text number))).length < fuel := by
        rw [List.map_cons]
        omega
      have htail := ih (List.cons_ne_nil w items) (fun u hu => h u (List.mem_cons_of_mem v hu))
        fuel (fun u hu => hdepth u (List.mem_cons_of_mem v hu)) hlength
      rw [List.map_cons] at htail
      rw [readItems, hread]
      simp [skipBlanks_cons (b := 44) _ rfl, htail]

/-- A member as `jsonObject` writes it. -/
def memberText (number : ν → List UInt8) (m : String × Value ν) : List UInt8 :=
  jsonString m.1 ++ [58] ++ m.2.text number

theorem readMembers_key (fuel limit : Nat) (key : String) (rest : List UInt8) :
    readMembers readNumber (fuel + 1) limit (jsonString key ++ [58] ++ rest) =
      match readValue readNumber fuel limit rest with
      | none => none
      | some (v, rest) =>
        match skipBlanks rest with
        | [] => none
        | b :: rest =>
          if b = 125 then some ([(key, v)], rest)
          else if b = 44 then
            (readMembers readNumber fuel limit rest).map fun r => ((key, v) :: r.1, r.2)
          else none := by
  have hkey : readString ((asBytes key).flatMap escapeByte ++ 34 :: 58 :: rest) =
      some (key, 58 :: rest) := readString_jsonString key (58 :: rest)
  simp only [jsonString, List.append_assoc, List.cons_append, List.nil_append]
  rw [readMembers]
  simp [skipBlanks_cons (b := 34) _ rfl, skipBlanks_cons (b := 58) _ rfl, hkey]

theorem readMembers_text {members : List (String × Value ν)} (hmembers : members ≠ [])
    (h : ∀ m ∈ members, ReadsBack number readNumber m.2) (fuel limit : Nat) (rest : List UInt8)
    (hdepth : ∀ m ∈ members, m.2.depth ≤ limit)
    (hfuel : ([44].intercalate (members.map (memberText number))).length < fuel) :
    readMembers readNumber fuel limit
      ([44].intercalate (members.map (memberText number)) ++ 125 :: rest) =
        some (members, rest) := by
  induction members generalizing fuel with
  | nil => exact absurd rfl hmembers
  | cons m members ih =>
    obtain ⟨fuel,rfl⟩ : ∃ f, fuel = f + 1 := ⟨fuel - 1,by omega⟩
    have hm := h m List.mem_cons_self fuel limit
    have hmdepth := hdepth m List.mem_cons_self
    cases members with
    | nil =>
      simp only [List.map_cons, List.map_nil, intercalate_singleton, memberText,
        List.length_append] at hfuel ⊢
      have hread := hm (125 :: rest) hmdepth (by omega) (endsNumber_cons rest (by decide))
      rw [List.append_assoc, readMembers_key, hread]
      simp [skipBlanks_cons (b := 125) rest rfl]
    | cons n members =>
      simp only [List.map_cons, intercalate_cons_cons, List.length_append, List.length_cons] at hfuel
      have hlength :
          ([44].intercalate ((n :: members).map (memberText number))).length < fuel := by
        rw [List.map_cons]
        omega
      have htail := ih (List.cons_ne_nil n members) (fun u hu => h u (List.mem_cons_of_mem m hu))
        fuel (fun u hu => hdepth u (List.mem_cons_of_mem m hu)) hlength
      simp only [memberText, List.length_append] at hfuel
      have hread := hm (44 :: ([44].intercalate ((n :: members).map (memberText number)) ++
        125 :: rest)) hmdepth (by omega) (endsNumber_cons _ (by decide))
      have hsplit : [44].intercalate ((m :: n :: members).map (memberText number)) ++ 125 :: rest =
          jsonString m.1 ++ [58] ++ (m.2.text number ++
            44 :: ([44].intercalate ((n :: members).map (memberText number)) ++ 125 :: rest)) := by
        simp [memberText]
      rw [hsplit, readMembers_key, hread]
      simp only [skipBlanks_cons (b := 44) _ rfl, htail]
      rfl

theorem readsBack_array (hn : NumberFormat good number readNumber) {items : List (Value ν)}
    (hgood : ∀ v ∈ items, v.everyNumber good = true)
    (h : ∀ v ∈ items, ReadsBack number readNumber v) :
    ReadsBack number readNumber (.array items) := by
  intro fuel limit rest hdepth hfuel _
  rw [text_array, jsonArray] at hfuel ⊢
  simp only [List.length_append, List.length_cons, List.length_nil] at hfuel
  obtain ⟨fuel,rfl⟩ : ∃ f, fuel = f + 1 := ⟨fuel - 1,by omega⟩
  obtain ⟨limit,rfl⟩ : ∃ n, limit = n + 1 := by
    have hpos : 1 ≤ (Value.array items).depth := by simp [Value.depth]
    exact ⟨limit - 1,by omega⟩
  rw [depth_array_le] at hdepth
  simp only [List.append_assoc, List.cons_append, List.nil_append]
  cases items with
  | nil => simp [readValue, skipBlanks, isBlank, List.intercalate]
  | cons v items =>
    have hread := readItems_text (List.cons_ne_nil v items) h fuel limit rest hdepth (by omega)
    obtain ⟨b,tail,htext,hb⟩ := text_head hn (hgood v List.mem_cons_self)
    obtain ⟨hblank,h93,_⟩ := startsValue_not_blank b hb
    have hhead : ∃ more, [44].intercalate ((v :: items).map (Value.text number)) ++ 93 :: rest =
        b :: more := by
      cases items <;> simp [htext]
    obtain ⟨more,hmore⟩ := hhead
    rw [hmore] at hread ⊢
    simp [readValue, skipBlanks_cons (b := 91) _ rfl, skipBlanks_cons _ hblank, h93, hread]

theorem readsBack_object {members : List (String × Value ν)}
    (h : ∀ m ∈ members, ReadsBack number readNumber m.2) :
    ReadsBack number readNumber (.object members) := by
  intro fuel limit rest hdepth hfuel _
  have htexts : ((members.map fun m => (m.1, m.2.text number)).map fun field =>
      jsonString field.1 ++ [58] ++ field.2) = members.map (memberText number) := by
    rw [List.map_map]
    rfl
  rw [text_object, jsonObject, htexts] at hfuel ⊢
  simp only [List.length_append, List.length_cons, List.length_nil] at hfuel
  obtain ⟨fuel,rfl⟩ : ∃ f, fuel = f + 1 := ⟨fuel - 1,by omega⟩
  obtain ⟨limit,rfl⟩ : ∃ n, limit = n + 1 := by
    have hpos : 1 ≤ (Value.object members).depth := by simp [Value.depth]
    exact ⟨limit - 1,by omega⟩
  rw [depth_object_le] at hdepth
  simp only [List.append_assoc, List.cons_append, List.nil_append]
  cases members with
  | nil => simp [readValue, skipBlanks, isBlank, List.intercalate]
  | cons m members =>
    have hread := readMembers_text (List.cons_ne_nil m members) h fuel limit rest hdepth (by omega)
    have hhead : ∃ more, [44].intercalate ((m :: members).map (memberText number)) ++
        125 :: rest = 34 :: more := by
      cases members <;> simp [memberText, jsonString]
    obtain ⟨more,hmore⟩ := hhead
    rw [hmore] at hread ⊢
    simp [readValue, skipBlanks_cons (b := 123) _ rfl, skipBlanks_cons (b := 34) _ rfl, hread]

theorem readValue_text (hn : NumberFormat good number readNumber) (v : Value ν)
    (hgood : v.everyNumber good = true) : ReadsBack number readNumber v := by
  induction v with
  | null =>
    intro fuel limit rest _ hfuel _
    obtain ⟨fuel,rfl⟩ : ∃ f, fuel = f + 1 := ⟨fuel - 1,by change 4 ≤ fuel at hfuel; omega⟩
    rw [readValue]
    rfl
  | bool b =>
    intro fuel limit rest _ hfuel _
    cases b with
    | false =>
      obtain ⟨fuel,rfl⟩ : ∃ f, fuel = f + 1 := ⟨fuel - 1,by change 5 ≤ fuel at hfuel; omega⟩
      rw [readValue]
      rfl
    | true =>
      obtain ⟨fuel,rfl⟩ : ∃ f, fuel = f + 1 := ⟨fuel - 1,by change 4 ≤ fuel at hfuel; omega⟩
      rw [readValue]
      rfl
  | number n =>
    intro fuel limit rest _ hfuel hends
    change (number n).length ≤ fuel at hfuel
    have hread := hn.read n rest hgood hends
    obtain ⟨b,tail,htext,hb⟩ := hn.head n hgood
    obtain ⟨hblank,h34,h91,h123,h110,h116,h102⟩ := startsNumber_plain b hb
    change readValue readNumber fuel limit (number n ++ rest) = _
    rw [htext, List.length_cons] at hfuel
    obtain ⟨fuel,rfl⟩ : ∃ f, fuel = f + 1 := ⟨fuel - 1,by omega⟩
    rw [htext, List.cons_append] at hread ⊢
    simp [readValue, skipBlanks_cons _ hblank, h34, h91, h123, h110, h116, h102, hread]
  | string s =>
    intro fuel limit rest _ hfuel _
    change (jsonString s).length ≤ fuel at hfuel
    change readValue readNumber fuel limit (jsonString s ++ rest) = _
    simp only [jsonString, List.length_append, List.length_cons, List.length_nil] at hfuel
    obtain ⟨fuel,rfl⟩ : ∃ f, fuel = f + 1 := ⟨fuel - 1,by omega⟩
    simp only [jsonString, List.append_assoc, List.cons_append, List.nil_append]
    simp [readValue, skipBlanks_cons (b := 34) _ rfl, readString_jsonString]
  | array items ih =>
    have hitems := everyNumber_array.mp hgood
    exact readsBack_array hn hitems fun u hu => ih u hu (hitems u hu)
  | object members ih =>
    have hmembers := everyNumber_object.mp hgood
    exact readsBack_object fun u hu => ih u hu (hmembers u hu)

theorem readDocument_text (hn : NumberFormat good number readNumber) {v : Value ν}
    (hgood : v.everyNumber good = true) {limit : Nat} (hdepth : v.depth ≤ limit) :
    readDocument readNumber limit (v.text number) = some v := by
  have hread := readValue_text hn v hgood (v.text number).length limit [] hdepth (Nat.le_refl _)
    (by intro b hb; cases hb)
  rw [List.append_nil] at hread
  rw [readDocument, hread]
  rfl

theorem text_injective (hn : NumberFormat good number readNumber) {v w : Value ν}
    (hv : v.everyNumber good = true) (hw : w.everyNumber good = true)
    (h : v.text number = w.text number) : v = w := by
  have hreadv := readDocument_text hn hv (Nat.le_max_left v.depth w.depth)
  rw [h, readDocument_text hn hw (Nat.le_max_right v.depth w.depth)] at hreadv
  exact (Option.some.inj hreadv).symm

end RoundTrip

section Limit

variable {ν : Type} {readNumber : List UInt8 → Option (ν × List UInt8)}

/-- What is read obeys the limit: the bound for the items and members of one fuel. -/
structure ReadsWithin (readNumber : List UInt8 → Option (ν × List UInt8)) (fuel : Nat) : Prop where
  value : ∀ limit input v rest, readValue readNumber fuel limit input = some (v, rest) →
    v.depth ≤ limit
  items : ∀ limit input items rest, readItems readNumber fuel limit input = some (items, rest) →
    ∀ v ∈ items, v.depth ≤ limit
  members : ∀ limit input members rest,
    readMembers readNumber fuel limit input = some (members, rest) →
      ∀ m ∈ members, m.2.depth ≤ limit

variable {fuel limit limit' : Nat} {input rest : List UInt8} {v : Value ν}

theorem ReadsWithin.succ_value (ih : ReadsWithin readNumber fuel)
    (h : readValue readNumber (fuel + 1) limit input = some (v, rest)) : v.depth ≤ limit := by
  rw [readValue] at h
  split at h
  · cases h
  · split_ifs at h
    · obtain ⟨r,_,hr⟩ := Option.map_eq_some_iff.mp h
      cases hr
      exact Nat.zero_le _
    · split at h
      · cases h
      · cases h
      · split_ifs at h
        · cases h
          exact depth_array_le.mpr (by simp)
        · obtain ⟨r,hread,hr⟩ := Option.map_eq_some_iff.mp h
          cases hr
          exact depth_array_le.mpr (ih.items _ _ _ _ hread)
    · split at h
      · cases h
      · cases h
      · split_ifs at h
        · cases h
          exact depth_object_le.mpr (by simp)
        · obtain ⟨r,hread,hr⟩ := Option.map_eq_some_iff.mp h
          cases hr
          exact depth_object_le.mpr (ih.members _ _ _ _ hread)
    all_goals
      obtain ⟨r,_,hr⟩ := Option.map_eq_some_iff.mp h
      cases hr
      exact Nat.zero_le _

theorem ReadsWithin.succ_items (ih : ReadsWithin readNumber fuel) {items : List (Value ν)}
    (h : readItems readNumber (fuel + 1) limit input = some (items, rest)) :
    ∀ v ∈ items, v.depth ≤ limit := by
  rw [readItems] at h
  split at h
  · cases h
  · next v after hread =>
    have hv := ih.value _ _ _ _ hread
    split at h
    · cases h
    · split_ifs at h
      · cases h
        simpa using hv
      · obtain ⟨r,hmore,hr⟩ := Option.map_eq_some_iff.mp h
        cases hr
        exact List.forall_mem_cons.mpr ⟨hv,ih.items _ _ _ _ hmore⟩

theorem ReadsWithin.succ_members (ih : ReadsWithin readNumber fuel)
    {members : List (String × Value ν)}
    (h : readMembers readNumber (fuel + 1) limit input = some (members, rest)) :
    ∀ m ∈ members, m.2.depth ≤ limit := by
  rw [readMembers] at h
  split at h
  · cases h
  · split_ifs at h
    split at h
    · cases h
    · split at h
      · cases h
      · split_ifs at h
        split at h
        · cases h
        · next v after hread =>
          have hv := ih.value _ _ _ _ hread
          split at h
          · cases h
          · split_ifs at h
            · cases h
              simpa using hv
            · obtain ⟨r,hmore,hr⟩ := Option.map_eq_some_iff.mp h
              cases hr
              exact List.forall_mem_cons.mpr ⟨hv,ih.members _ _ _ _ hmore⟩

theorem readsWithin (fuel : Nat) : ReadsWithin readNumber fuel := by
  induction fuel with
  | zero => constructor <;> simp [readValue, readItems, readMembers]
  | succ fuel ih =>
    exact ⟨fun _ _ _ _ => ih.succ_value,fun _ _ _ _ => ih.succ_items,
      fun _ _ _ _ => ih.succ_members⟩

theorem depth_readDocument (h : readDocument readNumber limit input = some v) :
    v.depth ≤ limit := by
  rw [readDocument] at h
  split at h
  · cases h
  · next w rest hread =>
    split_ifs at h
    cases h
    exact (readsWithin _).value _ _ _ _ hread

structure ReadsOn (readNumber : List UInt8 → Option (ν × List UInt8)) (fuel : Nat) : Prop where
  value : ∀ limit limit' input r, limit ≤ limit' → readValue readNumber fuel limit input = some r →
    readValue readNumber fuel limit' input = some r
  items : ∀ limit limit' input r, limit ≤ limit' → readItems readNumber fuel limit input = some r →
    readItems readNumber fuel limit' input = some r
  members : ∀ limit limit' input r, limit ≤ limit' →
    readMembers readNumber fuel limit input = some r →
      readMembers readNumber fuel limit' input = some r

theorem ReadsOn.succ_value (ih : ReadsOn readNumber fuel) {r : Value ν × List UInt8}
    (hle : limit ≤ limit') (h : readValue readNumber (fuel + 1) limit input = some r) :
    readValue readNumber (fuel + 1) limit' input = some r := by
  rw [readValue] at h ⊢
  split at h
  · cases h
  · split_ifs at h ⊢
    · exact h
    · split at h
      · cases h
      · cases h
      · next limit c rest hrest =>
        obtain ⟨limit',rfl⟩ : ∃ n, limit' = n + 1 := ⟨limit' - 1,by omega⟩
        simp only [hrest]
        split_ifs at h ⊢
        · exact h
        · obtain ⟨q,hread,hq⟩ := Option.map_eq_some_iff.mp h
          rw [ih.items _ _ _ _ (Nat.le_of_succ_le_succ hle) hread, Option.map_some, hq]
    · split at h
      · cases h
      · cases h
      · next limit c rest hrest =>
        obtain ⟨limit',rfl⟩ : ∃ n, limit' = n + 1 := ⟨limit' - 1,by omega⟩
        simp only [hrest]
        split_ifs at h ⊢
        · exact h
        · obtain ⟨q,hread,hq⟩ := Option.map_eq_some_iff.mp h
          rw [ih.members _ _ _ _ (Nat.le_of_succ_le_succ hle) hread, Option.map_some, hq]
    all_goals exact h

theorem ReadsOn.succ_items (ih : ReadsOn readNumber fuel) {r : List (Value ν) × List UInt8}
    (hle : limit ≤ limit') (h : readItems readNumber (fuel + 1) limit input = some r) :
    readItems readNumber (fuel + 1) limit' input = some r := by
  rw [readItems] at h ⊢
  split at h
  · cases h
  · next v after hread =>
    rw [ih.value _ _ _ _ hle hread]
    split at h
    · cases h
    · next b rest hskip =>
      simp only [hskip]
      split_ifs at h ⊢
      · exact h
      · obtain ⟨q,hmore,hq⟩ := Option.map_eq_some_iff.mp h
        rw [ih.items _ _ _ _ hle hmore, Option.map_some, hq]

theorem ReadsOn.succ_members (ih : ReadsOn readNumber fuel)
    {r : List (String × Value ν) × List UInt8} (hle : limit ≤ limit')
    (h : readMembers readNumber (fuel + 1) limit input = some r) :
    readMembers readNumber (fuel + 1) limit' input = some r := by
  rw [readMembers] at h ⊢
  split at h
  · cases h
  · split_ifs at h ⊢
    split at h
    · cases h
    · split at h
      · cases h
      · split_ifs at h ⊢
        split at h
        · cases h
        · next v after hread =>
          rw [ih.value _ _ _ _ hle hread]
          split at h
          · cases h
          · next b rest hafter =>
            simp only [hafter]
            split_ifs at h ⊢
            · exact h
            · obtain ⟨q,hmore,hq⟩ := Option.map_eq_some_iff.mp h
              rw [ih.members _ _ _ _ hle hmore, Option.map_some, hq]

theorem readsOn (fuel : Nat) : ReadsOn readNumber fuel := by
  induction fuel with
  | zero => constructor <;> simp [readValue, readItems, readMembers]
  | succ fuel ih =>
    exact ⟨fun _ _ _ _ => ih.succ_value,fun _ _ _ _ => ih.succ_items,
      fun _ _ _ _ => ih.succ_members⟩

theorem readDocument_mono (hle : limit ≤ limit') (h : readDocument readNumber limit input = some v) :
    readDocument readNumber limit' input = some v := by
  rw [readDocument] at h ⊢
  split at h
  · cases h
  · next w rest hread =>
    rw [(readsOn _).value _ _ _ _ hle hread]
    exact h

theorem readDocument_text_eq {good : ν → Bool} {number : ν → List UInt8}
    (hn : NumberFormat good number readNumber) (hgood : v.everyNumber good = true) (limit : Nat) :
    readDocument readNumber limit (v.text number) = if v.depth ≤ limit then some v else none := by
  split_ifs with hdepth
  · exact readDocument_text hn hgood hdepth
  · rw [Option.eq_none_iff_forall_ne_some]
    intro w hw
    have hmore := readDocument_mono (Nat.le_of_lt (Nat.lt_of_not_le hdepth)) hw
    rw [readDocument_text hn hgood (Nat.le_refl _)] at hmore
    cases hmore
    exact hdepth (depth_readDocument hw)

end Limit

end KernAid.Json
