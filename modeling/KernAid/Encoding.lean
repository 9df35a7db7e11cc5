import Mathlib

/-! Bytes of a text, lowercase hexadecimal, big-endian integers and 32-byte digests. -/

set_option autoImplicit false

namespace KernAid.Encoding

/-- The UTF-8 bytes of a text, the value of `as_bytes`. -/
def asBytes (s : String) : List UInt8 := s.toByteArray.data.toList

/-- `str::len`: the number of UTF-8 bytes. -/
def byteLength (s : String) : Nat := (asBytes s).length

theorem asBytes_append (s t : String) : asBytes (s ++ t) = asBytes s ++ asBytes t := by
  simp [asBytes, String.toByteArray_append]

theorem asBytes_ofList (cs : List Char) :
    asBytes (String.ofList cs) = cs.flatMap String.utf8EncodeChar := by
  simp [asBytes, String.toByteArray_ofList, List.utf8Encode]

theorem asBytes_injective {s t : String} (h : asBytes s = asBytes t) : s = t := by
  apply String.toByteArray_inj.mp
  apply ByteArray.ext
  exact Array.toList_inj.mp h

/-- `str::strip_prefix`, with the bytes of the rest. -/
def stripPrefix (head value : String) : Option (List UInt8) :=
  (asBytes head).isPrefixOf? (asBytes value)

theorem stripPrefix_eq_some {head value : String} {rest : List UInt8} :
    stripPrefix head value = some rest ↔ asBytes value = asBytes head ++ rest := by
  rw [stripPrefix]
  exact ⟨fun h => (List.isPrefixOf?_eq_some_iff_append_eq.mp h).symm,
    fun h => List.isPrefixOf?_eq_some_iff_append_eq.mpr h.symm⟩

def isAsciiDigit (b : UInt8) : Bool := 48 ≤ b && b ≤ 57

def isAsciiAlphanumeric (b : UInt8) : Bool :=
  isAsciiDigit b || (65 ≤ b && b ≤ 90) || (97 ≤ b && b ≤ 122)

/-- `byte.is_ascii_digit() || matches!(byte, b'a'..=b'f')` -/
def isLowerHex (b : UInt8) : Bool := isAsciiDigit b || (97 ≤ b && b ≤ 102)

def containsDotDot : List UInt8 → Bool
  | a :: b :: rest => (a == 46 && b == 46) || containsDotDot (b :: rest)
  | _ => false

def validLowerHex (value : String) (length : Nat) : Bool :=
  byteLength value == length && (asBytes value).all isLowerHex

def hexDigit (n : UInt8) : UInt8 := if n < 10 then 48 + n else 87 + n

def hexNibble (b : UInt8) : UInt8 := if b ≤ 57 then b - 48 else b - 87

def hexPair (b : UInt8) : List UInt8 := [hexDigit (b >>> 4), hexDigit (b &&& 15)]

def asciiChar (b : UInt8) : Char := Char.ofNat b.toNat

def encodeHex (bytes : List UInt8) : String :=
  String.ofList ((bytes.flatMap hexPair).map asciiChar)

/-- Reads the digits back two at a time, as `chunks_exact(2)` does. -/
def decodeHex : List UInt8 → List UInt8
  | a :: b :: rest => ((hexNibble a <<< 4) ||| hexNibble b) :: decodeHex rest
  | _ => []

theorem forall_byte {p : UInt8 → Prop} (h : ∀ n : Fin 256, p (UInt8.ofNat n)) (b : UInt8) : p b := by
  have hb := h ⟨b.toNat,b.toNat_lt⟩
  simpa using hb

theorem byte_digits (b : UInt8) : (hexPair b).all isLowerHex = true ∧
    (hexNibble (hexDigit (b >>> 4)) <<< 4) ||| hexNibble (hexDigit (b &&& 15)) = b ∧
      (isLowerHex b = true → (hexNibble b < 16 ∧ hexDigit (hexNibble b) = b) ∧
        String.utf8EncodeChar (asciiChar b) = [b]) := by
  revert b
  apply forall_byte
  decide +kernel

theorem hexPair_lowerHex (b : UInt8) : (hexPair b).all isLowerHex = true := (byte_digits b).1

theorem decode_hexPair (b : UInt8) :
    (hexNibble (hexDigit (b >>> 4)) <<< 4) ||| hexNibble (hexDigit (b &&& 15)) = b :=
  (byte_digits b).2.1

theorem hexDigit_hexNibble (b : UInt8) (h : isLowerHex b = true) :
    hexNibble b < 16 ∧ hexDigit (hexNibble b) = b :=
  ((byte_digits b).2.2 h).1

theorem nibbles_apart (n m : Fin 16) :
    ((UInt8.ofNat n <<< 4) ||| UInt8.ofNat m) >>> 4 = UInt8.ofNat n ∧
      ((UInt8.ofNat n <<< 4) ||| UInt8.ofNat m) &&& 15 = UInt8.ofNat m := by
  revert n m
  decide +kernel

theorem hexPair_decode {a b : UInt8} (ha : isLowerHex a = true) (hb : isLowerHex b = true) :
    hexPair ((hexNibble a <<< 4) ||| hexNibble b) = [a,b] := by
  obtain ⟨hna,hda⟩ := hexDigit_hexNibble a ha
  obtain ⟨hnb,hdb⟩ := hexDigit_hexNibble b hb
  have h := nibbles_apart ⟨(hexNibble a).toNat,hna⟩ ⟨(hexNibble b).toNat,hnb⟩
  simp only [UInt8.ofNat_toNat] at h
  simp only [hexPair, h.1, h.2, hda, hdb]

theorem decodeHex_flatMap_hexPair (bytes : List UInt8) : decodeHex (bytes.flatMap hexPair) = bytes := by
  induction bytes with
  | nil => rfl
  | cons b bytes ih =>
    have hb := decode_hexPair b
    simp only [List.flatMap_cons, hexPair, List.cons_append, List.nil_append,
      decodeHex, hb, List.cons.injEq, true_and]
    exact ih

theorem flatMap_hexPair_decodeHex {text : List UInt8} (heven : text.length % 2 = 0)
    (hhex : text.all isLowerHex = true) : (decodeHex text).flatMap hexPair = text := by
  induction text using decodeHex.induct with
  | case1 a b rest ih =>
    simp only [List.all_cons, Bool.and_eq_true] at hhex
    have hrest : rest.length % 2 = 0 := by
      simp only [List.length_cons] at heven
      omega
    simp only [decodeHex, List.flatMap_cons, hexPair_decode hhex.1 hhex.2.1, ih hrest hhex.2.2,
      List.cons_append, List.nil_append]
  | case2 text hshort =>
    cases text with
    | nil => rfl
    | cons a text =>
      cases text with
      | nil => simp at heven
      | cons b rest => exact (hshort a b rest rfl).elim

theorem decodeHex_length (text : List UInt8) : (decodeHex text).length = text.length / 2 := by
  induction text using decodeHex.induct with
  | case1 a b rest ih =>
    simp only [decodeHex, List.length_cons, ih]
    omega
  | case2 text hshort =>
    cases text with
    | nil => rfl
    | cons a text =>
      cases text with
      | nil => simp [decodeHex]
      | cons b rest => exact (hshort a b rest rfl).elim

theorem utf8EncodeChar_asciiChar (b : UInt8) (h : isLowerHex b = true) :
    String.utf8EncodeChar (asciiChar b) = [b] :=
  ((byte_digits b).2.2 h).2

theorem flatMap_hexPair_lowerHex (bytes : List UInt8) :
    (bytes.flatMap hexPair).all isLowerHex = true := by
  induction bytes with
  | nil => rfl
  | cons b bytes ih => simp [List.flatMap_cons, List.all_append, hexPair_lowerHex, ih]

theorem asBytes_ascii {text : List UInt8} (h : text.all isLowerHex = true) :
    asBytes (String.ofList (text.map asciiChar)) = text := by
  rw [asBytes_ofList]
  induction text with
  | nil => rfl
  | cons b text ih =>
    simp only [List.all_cons, Bool.and_eq_true] at h
    rw [List.map_cons, List.flatMap_cons, utf8EncodeChar_asciiChar b h.1, ih h.2]
    rfl

theorem asBytes_encodeHex (bytes : List UInt8) : asBytes (encodeHex bytes) = bytes.flatMap hexPair :=
  asBytes_ascii (flatMap_hexPair_lowerHex bytes)

theorem length_flatMap_hexPair (bytes : List UInt8) :
    (bytes.flatMap hexPair).length = 2 * bytes.length := by
  induction bytes with
  | nil => rfl
  | cons b bytes ih =>
    simp only [List.flatMap_cons, hexPair, List.length_append, List.length_cons, List.length_nil, ih]
    omega

theorem validLowerHex_encodeHex (bytes : List UInt8) :
    validLowerHex (encodeHex bytes) (2 * bytes.length) = true := by
  rw [validLowerHex, byteLength, asBytes_encodeHex, flatMap_hexPair_lowerHex, length_flatMap_hexPair]
  simp

theorem encodeHex_injective {a b : List UInt8} (h : encodeHex a = encodeHex b) : a = b := by
  have h' := congrArg (decodeHex ∘ asBytes) h
  simpa [asBytes_encodeHex, decodeHex_flatMap_hexPair] using h'

/-- `to_be_bytes` at a width of `width` bytes. -/
def toBeBytes (width n : Nat) : List UInt8 :=
  (List.range width).reverse.map fun i => UInt8.ofNat (n / 256 ^ i)

def fromBeBytes (bytes : List UInt8) : Nat := bytes.foldl (fun n b => 256 * n + b.toNat) 0

abbrev Bytes32 := Vector UInt8 32

def zero32 : Bytes32 := Vector.replicate 32 0

/-- A SHA-256 value in the wire grammar: 64 lowercase hexadecimal digits. -/
structure Sha256 where
  asStr : String
  canonical : validLowerHex asStr 64 = true
deriving DecidableEq, Repr

namespace Sha256

theorem ext_asStr {a b : Sha256} (h : a.asStr = b.asStr) : a = b := by
  cases a
  cases b
  simpa using h

def parse (value : String) : Option Sha256 :=
  if h : validLowerHex value 64 = true then some ⟨value,h⟩ else none

theorem length_asBytes (d : Sha256) : (asBytes d.asStr).length = 64 := by
  have h := d.canonical
  simp only [validLowerHex, byteLength, Bool.and_eq_true, beq_iff_eq] at h
  exact h.1

theorem all_lowerHex (d : Sha256) : (asBytes d.asStr).all isLowerHex = true := by
  have h := d.canonical
  simp only [validLowerHex, Bool.and_eq_true] at h
  exact h.2

def bytes (d : Sha256) : Bytes32 :=
  ⟨(decodeHex (asBytes d.asStr)).toArray, by simp [decodeHex_length, d.length_asBytes]⟩

/-- The canonical text of 32 digest bytes, `Sha256::parse(&encode_hex(bytes))`. -/
def ofBytes (b : Bytes32) : Sha256 :=
  ⟨encodeHex b.toList, by simpa using validLowerHex_encodeHex b.toList⟩

@[simp] theorem asStr_ofBytes (b : Bytes32) : (ofBytes b).asStr = encodeHex b.toList := rfl

theorem parse_encodeHex (b : Bytes32) : parse (encodeHex b.toList) = some (ofBytes b) := by
  have h : validLowerHex (encodeHex b.toList) 64 = true := (ofBytes b).canonical
  rw [parse, dif_pos h]
  rfl

theorem toList_bytes (d : Sha256) : d.bytes.toList = decodeHex (asBytes d.asStr) := by
  simp [bytes, Vector.toList]

@[simp] theorem bytes_ofBytes (b : Bytes32) : (ofBytes b).bytes = b := by
  apply Vector.toList_inj.mp
  rw [toList_bytes, asStr_ofBytes, asBytes_encodeHex, decodeHex_flatMap_hexPair]

@[simp] theorem ofBytes_bytes (d : Sha256) : ofBytes d.bytes = d := by
  apply ext_asStr
  apply asBytes_injective
  rw [asStr_ofBytes, asBytes_encodeHex, toList_bytes]
  exact flatMap_hexPair_decodeHex (by rw [d.length_asBytes]) d.all_lowerHex

end Sha256

/-- The digest of the concatenated `update` calls. SHA-256 itself is not part of the repository. -/
class Sha256Hasher where
  finalize : List UInt8 → Bytes32

/-- `hash_field`: the field framed by its length as an unsigned 64-bit big-endian integer. -/
def hashField (field : List UInt8) : List UInt8 := toBeBytes 8 field.length ++ field

/-- The digest of a domain separator followed by framed fields. -/
def framedDigest [Sha256Hasher] (domain : String) (fields : List (List UInt8)) : Bytes32 :=
  Sha256Hasher.finalize (asBytes domain ++ fields.flatMap hashField)

end KernAid.Encoding
