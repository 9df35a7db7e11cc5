import Mathlib
import KernAid.CrashLogic
import KernAid.JsonNumber
import KernAid.Unicode

/-! The canonical JSON that Fleet documents are signed over, of the control plane and of three crates. -/

set_option autoImplicit false

namespace KernAid.Canonical

open CrashLogic Encoding Json Unicode

def MAX_SAFE_JSON_INTEGER : Nat := 9007199254740991

structure SafeInteger where
  value : Int
  safe : value.natAbs ≤ MAX_SAFE_JSON_INTEGER
deriving DecidableEq

/-- A number of JavaScript. -/
inductive JsNumber where
  | finite (value : ℚ)
  | negativeZero
  | nonFinite
deriving DecidableEq

def JsNumber.isSafeInteger : JsNumber → Bool
  | .finite value => value.den == 1 && decide (value.num.natAbs ≤ MAX_SAFE_JSON_INTEGER)
  | .negativeZero => true
  | .nonFinite => false

/-- `JSON.stringify` of a number, for the integers it is called with. -/
def JsNumber.stringify : JsNumber → String
  | .finite value => toString value.num
  | .negativeZero => "0"
  | .nonFinite => "null"

def hexChar (n : Nat) : Char := Nat.digitChar n

/-- `JSON.stringify` of one character of a well-formed string. -/
def escapeChar (c : Char) : List Char :=
  if c = '"' then ['\\', '"']
  else if c = '\\' then ['\\', '\\']
  else if c.toNat = 8 then ['\\', 'b']
  else if c.toNat = 9 then ['\\', 't']
  else if c.toNat = 10 then ['\\', 'n']
  else if c.toNat = 12 then ['\\', 'f']
  else if c.toNat = 13 then ['\\', 'r']
  else if c.toNat < 32 then ['\\', 'u', '0', '0', hexChar (c.toNat / 16), hexChar (c.toNat % 16)]
  else [c]

def stringify (s : String) : String :=
  String.ofList (['"'] ++ s.toList.flatMap escapeChar ++ ['"'])

/-- The `TypeError` a JSON value can still cause; cycles, symbols and unpaired surrogates are no
JSON values. -/
inductive CanonicalTypeError where
  | unsafeNumber
deriving DecidableEq

/-- `Object.keys(value).sort()` compares UTF-16 units. -/
def encodeCanonical : Value JsNumber → Except CanonicalTypeError String :=
  Value.fold
    { null := .ok "null"
      bool := fun b => .ok (if b then "true" else "false")
      number := fun n => if n.isSafeInteger then .ok n.stringify else .error .unsafeNumber
      string := fun s => .ok (stringify s)
      array := fun items => do
        let items ← items.mapM id
        return "[" ++ ",".intercalate items ++ "]"
      object := fun members => do
        let entries ← (members.mergeSort fun a b => utf16Le a.1 b.1).mapM fun m => do
          let value ← m.2
          return stringify m.1 ++ ":" ++ value
        return "\x7b" ++ ",".intercalate entries ++ "\x7d" }

/-- The bytes of `canonicalJson`, which are sent and signed as UTF-8. -/
def canonicalJson (value : Value JsNumber) : Except CanonicalTypeError (List UInt8) := do
  let text ← encodeCanonical value
  return asBytes text

/-- `serde_json` opens at most this many arrays and objects inside one another. -/
def RECURSION_LIMIT : Nat := 127

class Serialize (T : Type) where
  /-- `serde_json::to_value`. -/
  toValue : T → Option (Value Number)

instance : Serialize (Value Number) := ⟨some⟩

def Number.isSafe (n : Number) : Bool :=
  match n.asU64, n.asI64 with
  | some value, _ => decide (value ≤ MAX_SAFE_JSON_INTEGER)
  | none, some value => decide (value.natAbs ≤ MAX_SAFE_JSON_INTEGER)
  | none, none => false

/-- A type with derived `Serialize` and `DeserializeOwned`: what it is read from is the text of what
it serializes to, in any order of members and within the recursion limit. -/
class Serde (T : Type) extends Serialize T where
  /-- `serde_json::from_slice`. -/
  fromSlice : List UInt8 → Option T
  distinctKeys : ∀ t v, toValue t = some v → v.distinctKeys = true
  fromSlice_text : ∀ t v w, toValue t = some v → v.Same w → w.everyNumber Number.isSafe = true →
    fromSlice (w.text Number.text) = if w.depth ≤ RECURSION_LIMIT then some t else none

def lastWins {α : Type} (members : List (String × α)) : List (String × α) :=
  members.foldr (fun m kept => if kept.any fun k => k.1 == m.1 then kept else m :: kept) []

def collect : Value Number → Value Number :=
  Value.fold { null := .null, bool := .bool, number := .number, string := .string, array := .array
               object := fun members => .object (lastWins members) }

/-- `serde_json::from_slice::<Value>`. -/
def valueFromSlice (bytes : List UInt8) : Option (Value Number) :=
  (readDocument readNumber RECURSION_LIMIT bytes).map collect

/-- `write_canonical_value`: keys are sorted as `str`, by their UTF-8 bytes. -/
def writeCanonicalValue : Value Number → List UInt8 :=
  Value.fold { null := asBytes "null", bool := jsonBool, number := Number.text
               string := jsonString, array := jsonArray
               object := fun members => jsonObject (members.mergeSort fun a b => utf8Le a.1 b.1) }

section

variable {ε : Type}

structure CanonicalErrors (ε : Type) where
  invalidSize : ε
  invalidJson : ε
  unsafeInteger : ε
  unsupportedJsonValue : ε
  nonCanonicalJson : ε

def validateNumber (errors : CanonicalErrors ε) (number : Number) : Except ε Unit :=
  match number.asU64 with
  | some value =>
    if value ≤ MAX_SAFE_JSON_INTEGER then .ok () else .error errors.unsafeInteger
  | none =>
    match number.asI64 with
    | some value =>
      if value.natAbs ≤ MAX_SAFE_JSON_INTEGER then .ok () else .error errors.unsafeInteger
    | none => .error errors.unsupportedJsonValue

/-- Applies `number` to every number, stopping at the first error. -/
def validateNumbers (number : Number → Except ε Unit) : Value Number → Except ε Unit :=
  Value.fold { null := .ok (), bool := fun _ => .ok (), number := number, string := fun _ => .ok ()
               array := fun results => results.forM id
               object := fun results => results.forM Prod.snd }

def validateJsonValue (errors : CanonicalErrors ε) : Value Number → Except ε Unit :=
  validateNumbers (validateNumber errors)

variable {T : Type}

def canonicalJsonWith [Serialize T] (validate : Value Number → Except ε Unit) (invalidJson : ε)
    (value : T) : Except ε (List UInt8) := do
  let value ← okOr (Serialize.toValue value) invalidJson
  validate value
  return writeCanonicalValue value

/-- `import_canonical` of `fleet-client` and of `fleet-audit`. -/
def importCanonicalWith [Serde T] (errors : CanonicalErrors ε) (bytes : List UInt8)
    (maximum : Nat) : Except ε T := do
  require (bytes.length ≠ 0 ∧ bytes.length ≤ maximum) errors.invalidSize
  let value ← okOr (valueFromSlice bytes) errors.invalidJson
  validateJsonValue errors value
  let parsed ← okOr (Serde.fromSlice bytes : Option T) errors.invalidJson
  let canonical ← canonicalJsonWith (validateJsonValue errors) errors.invalidJson parsed
  require (canonical = bytes) errors.nonCanonicalJson
  return parsed

end

namespace FleetClient

inductive FleetClientError where
  | transferTooLarge
  | invalidJson
  | unsafeInteger
  | unsupportedJsonValue
  | nonCanonicalJson
deriving DecidableEq

def errors : CanonicalErrors FleetClientError :=
  { invalidSize := .transferTooLarge, invalidJson := .invalidJson, unsafeInteger := .unsafeInteger
    unsupportedJsonValue := .unsupportedJsonValue, nonCanonicalJson := .nonCanonicalJson }

def canonicalJson {T : Type} [Serialize T] : T → Except FleetClientError (List UInt8) :=
  canonicalJsonWith (validateJsonValue errors) errors.invalidJson

def importCanonical {T : Type} [Serde T] : List UInt8 → Nat → Except FleetClientError T :=
  importCanonicalWith errors

end FleetClient

namespace FleetAudit

inductive FleetAuditError where
  | eventTooLarge
  | invalidJson
  | unsafeInteger
  | unsupportedJsonValue
  | nonCanonicalJson
deriving DecidableEq

def errors : CanonicalErrors FleetAuditError :=
  { invalidSize := .eventTooLarge, invalidJson := .invalidJson, unsafeInteger := .unsafeInteger
    unsupportedJsonValue := .unsupportedJsonValue, nonCanonicalJson := .nonCanonicalJson }

def canonicalJson {T : Type} [Serialize T] : T → Except FleetAuditError (List UInt8) :=
  canonicalJsonWith (validateJsonValue errors) errors.invalidJson

def importCanonical {T : Type} [Serde T] : List UInt8 → Nat → Except FleetAuditError T :=
  importCanonicalWith errors

end FleetAudit

namespace ResidentWorkOrders

inductive ResidentWorkOrderError where
  | stateCorrupt
deriving DecidableEq

/-- `validate_json` asks for either reading of a number and has one error. -/
def validateJson : Value Number → Except ResidentWorkOrderError Unit :=
  validateNumbers fun number =>
    if (number.asU64.any fun value => decide (value ≤ MAX_SAFE_JSON_INTEGER)) ||
        number.asI64.any fun value => decide (value.natAbs ≤ MAX_SAFE_JSON_INTEGER) then .ok ()
    else .error .stateCorrupt

def canonicalJson {T : Type} [Serialize T] : T → Except ResidentWorkOrderError (List UInt8) :=
  canonicalJsonWith validateJson .stateCorrupt

/-- The bytes are not read as a `Value` first. -/
def importCanonical {T : Type} [Serde T] (bytes : List UInt8) (maximum : Nat) :
    Except ResidentWorkOrderError T := do
  require (bytes ≠ [] ∧ bytes.length ≤ maximum) .stateCorrupt
  let parsed ← okOr (Serde.fromSlice bytes : Option T) .stateCorrupt
  let canonical ← canonicalJson parsed
  require (canonical = bytes) .stateCorrupt
  return parsed

end ResidentWorkOrders

section Validation

variable {ε : Type}

theorem validateNumbers_eq_ok {number : Number → Except ε Unit} {p : Number → Bool}
    (hnumber : ∀ n, number n = .ok () ↔ p n = true) (v : Value Number) :
    validateNumbers number v = .ok () ↔ v.everyNumber p = true := by
  induction v with
  | null => simp [validateNumbers, Value.everyNumber, Value.fold]
  | bool b => simp [validateNumbers, Value.everyNumber, Value.fold]
  | number n => exact hnumber n
  | string s => simp [validateNumbers, Value.everyNumber, Value.fold]
  | array items ih =>
    rw [everyNumber_array, validateNumbers, fold_array, forM_eq_ok, List.forall_mem_map]
    exact forall₂_congr ih
  | object members ih =>
    rw [everyNumber_object, validateNumbers, fold_object, forM_eq_ok, List.forall_mem_map]
    exact forall₂_congr ih

theorem validateNumber_eq_ok (errors : CanonicalErrors ε) (n : Number) :
    validateNumber errors n = .ok () ↔ Number.isSafe n = true := by
  rw [validateNumber, Number.isSafe]
  cases n.asU64 with
  | some value => by_cases h : value ≤ MAX_SAFE_JSON_INTEGER <;> simp [h]
  | none =>
    cases n.asI64 with
    | some value => by_cases h : value.natAbs ≤ MAX_SAFE_JSON_INTEGER <;> simp [h]
    | none => simp

theorem validateJsonValue_eq_ok (errors : CanonicalErrors ε) (v : Value Number) :
    validateJsonValue errors v = .ok () ↔ v.everyNumber Number.isSafe = true :=
  validateNumbers_eq_ok (validateNumber_eq_ok errors) v

theorem validateJson_eq_ok (v : Value Number) :
    ResidentWorkOrders.validateJson v = .ok () ↔ v.everyNumber Number.isSafe = true := by
  refine validateNumbers_eq_ok (fun n => ?_) v
  have hsafe : ((n.asU64.any fun value => decide (value ≤ MAX_SAFE_JSON_INTEGER)) ||
      n.asI64.any fun value => decide (value.natAbs ≤ MAX_SAFE_JSON_INTEGER)) =
        Number.isSafe n := by
    cases n with
    | posInt n =>
      simp only [Number.isSafe, Number.asU64, Number.asI64]
      split_ifs <;> simp
    | negInt n hn => simp [Number.isSafe, Number.asU64, Number.asI64]
    | float token => rfl
  rw [hsafe]
  by_cases h : Number.isSafe n = true <;> simp [h]

theorem isInteger_of_isSafe {n : Number} (h : Number.isSafe n = true) : n.isInteger = true := by
  cases n with
  | posInt n => rfl
  | negInt n hn => rfl
  | float token => cases h

end Validation

theorem writeCanonicalValue_eq (v : Value Number) :
    writeCanonicalValue v = (v.sortKeys utf8Le).text Number.text := by
  induction v with
  | null => rfl
  | bool b => rfl
  | number n => rfl
  | string s => rfl
  | array items ih =>
    rw [writeCanonicalValue, fold_array, sortKeys_array, text_array, List.map_map]
    exact congrArg jsonArray (List.map_congr_left ih)
  | object members ih =>
    have hobject : writeCanonicalValue (.object members) =
        jsonObject ((members.map fun m => (m.1, writeCanonicalValue m.2)).mergeSort
          fun a b => utf8Le a.1 b.1) := fold_object ..
    have hparts : (members.map fun m => (m.1, writeCanonicalValue m.2)) =
        (members.map fun m => (m.1, m.2.sortKeys utf8Le)).map
          fun m => (m.1, m.2.text Number.text) := by
      rw [List.map_map]
      exact List.map_congr_left fun m hm => Prod.ext rfl (ih m hm)
    rw [hobject, hparts, sortKeys_object, text_object, mergeSort_map_values]

section Encoding

variable {ε T : Type} [Serialize T]

theorem canonicalJsonWith_eq_ok {validate : Value Number → Except ε Unit} {invalidJson : ε}
    (hvalidate : ∀ v, validate v = .ok () ↔ v.everyNumber Number.isSafe = true) {t : T}
    {bytes : List UInt8} :
    canonicalJsonWith validate invalidJson t = .ok bytes ↔
      ∃ v, Serialize.toValue t = some v ∧ v.everyNumber Number.isSafe = true ∧
        (v.sortKeys utf8Le).text Number.text = bytes := by
  simp only [canonicalJsonWith, okOr_eq_ok, bind_ok_iff, pure_eq_ok_iff, writeCanonicalValue_eq]
  refine exists_congr fun v => and_congr_right fun _ => ?_
  constructor
  · rintro ⟨_,hvalid,htext⟩
    exact ⟨(hvalidate v).mp hvalid,htext⟩
  · rintro ⟨hsafe,htext⟩
    exact ⟨(),(hvalidate v).mpr hsafe,htext⟩

end Encoding

section ControlPlane

theorem utf8EncodeChar_ascii (n : Fin 128) :
    (escapeChar (Char.ofNat n)).flatMap String.utf8EncodeChar =
      (String.utf8EncodeChar (Char.ofNat n)).flatMap escapeByte := by
  revert n
  decide +kernel

theorem escapeByte_high (b : UInt8) : 128 ≤ b → escapeByte b = [b] := by
  revert b
  apply forall_byte
  decide +kernel

theorem ofNat_high {n : Nat} (h : 128 ≤ n) (hlt : n < 256) : 128 ≤ UInt8.ofNat n := by
  rw [UInt8.le_iff_toNat_le, UInt8.toNat_ofNat', Nat.mod_eq_of_lt hlt]
  exact h

theorem utf8EncodeChar_high {c : Char} (h : ¬ c.toNat < 128) :
    ∀ b ∈ String.utf8EncodeChar c, 128 ≤ b := by
  have hval : ¬ c.val.toNat ≤ 127 := by
    change ¬ c.toNat ≤ 127
    omega
  intro b hb
  simp only [String.utf8EncodeChar, hval, if_false] at hb
  split_ifs at hb <;> simp only [List.mem_cons, List.not_mem_nil, or_false] at hb
  · obtain rfl | rfl := hb <;> exact ofNat_high (by omega) (by omega)
  · obtain rfl | rfl | rfl := hb <;> exact ofNat_high (by omega) (by omega)
  · obtain rfl | rfl | rfl | rfl := hb <;> exact ofNat_high (by omega) (by omega)

theorem flatMap_escapeChar (c : Char) :
    (escapeChar c).flatMap String.utf8EncodeChar =
      (String.utf8EncodeChar c).flatMap escapeByte := by
  by_cases h : c.toNat < 128
  · have hc := utf8EncodeChar_ascii ⟨c.toNat,h⟩
    simpa using hc
  · have hplain : escapeChar c = [c] := by
      have hquote : c ≠ '"' := by
        rintro rfl
        exact h (by decide)
      have hslash : c ≠ '\\' := by
        rintro rfl
        exact h (by decide)
      simp only [escapeChar, hquote, hslash, if_false]
      split_ifs <;> first | rfl | omega
    rw [hplain, List.flatMap_singleton,
      List.flatMap_congr fun b hb => escapeByte_high b (utf8EncodeChar_high h b hb),
      List.flatMap_singleton']

theorem asBytes_stringify (s : String) : asBytes (stringify s) = jsonString s := by
  have hcontent : (s.toList.flatMap escapeChar).flatMap String.utf8EncodeChar =
      (asBytes s).flatMap escapeByte := by
    conv_rhs => rw [← String.ofList_toList (s := s), asBytes_ofList]
    rw [List.flatMap_assoc, List.flatMap_assoc]
    exact List.flatMap_congr fun c _ => flatMap_escapeChar c
  rw [stringify, asBytes_ofList, List.flatMap_append, List.flatMap_append, hcontent]
  rfl

theorem asBytes_intercalate (items : List String) :
    asBytes (",".intercalate items) = [44].intercalate (items.map asBytes) := by
  induction items with
  | nil => rfl
  | cons item items ih =>
    cases items with
    | nil => simp [List.intercalate]
    | cons next items =>
      rw [String.intercalate_cons_cons, asBytes_append, asBytes_append, ih, List.map_cons,
        List.map_cons, List.map_cons, intercalate_cons_cons, List.append_assoc]
      rfl

theorem mapM_map_ok {α β ε : Type} {F : α → β} {G : β → Except ε String} {bytes : α → List UInt8}
    {items : List α} (h : ∀ a ∈ items, ∃ s, G (F a) = .ok s ∧ asBytes s = bytes a) :
    ∃ texts, (items.map F).mapM G = .ok texts ∧ texts.map asBytes = items.map bytes := by
  induction items with
  | nil => exact ⟨[],rfl,rfl⟩
  | cons a items ih =>
    obtain ⟨s,hs,hbytes⟩ := h a List.mem_cons_self
    obtain ⟨texts,htexts,hmap⟩ := ih fun b hb => h b (List.mem_cons_of_mem a hb)
    refine ⟨s :: texts,?_,by rw [List.map_cons, List.map_cons, hbytes, hmap]⟩
    rw [List.map_cons, List.mapM_cons, hs, htexts]
    rfl

theorem asBytes_digits (n : Nat) : asBytes (Nat.repr n) = jsonNumber n := by
  rw [Nat.repr_eq_ofList_toDigits, asBytes_ofList, jsonNumber, List.map_eq_flatMap]
  refine List.flatMap_congr fun c hc => ?_
  have hdigit := Nat.isDigit_of_mem_toDigits (by decide) (by decide) hc
  have hbound : 48 ≤ c.toNat ∧ c.toNat ≤ 57 := by
    simpa [Char.isDigit, UInt32.le_iff_toNat_le] using hdigit
  have hsize : c.utf8Size = 1 := by
    rw [Char.utf8Size_eq_one_iff, UInt32.le_iff_toNat_le]
    exact Nat.le_trans hbound.2 (by decide)
  rw [String.utf8EncodeChar_eq_singleton hsize]
  rfl

/-- `serde_json` holds a safe integer exactly. -/
def Number.ofSafe (n : SafeInteger) : Number :=
  integerNumber (decide (n.value < 0)) [] n.value.natAbs

def JsNumber.ofSafe (n : SafeInteger) : JsNumber := .finite n.value

def SafeInteger.text (n : SafeInteger) : List UInt8 :=
  if n.value < 0 then 45 :: jsonNumber n.value.natAbs else jsonNumber n.value.natAbs

theorem ofSafe_negative {n : SafeInteger} (h : n.value < 0) :
    ∃ k hk, Number.ofSafe n = .negInt k hk ∧ k.toInt = n.value := by
  have hsafe := n.safe
  rw [MAX_SAFE_JSON_INTEGER] at hsafe
  have hbound : ¬ (n.value.natAbs = 0 ∨ 2 ^ 63 < n.value.natAbs) := by omega
  have hvalue : (Int64.ofInt (-n.value.natAbs)).toInt = n.value := by
    rw [toInt_ofInt_neg hbound]
    omega
  refine ⟨Int64.ofInt (-n.value.natAbs),by rw [hvalue]; exact h,?_,hvalue⟩
  simp only [Number.ofSafe, integerNumber, h, decide_true, if_true, dif_neg hbound]

theorem ofSafe_natural {n : SafeInteger} (h : ¬ n.value < 0) :
    ∃ k, Number.ofSafe n = .posInt k ∧ (k.toNat : Int) = n.value := by
  have hsafe := n.safe
  rw [MAX_SAFE_JSON_INTEGER] at hsafe
  have hlt : n.value.natAbs < 2 ^ 64 := by omega
  simp only [Number.ofSafe, integerNumber, h, decide_false, Bool.false_eq_true, if_false,
    if_pos hlt]
  refine ⟨_,rfl,?_⟩
  rw [UInt64.toNat_ofNat', Nat.mod_eq_of_lt hlt]
  omega

theorem number_text_ofSafe (n : SafeInteger) : (Number.ofSafe n).text = n.text := by
  by_cases h : n.value < 0
  · obtain ⟨k,hk,hn,hvalue⟩ := ofSafe_negative h
    rw [hn, SafeInteger.text, if_pos h, Number.text, hvalue]
  · obtain ⟨k,hn,hvalue⟩ := ofSafe_natural h
    rw [hn, SafeInteger.text, if_neg h, Number.text, ← hvalue, Int.natAbs_natCast]

theorem asBytes_jsNumber (n : SafeInteger) : asBytes (JsNumber.ofSafe n).stringify = n.text := by
  have hnum : (JsNumber.ofSafe n).stringify = toString n.value := by
    simp [JsNumber.ofSafe, JsNumber.stringify]
  rw [hnum, SafeInteger.text]
  cases n.value with
  | ofNat m => exact asBytes_digits m
  | negSucc m =>
    rw [if_pos (Int.negSucc_lt_zero m)]
    change asBytes ("-" ++ Nat.repr (m + 1)) = _
    rw [asBytes_append, asBytes_digits]
    rfl

theorem isSafeInteger_ofSafe (n : SafeInteger) : (JsNumber.ofSafe n).isSafeInteger = true := by
  simp [JsNumber.ofSafe, JsNumber.isSafeInteger, n.safe]

theorem encodeCanonical_array (items : List (Value JsNumber)) :
    encodeCanonical (.array items) = (do
      let items ← (items.map encodeCanonical).mapM id
      return "[" ++ ",".intercalate items ++ "]") :=
  fold_array ..

theorem encodeCanonical_object (members : List (String × Value JsNumber)) :
    encodeCanonical (.object members) = (do
      let entries ← ((members.map fun m => (m.1, encodeCanonical m.2)).mergeSort
        fun a b => utf16Le a.1 b.1).mapM fun m => do
          let value ← m.2
          return stringify m.1 ++ ":" ++ value
      return "\x7b" ++ ",".intercalate entries ++ "\x7d") :=
  fold_object ..

theorem encodeCanonical_ofSafe (v : Value SafeInteger) :
    ∃ s, encodeCanonical (v.mapNumber JsNumber.ofSafe) = .ok s ∧
      asBytes s = (v.sortKeys utf16Le).text SafeInteger.text := by
  induction v with
  | null => exact ⟨"null",rfl,rfl⟩
  | bool b => exact ⟨if b then "true" else "false",rfl,rfl⟩
  | number n =>
    refine ⟨(JsNumber.ofSafe n).stringify,?_,asBytes_jsNumber n⟩
    exact if_pos (isSafeInteger_ofSafe n)
  | string s => exact ⟨stringify s,rfl,asBytes_stringify s⟩
  | array items ih =>
    obtain ⟨texts,htexts,hbytes⟩ := mapM_map_ok
      (F := fun v : Value SafeInteger => encodeCanonical (v.mapNumber JsNumber.ofSafe)) (G := id) ih
    rw [mapNumber_array, encodeCanonical_array, List.map_map]
    refine ⟨_,by rw [Function.comp_def, htexts]; rfl,?_⟩
    rw [asBytes_append, asBytes_append, asBytes_intercalate, hbytes, sortKeys_array, text_array,
      List.map_map, jsonArray]
    rfl
  | object members ih =>
    have hsorted : ∀ m ∈ members.mergeSort fun a b => utf16Le a.1 b.1, ∃ s,
        (do let value ← encodeCanonical (m.2.mapNumber JsNumber.ofSafe)
            return stringify m.1 ++ ":" ++ value) = (.ok s : Except CanonicalTypeError String) ∧
          asBytes s = jsonString m.1 ++ [58] ++ (m.2.sortKeys utf16Le).text SafeInteger.text := by
      intro m hm
      obtain ⟨s,hs,hbytes⟩ := ih m ((List.mergeSort_perm members _).mem_iff.mp hm)
      refine ⟨stringify m.1 ++ ":" ++ s,by rw [hs]; rfl,?_⟩
      rw [asBytes_append, asBytes_append, asBytes_stringify, hbytes]
      rfl
    obtain ⟨texts,htexts,hbytes⟩ := mapM_map_ok
      (F := fun m : String × Value SafeInteger =>
        (m.1, encodeCanonical (m.2.mapNumber JsNumber.ofSafe)))
      (G := fun m => do
        let value ← m.2
        return stringify m.1 ++ ":" ++ value) hsorted
    rw [mapNumber_object, encodeCanonical_object, List.map_map]
    simp only [Function.comp_def]
    rw [mergeSort_map_values utf16Le fun v : Value SafeInteger =>
      encodeCanonical (v.mapNumber JsNumber.ofSafe)]
    refine ⟨_,by rw [htexts]; rfl,?_⟩
    rw [asBytes_append, asBytes_append, asBytes_intercalate, hbytes, sortKeys_object,
      mergeSort_map_values, text_object, List.map_map, jsonObject, List.map_map]
    rfl

end ControlPlane

section SafeValues

theorem isSafe_ofSafe (n : SafeInteger) : Number.isSafe (Number.ofSafe n) = true := by
  have hsafe := n.safe
  by_cases h : n.value < 0
  · obtain ⟨k,hk,hn,hvalue⟩ := ofSafe_negative h
    simpa [hn, Number.isSafe, Number.asU64, Number.asI64, hvalue] using hsafe
  · obtain ⟨k,hn,hvalue⟩ := ofSafe_natural h
    rw [← hvalue, Int.natAbs_natCast] at hsafe
    simpa [hn, Number.isSafe, Number.asU64] using hsafe

theorem everyNumber_ofSafe (v : Value SafeInteger) :
    (v.mapNumber Number.ofSafe).everyNumber Number.isSafe = true := by
  induction v with
  | null => rfl
  | bool b => rfl
  | number n => exact isSafe_ofSafe n
  | string s => rfl
  | array items ih =>
    rw [mapNumber_array, everyNumber_array, List.forall_mem_map]
    exact ih
  | object members ih =>
    rw [mapNumber_object, everyNumber_object, List.forall_mem_map]
    exact ih

theorem text_ofSafe (v : Value SafeInteger) :
    (v.mapNumber Number.ofSafe).text Number.text = v.text SafeInteger.text := by
  rw [Value.text, fold_mapNumber]
  simp only [number_text_ofSafe]
  rfl

theorem canonicalJsonWith_ofSafe {ε : Type} {validate : Value Number → Except ε Unit}
    {invalidJson : ε} (hvalidate : ∀ v, validate v = .ok () ↔ v.everyNumber Number.isSafe = true)
    (v : Value SafeInteger) :
    canonicalJsonWith validate invalidJson (v.mapNumber Number.ofSafe) =
      .ok ((v.sortKeys utf8Le).text SafeInteger.text) :=
  (canonicalJsonWith_eq_ok hvalidate).mpr ⟨_,rfl,everyNumber_ofSafe v,
    by rw [sortKeys_mapNumber, text_ofSafe]⟩

theorem fleetClient_ofSafe (v : Value SafeInteger) :
    FleetClient.canonicalJson (v.mapNumber Number.ofSafe) =
      .ok ((v.sortKeys utf8Le).text SafeInteger.text) :=
  canonicalJsonWith_ofSafe (validateJsonValue_eq_ok _) v

theorem fleetAudit_ofSafe (v : Value SafeInteger) :
    FleetAudit.canonicalJson (v.mapNumber Number.ofSafe) =
      .ok ((v.sortKeys utf8Le).text SafeInteger.text) :=
  canonicalJsonWith_ofSafe (validateJsonValue_eq_ok _) v

theorem workOrders_ofSafe (v : Value SafeInteger) :
    ResidentWorkOrders.canonicalJson (v.mapNumber Number.ofSafe) =
      .ok ((v.sortKeys utf8Le).text SafeInteger.text) :=
  canonicalJsonWith_ofSafe validateJson_eq_ok v

theorem controlPlane_ofSafe (v : Value SafeInteger) :
    canonicalJson (v.mapNumber JsNumber.ofSafe) =
      .ok ((v.sortKeys utf16Le).text SafeInteger.text) := by
  obtain ⟨s,hs,hbytes⟩ := encodeCanonical_ofSafe v
  rw [canonicalJson, hs, ← hbytes]
  rfl

def Number.toInt : Number → Option Int
  | .posInt k => some k.toNat
  | .negInt k _ => some k.toInt
  | .float _ => none

def toSafe (n : Number) : Option SafeInteger :=
  (Number.toInt n).bind fun value =>
    if h : value.natAbs ≤ MAX_SAFE_JSON_INTEGER then some ⟨value,h⟩ else none

theorem toSafe_ofSafe (n : SafeInteger) : toSafe (Number.ofSafe n) = some n := by
  have hint : Number.toInt (Number.ofSafe n) = some n.value := by
    by_cases h : n.value < 0
    · obtain ⟨k,hk,hn,hvalue⟩ := ofSafe_negative h
      rw [hn, Number.toInt, hvalue]
    · obtain ⟨k,hn,hvalue⟩ := ofSafe_natural h
      rw [hn, Number.toInt, hvalue]
  rw [toSafe, hint, Option.bind_some, dif_pos n.safe]

def readSafeInteger (input : List UInt8) : Option (SafeInteger × List UInt8) :=
  (readNumber input).bind fun r => (toSafe r.1).map fun n => (n, r.2)

theorem safeInteger_format :
    NumberFormat (fun _ : SafeInteger => true) SafeInteger.text readSafeInteger where
  head n _ := by
    obtain ⟨b,rest,h,hb⟩ :=
      number_format.head (Number.ofSafe n) (isInteger_of_isSafe (isSafe_ofSafe n))
    exact ⟨b,rest,by rw [← number_text_ofSafe, h],hb⟩
  read n rest _ hends := by
    rw [readSafeInteger, ← number_text_ofSafe,
      number_format.read _ rest (isInteger_of_isSafe (isSafe_ofSafe n)) hends, Option.bind_some,
      toSafe_ofSafe, Option.map_some]

theorem everyNumber_true {ν : Type} (v : Value ν) : v.everyNumber (fun _ => true) = true := by
  induction v with
  | null => rfl
  | bool b => rfl
  | number n => rfl
  | string s => rfl
  | array items ih => exact everyNumber_array.mpr ih
  | object members ih => exact everyNumber_object.mpr ih

theorem same_of_text_eq {le le' : String → String → Bool} {v w : Value SafeInteger}
    (h : (v.sortKeys le).text SafeInteger.text = (w.sortKeys le').text SafeInteger.text) :
    v.Same w :=
  Value.Same.of_sortKeys_eq
    (text_injective safeInteger_format (everyNumber_true _) (everyNumber_true _) h)

end SafeValues

section Import

theorem mem_of_mem_lastWins {α : Type} {members : List (String × α)} {m : String × α}
    (h : m ∈ lastWins members) : m ∈ members := by
  induction members with
  | nil => exact h
  | cons n members ih =>
    rw [lastWins, List.foldr_cons] at h
    split_ifs at h with hkept
    · exact List.mem_cons_of_mem n (ih h)
    · obtain rfl | h := List.mem_cons.mp h
      · exact List.mem_cons_self
      · exact List.mem_cons_of_mem n (ih h)

theorem collect_array (items : List (Value Number)) :
    collect (.array items) = .array (items.map collect) :=
  fold_array ..

theorem collect_object (members : List (String × Value Number)) :
    collect (.object members) = .object (lastWins (members.map fun m => (m.1, collect m.2))) :=
  fold_object ..

theorem everyNumber_collect {p : Number → Bool} (v : Value Number)
    (h : v.everyNumber p = true) : (collect v).everyNumber p = true := by
  induction v with
  | null => exact h
  | bool b => exact h
  | number n => exact h
  | string s => exact h
  | array items ih =>
    rw [everyNumber_array] at h
    rw [collect_array, everyNumber_array, List.forall_mem_map]
    exact fun v hv => ih v hv (h v hv)
  | object members ih =>
    rw [everyNumber_object] at h
    rw [collect_object, everyNumber_object]
    intro m hm
    obtain ⟨n,hn,rfl⟩ := List.mem_map.mp (mem_of_mem_lastWins hm)
    exact ih n hn (h n hn)

variable {ε T : Type} [Serde T]

def nesting (t : T) : Nat := ((Serialize.toValue t).map Value.depth).getD 0

theorem fromSlice_canonical {t : T} {v : Value Number} (hv : Serialize.toValue t = some v)
    (hsafe : v.everyNumber Number.isSafe = true) :
    Serde.fromSlice ((v.sortKeys utf8Le).text Number.text) =
      if nesting t ≤ RECURSION_LIMIT then some t else none := by
  have hdepth : (v.sortKeys utf8Le).depth ≤ RECURSION_LIMIT ↔ nesting t ≤ RECURSION_LIMIT := by
    rw [depth_sortKeys_le, nesting, hv]
    rfl
  rw [Serde.fromSlice_text t v _ hv (same_sortKeys utf8Le v) ((everyNumber_sortKeys _ v).mpr hsafe)]
  simp only [hdepth]

theorem everyNumber_isInteger {v : Value Number} (h : v.everyNumber Number.isSafe = true) :
    v.everyNumber Number.isInteger = true := by
  induction v with
  | null => rfl
  | bool b => rfl
  | number n => exact isInteger_of_isSafe h
  | string s => rfl
  | array items ih =>
    rw [everyNumber_array] at h ⊢
    exact fun v hv => ih v hv (h v hv)
  | object members ih =>
    rw [everyNumber_object] at h ⊢
    exact fun m hm => ih m hm (h m hm)

theorem valueFromSlice_canonical {v : Value Number} (hsafe : v.everyNumber Number.isSafe = true) :
    valueFromSlice ((v.sortKeys utf8Le).text Number.text) =
      if v.depth ≤ RECURSION_LIMIT then some (collect (v.sortKeys utf8Le)) else none := by
  have hsorted : (v.sortKeys utf8Le).everyNumber Number.isSafe = true :=
    (everyNumber_sortKeys _ v).mpr hsafe
  rw [valueFromSlice, readDocument_text_eq number_format (everyNumber_isInteger hsorted)]
  simp only [depth_sortKeys_le]
  split_ifs <;> rfl

theorem text_ne_nil {v : Value Number} (hsafe : v.everyNumber Number.isSafe = true) :
    v.text Number.text ≠ [] := by
  obtain ⟨b,rest,htext,_⟩ := text_head number_format (everyNumber_isInteger hsafe)
  rw [htext]
  exact List.cons_ne_nil b rest

theorem nesting_le_of_fromSlice {t : T} {v : Value Number} (hv : Serialize.toValue t = some v)
    (hsafe : v.everyNumber Number.isSafe = true)
    (h : Serde.fromSlice ((v.sortKeys utf8Le).text Number.text) = some t) :
    nesting t ≤ RECURSION_LIMIT := by
  rw [fromSlice_canonical hv hsafe] at h
  by_contra hnot
  rw [if_neg hnot] at h
  cases h

theorem canonicalJsonWith_injective {validate : Value Number → Except ε Unit} {invalidJson : ε}
    (hvalidate : ∀ v, validate v = .ok () ↔ v.everyNumber Number.isSafe = true) {t u : T}
    {bytes : List UInt8} (ht : canonicalJsonWith validate invalidJson t = .ok bytes)
    (hu : canonicalJsonWith validate invalidJson u = .ok bytes)
    (hnesting : nesting t ≤ RECURSION_LIMIT) : u = t := by
  obtain ⟨v,hv,hvsafe,rfl⟩ := (canonicalJsonWith_eq_ok hvalidate).mp ht
  obtain ⟨w,hw,hwsafe,htext⟩ := (canonicalJsonWith_eq_ok hvalidate).mp hu
  have hread := fromSlice_canonical hv hvsafe
  rw [← htext, fromSlice_canonical hw hwsafe, if_pos hnesting] at hread
  split_ifs at hread
  exact Option.some.inj hread

/-- `import_canonical` of `fleet-client` and `fleet-audit` takes exactly the canonical bytes that
are short and shallow enough. -/
theorem importCanonicalWith_eq_ok (errors : CanonicalErrors ε) {t : T} {bytes : List UInt8}
    {maximum : Nat} :
    importCanonicalWith errors bytes maximum = .ok t ↔
      canonicalJsonWith (validateJsonValue errors) errors.invalidJson t = .ok bytes ∧
        bytes.length ≤ maximum ∧ nesting t ≤ RECURSION_LIMIT := by
  have hencoded := @canonicalJsonWith_eq_ok ε T _ _ errors.invalidJson
    (validateJsonValue_eq_ok errors)
  simp only [importCanonicalWith, okOr_eq_ok, bind_ok_iff, pure_eq_ok_iff, require_eq_ok,
    exists_const]
  constructor
  · rintro ⟨⟨_,hlength⟩,_,_,_,_,parsed,hparsed,_,hcanonical,rfl,rfl⟩
    obtain ⟨v,hv,hsafe,rfl⟩ := hencoded.mp hcanonical
    exact ⟨hcanonical,hlength,nesting_le_of_fromSlice hv hsafe hparsed⟩
  · rintro ⟨hcanonical,hlength,hnesting⟩
    obtain ⟨v,hv,hsafe,rfl⟩ := hencoded.mp hcanonical
    have hsorted : (v.sortKeys utf8Le).everyNumber Number.isSafe = true :=
      (everyNumber_sortKeys _ v).mpr hsafe
    have hdepth : v.depth ≤ RECURSION_LIMIT := by
      rw [nesting, hv] at hnesting
      exact hnesting
    refine ⟨⟨?_,hlength⟩,collect (v.sortKeys utf8Le),?_,(),?_,t,?_,_,hcanonical,rfl,rfl⟩
    · rw [Ne, List.length_eq_zero_iff]
      exact text_ne_nil hsorted
    · rw [valueFromSlice_canonical hsafe, if_pos hdepth]
    · exact (validateJsonValue_eq_ok errors _).mpr (everyNumber_collect _ hsorted)
    · rw [fromSlice_canonical hv hsafe, if_pos hnesting]

theorem workOrders_importCanonical_eq_ok {t : T} {bytes : List UInt8} {maximum : Nat} :
    ResidentWorkOrders.importCanonical bytes maximum = .ok t ↔
      ResidentWorkOrders.canonicalJson t = .ok bytes ∧ bytes.length ≤ maximum ∧
        nesting t ≤ RECURSION_LIMIT := by
  have hencoded := @canonicalJsonWith_eq_ok _ T _ _
    ResidentWorkOrders.ResidentWorkOrderError.stateCorrupt validateJson_eq_ok
  simp only [ResidentWorkOrders.importCanonical, okOr_eq_ok, bind_ok_iff, pure_eq_ok_iff,
    require_eq_ok, exists_const]
  constructor
  · rintro ⟨⟨_,hlength⟩,parsed,hparsed,_,hcanonical,rfl,rfl⟩
    obtain ⟨v,hv,hsafe,rfl⟩ := hencoded.mp hcanonical
    exact ⟨hcanonical,hlength,nesting_le_of_fromSlice hv hsafe hparsed⟩
  · rintro ⟨hcanonical,hlength,hnesting⟩
    obtain ⟨v,hv,hsafe,rfl⟩ := hencoded.mp hcanonical
    have hsorted : (v.sortKeys utf8Le).everyNumber Number.isSafe = true :=
      (everyNumber_sortKeys _ v).mpr hsafe
    refine ⟨⟨text_ne_nil hsorted,hlength⟩,t,?_,_,hcanonical,rfl,rfl⟩
    rw [fromSlice_canonical hv hsafe, if_pos hnesting]

end Import

section ValueType

theorem lastWins_eq_self {α : Type} {members : List (String × α)}
    (h : (members.map Prod.fst).Nodup) : lastWins members = members := by
  induction members with
  | nil => rfl
  | cons m members ih =>
    rw [List.map_cons, List.nodup_cons] at h
    have hfresh : ¬ (members.any fun k => k.1 == m.1) = true := by
      rw [List.any_eq_true]
      rintro ⟨k,hk,hkey⟩
      exact h.1 (List.mem_map.mpr ⟨k,hk,beq_iff_eq.mp hkey⟩)
    have hrest := ih h.2
    rw [lastWins] at hrest ⊢
    rw [List.foldr_cons, hrest, if_neg hfresh]

theorem nodup_lastWins {α : Type} (members : List (String × α)) :
    ((lastWins members).map Prod.fst).Nodup := by
  induction members with
  | nil => exact List.nodup_nil
  | cons m members ih =>
    rw [lastWins, List.foldr_cons]
    split_ifs with hkept
    · exact ih
    · rw [List.map_cons, List.nodup_cons]
      refine ⟨fun hmem => hkept ?_,ih⟩
      obtain ⟨k,hk,hkey⟩ := List.mem_map.mp hmem
      exact List.any_eq_true.mpr ⟨k,hk,beq_iff_eq.mpr hkey⟩

theorem collect_eq_self (v : Value Number) (h : v.distinctKeys = true) : collect v = v := by
  induction v with
  | null => rfl
  | bool b => rfl
  | number n => rfl
  | string s => rfl
  | array items ih =>
    have hitems := everyObject_array.mp h
    rw [collect_array, List.map_congr_left fun v hv => ih v hv (hitems v hv), List.map_id']
  | object members ih =>
    obtain ⟨hkeys,hmembers⟩ := everyObject_object.mp h
    have hparts : (members.map fun m => (m.1, collect m.2)) = members := by
      conv_rhs => rw [← List.map_id' members]
      exact List.map_congr_left fun m hm => Prod.ext rfl (ih m hm (hmembers m hm))
    rw [collect_object, hparts, lastWins_eq_self (of_decide_eq_true hkeys)]

theorem distinctKeys_collect (v : Value Number) : (collect v).distinctKeys = true := by
  induction v with
  | null => rfl
  | bool b => rfl
  | number n => rfl
  | string s => rfl
  | array items ih =>
    rw [collect_array]
    exact everyObject_array.mpr (List.forall_mem_map.mpr ih)
  | object members ih =>
    rw [collect_object]
    refine everyObject_object.mpr ⟨decide_eq_true (nodup_lastWins _),fun m hm => ?_⟩
    obtain ⟨n,hn,rfl⟩ := List.mem_map.mp (mem_of_mem_lastWins hm)
    exact ih n hn

/-- `serde_json::Value`, whose objects are ordered maps. -/
structure MapValue where
  value : Value Number
  sorted : value.sortKeys utf8Le = value
  distinct : value.distinctKeys = true

def MapValue.ofValue (v : Value Number) : MapValue where
  value := (collect v).sortKeys utf8Le
  sorted := sortKeys_sortKeys utf8_keyOrder (distinctKeys_collect v)
  distinct := (same_sortKeys utf8Le _).distinctKeys.mp (distinctKeys_collect v)

theorem MapValue.ext {a b : MapValue} (h : a.value = b.value) : a = b := by
  cases a
  cases b
  cases h
  rfl

theorem MapValue.ofValue_same {m : MapValue} {w : Value Number} (h : m.value.Same w) :
    MapValue.ofValue w = m := by
  apply MapValue.ext
  have hw : w.distinctKeys = true := h.distinctKeys.mp m.distinct
  change (collect w).sortKeys utf8Le = m.value
  rw [collect_eq_self w hw, ← (same_iff_sortKeys_eq utf8_keyOrder m.distinct).mp h, m.sorted]

instance : Serde MapValue where
  toValue m := some m.value
  fromSlice bytes := (readDocument readNumber RECURSION_LIMIT bytes).map MapValue.ofValue
  distinctKeys m v hv := by
    cases hv
    exact m.distinct
  fromSlice_text m v w hv hsame hsafe := by
    cases hv
    rw [readDocument_text_eq number_format (everyNumber_isInteger hsafe)]
    split_ifs
    · rw [Option.map_some, MapValue.ofValue_same hsame]
    · rfl

end ValueType

def encoders : List (Value SafeInteger → Option (List UInt8)) :=
  [fun v => (canonicalJson (v.mapNumber JsNumber.ofSafe)).toOption,
    fun v => (FleetClient.canonicalJson (v.mapNumber Number.ofSafe)).toOption,
    fun v => (FleetAudit.canonicalJson (v.mapNumber Number.ofSafe)).toOption,
    fun v => (ResidentWorkOrders.canonicalJson (v.mapNumber Number.ofSafe)).toOption]

theorem mem_encoders {encode : Value SafeInteger → Option (List UInt8)} (h : encode ∈ encoders) :
    ∃ le, (le = utf16Le ∨ le = utf8Le) ∧
      ∀ v, encode v = some ((v.sortKeys le).text SafeInteger.text) := by
  simp only [encoders, List.mem_cons, List.not_mem_nil, or_false] at h
  obtain rfl | rfl | rfl | rfl := h
  · exact ⟨utf16Le,.inl rfl,fun v => congrArg Except.toOption (controlPlane_ofSafe v)⟩
  · exact ⟨utf8Le,.inr rfl,fun v => congrArg Except.toOption (fleetClient_ofSafe v)⟩
  · exact ⟨utf8Le,.inr rfl,fun v => congrArg Except.toOption (fleetAudit_ofSafe v)⟩
  · exact ⟨utf8Le,.inr rfl,fun v => congrArg Except.toOption (workOrders_ofSafe v)⟩

/-- Where the two orders of keys agree the encoders agree; no encoders write two values alike; and
`import_canonical` takes canonical bytes within its size and nesting limits, and nothing else. -/
theorem canonical_json_is_canonical :
    (∀ v : Value SafeInteger, v.everyObject (agreeOn utf16Le utf8Le) = true →
      ∃ bytes, ∀ encode ∈ encoders, encode v = some bytes) ∧
    (∀ encode ∈ encoders, ∀ encode' ∈ encoders, ∀ v w : Value SafeInteger,
      ¬ v.Same w → encode v ≠ encode' w) ∧
    ∀ (T : Type) [Serde T] (t : T) (bytes : List UInt8) (maximum : Nat),
      (FleetClient.importCanonical bytes maximum = .ok t ↔
        FleetClient.canonicalJson t = .ok bytes ∧ bytes.length ≤ maximum ∧
          nesting t ≤ RECURSION_LIMIT) ∧
      (FleetAudit.importCanonical bytes maximum = .ok t ↔
        FleetAudit.canonicalJson t = .ok bytes ∧ bytes.length ≤ maximum ∧
          nesting t ≤ RECURSION_LIMIT) ∧
      (ResidentWorkOrders.importCanonical bytes maximum = .ok t ↔
        ResidentWorkOrders.canonicalJson t = .ok bytes ∧ bytes.length ≤ maximum ∧
          nesting t ≤ RECURSION_LIMIT) := by
  refine ⟨?_,?_,?_⟩
  · intro v hagree
    refine ⟨(v.sortKeys utf8Le).text SafeInteger.text,fun encode hencode => ?_⟩
    obtain ⟨le,rfl | rfl,htext⟩ := mem_encoders hencode
    · rw [htext, sortKeys_congr v hagree]
    · exact htext v
  · intro encode hencode encode' hencode' v w hdifferent heq
    obtain ⟨le,_,htext⟩ := mem_encoders hencode
    obtain ⟨le',_,htext'⟩ := mem_encoders hencode'
    rw [htext, htext', Option.some.injEq] at heq
    exact hdifferent (same_of_text_eq heq)
  · intro T _ t bytes maximum
    exact ⟨importCanonicalWith_eq_ok FleetClient.errors,importCanonicalWith_eq_ok FleetAudit.errors,
      workOrders_importCanonical_eq_ok⟩

theorem mergeSort_pair {α : Type} (le : α → α → Bool) (a b : α) :
    [a, b].mergeSort le = if le a b then [a, b] else [b, a] := by
  by_cases h : le a b = true <;> simp [List.mergeSort, h]

def zero : SafeInteger := ⟨0,by decide⟩

/-- U+E000 stands before U+10000 in UTF-8 and after it in UTF-16. -/
def swappedKeys : Value SafeInteger :=
  .object [("\uE000", .number zero), (String.singleton (Char.ofNat 0x10000), .number zero)]

theorem swappedKeys_texts : (swappedKeys.sortKeys utf16Le).text SafeInteger.text ≠
    (swappedKeys.sortKeys utf8Le).text SafeInteger.text := by
  have h16 : utf16Le "\uE000" (String.singleton (Char.ofNat 0x10000)) = false := by decide +kernel
  have h8 : utf8Le "\uE000" (String.singleton (Char.ofNat 0x10000)) = true := by decide +kernel
  intro h
  have hsorted := text_injective safeInteger_format (everyNumber_true _) (everyNumber_true _) h
  rw [swappedKeys, sortKeys_object, sortKeys_object, List.map_cons, List.map_cons, List.map_nil,
    List.map_cons, List.map_cons, List.map_nil, mergeSort_pair, mergeSort_pair, if_pos h8, h16,
    if_neg (by decide), Value.object.injEq, List.cons.injEq, Prod.mk.injEq] at hsorted
  have hkey := hsorted.1.1
  revert hkey
  decide +kernel

def nestedArrays : Nat → Value Number
  | 0 => .null
  | n + 1 => .array [nestedArrays n]

theorem nestedArrays_sorted (n : Nat) :
    (nestedArrays n).sortKeys utf8Le = nestedArrays n ∧ (nestedArrays n).distinctKeys = true ∧
      (nestedArrays n).everyNumber Number.isSafe = true ∧ (nestedArrays n).depth = n := by
  induction n with
  | zero => exact ⟨rfl,rfl,rfl,rfl⟩
  | succ n ih =>
    obtain ⟨hsorted,hdistinct,hsafe,hdepth⟩ := ih
    refine ⟨?_,?_,?_,?_⟩
    · rw [nestedArrays, sortKeys_array, List.map_singleton, hsorted]
    · exact everyObject_array.mpr (List.forall_mem_singleton.mpr hdistinct)
    · exact everyNumber_array.mpr (List.forall_mem_singleton.mpr hsafe)
    · simp only [nestedArrays, Value.depth, fold_array] at hdepth ⊢
      simpa using hdepth

def nestedValue (n : Nat) : MapValue :=
  ⟨nestedArrays n,(nestedArrays_sorted n).1,(nestedArrays_sorted n).2.1⟩

theorem canonical_nestedValue (n : Nat) : FleetClient.canonicalJson (nestedValue n) =
    .ok ((nestedArrays n).text Number.text) := by
  obtain ⟨hsorted,_,hsafe,_⟩ := nestedArrays_sorted n
  exact (canonicalJsonWith_eq_ok (validateJsonValue_eq_ok _)).mpr
    ⟨nestedArrays n,rfl,hsafe,by rw [hsorted]⟩

theorem canonical_json_is_canonical_ascii :
    (∃ bytes, ∀ encode ∈ encoders,
      encode (.object [("b", .number zero), ("a", .array [])]) = some bytes) ∧
    FleetClient.importCanonical ((nestedArrays 127).text Number.text) 258 = .ok (nestedValue 127) :=
  ⟨canonical_json_is_canonical.1 _
      (everyObject_object.mpr ⟨agreeOn_of_ascii (by decide +kernel),by decide +kernel⟩),
    (canonical_json_is_canonical.2.2 MapValue (nestedValue 127) _ 258).1.mpr
      ⟨canonical_nestedValue 127,by decide +kernel,
        Nat.le_of_eq (nestedArrays_sorted 127).2.2.2⟩⟩

/-- The control plane and the crates write keys above U+D7FF in different orders, and canonical
bytes that are too long or too deep are refused. -/
theorem canonical_json_limits :
    (∃ v : Value SafeInteger, v.distinctKeys = true ∧
      (canonicalJson (v.mapNumber JsNumber.ofSafe)).toOption ≠
        (FleetClient.canonicalJson (v.mapNumber Number.ofSafe)).toOption) ∧
    (∃ (t : MapValue) (bytes : List UInt8) (maximum : Nat),
      FleetClient.canonicalJson t = .ok bytes ∧ maximum < bytes.length ∧
        ∀ u : MapValue, FleetClient.importCanonical bytes maximum ≠ .ok u) ∧
    ∃ (t : MapValue) (bytes : List UInt8) (maximum : Nat),
      FleetClient.canonicalJson t = .ok bytes ∧ bytes.length ≤ maximum ∧
        FleetClient.importCanonical bytes maximum ≠ .ok t := by
  refine ⟨⟨swappedKeys,by decide +kernel,?_⟩,
    ⟨nestedValue 0,_,3,canonical_nestedValue 0,by decide +kernel,?_⟩,
    ⟨nestedValue 128,_,_,canonical_nestedValue 128,Nat.le_refl _,?_⟩⟩
  · rw [controlPlane_ofSafe, fleetClient_ofSafe]
    intro h
    exact swappedKeys_texts (Option.some.inj h)
  · intro u hu
    have hlength := ((importCanonicalWith_eq_ok FleetClient.errors).mp hu).2.1
    revert hlength
    decide +kernel
  · intro hu
    have hnesting := ((importCanonicalWith_eq_ok FleetClient.errors).mp hu).2.2
    have hdepth : nesting (nestedValue 128) = 128 := (nestedArrays_sorted 128).2.2.2
    rw [hdepth] at hnesting
    exact absurd hnesting (by decide)

end KernAid.Canonical
