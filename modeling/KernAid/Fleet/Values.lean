import KernAid.CrashLogic
import KernAid.Maps

/-! Identifiers, timestamps, digests and transactions that the control plane and its devices share. -/

set_option autoImplicit false

namespace KernAid.Fleet

open CrashLogic

/-- `Number.MAX_SAFE_INTEGER`, and `MAX_SAFE_JSON_INTEGER` on the device. -/
def maxSafeInteger : Nat := 2 ^ 53 - 1

/-- `Date.parse`: milliseconds since the epoch, or nothing where it is not a finite number. -/
class DateParse where
  parse : String → Option Int

/-- `new Date(ms).toISOString()`, or nothing where it throws a `RangeError`. -/
class DateFormat where
  toISOString : Int → Option String

/-- `Date.parse(a) < Date.parse(b)`, which is false where one of them is not a number. -/
def dateBefore [DateParse] (a b : String) : Bool :=
  match DateParse.parse a, DateParse.parse b with
  | some x, some y => x < y
  | _, _ => false

def isSafeInteger (n : Int) : Bool := n.natAbs ≤ maxSafeInteger

/-- `/^[A-Za-z0-9][A-Za-z0-9._:-]*$/` with at most 128 characters. -/
def isPublicIdentifier (value : String) : Bool :=
  match value.toList with
  | [] => false
  | c :: cs => c.isAlphanum && cs.all (fun c => c.isAlphanum || c ∈ ['.', '_', ':', '-']) &&
      value.length ≤ 128

def isLowerHex (c : Char) : Bool := c.isDigit || ('a' ≤ c && c ≤ 'f')

/-- `/^[0-9a-f]{64}$/`. -/
def isSha256 (value : String) : Bool := value.length = 64 && value.toList.all isLowerHex

/-- A digest of one digit throughout. -/
def digits (c : Char) : String := String.ofList (List.replicate 64 c)

theorem isSha256_digits {c : Char} (hc : isLowerHex c = true) : isSha256 (digits c) = true := by
  simp [isSha256, digits, hc]

theorem digits_inj {c d : Char} : digits c = digits d ↔ c = d := by
  simp [digits]

/-- `/^KA-[0-9a-f]{24}$/`. -/
def isDeviceId (value : String) : Bool :=
  match value.toList with
  | 'K' :: 'A' :: '-' :: cs => cs.length = 24 && cs.all isLowerHex
  | _ => false

/-- What is left of a text after a template in which `d` stands for a digit. -/
def afterTemplate : List Char → List Char → Option (List Char)
  | [], rest => some rest
  | _ :: _, [] => none
  | t :: ts, c :: cs => if (if t = 'd' then c.isDigit else c = t) then afterTemplate ts cs else none

/-- `(?:Z|[+-]\d{2}:\d{2})$`. -/
def isZone (rest : List Char) : Bool :=
  rest = ['Z'] || afterTemplate "+dd:dd".toList rest = some [] ||
    afterTemplate "-dd:dd".toList rest = some []

/-- `(?:\.\d+)?` before the zone. -/
def isFractionAndZone (rest : List Char) : Bool :=
  match rest with
  | '.' :: cs => cs.takeWhile Char.isDigit ≠ [] && isZone (cs.dropWhile Char.isDigit)
  | _ => isZone rest

def isRfc3339 [DateParse] (value : String) : Bool :=
  20 ≤ value.length && value.length ≤ 64 &&
    ((afterTemplate "dddd-dd-ddTdd:dd:dd".toList value.toList).any isFractionAndZone) &&
    (DateParse.parse value).isSome

abbrev Table (ρ : Type) := Std.ExtTreeMap String ρ compare

/-- The errors that the store throws, by class. -/
inductive StoreError where
  | invalid
  | authorization
  | revoked
  | replay
  | conflict
  | nonceReplay
  | entitlementPullReplay
  | workOrderState
  | workOrderReplay
  | incidentCaseState
  | incidentCaseReplay
  | enterpriseLicenseRollback
  | enterpriseLicenseConflict
  | enterpriseSeatLimit
deriving DecidableEq, Repr

/-- A transaction: it commits with a result, or throws and leaves the database as it was. -/
abbrev Transaction (σ α : Type) := σ → Except StoreError (α × σ)

def Transaction.call {σ α : Type} (operation : Transaction σ α) (db : σ) : Except StoreError α × σ :=
  match operation db with
  | .ok (result,db') => (.ok result,db')
  | .error e => (.error e,db)

theorem mapError_eq_ok {ε ε' α : Type} {f : ε → ε'} {x : Except ε α} {a : α} :
    x.mapError f = .ok a ↔ x = .ok a := by
  cases x <;> simp [Except.mapError]

theorem mapM_eq_ok {ε α β : Type} {f : α → Except ε β} {g : α → β} {P : α → Prop}
    (hf : ∀ a b, f a = .ok b → b = g a ∧ P a) {l : List α} {l' : List β} (h : l.mapM f = .ok l') :
    l' = l.map g ∧ ∀ a ∈ l, P a := by
  induction l generalizing l' with
  | nil =>
    rw [List.mapM_nil, pure_eq_ok_iff] at h
    subst h
    simp
  | cons a l ih =>
    rw [List.mapM_cons] at h
    obtain ⟨b,hb,h⟩ := bind_ok_iff.mp h
    obtain ⟨bs,hbs,h⟩ := bind_ok_iff.mp h
    rw [pure_eq_ok_iff] at h
    obtain ⟨rfl,ha⟩ := hf a b hb
    obtain ⟨rfl,hl⟩ := ih hbs
    subst h
    exact ⟨rfl,List.forall_mem_cons.mpr ⟨ha,hl⟩⟩

section Transactions

variable {σ α : Type} {operation : Transaction σ α} {db db' : σ} {result : α} {e : StoreError}

theorem Transaction.call_ok (h : operation db = .ok (result,db')) :
    operation.call db = (.ok result,db') := by
  rw [call, h]

theorem Transaction.call_error (h : operation db = .error e) : operation.call db = (.error e,db) := by
  rw [call, h]

theorem Transaction.call_cases (operation : Transaction σ α) (db : σ) :
    (∃ result db', operation db = .ok (result,db') ∧ operation.call db = (.ok result,db')) ∨
      ∃ e, operation db = .error e ∧ operation.call db = (.error e,db) := by
  cases h : operation db with
  | ok committed => exact .inl ⟨committed.1,committed.2,rfl,call_ok h⟩
  | error e => exact .inr ⟨e,rfl,call_error h⟩

theorem Transaction.after_call {P : σ → Prop} (operation : Transaction σ α) (hthrown : P db)
    (hcommitted : ∀ result db', operation db = .ok (result,db') → P db') : P (operation.call db).2 := by
  rcases Transaction.call_cases operation db with ⟨result,db',hok,hcall⟩ | ⟨_,_,hcall⟩
  · rw [hcall]
    exact hcommitted result db' hok
  · rw [hcall]
    exact hthrown

end Transactions

end KernAid.Fleet
