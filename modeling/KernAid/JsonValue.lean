import Mathlib
import KernAid.Json

/-! JSON values as trees, generic in their numbers, and the values that differ only in member order. -/

set_option autoImplicit false

namespace KernAid.Json

open Encoding

/-- The members of an object stand in the order of its text. -/
inductive Value (ν : Type) where
  | null
  | bool (b : Bool)
  | number (n : ν)
  | string (s : String)
  | array (items : List (Value ν))
  | object (members : List (String × Value ν))

/-- What a recursive function does at each kind of value, the parts being done already. -/
structure Cases (ν α : Type) where
  null : α
  bool : Bool → α
  number : ν → α
  string : String → α
  array : List α → α
  object : List (String × α) → α

section Fold

variable {ν α : Type}

mutual

def Value.fold (f : Cases ν α) : Value ν → α
  | .null => f.null
  | .bool b => f.bool b
  | .number n => f.number n
  | .string s => f.string s
  | .array items => f.array (foldItems f items)
  | .object members => f.object (foldMembers f members)

def foldItems (f : Cases ν α) : List (Value ν) → List α
  | [] => []
  | v :: rest => v.fold f :: foldItems f rest

def foldMembers (f : Cases ν α) : List (String × Value ν) → List (String × α)
  | [] => []
  | (key, v) :: rest => (key, v.fold f) :: foldMembers f rest

end

theorem foldItems_eq (f : Cases ν α) (items : List (Value ν)) :
    foldItems f items = items.map (Value.fold f) := by
  induction items with
  | nil => rfl
  | cons v rest ih => rw [foldItems, ih, List.map_cons]

theorem foldMembers_eq (f : Cases ν α) (members : List (String × Value ν)) :
    foldMembers f members = members.map fun m => (m.1, m.2.fold f) := by
  induction members with
  | nil => rfl
  | cons m rest ih =>
    obtain ⟨key,v⟩ := m
    rw [foldMembers, ih, List.map_cons]

@[simp] theorem fold_array (f : Cases ν α) (items : List (Value ν)) :
    (Value.array items).fold f = f.array (items.map (Value.fold f)) := by
  rw [Value.fold, foldItems_eq]

@[simp] theorem fold_object (f : Cases ν α) (members : List (String × Value ν)) :
    (Value.object members).fold f = f.object (members.map fun m => (m.1, m.2.fold f)) := by
  rw [Value.fold, foldMembers_eq]

end Fold

section

variable {ν : Type}

variable {μ : Type} {n : Nat} {items : List (Value ν)} {members : List (String × Value ν)}

@[induction_eliminator]
theorem Value.induction {motive : Value ν → Prop} (null : motive .null)
    (bool : ∀ b, motive (.bool b)) (number : ∀ n, motive (.number n))
    (string : ∀ s, motive (.string s))
    (array : ∀ items, (∀ v ∈ items, motive v) → motive (.array items))
    (object : ∀ members, (∀ m ∈ members, motive m.2) → motive (.object members)) (v : Value ν) :
    motive v := by
  refine @Value.rec ν motive (fun items => ∀ v ∈ items, motive v)
    (fun members => ∀ m ∈ members, motive m.2) (fun m => motive m.2)
    null bool number string array object ?_ ?_ ?_ ?_ ?_ v
  · simp
  · intro v rest hv hrest w hw
    obtain rfl | hw := List.mem_cons.mp hw
    · exact hv
    · exact hrest w hw
  · simp
  · intro m rest hm hrest w hw
    obtain rfl | hw := List.mem_cons.mp hw
    · exact hm
    · exact hrest w hw
  · intro _ _ hv
    exact hv

def Value.mapNumber {μ : Type} (f : ν → μ) : Value ν → Value μ :=
  Value.fold { null := .null, bool := .bool, number := fun n => .number (f n), string := .string
               array := .array, object := .object }

theorem fold_mapNumber {α : Type} (f : ν → μ) (c : Cases μ α) (v : Value ν) :
    (v.mapNumber f).fold c = v.fold { c with number := fun n => c.number (f n) } := by
  induction v with
  | null => rfl
  | bool b => rfl
  | number n => rfl
  | string s => rfl
  | array items ih =>
    simp only [Value.mapNumber, fold_array, List.map_map] at ih ⊢
    congr 1
    exact List.map_congr_left ih
  | object members ih =>
    simp only [Value.mapNumber, fold_object, List.map_map] at ih ⊢
    congr 1
    exact List.map_congr_left fun m hm => Prod.ext rfl (ih m hm)

theorem mapNumber_array (f : ν → μ) (items : List (Value ν)) :
    (Value.array items).mapNumber f = .array (items.map (Value.mapNumber f)) :=
  fold_array ..

theorem mapNumber_object (f : ν → μ) (members : List (String × Value ν)) :
    (Value.object members).mapNumber f = .object (members.map fun m => (m.1, m.2.mapNumber f)) :=
  fold_object ..

def Value.depth : Value ν → Nat :=
  Value.fold { null := 0, bool := fun _ => 0, number := fun _ => 0, string := fun _ => 0
               array := fun depths => depths.foldr max 0 + 1
               object := fun depths => (depths.map Prod.snd).foldr max 0 + 1 }

theorem foldr_max_le {depths : List Nat} :
    depths.foldr max 0 ≤ n ↔ ∀ d ∈ depths, d ≤ n := by
  induction depths with
  | nil => simp
  | cons d rest ih => simp [ih]

theorem depth_array_le :
    (Value.array items).depth ≤ n + 1 ↔ ∀ v ∈ items, v.depth ≤ n := by
  simp [Value.depth, foldr_max_le]

theorem depth_object_le :
    (Value.object members).depth ≤ n + 1 ↔ ∀ m ∈ members, m.2.depth ≤ n := by
  simp only [Value.depth, fold_object, List.map_map, Nat.add_le_add_iff_right, foldr_max_le,
    List.forall_mem_map, Function.comp_apply]

/-- Whether `p` holds of the numbers of a value. -/
def Value.everyNumber (p : ν → Bool) : Value ν → Bool :=
  Value.fold { null := true, bool := fun _ => true, number := p, string := fun _ => true
               array := fun results => results.all id
               object := fun results => results.all Prod.snd }

def Value.everyObject (p : List String → Bool) : Value ν → Bool :=
  Value.fold { null := true, bool := fun _ => true, number := fun _ => true
               string := fun _ => true
               array := fun results => results.all id
               object := fun results => p (results.map Prod.fst) && results.all Prod.snd }

theorem everyNumber_array {p : ν → Bool} :
    (Value.array items).everyNumber p = true ↔ ∀ v ∈ items, v.everyNumber p = true := by
  simp [Value.everyNumber]

theorem everyNumber_object {p : ν → Bool} :
    (Value.object members).everyNumber p = true ↔ ∀ m ∈ members, m.2.everyNumber p = true := by
  simp [Value.everyNumber]

theorem everyObject_array {p : List String → Bool} :
    (Value.array items).everyObject p = true ↔ ∀ v ∈ items, v.everyObject p = true := by
  simp [Value.everyObject]

theorem everyObject_object {p : List String → Bool} :
    (Value.object members).everyObject p = true ↔
      p (members.map Prod.fst) = true ∧ ∀ m ∈ members, m.2.everyObject p = true := by
  simp [Value.everyObject, Function.comp_def]

def Value.distinctKeys : Value ν → Bool := Value.everyObject fun keys => decide keys.Nodup

/-- The text of a value without any blank, as `serde_json` and `JSON.stringify` write it. -/
def Value.text (number : ν → List UInt8) : Value ν → List UInt8 :=
  Value.fold { null := asBytes "null", bool := jsonBool, number := number, string := jsonString
               array := jsonArray, object := jsonObject }

theorem text_array (number : ν → List UInt8) (items : List (Value ν)) :
    (Value.array items).text number = jsonArray (items.map (Value.text number)) :=
  fold_array ..

theorem text_object (number : ν → List UInt8) (members : List (String × Value ν)) :
    (Value.object members).text number =
      jsonObject (members.map fun m => (m.1, m.2.text number)) :=
  fold_object ..

end

section Order

variable {ν : Type} {le le' : String → String → Bool}

def Value.sortKeys (le : String → String → Bool) : Value ν → Value ν :=
  Value.fold { null := .null, bool := .bool, number := .number, string := .string, array := .array
               object := fun members => .object (members.mergeSort fun a b => le a.1 b.1) }

theorem sortKeys_array (items : List (Value ν)) :
    (Value.array items).sortKeys le = .array (items.map (Value.sortKeys le)) :=
  fold_array ..

theorem sortKeys_object (members : List (String × Value ν)) :
    (Value.object members).sortKeys le =
      .object ((members.map fun m => (m.1, m.2.sortKeys le)).mergeSort fun a b => le a.1 b.1) :=
  fold_object ..

theorem sortKeys_object_eq_self {members : List (String × Value ν)}
    (hkeys : (members.map Prod.fst).Pairwise fun a b => le a b = true)
    (hparts : ∀ m ∈ members, m.2.sortKeys le = m.2) :
    (Value.object members).sortKeys le = .object members := by
  have hmap : (members.map fun m => (m.1, m.2.sortKeys le)) = members := by
    conv_rhs => rw [← List.map_id' members]
    exact List.map_congr_left fun m hm => Prod.ext rfl (hparts m hm)
  rw [List.pairwise_map] at hkeys
  rw [sortKeys_object, hmap, List.mergeSort_of_pairwise hkeys]

theorem mergeSort_map_values {α β : Type} (le : String → String → Bool) (f : α → β)
    (members : List (String × α)) :
    ((members.map fun m => (m.1, f m.2)).mergeSort fun a b => le a.1 b.1) =
      (members.mergeSort fun a b => le a.1 b.1).map fun m => (m.1, f m.2) := by
  symm
  apply List.map_mergeSort
  intros
  rfl

def agreeOn (le le' : String → String → Bool) (keys : List String) : Bool :=
  keys.all fun a => keys.all fun b => le a b == le' a b

theorem agreeOn_iff {keys : List String} :
    agreeOn le le' keys = true ↔ ∀ a ∈ keys, ∀ b ∈ keys, le a b = le' a b := by
  simp [agreeOn]

theorem mergeSort_congr {α : Type} {r s : α → α → Bool} {l : List α}
    (h : ∀ a ∈ l, ∀ b ∈ l, r a b = s a b) : l.mergeSort r = l.mergeSort s := by
  simpa using List.map_mergeSort (f := id) h

theorem sortKeys_congr (v : Value ν) (h : v.everyObject (agreeOn le le') = true) :
    v.sortKeys le = v.sortKeys le' := by
  induction v with
  | null => rfl
  | bool b => rfl
  | number n => rfl
  | string s => rfl
  | array items ih =>
    have hitems := everyObject_array.mp h
    rw [sortKeys_array, sortKeys_array]
    congr 1
    exact List.map_congr_left fun v hv => ih v hv (hitems v hv)
  | object members ih =>
    obtain ⟨hkeys,hmembers⟩ := everyObject_object.mp h
    rw [agreeOn_iff] at hkeys
    have hparts : (members.map fun m => (m.1, m.2.sortKeys le)) =
        members.map fun m => (m.1, m.2.sortKeys le') :=
      List.map_congr_left fun m hm => by rw [ih m hm (hmembers m hm)]
    rw [sortKeys_object, sortKeys_object, hparts]
    congr 1
    refine mergeSort_congr fun a ha b hb => hkeys a.1 ?_ b.1 ?_
    · obtain ⟨m,hm,rfl⟩ := List.mem_map.mp ha
      exact List.mem_map.mpr ⟨m,hm,rfl⟩
    · obtain ⟨m,hm,rfl⟩ := List.mem_map.mp hb
      exact List.mem_map.mpr ⟨m,hm,rfl⟩

theorem mem_sortKeys_members {members : List (String × Value ν)} {p : Value ν → Prop} :
    (∀ m ∈ (members.map fun m => (m.1, m.2.sortKeys le)).mergeSort fun a b => le a.1 b.1, p m.2) ↔
      ∀ m ∈ members, p (m.2.sortKeys le) := by
  simp only [(List.mergeSort_perm _ _).mem_iff, List.forall_mem_map]

theorem depth_sortKeys_le (v : Value ν) (n : Nat) : (v.sortKeys le).depth ≤ n ↔ v.depth ≤ n := by
  induction v generalizing n with
  | null => exact Iff.rfl
  | bool b => exact Iff.rfl
  | number k => exact Iff.rfl
  | string s => exact Iff.rfl
  | array items ih =>
    cases n with
    | zero => simp [Value.depth, sortKeys_array]
    | succ n =>
      rw [sortKeys_array, depth_array_le, depth_array_le, List.forall_mem_map]
      exact forall₂_congr fun v hv => ih v hv n
  | object members ih =>
    cases n with
    | zero => simp [Value.depth, sortKeys_object]
    | succ n =>
      rw [sortKeys_object, depth_object_le, depth_object_le]
      exact (mem_sortKeys_members (p := fun v => v.depth ≤ n)).trans
        (forall₂_congr fun m hm => ih m hm n)

theorem everyNumber_sortKeys (p : ν → Bool) (v : Value ν) :
    (v.sortKeys le).everyNumber p = true ↔ v.everyNumber p = true := by
  induction v with
  | null => exact Iff.rfl
  | bool b => exact Iff.rfl
  | number k => exact Iff.rfl
  | string s => exact Iff.rfl
  | array items ih =>
    rw [sortKeys_array, everyNumber_array, everyNumber_array, List.forall_mem_map]
    exact forall₂_congr ih
  | object members ih =>
    rw [sortKeys_object, everyNumber_object, everyNumber_object]
    exact (mem_sortKeys_members (p := fun v => v.everyNumber p = true)).trans (forall₂_congr ih)

theorem sortKeys_mapNumber {μ : Type} (f : ν → μ) (v : Value ν) :
    (v.mapNumber f).sortKeys le = (v.sortKeys le).mapNumber f := by
  induction v with
  | null => rfl
  | bool b => rfl
  | number n => rfl
  | string s => rfl
  | array items ih =>
    simp only [mapNumber_array, sortKeys_array, List.map_map]
    exact congrArg Value.array (List.map_congr_left ih)
  | object members ih =>
    have hparts : (members.map fun m => (m.1, (m.2.mapNumber f).sortKeys le)) =
        members.map fun m => (m.1, (m.2.sortKeys le).mapNumber f) :=
      List.map_congr_left fun m hm => by rw [ih m hm]
    simp only [mapNumber_object, sortKeys_object, List.map_map, Function.comp_def, hparts,
      mergeSort_map_values le fun v : Value ν => (v.sortKeys le).mapNumber f,
      mergeSort_map_values le fun v : Value ν => v.sortKeys le]

end Order

section Same

variable {ν : Type}

/-- One object of the value has its members in another order. -/
inductive Reorder : Value ν → Value ν → Prop where
  | members {ms ns : List (String × Value ν)} (h : ms.Perm ns) :
      Reorder (.object ms) (.object ns)
  | inItem {v w : Value ν} (before after : List (Value ν)) (h : Reorder v w) :
      Reorder (.array (before ++ v :: after)) (.array (before ++ w :: after))
  | inMember {v w : Value ν} (key : String) (before after : List (String × Value ν))
      (h : Reorder v w) :
      Reorder (.object (before ++ (key, v) :: after)) (.object (before ++ (key, w) :: after))

/-- The same JSON value: objects are unordered sets of members. -/
def Value.Same : Value ν → Value ν → Prop := Relation.EqvGen Reorder

variable {v w : Value ν} {f : Value ν → Value ν} {le : String → String → Bool}

theorem Value.Same.refl (v : Value ν) : v.Same v := Relation.EqvGen.refl v

theorem Value.Same.symm (h : v.Same w) : w.Same v := Relation.EqvGen.symm _ _ h

theorem Value.Same.trans {u : Value ν} (h : u.Same v) (h' : v.Same w) : u.Same w :=
  Relation.EqvGen.trans _ _ _ h h'

theorem Value.Same.map (hf : ∀ v w, Reorder v w → Reorder (f v) (f w)) (h : v.Same w) :
    (f v).Same (f w) := by
  induction h with
  | rel v w h => exact Relation.EqvGen.rel _ _ (hf v w h)
  | refl v => exact .refl _
  | symm v w _ ih => exact ih.symm
  | trans u v w _ _ ih ih' => exact ih.trans ih'

theorem Value.Same.items (before items : List (Value ν)) (h : ∀ v ∈ items, v.Same (f v)) :
    (Value.array (before ++ items)).Same (.array (before ++ items.map f)) := by
  induction items generalizing before with
  | nil => exact .refl _
  | cons v rest ih =>
    have hhead : (Value.array (before ++ v :: rest)).Same (.array (before ++ f v :: rest)) :=
      (h v List.mem_cons_self).map (f := fun v => .array (before ++ v :: rest))
        fun _ _ => Reorder.inItem before rest
    have htail := ih (before ++ [f v]) fun w hw => h w (List.mem_cons_of_mem _ hw)
    simp only [List.append_assoc, List.singleton_append] at htail
    exact hhead.trans htail

theorem Value.Same.memberValues (before members : List (String × Value ν))
    (h : ∀ m ∈ members, m.2.Same (f m.2)) :
    (Value.object (before ++ members)).Same
      (.object (before ++ members.map fun m => (m.1, f m.2))) := by
  induction members generalizing before with
  | nil => exact .refl _
  | cons m rest ih =>
    have hhead : (Value.object (before ++ m :: rest)).Same
        (.object (before ++ (m.1, f m.2) :: rest)) :=
      (h m List.mem_cons_self).map (f := fun v => .object (before ++ (m.1, v) :: rest))
        fun _ _ => Reorder.inMember m.1 before rest
    have htail := ih (before ++ [(m.1, f m.2)]) fun w hw => h w (List.mem_cons_of_mem _ hw)
    simp only [List.append_assoc, List.singleton_append] at htail
    exact hhead.trans htail

theorem same_sortKeys (le : String → String → Bool) (v : Value ν) : v.Same (v.sortKeys le) := by
  induction v with
  | null => exact .refl _
  | bool b => exact .refl _
  | number n => exact .refl _
  | string s => exact .refl _
  | array items ih =>
    rw [sortKeys_array]
    exact Value.Same.items [] items ih
  | object members ih =>
    rw [sortKeys_object]
    have hvalues := Value.Same.memberValues [] members ih
    have hsorted := List.mergeSort_perm (members.map fun m => (m.1, m.2.sortKeys le))
      fun a b => le a.1 b.1
    exact hvalues.trans (Relation.EqvGen.rel _ _ (.members hsorted.symm))

theorem Value.Same.of_sortKeys_eq {le' : String → String → Bool}
    (h : v.sortKeys le = w.sortKeys le') : v.Same w := by
  have hv := same_sortKeys le v
  rw [h] at hv
  exact hv.trans (same_sortKeys le' w).symm

/-- A key order with which a sorted list of distinct keys is unique. -/
structure KeyOrder (le : String → String → Bool) : Prop where
  trans : ∀ a b c, le a b = true → le b c = true → le a c = true
  total : ∀ a b, (le a b || le b a) = true
  antisymm : ∀ a b, le a b = true → le b a = true → a = b

theorem eq_of_key_eq {α : Type} {members : List (String × α)} (h : (members.map Prod.fst).Nodup)
    {a b : String × α} (ha : a ∈ members) (hb : b ∈ members) (hkey : a.1 = b.1) : a = b :=
  List.inj_on_of_nodup_map h ha hb hkey

theorem mergeSort_eq_of_perm {α : Type} (hle : KeyOrder le) {ms ns : List (String × α)}
    (h : ms.Perm ns) (hkeys : (ms.map Prod.fst).Nodup) :
    (ms.mergeSort fun a b => le a.1 b.1) = ns.mergeSort fun a b => le a.1 b.1 := by
  have hsorted : ∀ l : List (String × α),
      (l.mergeSort fun a b => le a.1 b.1).Pairwise fun a b => le a.1 b.1 = true :=
    List.pairwise_mergeSort (fun a b c => hle.trans a.1 b.1 c.1) fun a b => hle.total a.1 b.1
  refine List.Perm.eq_of_pairwise ?_ (hsorted ms) (hsorted ns)
    ((List.mergeSort_perm ms _).trans (h.trans (List.mergeSort_perm ns _).symm))
  intro a b ha hb hab hba
  exact eq_of_key_eq hkeys ((List.mergeSort_perm ms _).mem_iff.mp ha)
    (h.mem_iff.mpr ((List.mergeSort_perm ns _).mem_iff.mp hb)) (hle.antisymm _ _ hab hba)

theorem Reorder.distinctKeys (h : Reorder v w) :
    v.distinctKeys = true ↔ w.distinctKeys = true := by
  induction h with
  | members h =>
    simp only [Value.distinctKeys, everyObject_object, decide_eq_true_eq, h.mem_iff,
      (h.map Prod.fst).nodup_iff]
  | inItem before after h ih =>
    simp only [Value.distinctKeys, everyObject_array, List.forall_mem_append, List.forall_mem_cons]
      at ih ⊢
    rw [ih]
  | inMember key before after h ih =>
    simp only [Value.distinctKeys, everyObject_object, List.forall_mem_append, List.forall_mem_cons,
      List.map_append, List.map_cons] at ih ⊢
    rw [ih]

theorem Reorder.sortKeys (hle : KeyOrder le) (h : Reorder v w) (hv : v.distinctKeys = true) :
    v.sortKeys le = w.sortKeys le := by
  induction h with
  | members h =>
    obtain ⟨hkeys,_⟩ := everyObject_object.mp hv
    rw [sortKeys_object, sortKeys_object, mergeSort_eq_of_perm hle (h.map _)]
    simpa [Function.comp_def] using hkeys
  | inItem before after h ih =>
    have hitem := everyObject_array.mp hv _ (List.mem_append_right before List.mem_cons_self)
    simp only [sortKeys_array, List.map_append, List.map_cons, ih hitem]
  | inMember key before after h ih =>
    have hmember := (everyObject_object.mp hv).2 _
      (List.mem_append_right before List.mem_cons_self)
    simp only [sortKeys_object, List.map_append, List.map_cons, ih hmember]

theorem Value.Same.distinctKeys (h : v.Same w) :
    v.distinctKeys = true ↔ w.distinctKeys = true := by
  induction h with
  | rel v w h => exact h.distinctKeys
  | refl v => exact Iff.rfl
  | symm v w _ ih => exact ih.symm
  | trans u v w _ _ ih ih' => exact ih.trans ih'

theorem same_iff_sortKeys_eq (hle : KeyOrder le) (hv : v.distinctKeys = true) :
    v.Same w ↔ v.sortKeys le = w.sortKeys le := by
  refine ⟨fun h => ?_,Value.Same.of_sortKeys_eq⟩
  have hsorted : v.distinctKeys = true → v.sortKeys le = w.sortKeys le := by
    clear hv
    induction h with
    | rel v w h => exact h.sortKeys hle
    | refl v => exact fun _ => rfl
    | symm v w h ih => exact fun hw => (ih ((Value.Same.distinctKeys h).mpr hw)).symm
    | trans u v w h _ ih ih' =>
      exact fun hu => (ih hu).trans (ih' ((Value.Same.distinctKeys h).mp hu))
  exact hsorted hv

theorem sortKeys_sortKeys (hle : KeyOrder le) (hv : v.distinctKeys = true) :
    (v.sortKeys le).sortKeys le = v.sortKeys le :=
  ((same_iff_sortKeys_eq hle hv).mp (same_sortKeys le v)).symm

end Same

end KernAid.Json
