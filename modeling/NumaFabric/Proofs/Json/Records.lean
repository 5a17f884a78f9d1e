import NumaFabric.Json.Reader
import NumaFabric.Proofs.Json.Written

namespace NumaFabric.Json

@[simp] theorem toUInt64?_ofNat (n : UInt64) : toUInt64? (ofNat n.toNat) = some n := by
  have hn := n.toNat_lt
  simp [toUInt64?, toNat?, ofNat, UInt64.size, hn]

@[simp] theorem toUInt32?_ofNat (n : UInt32) : toUInt32? (ofNat n.toNat) = some n := by
  have hn := n.toNat_lt
  simp [toUInt32?, toNat?, ofNat, UInt32.size, hn]

@[simp] theorem toString?_str (s : String) : toString? (str s) = some s := rfl

@[simp] theorem toOption?_ofOption (o : Option String) :
    toOption? toString? (ofOption str o) = some o := by
  cases o <;> rfl

@[simp] theorem toOption?_str {α : Type} (read : Json → Option α) (s : String) :
    toOption? read (str s) = (read (str s)).map some := rfl

theorem toList?_ofList {α : Type} {f : α → Json} {read : Json → Option α}
    (h : ∀ a, read (f a) = some a) (l : List α) : toList? read (ofList f l) = some l := by
  rw [ofList, toList?]
  induction l with
  | nil => rfl
  | cons a l ih => simp [List.mapM_cons, h, ih]

theorem itemsPlain_iff (items : List Json) : ItemsPlain items ↔ ∀ j ∈ items, j.IsPlain := by
  induction items with
  | nil => simp [ItemsPlain]
  | cons j rest ih => simp [ItemsPlain, ih]

theorem fieldsPlain_iff (fields : List (String × Json)) :
    FieldsPlain fields ↔ ∀ f ∈ fields, f.2.IsPlain := by
  induction fields with
  | nil => simp [FieldsPlain]
  | cons f rest ih => simp [FieldsPlain, ih]

theorem depthOfItems_le_iff (items : List Json) (n : Nat) :
    depthOfItems items ≤ n ↔ ∀ j ∈ items, j.depth ≤ n := by
  induction items with
  | nil => simp [depthOfItems]
  | cons j rest ih => rw [depthOfItems, Nat.max_le, ih, List.forall_mem_cons]

theorem depthOfFields_le_iff (fields : List (String × Json)) (n : Nat) :
    depthOfFields fields ≤ n ↔ ∀ f ∈ fields, f.2.depth ≤ n := by
  induction fields with
  | nil => simp [depthOfFields]
  | cons f rest ih => rw [depthOfFields, Nat.max_le, ih, List.forall_mem_cons]

/-- A plain value that is nested no deeper than so. -/
def IsShallow (n : Nat) (j : Json) : Prop := j.IsPlain ∧ j.depth ≤ n

@[simp] theorem isShallow_str (n : Nat) (s : String) : IsShallow n (str s) :=
  ⟨trivial, Nat.zero_le n⟩

@[simp] theorem isShallow_bool (n : Nat) (b : Bool) : IsShallow n (bool b) :=
  ⟨trivial, Nat.zero_le n⟩

@[simp] theorem isShallow_null (n : Nat) : IsShallow n null := ⟨trivial, Nat.zero_le n⟩

@[simp] theorem isShallow_ofOption_str (n : Nat) (o : Option String) :
    IsShallow n (ofOption str o) := by
  cases o with
  | none => exact isShallow_null n
  | some s => exact isShallow_str n s

@[simp] theorem isShallow_ofUInt64 (n : Nat) (w : UInt64) : IsShallow n (ofNat w.toNat) := by
  have hw := w.toNat_lt
  refine ⟨?_, Nat.zero_le n⟩
  simp only [ofNat, IsPlain, InRange, UInt64.size]
  omega

@[simp] theorem isShallow_ofUInt32 (n : Nat) (w : UInt32) : IsShallow n (ofNat w.toNat) := by
  have hw := w.toNat_lt
  refine ⟨?_, Nat.zero_le n⟩
  simp only [ofNat, IsPlain, InRange, UInt64.size]
  omega

@[simp] theorem isShallow_arr_succ (n : Nat) (items : List Json) :
    IsShallow (n + 1) (arr items) ↔ ∀ j ∈ items, IsShallow n j := by
  simp only [IsShallow, IsPlain, depth, itemsPlain_iff, Nat.add_le_add_iff_right,
    depthOfItems_le_iff]
  exact forall₂_and.symm

@[simp] theorem isShallow_obj_succ (n : Nat) (fields : List (String × Json)) :
    IsShallow (n + 1) (obj fields) ↔ ∀ f ∈ fields, IsShallow n f.2 := by
  simp only [IsShallow, IsPlain, depth, fieldsPlain_iff, Nat.add_le_add_iff_right,
    depthOfFields_le_iff]
  exact forall₂_and.symm

@[simp] theorem isShallow_ofList_succ {α : Type} (n : Nat) (f : α → Json) (l : List α) :
    IsShallow (n + 1) (ofList f l) ↔ ∀ a ∈ l, IsShallow n (f a) := by
  simp [ofList]

theorem IsShallow.mono {n m : Nat} {j : Json} (h : IsShallow n j) (hle : n ≤ m) : IsShallow m j :=
  ⟨h.1, Nat.le_trans h.2 hle⟩

namespace Record

variable {byPosition : Bool} {fields : List (String × Json)} {name : String} {j : Json}

@[simp] theorem get?_nil : get? ⟨byPosition, []⟩ name = none := rfl

@[simp] theorem get?_cons_self : get? ⟨byPosition, (name, j) :: fields⟩ name = some j := by
  simp [get?]

@[simp] theorem get?_cons_of_ne {other : String} (h : name ≠ other) :
    get? ⟨byPosition, (other, j) :: fields⟩ name = get? ⟨byPosition, fields⟩ name := by
  simp [get?, List.lookup_cons, beq_eq_false_iff_ne.mpr h]

end Record

mutual

theorem isReadable_of_isPlain (j : Json) (h : j.IsPlain) : j.isReadable = true := by
  match j with
  | null | bool _ | int _ | str _ => rfl
  | arr items => exact itemsReadable_of_itemsPlain items h
  | obj fields => exact fieldsReadable_of_fieldsPlain fields h

theorem itemsReadable_of_itemsPlain (items : List Json) (h : ItemsPlain items) :
    itemsReadable items = true := by
  match items with
  | [] => rfl
  | j :: rest =>
      rw [itemsReadable, isReadable_of_isPlain j h.1, itemsReadable_of_itemsPlain rest h.2]
      rfl

theorem fieldsReadable_of_fieldsPlain (fields : List (String × Json)) (h : FieldsPlain fields) :
    fieldsReadable fields = true := by
  match fields with
  | [] => rfl
  | (_, j) :: rest =>
      rw [fieldsReadable, isReadable_of_isPlain j h.1, fieldsReadable_of_fieldsPlain rest h.2]
      rfl

end

theorem record?_obj {names : List String} {fields : List (String × Json)}
    (hknown : ∀ f ∈ fields, f.1 ∈ names) (hnodup : (fields.map (·.1)).Nodup) :
    record? names (obj fields) = some ⟨false, fields⟩ := by
  have hfilter : (fields.filter fun f => names.contains f.1) = fields :=
    List.filter_eq_self.mpr fun f hf => List.contains_iff_mem.mpr (hknown f hf)
  simp only [record?, hfilter, if_pos hnodup]

theorem tagged?_obj {tag form : String} {fields : List (String × Json)}
    (hshallow : IsShallow heldDepth (obj ((tag, str form) :: fields)))
    (htag : ∀ f ∈ fields, f.1 ≠ tag) :
    tagged? tag (obj ((tag, str form) :: fields)) = some (form, obj fields) := by
  have hreadable := isReadable_of_isPlain _ hshallow.1
  have hnone : (fields.filter fun f => f.1 == tag) = [] :=
    List.filter_eq_nil_iff.mpr fun f hf => by simpa using htag f hf
  have hall : (fields.filter fun f => f.1 != tag) = fields :=
    List.filter_eq_self.mpr fun f hf => by simpa using htag f hf
  simp [tagged?, hreadable, hshallow.2, hnone, hall]

end NumaFabric.Json
