/-!
Finite maps with their entries listed in increasing key order. `get?` is the view: every operation
is described by what it does to `get?`, and `floor?` is the entry with the greatest key that is not
above a given one.
-/

namespace NumaFabric

def KeysIncrease {κ ν : Type} [Ord κ] (entries : List (κ × ν)) : Prop :=
  entries.Pairwise fun a b => compare a.1 b.1 = .lt

/-- A finite map whose entries are listed in increasing key order. -/
structure OrderedMap (κ : Type) [Ord κ] (ν : Type) where
  entries : List (κ × ν)
  increasing : KeysIncrease entries

namespace OrderedMap

variable {κ ν : Type} [Ord κ]

/-- Puts an entry in its place, replacing the one of the same key. -/
def insertEntry (k : κ) (v : ν) : List (κ × ν) → List (κ × ν)
  | [] => [(k, v)]
  | e :: rest =>
    match compare k e.1 with
    | .lt => (k, v) :: e :: rest
    | .eq => (k, v) :: rest
    | .gt => e :: insertEntry k v rest

theorem mem_insertEntry {k : κ} {v : ν} {a : κ × ν} {l : List (κ × ν)}
    (h : a ∈ insertEntry k v l) : a = (k, v) ∨ a ∈ l := by
  induction l with
  | nil => simpa [insertEntry] using h
  | cons e rest ih =>
    rw [insertEntry] at h
    split at h
    · grind
    · grind
    · rcases List.mem_cons.mp h with h | h
      · exact .inr (by simp [h])
      · exact (ih h).imp_right (List.mem_cons_of_mem _)

theorem keysIncrease_insertEntry [Std.TransOrd κ] (k : κ) (v : ν) {l : List (κ × ν)}
    (h : KeysIncrease l) : KeysIncrease (insertEntry k v l) := by
  induction l with
  | nil => simp [insertEntry, KeysIncrease]
  | cons e rest ih =>
    obtain ⟨he, hr⟩ := List.pairwise_cons.mp h
    rw [insertEntry]
    split
    · rename_i hlt
      refine List.pairwise_cons.mpr ⟨fun a ha => ?_, h⟩
      rcases List.mem_cons.mp ha with rfl | ha
      · exact hlt
      · exact Std.TransCmp.lt_trans hlt (he a ha)
    · rename_i heq
      exact List.pairwise_cons.mpr ⟨fun a ha => Std.TransCmp.lt_of_eq_of_lt heq (he a ha), hr⟩
    · rename_i hgt
      refine List.pairwise_cons.mpr ⟨fun a ha => ?_, ih hr⟩
      rcases mem_insertEntry ha with rfl | ha
      · exact Std.OrientedCmp.gt_iff_lt.mp hgt
      · exact he a ha

def empty : OrderedMap κ ν := ⟨[], .nil⟩

instance : EmptyCollection (OrderedMap κ ν) := ⟨empty⟩

instance : Inhabited (OrderedMap κ ν) := ⟨empty⟩

def toList (m : OrderedMap κ ν) : List (κ × ν) := m.entries

def keys (m : OrderedMap κ ν) : List κ := m.entries.map (·.1)

def values (m : OrderedMap κ ν) : List ν := m.entries.map (·.2)

def size (m : OrderedMap κ ν) : Nat := m.entries.length

def isEmpty (m : OrderedMap κ ν) : Bool := m.entries.isEmpty

def get? (m : OrderedMap κ ν) (k : κ) : Option ν :=
  (m.entries.find? fun e => compare e.1 k == .eq).map (·.2)

def contains (m : OrderedMap κ ν) (k : κ) : Bool := (m.get? k).isSome

def insert [Std.TransOrd κ] (m : OrderedMap κ ν) (k : κ) (v : ν) : OrderedMap κ ν :=
  ⟨insertEntry k v m.entries, keysIncrease_insertEntry k v m.increasing⟩

def erase (m : OrderedMap κ ν) (k : κ) : OrderedMap κ ν :=
  ⟨m.entries.filter fun e => compare e.1 k != .eq, m.increasing.filter _⟩

def mapValues {μ : Type} (f : κ → ν → μ) (m : OrderedMap κ ν) : OrderedMap κ μ :=
  ⟨m.entries.map fun e => (e.1, f e.1 e.2), by
    simpa [KeysIncrease, List.pairwise_map] using m.increasing⟩

/-- The entry with the greatest key that is not above `k`. -/
def floor? (m : OrderedMap κ ν) (k : κ) : Option (κ × ν) :=
  (m.entries.takeWhile fun e => compare e.1 k != .gt).getLast?

/-- Later entries of the list replace earlier ones of the same key. -/
def ofList [Std.TransOrd κ] (l : List (κ × ν)) : OrderedMap κ ν :=
  l.foldl (fun m e => m.insert e.1 e.2) empty

@[simp] theorem get?_empty (k : κ) : (empty : OrderedMap κ ν).get? k = none := rfl

theorem find?_insertEntry_self [Std.TransOrd κ] (k : κ) (v : ν) (l : List (κ × ν)) :
    (insertEntry k v l).find? (fun e => compare e.1 k == .eq) = some (k, v) := by
  induction l with
  | nil => simp [insertEntry, Std.ReflCmp.compare_self]
  | cons e rest ih =>
    rw [insertEntry]
    split
    · simp [Std.ReflCmp.compare_self]
    · simp [Std.ReflCmp.compare_self]
    · rename_i h
      have h' : compare e.1 k = .lt := Std.OrientedCmp.gt_iff_lt.mp h
      simp [h', ih]

theorem find?_insertEntry_ne [Std.TransOrd κ] {k k' : κ} (h : compare k k' ≠ .eq) (v : ν)
    (l : List (κ × ν)) :
    (insertEntry k v l).find? (fun e => compare e.1 k' == .eq) =
      l.find? fun e => compare e.1 k' == .eq := by
  induction l with
  | nil => simp [insertEntry, h]
  | cons e rest ih =>
    rw [insertEntry]
    split
    · simp [h]
    · rename_i heq
      have : compare e.1 k' ≠ .eq := fun h' => h (Std.TransCmp.eq_trans heq h')
      simp [h, this]
    · simp [List.find?_cons, ih]

@[simp] theorem get?_insert_self [Std.TransOrd κ] (m : OrderedMap κ ν) (k : κ) (v : ν) :
    (m.insert k v).get? k = some v := by
  simp [get?, insert, find?_insertEntry_self]

theorem get?_insert_of_ne [Std.TransOrd κ] [Std.LawfulEqOrd κ] (m : OrderedMap κ ν) {k k' : κ}
    (v : ν) (h : k ≠ k') : (m.insert k v).get? k' = m.get? k' := by
  have : compare k k' ≠ .eq := fun h' => h (Std.LawfulEqCmp.compare_eq_iff_eq.mp h')
  simp [get?, insert, find?_insertEntry_ne this]

@[simp] theorem get?_erase_self (m : OrderedMap κ ν) (k : κ) : (m.erase k).get? k = none := by
  simp [get?, erase, List.find?_filter]

theorem get?_erase_of_ne [Std.LawfulEqOrd κ] (m : OrderedMap κ ν) {k k' : κ} (h : k ≠ k') :
    (m.erase k).get? k' = m.get? k' := by
  have : ∀ e : κ × ν,
      (compare e.1 k != .eq && (compare e.1 k' == .eq)) = (compare e.1 k' == .eq) := by
    intro e
    by_cases he : compare e.1 k' = .eq
    · have hk : e.1 = k' := Std.LawfulEqCmp.compare_eq_iff_eq.mp he
      have : compare e.1 k ≠ .eq := fun h' =>
        h ((Std.LawfulEqCmp.compare_eq_iff_eq.mp h').symm.trans hk)
      simp [he, this]
    · simp [he]
  simp [get?, erase, List.find?_filter, this]

theorem mem_toList_iff [Std.TransOrd κ] [Std.LawfulEqOrd κ] (m : OrderedMap κ ν) {k : κ} {v : ν} :
    (k, v) ∈ m.toList ↔ m.get? k = some v := by
  obtain ⟨l, hl⟩ := m
  simp only [toList, get?]
  induction l with
  | nil => simp
  | cons e rest ih =>
    obtain ⟨he, hr⟩ := List.pairwise_cons.mp hl
    by_cases hk : compare e.1 k = .eq
    · have hk' : e.1 = k := Std.LawfulEqCmp.compare_eq_iff_eq.mp hk
      have hnot : (k, v) ∉ rest := fun h => by
        have := he _ h
        simp [hk'] at this
      simp only [List.mem_cons, hnot, or_false, List.find?_cons, hk, beq_self_eq_true,
        Option.map_some, Option.some.injEq]
      constructor
      · rintro rfl; rfl
      · rintro rfl; rw [← hk']
    · have hne : (k, v) ≠ e := by rintro rfl; simp at hk
      simp [hk, hne, ih hr]

end OrderedMap

end NumaFabric
