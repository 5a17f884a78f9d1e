import NumaFabric.Store.OrderedMap

namespace NumaFabric.OrderedMap

variable {κ ν : Type} [Ord κ] [Std.TransOrd κ] [Std.LawfulEqOrd κ]

omit [Std.LawfulEqOrd κ] in
theorem mem_takeWhile_iff {l : List (κ × ν)} (hl : KeysIncrease l) (k : κ) (e : κ × ν) :
    e ∈ l.takeWhile (fun e => compare e.1 k != .gt) ↔ e ∈ l ∧ compare e.1 k ≠ .gt := by
  induction l with
  | nil => simp
  | cons a rest ih =>
      obtain ⟨ha, hr⟩ := List.pairwise_cons.mp hl
      by_cases hk : compare a.1 k = .gt
      · have hnone : ∀ b ∈ rest, compare b.1 k = .gt := by
          intro b hb
          have hba : compare b.1 a.1 = .gt := Std.OrientedCmp.gt_iff_lt.mpr (ha b hb)
          exact Std.TransCmp.gt_trans hba hk
        rw [List.takeWhile_cons_of_neg (by simp [hk])]
        constructor
        · intro he
          cases he
        · rintro ⟨he, hne⟩
          rcases List.mem_cons.mp he with rfl | he
          · exact absurd hk hne
          · exact absurd (hnone e he) hne
      · rw [List.takeWhile_cons_of_pos (by simp [hk]), List.mem_cons, ih hr, List.mem_cons]
        constructor
        · rintro (rfl | ⟨he, hne⟩)
          · exact ⟨.inl rfl, hk⟩
          · exact ⟨.inr he, hne⟩
        · rintro ⟨rfl | he, hne⟩
          · exact .inl rfl
          · exact .inr ⟨he, hne⟩

theorem floor?_eq_some_iff (m : OrderedMap κ ν) {k k' : κ} {v : ν} :
    m.floor? k = some (k', v) ↔
      m.get? k' = some v ∧ compare k' k ≠ .gt ∧
        ∀ j w, m.get? j = some w → compare j k ≠ .gt → compare j k' ≠ .gt := by
  have hmem (j : κ) (w : ν) : (j, w) ∈ m.entries.takeWhile (fun e => compare e.1 k != .gt) ↔
      m.get? j = some w ∧ compare j k ≠ .gt := by
    rw [mem_takeWhile_iff m.increasing, ← mem_toList_iff]
    rfl
  have hsorted := m.increasing.sublist (List.takeWhile_sublist fun e => compare e.1 k != .gt)
  rw [floor?, List.getLast?_eq_some_iff]
  constructor
  · rintro ⟨before, hlast⟩
    rw [hlast] at hmem hsorted
    obtain ⟨hget, hle⟩ := (hmem k' v).mp (by simp)
    refine ⟨hget, hle, fun j w hj hjk => ?_⟩
    rcases List.mem_append.mp ((hmem j w).mpr ⟨hj, hjk⟩) with hb | hb
    · have hlt := (List.pairwise_append.mp hsorted).2.2 (j, w) hb (k', v) (by simp)
      simp [hlt]
    · simp only [List.mem_singleton, Prod.mk.injEq] at hb
      simp [hb.1, Std.ReflCmp.compare_self]
  · rintro ⟨hget, hle, hmax⟩
    have hin := (hmem k' v).mpr ⟨hget, hle⟩
    -- the last entry of a list that is not empty can only be this one
    rcases List.eq_nil_or_concat (m.entries.takeWhile fun e => compare e.1 k != .gt) with
      hnil | ⟨before, ⟨j, w⟩, hlast⟩
    · rw [hnil] at hin
      cases hin
    · rw [List.concat_eq_append] at hlast
      rw [hlast] at hin hmem hsorted
      rcases List.mem_append.mp hin with hb | hb
      · obtain ⟨hj, hjk⟩ := (hmem j w).mp (by simp)
        have hlt := (List.pairwise_append.mp hsorted).2.2 (k', v) hb (j, w) (by simp)
        exact absurd (Std.OrientedCmp.gt_iff_lt.mpr hlt) (hmax j w hj hjk)
      · rw [List.mem_singleton] at hb
        exact ⟨before, by rw [hlast, hb]⟩

theorem floor?_eq_none_iff (m : OrderedMap κ ν) {k : κ} :
    m.floor? k = none ↔ ∀ j w, m.get? j = some w → compare j k = .gt := by
  rw [floor?, List.getLast?_eq_none_iff, List.eq_nil_iff_forall_not_mem]
  constructor
  · intro hnone j w hj
    apply Decidable.byContradiction
    intro hne
    exact hnone (j, w) ((mem_takeWhile_iff m.increasing k _).mpr
      ⟨(mem_toList_iff m).mpr hj, hne⟩)
  · rintro hall ⟨j, w⟩ hin
    obtain ⟨hin, hne⟩ := (mem_takeWhile_iff m.increasing k _).mp hin
    exact hne (hall j w ((mem_toList_iff m).mp hin))

theorem compare_ne_gt_iff (a b : UInt64) : compare a b ≠ .gt ↔ a.toNat ≤ b.toNat := by
  rw [← UInt64.le_iff_toNat_le, ← Std.LawfulOrderOrd.isLE_compare]
  cases compare a b <;> simp

theorem floor?_word_eq_some_iff {ν : Type} (m : OrderedMap UInt64 ν) {k k' : UInt64} {v : ν} :
    m.floor? k = some (k', v) ↔
      m.get? k' = some v ∧ k'.toNat ≤ k.toNat ∧
        ∀ j w, m.get? j = some w → j.toNat ≤ k.toNat → j.toNat ≤ k'.toNat := by
  simp only [floor?_eq_some_iff, compare_ne_gt_iff]

theorem mem_values_iff (m : OrderedMap κ ν) {v : ν} : v ∈ m.values ↔ ∃ k, m.get? k = some v := by
  rw [values, List.mem_map]
  constructor
  · rintro ⟨⟨k, w⟩, hin, rfl⟩
    exact ⟨k, (mem_toList_iff m).mp hin⟩
  · rintro ⟨k, hk⟩
    exact ⟨(k, v), (mem_toList_iff m).mpr hk, rfl⟩

theorem get?_insert_eq_some (m : OrderedMap κ ν) {k j : κ} {v w : ν}
    (h : (m.insert k v).get? j = some w) : (j = k ∧ w = v) ∨ (j ≠ k ∧ m.get? j = some w) := by
  by_cases hj : compare k j = .eq
  · obtain rfl := Std.LawfulEqCmp.compare_eq_iff_eq.mp hj
    rw [get?_insert_self] at h
    exact .inl ⟨rfl, (Option.some.inj h).symm⟩
  · have hne : k ≠ j := fun heq => hj (heq ▸ Std.ReflCmp.compare_self)
    rw [get?_insert_of_ne m v hne] at h
    exact .inr ⟨hne.symm, h⟩

theorem get?_insert_empty_eq_some_iff {k j : κ} {v w : ν} :
    (OrderedMap.empty.insert k v).get? j = some w ↔ k = j ∧ v = w := by
  constructor
  · intro h
    rcases get?_insert_eq_some _ h with ⟨rfl, rfl⟩ | ⟨-, hempty⟩
    · exact ⟨rfl, rfl⟩
    · rw [get?_empty] at hempty
      cases hempty
  · rintro ⟨rfl, rfl⟩
    exact get?_insert_self ..

omit [Std.TransOrd κ] in
theorem get?_erase_eq_some (m : OrderedMap κ ν) {k j : κ} {w : ν}
    (h : (m.erase k).get? j = some w) : j ≠ k ∧ m.get? j = some w := by
  have hne : k ≠ j := by
    rintro rfl
    rw [get?_erase_self] at h
    cases h
  rw [get?_erase_of_ne m hne] at h
  exact ⟨hne.symm, h⟩

omit [Std.TransOrd κ] in
theorem get?_mapValues {μ : Type} (m : OrderedMap κ ν) (f : κ → ν → μ) (k : κ) :
    (m.mapValues f).get? k = (m.get? k).map (f k) := by
  simp only [get?, mapValues, List.find?_map, Option.map_map]
  cases hf : m.entries.find? ((fun e => compare e.1 k == .eq) ∘ fun e => (e.1, f e.1 e.2)) with
  | none =>
      rw [show m.entries.find? (fun e => compare e.1 k == .eq) = none from hf]
      rfl
  | some e =>
      rw [show m.entries.find? (fun e => compare e.1 k == .eq) = some e from hf]
      have hk : e.1 = k := by
        simpa using List.find?_some hf
      simp [hk]

theorem floor?_insert_of_get? [DecidableEq κ] (m : OrderedMap κ ν) {k₀ : κ} {v₀ : ν}
    (h : m.get? k₀ = some v₀) (v : ν) (k : κ) :
    (m.insert k₀ v).floor? k =
      (m.floor? k).map fun e => if e.1 = k₀ then (k₀, v) else e := by
  have hkey (j : κ) (w : ν) (hj : (m.insert k₀ v).get? j = some w) :
      ∃ w', m.get? j = some w' := by
    rcases get?_insert_eq_some m hj with ⟨rfl, -⟩ | ⟨-, hj⟩
    · exact ⟨v₀, h⟩
    · exact ⟨w, hj⟩
  cases hf : m.floor? k with
  | none =>
      rw [Option.map_none, floor?_eq_none_iff]
      intro j w hj
      obtain ⟨w', hw'⟩ := hkey j w hj
      exact (floor?_eq_none_iff m).mp hf j w' hw'
  | some e =>
      obtain ⟨k', w⟩ := e
      obtain ⟨hget, hle, hmax⟩ := (floor?_eq_some_iff m).mp hf
      have hmax' (j : κ) (u : ν) (hj : (m.insert k₀ v).get? j = some u) (hjk : compare j k ≠ .gt) :
          compare j k' ≠ .gt := by
        obtain ⟨u', hu'⟩ := hkey j u hj
        exact hmax j u' hu' hjk
      by_cases hk' : k' = k₀
      · subst hk'
        rw [Option.map_some, if_pos rfl, floor?_eq_some_iff]
        exact ⟨get?_insert_self m k' v, hle, hmax'⟩
      · rw [Option.map_some, if_neg hk', floor?_eq_some_iff]
        exact ⟨(get?_insert_of_ne m v (Ne.symm hk')).trans hget, hle, hmax'⟩

theorem mapValues_insert_of_get? (m : OrderedMap κ ν) {k₀ : κ} {v₀ v : ν}
    (h : m.get? k₀ = some v₀) {μ : Type} (f : κ → ν → μ) (hf : f k₀ v = f k₀ v₀) :
    (m.insert k₀ v).mapValues f = m.mapValues f := by
  obtain ⟨l, hl⟩ := m
  simp only [mapValues, insert, mk.injEq]
  have hin : (k₀, v₀) ∈ l := (mem_toList_iff ⟨l, hl⟩).mpr h
  clear h
  induction l with
  | nil => cases hin
  | cons e rest ih =>
      obtain ⟨he, hr⟩ := List.pairwise_cons.mp hl
      rcases List.mem_cons.mp hin with rfl | hin
      · simp [insertEntry, Std.ReflCmp.compare_self, hf]
      · have hgt : compare k₀ e.1 = .gt := Std.OrientedCmp.gt_iff_lt.mpr (he _ hin)
        simp only [insertEntry, hgt, List.map_cons, ih hr hin]

omit [Std.TransOrd κ] [Std.LawfulEqOrd κ] in
omit [Std.TransOrd κ] [Std.LawfulEqOrd κ] in
theorem mapValues_id (m : OrderedMap κ ν) : m.mapValues (fun _ v => v) = m := by
  obtain ⟨l, hl⟩ := m
  simp [mapValues]

theorem insert_of_get? (m : OrderedMap κ ν) {k : κ} {v : ν} (h : m.get? k = some v) :
    m.insert k v = m := by
  have hsame := m.mapValues_insert_of_get? h (fun _ v => v) rfl
  rwa [mapValues_id, mapValues_id] at hsame

omit [Std.TransOrd κ] [Std.LawfulEqOrd κ] in
theorem values_mapValues {μ : Type} (m : OrderedMap κ ν) (f : ν → μ) :
    (m.mapValues fun _ => f).values = m.values.map f := by
  simp only [values, mapValues, List.map_map]
  rfl

theorem map_values_insert_of_get? (m : OrderedMap κ ν) {k₀ : κ} {v₀ v : ν}
    (h : m.get? k₀ = some v₀) {μ : Type} (f : ν → μ) (hf : f v = f v₀) :
    (m.insert k₀ v).values.map f = m.values.map f := by
  rw [← values_mapValues, ← values_mapValues, m.mapValues_insert_of_get? h _ hf]

end NumaFabric.OrderedMap
