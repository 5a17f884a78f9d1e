import Mathlib.Data.List.Nodup
import Mathlib.Data.List.Perm.Basic
import Mathlib.Data.Set.Card
import NumaFabric.Proofs.Runs.Transcript
import NumaFabric.Proofs.Store.Floor

namespace NumaFabric.OrderedMap

variable {κ ν : Type} [Ord κ] [Std.TransOrd κ] [Std.LawfulEqOrd κ]

omit [Std.TransOrd κ] in
theorem perm_insertEntry {k : κ} {v : ν} {l : List (κ × ν)} (h : k ∉ l.map (·.1)) :
    (insertEntry k v l).Perm ((k, v) :: l) := by
  induction l with
  | nil => rfl
  | cons e rest ih =>
      rw [List.map_cons, List.mem_cons, not_or] at h
      rw [insertEntry]
      split
      · rfl
      · rename_i heq
        exact absurd (Std.LawfulEqCmp.compare_eq_iff_eq.mp heq) h.1
      · exact ((ih h.2).cons e).trans (.swap (k, v) e rest)

theorem perm_entries_foldl_insert {l : List (κ × ν)} {m : OrderedMap κ ν}
    (h : (m.entries.map (·.1) ++ l.map (·.1)).Nodup) :
    (l.foldl (fun m e => m.insert e.1 e.2) m).entries.Perm (m.entries ++ l) := by
  induction l generalizing m with
  | nil => simp
  | cons e rest ih =>
      have hnew : e.1 ∉ m.entries.map (·.1) := fun hin =>
        (List.nodup_append.mp h).2.2 e.1 hin e.1 List.mem_cons_self rfl
      have hinsert : (m.insert e.1 e.2).entries.Perm (e :: m.entries) := perm_insertEntry hnew
      have hmiddle : (e :: m.entries ++ rest).Perm (m.entries ++ e :: rest) :=
        List.perm_middle.symm
      rw [List.foldl_cons]
      refine (ih ?_).trans ((hinsert.append_right rest).trans hmiddle)
      have hkeys := (hinsert.append_right rest).trans hmiddle
      rw [← List.map_append] at h ⊢
      exact (hkeys.map Prod.fst).nodup_iff.mpr h

theorem perm_entries_ofList {l : List (κ × ν)} (h : (l.map (·.1)).Nodup) :
    (ofList l).entries.Perm l :=
  perm_entries_foldl_insert h

theorem get?_ofList_eq_some_iff {l : List (κ × ν)} (h : (l.map (·.1)).Nodup) {k : κ} {v : ν} :
    (ofList l).get? k = some v ↔ (k, v) ∈ l := by
  rw [← mem_toList_iff]
  exact (perm_entries_ofList h).mem_iff

omit [Std.LawfulEqOrd κ] in
theorem ofList_concat (l : List (κ × ν)) (e : κ × ν) :
    ofList (l ++ [e]) = (ofList l).insert e.1 e.2 := by
  rw [ofList, List.foldl_append]
  rfl

theorem get?_ofList_eq_some_iff_stands {l : List (κ × ν)} {k : κ} {v : ν} :
    (ofList l).get? k = some v ↔ Stands (· = (k, v)) (fun e => e.1 = k) l := by
  induction l using List.reverseRecOn with
  | nil => exact iff_of_false nofun not_stands_nil
  | append_singleton l e ih =>
      rw [ofList_concat, stands_concat_iff, ← ih]
      by_cases hk : e.1 = k
      · subst hk
        rw [get?_insert_self, Option.some.injEq]
        simp [Prod.ext_iff]
      · rw [get?_insert_of_ne _ _ hk]
        refine ⟨fun h => .inr ⟨h, hk⟩, ?_⟩
        rintro (rfl | ⟨h, -⟩)
        · exact absurd rfl hk
        · exact h

theorem exists_get?_ofList_iff {l : List (κ × ν)} {k : κ} :
    (∃ v, (ofList l).get? k = some v) ↔ ∃ e ∈ l, e.1 = k := by
  induction l using List.reverseRecOn with
  | nil => exact iff_of_false nofun nofun
  | append_singleton l e ih =>
      simp only [ofList_concat, List.mem_append, List.mem_singleton, or_and_right, exists_or,
        exists_eq_left, ← ih]
      by_cases hk : e.1 = k
      · subst hk
        exact iff_of_true ⟨e.2, get?_insert_self ..⟩ (.inr rfl)
      · simp [get?_insert_of_ne _ _ hk, hk]

/-- Along increasing keys, what stands is the entry of the greatest key. -/
theorem stands_iff_greatest {l : List (κ × ν)} (hl : KeysIncrease l)
    {begins ends : κ × ν → Prop} :
    Stands begins ends l ↔ ∃ e ∈ l, begins e ∧ ∀ e' ∈ l, ends e' → compare e'.1 e.1 ≠ .gt := by
  constructor
  · rintro ⟨before, e, after, rfl, hbegins, hkept⟩
    refine ⟨e, by simp, hbegins, ?_⟩
    intro e' hin hends'
    rcases List.mem_append.mp hin with hbefore | hafter
    · have hlt := (List.pairwise_append.mp hl).2.2 e' hbefore e List.mem_cons_self
      simp [hlt]
    · rcases List.mem_cons.mp hafter with rfl | hafter
      · simp [Std.ReflCmp.compare_self]
      · exact absurd hends' (hkept e' hafter)
  · rintro ⟨e, hin, hbegins, hgreatest⟩
    obtain ⟨before, after, rfl⟩ := List.append_of_mem hin
    refine ⟨before, e, after, rfl, hbegins, ?_⟩
    intro e' hafter hends'
    have hlt := (List.pairwise_cons.mp (List.pairwise_append.mp hl).2.1).1 e' hafter
    exact hgreatest e' (by simp [hafter]) hends' (Std.OrientedCmp.gt_iff_lt.mpr hlt)

omit [Std.TransOrd κ] in
theorem nodup_keys (m : OrderedMap κ ν) : m.keys.Nodup := by
  refine List.pairwise_map.mpr (m.increasing.imp ?_)
  intro a b hlt heq
  have hself : compare b.1 b.1 = .eq := Std.ReflCmp.compare_self
  rw [heq, hself] at hlt
  cases hlt

theorem size_eq_ncard (m : OrderedMap κ ν) : m.size = {k | ∃ v, m.get? k = some v}.ncard := by
  classical
  have hkeys : {k | ∃ v, m.get? k = some v} = m.keys.toFinset := by
    ext k
    simp [← mem_toList_iff, keys, toList]
  rw [hkeys, Set.ncard_coe_finset, List.toFinset_card_of_nodup m.nodup_keys, keys, List.length_map]
  rfl

theorem nodup_values {m : OrderedMap κ ν} {key : ν → κ}
    (h : ∀ k v, m.get? k = some v → key v = k) : m.values.Nodup := by
  have hkeys : m.values.map key = m.keys := by
    rw [values, keys, List.map_map]
    refine List.map_congr_left ?_
    rintro ⟨k, v⟩ hin
    exact h k v ((mem_toList_iff m).mp hin)
  refine List.Nodup.of_map key ?_
  rw [hkeys]
  exact m.nodup_keys

theorem mem_values_insert_iff {m : OrderedMap κ ν} {k : κ} (h : m.get? k = none) {v w : ν} :
    w ∈ (m.insert k v).values ↔ w = v ∨ w ∈ m.values := by
  simp only [mem_values_iff]
  constructor
  · rintro ⟨j, hj⟩
    rcases m.get?_insert_eq_some hj with ⟨-, rfl⟩ | ⟨-, hold⟩
    · exact .inl rfl
    · exact .inr ⟨j, hold⟩
  · rintro (rfl | ⟨j, hj⟩)
    · exact ⟨k, m.get?_insert_self k w⟩
    · have hne : k ≠ j := by
        rintro rfl
        rw [h] at hj
        cases hj
      exact ⟨j, (m.get?_insert_of_ne v hne).trans hj⟩

theorem mem_values_erase_iff {m : OrderedMap κ ν} {key : ν → κ}
    (hkey : ∀ k v, m.get? k = some v → key v = k) {k : κ} {v w : ν} (h : m.get? k = some v) :
    w ∈ (m.erase k).values ↔ w ∈ m.values ∧ w ≠ v := by
  simp only [mem_values_iff]
  constructor
  · rintro ⟨j, hj⟩
    obtain ⟨hne, hold⟩ := m.get?_erase_eq_some hj
    refine ⟨⟨j, hold⟩, ?_⟩
    rintro rfl
    exact hne ((hkey j w hold).symm.trans (hkey k w h))
  · rintro ⟨⟨j, hj⟩, hne⟩
    have hjk : k ≠ j := by
      rintro rfl
      exact hne (Option.some.inj (hj.symm.trans h))
    exact ⟨j, (m.get?_erase_of_ne hjk).trans hj⟩

end NumaFabric.OrderedMap
