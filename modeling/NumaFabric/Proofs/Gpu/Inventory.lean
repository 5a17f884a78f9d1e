import NumaFabric.Gpu.Inventory

namespace NumaFabric.Inventory

/-- GPUs of different uuids that nobody owns. -/
structure Valid (gpus : List Gpu) : Prop where
  nodup : (gpus.map Gpu.uuid).Nodup
  free : ∀ g ∈ gpus, g.ownership = .free

theorem nodup_of_repeatedUuid?_eq_none {gpus : List Gpu} {seen : List String}
    (h : repeatedUuid? seen gpus = none) :
    (gpus.map Gpu.uuid).Nodup ∧ ∀ g ∈ gpus, g.uuid ∉ seen := by
  induction gpus generalizing seen with
  | nil => simp
  | cons g gpus ih =>
      rw [repeatedUuid?] at h
      split at h
      · cases h
      · rename_i hnew
        obtain ⟨hnodup, hseen⟩ := ih h
        constructor
        · rw [List.map_cons, List.nodup_cons]
          refine ⟨fun hin => ?_, hnodup⟩
          obtain ⟨g', hg', heq⟩ := List.mem_map.mp hin
          exact hseen g' hg' (heq ▸ List.mem_cons_self)
        · intro g' hg'
          rcases List.mem_cons.mp hg' with rfl | hg'
          · simpa using hnew
          · exact fun hin => hseen g' hg' (List.mem_cons_of_mem _ hin)

theorem exists_of_mem_toList? {α : Type} {read : Json → Option α} {j : Json} {l : List α}
    (h : j.toList? read = some l) {a : α} (ha : a ∈ l) : ∃ item, read item = some a := by
  unfold Json.toList? at h
  split at h
  · rename_i items
    induction items generalizing l with
    | nil =>
        cases h
        cases ha
    | cons item items ih =>
        rw [List.mapM_cons, Option.bind_eq_bind, Option.bind_eq_some_iff] at h
        obtain ⟨b, hb, h⟩ := h
        rw [Option.bind_eq_bind, Option.bind_eq_some_iff] at h
        obtain ⟨rest, hrest, h⟩ := h
        cases h
        rcases List.mem_cons.mp ha with rfl | ha
        · exact ⟨item, hb⟩
        · exact ih ha hrest
  · cases h

theorem free_of_entry {j : Json} {g : Gpu} (h : entry? j = some g) : g.ownership = .free := by
  unfold entry? at h
  simp only [Option.bind_eq_bind, Option.bind_eq_some_iff, Option.pure_def,
    Option.some.injEq] at h
  obtain ⟨-, -, -, -, -, -, -, -, -, -, rfl⟩ := h
  rfl

theorem free_of_line {number : Nat} {s : List Char} {g : Gpu}
    (h : line number s = .ok (some g)) : g.ownership = .free := by
  unfold line at h
  split at h
  · rename_i uuid name total free rest hfields
    cases htotal : memory number total with
    | error e => rw [htotal] at h; cases h
    | ok totalMemory =>
        cases hfree : memory number free with
        | error e => rw [htotal, hfree] at h; cases h
        | ok freeMemory =>
            rw [htotal, hfree] at h
            cases h
            rfl
  · cases h

theorem free_of_gpuLines {ss : List (List Char)} {number : Nat} {gpus : List Gpu}
    (h : gpuLines number ss = .ok gpus) : ∀ g ∈ gpus, g.ownership = .free := by
  induction ss generalizing number gpus with
  | nil =>
      cases h
      simp
  | cons s ss ih =>
      rw [gpuLines] at h
      cases hline : line number s with
      | error e => rw [hline] at h; cases h
      | ok found =>
          cases hrest : gpuLines (number + 1) ss with
          | error e => rw [hline, hrest] at h; cases h
          | ok rest =>
              rw [hline, hrest] at h
              cases h
              intro g hg
              rcases List.mem_append.mp hg with hg | hg
              · rw [Option.mem_toList] at hg
                exact free_of_line (hg ▸ hline)
              · exact ih hrest g hg

theorem valid_of_rejectDuplicates {found gpus : List Gpu}
    (hfree : ∀ g ∈ found, g.ownership = .free) (h : rejectDuplicates found = .ok gpus) :
    Valid gpus := by
  unfold rejectDuplicates at h
  split at h
  · cases h
  · rename_i hnone
    cases h
    exact ⟨(nodup_of_repeatedUuid?_eq_none hnone).1, hfree⟩

theorem valid_of_parseJson {text : String} {gpus : List Gpu} (h : parseJson text = .ok gpus) :
    Valid gpus := by
  unfold parseJson at h
  split at h
  · cases h
  · rename_i found hfound
    refine valid_of_rejectDuplicates (fun g hg => ?_) h
    obtain ⟨j, -, hj⟩ := Option.bind_eq_some_iff.mp hfound
    obtain ⟨item, hitem⟩ := exists_of_mem_toList? hj hg
    exact free_of_entry hitem

theorem valid_of_parseCsv {text : String} {gpus : List Gpu} (h : parseCsv text = .ok gpus) :
    Valid gpus := by
  unfold parseCsv at h
  cases hlines : gpuLines 1 (Text.lines text.toList) with
  | error e => rw [hlines] at h; cases h
  | ok found =>
      rw [hlines] at h
      exact valid_of_rejectDuplicates (free_of_gpuLines hlines) h

theorem valid_of_load {name : String} {file : Option (List UInt8)} {gpus : List Gpu}
    (h : load name file = .ok gpus) : Valid gpus := by
  unfold load at h
  split at h
  · cases h
  · split at h
    · exact valid_of_parseCsv h
    · exact valid_of_parseJson h

end NumaFabric.Inventory
