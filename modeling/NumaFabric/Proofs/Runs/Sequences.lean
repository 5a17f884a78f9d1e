namespace NumaFabric

variable {α β ε : Type} {f : α → Except ε β} {l : List α}

theorem bind_eq_ok_iff {γ : Type} {x : Except ε β} {g : β → Except ε γ} {c : γ} :
    x >>= g = .ok c ↔ ∃ b, x = .ok b ∧ g b = .ok c := by
  cases x with
  | error e => simp [bind, Except.bind]
  | ok b => simp [bind, Except.bind]

theorem bind_eq_error_iff {γ : Type} {x : Except ε β} {g : β → Except ε γ} {e : ε} :
    x >>= g = .error e ↔ x = .error e ∨ ∃ b, x = .ok b ∧ g b = .error e := by
  cases x with
  | error e' => simp [bind, Except.bind]
  | ok b => simp [bind, Except.bind]

theorem mapM_eq_ok_iff {r : List β} : l.mapM f = .ok r ↔ l.map f = r.map .ok := by
  induction l generalizing r with
  | nil => cases r <;> simp [pure, Except.pure]
  | cons a l ih =>
      simp only [List.mapM_cons, bind_eq_ok_iff, ih, pure, Except.pure, Except.ok.injEq]
      constructor
      · rintro ⟨b, hb, bs, hbs, rfl⟩
        rw [List.map_cons, List.map_cons, hb, hbs]
      · intro h
        obtain ⟨b, bs, rfl, hb, hbs⟩ := List.map_eq_cons_iff.mp h.symm
        exact ⟨b, hb.symm, bs, hbs.symm, rfl⟩

theorem exists_mapM_eq_ok_iff : (∃ r, l.mapM f = .ok r) ↔ ∀ a ∈ l, ∃ b, f a = .ok b := by
  simp only [mapM_eq_ok_iff]
  constructor
  · rintro ⟨r, hr⟩ a ha
    have hin : f a ∈ r.map Except.ok := hr ▸ List.mem_map_of_mem ha
    obtain ⟨b, -, hb⟩ := List.mem_map.mp hin
    exact ⟨b, hb.symm⟩
  · intro hall
    induction l with
    | nil => exact ⟨[], rfl⟩
    | cons a l ih =>
        obtain ⟨hfirst, hrest⟩ := List.forall_mem_cons.mp hall
        obtain ⟨b, hb⟩ := hfirst
        obtain ⟨r, hr⟩ := ih hrest
        exact ⟨b :: r, by rw [List.map_cons, List.map_cons, hb, hr]⟩

theorem mapM_eq_error_iff {e : ε} : l.mapM f = .error e ↔
    ∃ before a after, l = before ++ a :: after ∧ (∀ b ∈ before, ∃ c, f b = .ok c) ∧
      f a = .error e := by
  induction l with
  | nil => simp [pure, Except.pure]
  | cons a l ih =>
      simp only [List.mapM_cons, bind_eq_error_iff, ih, pure, Except.pure, reduceCtorEq, and_false,
        exists_const, or_false]
      constructor
      · rintro (ha | ⟨b, hb, before, a', after, rfl, hbefore, ha'⟩)
        · exact ⟨[], a, l, rfl, List.forall_mem_nil _, ha⟩
        · exact ⟨a :: before, a', after, rfl, List.forall_mem_cons.mpr ⟨⟨b, hb⟩, hbefore⟩, ha'⟩
      · rintro ⟨before, a', after, hl, hbefore, ha'⟩
        rcases List.cons_eq_append_iff.mp hl with ⟨rfl, hl⟩ | ⟨rest, rfl, rfl⟩
        · obtain ⟨rfl, rfl⟩ := List.cons.inj hl
          exact .inl ha'
        · obtain ⟨hfirst, hrest⟩ := List.forall_mem_cons.mp hbefore
          obtain ⟨b, hb⟩ := hfirst
          exact .inr ⟨b, hb, rest, a', after, rfl, hrest, ha'⟩

end NumaFabric
