import NumaFabric.Proofs.Text.Pieces

namespace NumaFabric.Text

/-- Decimal digits and the number that they write. -/
inductive Writes : List Char → Nat → Prop
  | one {d : Nat} (hd : d < 10) : Writes [d.digitChar] d
  | more {s : List Char} {n d : Nat} (h : Writes s n) (hd : d < 10) :
      Writes (s ++ [d.digitChar]) (n * 10 + d)

/-- A number below `bound`: digits after an optional plus sign, with blanks around them. -/
inductive IsNumber (bound : Nat) : List Char → Nat → Prop
  | mk {before sign digits after : List Char} {n : Nat} (hbefore : Blank before)
      (hsign : sign = [] ∨ sign = ['+']) (hdigits : Writes digits n) (hafter : Blank after)
      (hn : n < bound) : IsNumber bound (before ++ (sign ++ digits) ++ after) n

section

variable {s : List Char} {c : Char} {n d bound : Nat}

theorem Writes.ne_nil (h : Writes s n) : s ≠ [] := by
  cases h with
  | one _ => exact List.cons_ne_nil _ _
  | more _ _ => simp

theorem Writes.isDigit (h : Writes s n) : ∀ c ∈ s, c.isDigit = true := by
  induction h with
  | one hd =>
      intro c hc
      rw [List.mem_singleton.mp hc, Nat.isDigit_digitChar, decide_eq_true hd]
  | more _ hd ih =>
      intro c hc
      rcases List.mem_append.mp hc with hc | hc
      · exact ih c hc
      · rw [List.mem_singleton.mp hc, Nat.isDigit_digitChar, decide_eq_true hd]

theorem digits?_of_ne_nil (hne : s ≠ []) (base : Nat) : digits? base s = accumulate? base 0 s := by
  cases s with
  | nil => exact absurd rfl hne
  | cons c s => rfl

theorem digitValue?_ten_eq_some_iff : digitValue? 10 c = some d ↔ d < 10 ∧ c = d.digitChar := by
  constructor
  · intro h
    unfold digitValue? at h
    obtain ⟨hvalue, hd⟩ := Option.filter_eq_some_iff.mp h
    have hten : d < 10 := of_decide_eq_true hd
    refine ⟨hten, Char.toNat_inj.mp ?_⟩
    rw [Nat.toNat_digitChar_of_lt_ten hten]
    grind
  · rintro ⟨hd, rfl⟩
    exact digitValue?_digitChar (by decide) hd

theorem accumulate?_eq_some_iff (hne : s ≠ []) : accumulate? 10 0 s = some n ↔ Writes s n := by
  constructor
  · intro h
    -- the last digit is read last, and begins the number where it is the only one
    induction s using List.reverseRecOn generalizing n with
    | nil => exact absurd rfl hne
    | append_singleton s c ih =>
        rw [accumulate?_append] at h
        obtain ⟨m, hm, hlast⟩ := Option.bind_eq_some_iff.mp h
        rw [accumulate?] at hlast
        split at hlast
        · rename_i d hvalue
          obtain ⟨hd, rfl⟩ := digitValue?_ten_eq_some_iff.mp hvalue
          obtain rfl := Option.some.inj hlast
          by_cases hs : s = []
          · subst hs
            obtain rfl := Option.some.inj hm
            rw [Nat.zero_mul, Nat.zero_add]
            exact .one hd
          · exact .more (ih hs hm) hd
        · cases hlast
  · intro h
    induction h with
    | @one d hd =>
        rw [accumulate?, digitValue?_digitChar (by decide) hd]
        simp [accumulate?]
    | more h hd ih =>
        rw [accumulate?_append, ih h.ne_nil, Option.bind_some, accumulate?,
          digitValue?_digitChar (by decide) hd]
        rfl

theorem digits?_eq_some_iff : digits? 10 s = some n ↔ Writes s n := by
  by_cases hne : s = []
  · subst hne
    exact iff_of_false nofun fun h => h.ne_nil rfl
  · rw [digits?_of_ne_nil hne, accumulate?_eq_some_iff hne]

theorem unsigned?_sign_append {sign : List Char} (hsign : sign = [] ∨ sign = ['+'])
    (hdigit : ∀ c ∈ s, c.isDigit = true) :
    unsigned? bound (sign ++ s) = (digits? 10 s).filter (· < bound) := by
  rcases hsign with rfl | rfl
  · have hplus : s.head? ≠ some '+' := fun h =>
      absurd (hdigit '+' (List.mem_of_head? h)) (by decide)
    rw [List.nil_append, unsigned?, if_neg hplus]
  · rfl

theorem not_isBlank_of_isDigit (hc : c.isDigit = true) : isBlank c = false := by
  simp only [Char.isDigit, Bool.and_eq_true, decide_eq_true_eq] at hc
  have hlow : 48 ≤ c.toNat := hc.1
  have hhigh : c.toNat ≤ 57 := hc.2
  simp only [isBlank, Bool.or_eq_false_iff, Bool.and_eq_false_iff, decide_eq_false_iff_not,
    beq_eq_false_iff_ne]
  omega

theorem unsigned?_eq_some_iff : unsigned? bound s = some n ↔
    ∃ sign digits, (sign = [] ∨ sign = ['+']) ∧ Writes digits n ∧ n < bound ∧
      s = sign ++ digits := by
  constructor
  · intro h
    rw [unsigned?] at h
    obtain ⟨hdigits, hn⟩ := Option.filter_eq_some_iff.mp h
    have hwrites := digits?_eq_some_iff.mp hdigits
    by_cases hplus : s.head? = some '+'
    · rw [if_pos hplus] at hwrites
      obtain ⟨rest, rfl⟩ := List.head?_eq_some_iff.mp hplus
      exact ⟨['+'], rest, .inr rfl, hwrites, of_decide_eq_true hn, rfl⟩
    · rw [if_neg hplus] at hwrites
      exact ⟨[], s, .inl rfl, hwrites, of_decide_eq_true hn, rfl⟩
  · rintro ⟨sign, digits, hsign, hdigits, hn, rfl⟩
    rw [unsigned?_sign_append hsign hdigits.isDigit, digits?_eq_some_iff.mpr hdigits]
    simp [hn]

theorem unsigned?_trim_eq_some_iff : unsigned? bound (trim s) = some n ↔ IsNumber bound s n := by
  constructor
  · intro h
    obtain ⟨before, after, hbefore, hafter, hs⟩ := exists_eq_append_trim s
    obtain ⟨sign, digits, hsign, hdigits, hn, htrim⟩ := unsigned?_eq_some_iff.mp h
    rw [hs, htrim]
    exact .mk hbefore hsign hdigits hafter hn
  · rintro ⟨hbefore, hsign, hdigits, hafter, hn⟩
    rename_i before sign digits after
    have hsolid : ∀ c ∈ sign ++ digits, isBlank c = false := by
      intro c hc
      rcases List.mem_append.mp hc with hc | hc
      · rcases hsign with rfl | rfl
        · cases hc
        · rw [List.mem_singleton.mp hc]
          decide
      · exact not_isBlank_of_isDigit (hdigits.isDigit c hc)
    have hne : sign ++ digits ≠ [] := fun h => hdigits.ne_nil (List.append_eq_nil_iff.mp h).2
    rw [trim_append hbefore hafter hne hsolid]
    exact unsigned?_eq_some_iff.mpr ⟨sign, digits, hsign, hdigits, hn, rfl⟩

theorem IsNumber.lt (h : IsNumber bound s n) : n < bound := by
  obtain ⟨-, -, -, -, hn⟩ := h
  exact hn

theorem IsNumber.not_mem (h : IsNumber bound s n) (hblank : isBlank c = false) (hsign : c ≠ '+')
    (hdigit : c.isDigit = false) : c ∉ s := by
  obtain ⟨hbefore, hplus, hdigits, hafter, -⟩ := h
  intro hc
  simp only [List.mem_append] at hc
  rcases hc with (hc | hc | hc) | hc
  · rw [hbefore c hc] at hblank
    cases hblank
  · rcases hplus with rfl | rfl
    · cases hc
    · exact hsign (List.mem_singleton.mp hc)
  · rw [hdigits.isDigit c hc] at hdigit
    cases hdigit
  · rw [hafter c hc] at hblank
    cases hblank

theorem IsNumber.exists_isDigit (h : IsNumber bound s n) : ∃ c ∈ s, c.isDigit = true := by
  obtain ⟨-, -, hdigits, -, -⟩ := h
  obtain ⟨c, hc⟩ := List.exists_mem_of_ne_nil _ hdigits.ne_nil
  exact ⟨c, by simp [hc], hdigits.isDigit c hc⟩

theorem IsNumber.not_blank (h : IsNumber bound s n) : ¬ Blank s := by
  obtain ⟨c, hc, hdigit⟩ := h.exists_isDigit
  intro hblank
  have hsolid := not_isBlank_of_isDigit hdigit
  rw [hblank c hc] at hsolid
  cases hsolid

theorem isNumber_decimal (hn : n < bound) : IsNumber bound (decimal n) n := by
  have hwrites : Writes (decimal n) n :=
    digits?_eq_some_iff.mp (digits?_toDigits (by decide) (by decide) n)
  have h := IsNumber.mk blank_nil (.inl rfl) hwrites blank_nil hn
  rwa [List.nil_append, List.nil_append, List.append_nil] at h

end

end NumaFabric.Text
