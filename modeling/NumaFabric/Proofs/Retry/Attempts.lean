import NumaFabric.Retry.Run

namespace NumaFabric.Retry

variable {σ ε α : Type}

/-- No wait before an attempt that the policy allows is longer than any duration. -/
def Policy.NeverOverflows (p : Policy) : Prop :=
  ∀ n, 1 ≤ n → n ≤ p.attempts → (p.delayBefore? n).isSome

theorem Policy.neverOverflows_linear {maxAttempts : UInt32} {step : Duration}
    (h : step * ((Policy.mk maxAttempts (.linear step)).attempts - 1) ≤ Duration.longest) :
    (Policy.mk maxAttempts (.linear step)).NeverOverflows := by
  intro n hpos hmax
  have hle : step * (n - 1) ≤ Duration.longest :=
    Nat.le_trans (Nat.mul_le_mul_left step (Nat.sub_le_sub_right hmax 1)) h
  change (step.times? (n - 1)).isSome
  rw [Duration.times?, if_pos hle]
  rfl

/-- The state after the first attempts, if that many are made. -/
def after (op : Operation σ ε α) (s : σ) : (attempts : Nat) → σ
  | 0 => s
  | n + 1 => (op (n + 1) (after op s n)).2

def result (op : Operation σ ε α) (s : σ) (attempt : Nat) : Except ε α :=
  (op attempt (after op s (attempt - 1))).1

/-- No attempt follows one with this result. -/
def Settles (p : Policy) (transient : ε → Bool) (attempt : Nat) : Except ε α → Prop
  | .ok _ => True
  | .error e => transient e = false ∨ attempt = p.attempts

def outcome (transient : ε → Bool) (attempt : Nat) : Except ε α → Outcome ε α
  | .ok value => .ok value
  | .error e => if transient e then .exhausted attempt e else .permanent attempt e

theorem runFrom_of_settles {p : Policy} {transient : ε → Bool} {op : Operation σ ε α} {s : σ}
    {left attempt : Nat} (hdelay : (p.delayBefore? attempt).isSome)
    (hleft : attempt + left = p.attempts)
    (hsettles : Settles p transient attempt (op attempt s).1) :
    runFrom p transient op left attempt s =
      (outcome transient attempt (op attempt s).1, (op attempt s).2) := by
  obtain ⟨delay, hdelay⟩ := Option.isSome_iff_exists.mp hdelay
  rw [runFrom]
  simp only [hdelay]
  generalize op attempt s = r at hsettles ⊢
  obtain ⟨e | value, s'⟩ := r
  · cases htransient : transient e with
    | false => simp [outcome, htransient]
    | true =>
        rcases hsettles with hfalse | hlast
        · rw [htransient] at hfalse
          cases hfalse
        · obtain rfl : left = 0 := by omega
          simp [outcome, htransient]
  · rfl

theorem runFrom_of_not_settles {p : Policy} {transient : ε → Bool} {op : Operation σ ε α} {s : σ}
    {left attempt : Nat} (hdelay : (p.delayBefore? attempt).isSome)
    (hsettles : ¬ Settles p transient attempt (op attempt s).1) :
    runFrom p transient op (left + 1) attempt s =
      runFrom p transient op left (attempt + 1) (op attempt s).2 := by
  obtain ⟨delay, hdelay⟩ := Option.isSome_iff_exists.mp hdelay
  rw [runFrom]
  simp only [hdelay]
  generalize op attempt s = r at hsettles ⊢
  obtain ⟨e | value, s'⟩ := r
  · have htransient : transient e = true :=
      (Bool.not_eq_false _).mp fun hfalse => hsettles (.inl hfalse)
    simp only [htransient, if_true]
  · exact absurd trivial hsettles

theorem exists_runFrom_eq {p : Policy} (hp : p.NeverOverflows) (transient : ε → Bool)
    (op : Operation σ ε α) (s : σ) {left made : Nat} (hleft : made + 1 + left = p.attempts) :
    ∃ n, made < n ∧ n ≤ p.attempts ∧ Settles p transient n (result op s n) ∧
      (∀ i, made < i → i < n → ¬ Settles p transient i (result op s i)) ∧
      runFrom p transient op left (made + 1) (after op s made) =
        (outcome transient n (result op s n), after op s n) := by
  have hdelay := hp (made + 1) (Nat.le_add_left 1 made) (by omega)
  by_cases hsettles : Settles p transient (made + 1) (result op s (made + 1))
  · refine ⟨made + 1, Nat.lt_succ_self made, by omega, hsettles, fun i hlow hhigh => ?_, ?_⟩
    · omega
    · exact runFrom_of_settles hdelay hleft hsettles
  · cases left with
    | zero =>
        -- the last attempt that the policy allows settles the matter whatever it gives
        cases hr : result op s (made + 1) with
        | error e => exact absurd (hr ▸ .inr hleft) hsettles
        | ok value => exact absurd (hr ▸ trivial) hsettles
    | succ left =>
        have hleft' : made + 1 + 1 + left = p.attempts := by omega
        obtain ⟨n, hlow, hhigh, hlast, hbefore, hrun⟩ :=
          exists_runFrom_eq hp transient op s hleft'
        refine ⟨n, by omega, hhigh, hlast, fun i hi hin => ?_, ?_⟩
        · rcases Nat.lt_or_ge (made + 1) i with hlt | hge
          · exact hbefore i hlt hin
          · obtain rfl : i = made + 1 := by omega
            exact hsettles
        · exact (runFrom_of_not_settles hdelay hsettles).trans hrun

/-- The loop ends with the first attempt that settles the matter. -/
theorem exists_run_eq {p : Policy} (hp : p.NeverOverflows) (transient : ε → Bool)
    (op : Operation σ ε α) (s : σ) :
    ∃ n, 1 ≤ n ∧ n ≤ p.attempts ∧ Settles p transient n (result op s n) ∧
      (∀ i, 1 ≤ i → i < n → ¬ Settles p transient i (result op s i)) ∧
      run p transient op s = (outcome transient n (result op s n), after op s n) := by
  have hpos := p.attempts_pos
  have hleft : 0 + 1 + (p.attempts - 1) = p.attempts := by omega
  exact exists_runFrom_eq hp transient op s hleft

theorem runFrom_eq_ok {p : Policy} {transient : ε → Bool} {op : Operation σ ε α} {s s' : σ}
    {value : α} {left attempt : Nat}
    (h : runFrom p transient op left attempt s = (.ok value, s')) :
    op attempt s = (.ok value, s') ∨
      ∃ rest e, left = rest + 1 ∧ (op attempt s).1 = .error e ∧
        runFrom p transient op rest (attempt + 1) (op attempt s).2 = (.ok value, s') := by
  rw [runFrom] at h
  split at h
  · cases h
  · split at h
    · rename_i hop
      cases h
      exact .inl hop
    · rename_i e s'' hop
      rw [hop]
      split at h
      · cases left with
        | zero => cases h
        | succ rest => exact .inr ⟨rest, e, rfl, rfl, h⟩
      · cases h

theorem exists_of_runFrom_eq_ok {p : Policy} {transient : ε → Bool} {op : Operation σ ε α} {s s' : σ}
    {value : α} {left made : Nat}
    (h : runFrom p transient op left (made + 1) (after op s made) = (.ok value, s')) :
    ∃ n, made ≤ n ∧ result op s (n + 1) = .ok value ∧ s' = after op s (n + 1) ∧
      ∀ i, made < i → i ≤ n → ∃ e, result op s i = .error e := by
  induction left generalizing made with
  | zero =>
      rcases runFrom_eq_ok h with hop | ⟨rest, e, hrest, -⟩
      · refine ⟨made, Nat.le_refl _, congrArg Prod.fst hop, (congrArg Prod.snd hop).symm, ?_⟩
        intro i hlow hhigh
        omega
      · cases hrest
  | succ left ih =>
      rcases runFrom_eq_ok h with hop | ⟨rest, e, hrest, hfailed, hrun⟩
      · refine ⟨made, Nat.le_refl _, congrArg Prod.fst hop, (congrArg Prod.snd hop).symm, ?_⟩
        intro i hlow hhigh
        omega
      · obtain rfl : left = rest := Nat.succ.inj hrest
        obtain ⟨n, hle, hok, hstate, hbefore⟩ := ih hrun
        refine ⟨n, Nat.le_of_succ_le hle, hok, hstate, ?_⟩
        intro i hlow hhigh
        rcases Nat.lt_or_ge (made + 1) i with hlt | hge
        · exact hbefore i hlt hhigh
        · obtain rfl : i = made + 1 := by omega
          exact ⟨e, hfailed⟩

theorem exists_of_run_eq_ok {p : Policy} {transient : ε → Bool} {op : Operation σ ε α} {s s' : σ}
    {value : α} (h : run p transient op s = (.ok value, s')) :
    ∃ n, result op s (n + 1) = .ok value ∧ s' = after op s (n + 1) ∧
      ∀ i, 1 ≤ i → i ≤ n → ∃ e, result op s i = .error e := by
  have hstart : runFrom p transient op (p.attempts - 1) (0 + 1) (after op s 0) =
      (.ok value, s') := h
  obtain ⟨n, -, hok, hstate, hbefore⟩ := exists_of_runFrom_eq_ok hstart
  exact ⟨n, hok, hstate, hbefore⟩

def Outcome.mapError {ε' : Type} (f : ε → ε') : Outcome ε α → Outcome ε' α
  | ok value => ok value
  | exhausted attempts last => exhausted attempts (f last)
  | permanent attempt error => permanent attempt (f error)
  | delayOverflow attempt => delayOverflow attempt

theorem runFrom_mapError {ε' : Type} {transient : ε → Bool} {transient' : ε' → Bool} {f : ε → ε'}
    (htransient : ∀ e, transient' (f e) = transient e) {op : Operation σ ε α}
    {op' : Operation σ ε' α} (hop : ∀ n s, op' n s = ((op n s).1.mapError f, (op n s).2))
    (p : Policy) (left attempt : Nat) (s : σ) :
    runFrom p transient' op' left attempt s =
      ((runFrom p transient op left attempt s).1.mapError f,
        (runFrom p transient op left attempt s).2) := by
  fun_induction runFrom p transient op left attempt s with
  | case1 left attempt s hdelay =>
      rw [runFrom, hdelay]
      rfl
  | case2 left attempt s _ hdelay value s' hvalue =>
      rw [runFrom, hdelay, hop, hvalue]
      rfl
  | case3 attempt s _ hdelay e s' herror he =>
      rw [runFrom, hdelay, hop, herror]
      change (if transient' (f e) then _ else _) = _
      rw [htransient, if_pos he]
      rfl
  | case4 attempt s _ hdelay e s' herror he left ih =>
      rw [runFrom, hdelay, hop, herror]
      change (if transient' (f e) then _ else _) = _
      rw [htransient, if_pos he]
      exact ih
  | case5 left attempt s _ hdelay e s' herror he =>
      rw [runFrom, hdelay, hop, herror]
      change (if transient' (f e) then _ else _) = _
      rw [htransient, if_neg he]
      rfl

theorem run_mapError {ε' : Type} {transient : ε → Bool} {transient' : ε' → Bool} {f : ε → ε'}
    (htransient : ∀ e, transient' (f e) = transient e) {op : Operation σ ε α}
    {op' : Operation σ ε' α} (hop : ∀ n s, op' n s = ((op n s).1.mapError f, (op n s).2))
    (p : Policy) (s : σ) :
    run p transient' op' s =
      ((run p transient op s).1.mapError f, (run p transient op s).2) :=
  runFrom_mapError htransient hop p _ 1 s

theorem runFrom_fst_congr {op op' : Operation σ ε α} (hresult : ∀ n s, (op n s).1 = (op' n s).1)
    (hstate : ∀ n s e, (op n s).1 = .error e → (op n s).2 = (op' n s).2) (p : Policy)
    (transient : ε → Bool) (left attempt : Nat) (s : σ) :
    (runFrom p transient op left attempt s).1 = (runFrom p transient op' left attempt s).1 := by
  have hok {n : Nat} {s s' : σ} {value : α} (h : op n s = (.ok value, s')) :
      ∃ s'', op' n s = (.ok value, s'') :=
    ⟨(op' n s).2, Prod.ext (by rw [← hresult, h]) rfl⟩
  have herror {n : Nat} {s s' : σ} {e : ε} (h : op n s = (.error e, s')) :
      op' n s = (.error e, s') :=
    Prod.ext (by rw [← hresult, h]) (by rw [← hstate n s e (by rw [h]), h])
  fun_induction runFrom p transient op left attempt s with
  | case1 left attempt s hdelay => rw [runFrom, hdelay]
  | case2 left attempt s _ hdelay value s' hvalue =>
      obtain ⟨s'', hvalue'⟩ := hok hvalue
      rw [runFrom, hdelay, hvalue']
  | case3 attempt s _ hdelay e s' hfailed he =>
      rw [runFrom, hdelay, herror hfailed]
      simp only [if_pos he]
  | case4 attempt s _ hdelay e s' hfailed he left ih =>
      have hnext : runFrom p transient op' (left + 1) attempt s =
          runFrom p transient op' left (attempt + 1) s' := by
        rw [runFrom, hdelay, herror hfailed]
        simp only [if_pos he]
      exact ih.trans (congrArg Prod.fst hnext.symm)
  | case5 left attempt s _ hdelay e s' hfailed he =>
      rw [runFrom, hdelay, herror hfailed]
      simp only [if_neg he]

/-- Operations that give the same results are retried to the same outcome. Their states may differ
after a success, from which there is no going on. -/
theorem run_fst_congr {op op' : Operation σ ε α} (hresult : ∀ n s, (op n s).1 = (op' n s).1)
    (hstate : ∀ n s e, (op n s).1 = .error e → (op n s).2 = (op' n s).2) (p : Policy)
    (transient : ε → Bool) (s : σ) : (run p transient op s).1 = (run p transient op' s).1 :=
  runFrom_fst_congr hresult hstate p transient _ 1 s

theorem run_ne_delayOverflow {p : Policy} (hp : p.NeverOverflows) (transient : ε → Bool)
    (op : Operation σ ε α) (s : σ) (attempt : Nat) :
    (run p transient op s).1 ≠ .delayOverflow attempt := by
  obtain ⟨n, -, -, -, -, hrun⟩ := exists_run_eq hp transient op s
  rw [hrun]
  unfold outcome
  split
  · exact nofun
  · split <;> exact nofun

end NumaFabric.Retry
