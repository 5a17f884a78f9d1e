import NumaFabric.Proofs.Memory.Contents
import NumaFabric.Proofs.Retry.Attempts
import NumaFabric.Proofs.Wire.RoundTrip
import NumaFabric.Routing.Router

namespace NumaFabric

namespace Wire.Command

def LacksValue (c : Command) : Prop := c.operation = .set ∧ c.payload = []

instance (c : Command) : Decidable c.LacksValue := inferInstanceAs (Decidable (_ ∧ _))

def image (c : Command) : List UInt8 :=
  match c.operation with
  | .copy => c.payload
  | .set => List.replicate c.payload.length (c.payload.headD 0)

theorem length_image (c : Command) : c.image.length = c.payload.length := by
  unfold image
  split
  · rfl
  · exact List.length_replicate ..

def carryOut (c : Command) (m : AddressSpace) : Except MemoryError AddressSpace :=
  match c.operation with
  | .copy => m.write c.destination c.payload
  | .set => m.fill c.destination c.dataSize.toNat (c.payload.headD 0)

theorem write_of_carryOut {c : Command} (hc : c.payload.length < 2 ^ 32) {m m' : AddressSpace}
    (h : c.carryOut m = .ok m') : m.write c.destination c.image = .ok m' := by
  have hsize : c.dataSize.toNat = c.payload.length := toNat_dataSize (Nat.le_pred_of_lt hc)
  unfold carryOut at h
  unfold image
  cases hop : c.operation with
  | copy => simpa only [hop] using h
  | set =>
      simp only [hop, hsize] at h
      exact AddressSpace.write_of_fill h

end Wire.Command

namespace LocalMemory

variable {m : LocalMemory} {op : AddressSpace → Except MemoryError AddressSpace}

theorem calls_call (m : LocalMemory) (op : AddressSpace → Except MemoryError AddressSpace) :
    (m.call op).2.calls = m.calls + 1 := by
  unfold call
  split
  · rfl
  · split <;> rfl

theorem space_call_of_error {e : MemoryError} (h : (m.call op).1 = .error e) :
    (m.call op).2.space = m.space := by
  unfold call at h ⊢
  split
  · rfl
  · rename_i hfaults
    rw [if_neg hfaults] at h
    split
    · rename_i space hok
      rw [hok] at h
      cases h
    · rfl

theorem space_call_of_ok {u : Unit} (h : (m.call op).1 = .ok u) :
    op m.space = .ok (m.call op).2.space := by
  unfold call at h ⊢
  split at h
  · cases h
  · rename_i hfaults
    rw [if_neg hfaults]
    split at h
    · rename_i space hok
      rw [hok]
    · cases h

end LocalMemory

namespace Router

open NumaFabric.Wire

variable {φ : Type}

theorem attempt_eq_call (c : Command) (m : LocalMemory) : attempt c m = m.call c.carryOut := by
  unfold attempt LocalMemory.copyIn LocalMemory.fill
  split
  · rename_i hop
    have hcarry : c.carryOut = fun space => space.write c.destination c.payload := by
      funext space
      simp only [Command.carryOut, hop]
    rw [hcarry]
  · rename_i hop
    have hcarry : c.carryOut = fun space =>
        space.fill c.destination c.dataSize.toNat (c.payload.headD 0) := by
      funext space
      simp only [Command.carryOut, hop]
    rw [hcarry]

def afterAttempts (c : Command) (m : LocalMemory) (n : Nat) : LocalMemory :=
  Retry.after (fun _ => attempt c) m n

def attemptResult (c : Command) (m : LocalMemory) (attempt : Nat) : Except MemoryError Unit :=
  Retry.result (fun _ => Router.attempt c) m attempt

theorem calls_afterAttempts (c : Command) (m : LocalMemory) (n : Nat) :
    (afterAttempts c m n).calls = m.calls + n := by
  induction n with
  | zero => rfl
  | succ n ih =>
      change (attempt c (afterAttempts c m n)).2.calls = m.calls + (n + 1)
      rw [attempt_eq_call, LocalMemory.calls_call, ih]
      rfl

theorem space_afterAttempts {c : Command} {m : LocalMemory} {n : Nat}
    (h : ∀ i, 1 ≤ i → i ≤ n → ∃ e, attemptResult c m i = .error e) :
    (afterAttempts c m n).space = m.space := by
  induction n with
  | zero => rfl
  | succ n ih =>
      obtain ⟨e, he⟩ := h (n + 1) (Nat.le_add_left 1 n) (Nat.le_refl _)
      have hfails : (attempt c (afterAttempts c m n)).1 = .error e := he
      change (attempt c (afterAttempts c m n)).2.space = m.space
      rw [attempt_eq_call] at hfails ⊢
      rw [LocalMemory.space_call_of_error hfails]
      exact ih fun i hlow hhigh => h i hlow (Nat.le_succ_of_le hhigh)

theorem wrote_of_attemptResult {c : Command} (hc : c.payload.length < 2 ^ 32) {m : LocalMemory}
    (hm : m.space.Sound) {n : Nat}
    (hbefore : ∀ i, 1 ≤ i → i ≤ n → ∃ e, attemptResult c m i = .error e)
    (hok : attemptResult c m (n + 1) = .ok ()) :
    m.space.Wrote (afterAttempts c m (n + 1)).space c.destination c.image := by
  have hcall : (attempt c (afterAttempts c m n)).1 = .ok () := hok
  rw [attempt_eq_call] at hcall
  have hcarry := LocalMemory.space_call_of_ok hcall
  rw [space_afterAttempts hbefore, ← attempt_eq_call] at hcarry
  exact AddressSpace.wrote_of_write hm (Command.write_of_carryOut hc hcarry)

/-- How the attempts at a command end, given memory before and after them: the last one's result is
the answer, and memory has changed if that is a success. -/
inductive Ends (p : Retry.Policy) (c : Command) (before after : LocalMemory) (calls : Nat) :
    Except RouteError Unit → Prop
  | wrote : attemptResult c before calls = .ok () →
      before.space.Wrote after.space c.destination c.image → Ends p c before after calls (.ok ())
  | refused {e : MemoryError} : attemptResult c before calls = .error e → e.isTransient = false →
      after.space = before.space → Ends p c before after calls (.error (.memory e))
  | exhausted {base : Address} : attemptResult c before calls = .error (.busy base) →
      calls = max 1 p.maxAttempts.toNat → after.space = before.space →
      Ends p c before after calls (.error (.retriesExhausted calls (.busy base)))

/-- The router's memory was called so often for a command: again only after it was busy, and never
more often than the policy allows. -/
structure Applied (r : Router φ) (c : Command) (memory : LocalMemory) (calls : Nat)
    (answer : Except RouteError Unit) : Prop where
  pos : 1 ≤ calls
  le_attempts : calls ≤ max 1 r.retry.maxAttempts.toNat
  counted : memory.calls = r.memory.calls + calls
  busy_before : ∀ i, 1 ≤ i → i < calls → ∃ base, attemptResult c r.memory i = .error (.busy base)
  ends : Ends r.retry c r.memory memory calls answer

theorem exists_busy_of_isTransient {e : MemoryError} (h : e.isTransient = true) :
    ∃ base, e = .busy base := by
  cases e with
  | busy base => exact ⟨base, rfl⟩
  | unmapped | outOfBounds | overlap => cases h

theorem exists_busy_of_not_settles {p : Retry.Policy} {attempt : Nat}
    {result : Except MemoryError Unit}
    (h : ¬ Retry.Settles p MemoryError.isTransient attempt result) :
    ∃ base, result = .error (.busy base) := by
  cases result with
  | ok u => exact absurd trivial h
  | error e =>
      have htransient : e.isTransient = true := (Bool.not_eq_false _).mp fun hf => h (.inl hf)
      obtain ⟨base, rfl⟩ := exists_busy_of_isTransient htransient
      exact ⟨base, rfl⟩

def answerOf : Retry.Outcome MemoryError Unit → Except RouteError Unit
  | .ok () => .ok ()
  | .permanent _ e => .error (.memory e)
  | .exhausted attempts e => .error (.retriesExhausted attempts e)
  | .delayOverflow _ => .error .delayOverflow

theorem applyHere_eq (r : Router φ) (c : Command) :
    r.applyHere c =
      (answerOf (Retry.run r.retry MemoryError.isTransient (fun _ => attempt c) r.memory).1,
        { r with memory :=
          (Retry.run r.retry MemoryError.isTransient (fun _ => attempt c) r.memory).2 }) := by
  unfold applyHere
  split
  rename_i outcome memory hrun
  rw [hrun]
  cases outcome <;> rfl

theorem ends_of_error {p : Retry.Policy} {c : Command} {m : LocalMemory} {n : Nat}
    (hbusy : ∀ i, 1 ≤ i → i < n → ∃ base, attemptResult c m i = .error (.busy base))
    {e : MemoryError} (he : attemptResult c m n = .error e)
    (hsettles : e.isTransient = false ∨ n = p.attempts) :
    Ends p c m (afterAttempts c m n) n
      (answerOf (Retry.outcome MemoryError.isTransient n (.error e))) := by
  -- the last attempt failed as well as those before it
  have hspace : (afterAttempts c m n).space = m.space := by
    refine space_afterAttempts fun i hlow hhigh => ?_
    rcases Nat.lt_or_eq_of_le hhigh with hlt | rfl
    · obtain ⟨base, hbase⟩ := hbusy i hlow hlt
      exact ⟨.busy base, hbase⟩
    · exact ⟨e, he⟩
  cases htransient : e.isTransient with
  | false =>
      simp only [Retry.outcome, htransient]
      exact .refused he htransient hspace
  | true =>
      obtain ⟨base, rfl⟩ := exists_busy_of_isTransient htransient
      rcases hsettles with hfalse | hlast
      · cases hfalse
      · exact .exhausted he hlast hspace

theorem ends_of_ok {p : Retry.Policy} {c : Command} (hc : c.payload.length < 2 ^ 32)
    {m : LocalMemory} (hm : m.space.Sound) {n : Nat} (hpos : 1 ≤ n)
    (hbusy : ∀ i, 1 ≤ i → i < n → ∃ base, attemptResult c m i = .error (.busy base))
    (hok : attemptResult c m n = .ok ()) : Ends p c m (afterAttempts c m n) n (.ok ()) := by
  obtain ⟨k, rfl⟩ := Nat.exists_eq_add_of_le' hpos
  refine .wrote hok (wrote_of_attemptResult hc hm (fun i hlow hhigh => ?_) hok)
  obtain ⟨base, hbase⟩ := hbusy i hlow (Nat.lt_succ_of_le hhigh)
  exact ⟨.busy base, hbase⟩

theorem wrote_of_applyHere {r : Router φ} {c : Command} (hc : c.payload.length < 2 ^ 32)
    (hm : r.memory.space.Sound) {u : Unit} (h : (r.applyHere c).1 = .ok u) :
    r.memory.space.Wrote (r.applyHere c).2.memory.space c.destination c.image := by
  rw [applyHere_eq] at h ⊢
  cases hrun : Retry.run r.retry MemoryError.isTransient (fun _ => attempt c) r.memory with
  | mk outcome memory =>
      rw [hrun] at h
      cases outcome with
      | ok u =>
          obtain ⟨n, hok, rfl, hbefore⟩ := Retry.exists_of_run_eq_ok hrun
          exact wrote_of_attemptResult hc hm hbefore hok
      | exhausted | permanent | delayOverflow => cases h

theorem exists_applied (r : Router φ) {c : Command} (hc : c.payload.length < 2 ^ 32)
    (hm : r.memory.space.Sound) (hretry : r.retry.NeverOverflows) :
    ∃ calls answer memory, r.applyHere c = (answer, { r with memory }) ∧
      r.Applied c memory calls answer := by
  obtain ⟨n, hpos, hmax, hsettles, hbefore, hrun⟩ :=
    Retry.exists_run_eq hretry MemoryError.isTransient (fun _ => attempt c) r.memory
  have hbusy (i : Nat) (hlow : 1 ≤ i) (hhigh : i < n) :
      ∃ base, attemptResult c r.memory i = .error (.busy base) :=
    exists_busy_of_not_settles (hbefore i hlow hhigh)
  refine ⟨n, answerOf (Retry.outcome MemoryError.isTransient n (attemptResult c r.memory n)),
    afterAttempts c r.memory n, ?_, hpos, hmax, calls_afterAttempts c r.memory n, hbusy, ?_⟩
  · rw [applyHere_eq, hrun]
    rfl
  · change Retry.Settles _ _ _ (attemptResult c r.memory n) at hsettles
    cases hresult : attemptResult c r.memory n with
    | error e =>
        rw [hresult] at hsettles
        exact ends_of_error hbusy hresult hsettles
    | ok u => exact ends_of_ok hc hm hpos hbusy hresult

end Router

end NumaFabric
