import Mathlib.Data.List.Induction
/-!
Runs of something that answers calls. A call takes effect at once, so what several callers do side by
side is one list of calls, in the order in which they take effect. Main statement: what holds at the
start and is kept by every call holds of every run and of the record of its calls and answers. What a
call begins and no later one has ended stands.
-/

namespace NumaFabric

abbrev Machine (σ ι ω : Type) := σ → ι → ω × σ

namespace Machine

variable {σ ι ω : Type} (m : Machine σ ι ω)

def after (s : σ) (calls : List ι) : σ := calls.foldl (fun s call => (m s call).2) s

def log (s : σ) : List ι → List (ι × ω)
  | [] => []
  | call :: calls => (call, (m s call).1) :: log (m s call).2 calls

theorem after_append (s : σ) (calls calls' : List ι) :
    m.after s (calls ++ calls') = m.after (m.after s calls) calls' := List.foldl_append

theorem after_concat (s : σ) (calls : List ι) (call : ι) :
    m.after s (calls ++ [call]) = (m (m.after s calls) call).2 := by
  simp [after]

theorem log_concat (s : σ) (calls : List ι) (call : ι) :
    m.log s (calls ++ [call]) = m.log s calls ++ [(call, (m (m.after s calls) call).1)] := by
  induction calls generalizing s with
  | nil => rfl
  | cons first calls ih =>
      simp only [List.cons_append, log, ih]
      rfl

theorem exists_of_mem_log {s : σ} {calls : List ι} {call : ι} {answer : ω}
    (h : (call, answer) ∈ m.log s calls) : ∃ s', (m s' call).1 = answer := by
  induction calls generalizing s with
  | nil => cases h
  | cons first calls ih =>
      rcases List.mem_cons.mp h with heq | hlater
      · cases heq
        exact ⟨s, rfl⟩
      · exact ih hlater

theorem simulation {τ : Type} {m : Machine σ ι ω} {m' : Machine τ ι ω} {view : σ → τ}
    (h : ∀ s call, m' (view s) call = ((m s call).1, view (m s call).2)) (s : σ) (calls : List ι) :
    m'.log (view s) calls = m.log s calls ∧ m'.after (view s) calls = view (m.after s calls) := by
  induction calls generalizing s with
  | nil => exact ⟨rfl, rfl⟩
  | cons call calls ih =>
      have hrest := ih (m s call).2
      simp only [log, after, List.foldl_cons, h]
      exact ⟨congrArg _ hrest.1, hrest.2⟩

/-- What holds before any call, and is kept by every call, holds of every run. -/
theorem invariant {P : List (ι × ω) → σ → Prop} {s : σ} (hstart : P [] s)
    (hstep : ∀ log s call, P log s → P (log ++ [(call, (m s call).1)]) (m s call).2)
    (calls : List ι) : P (m.log s calls) (m.after s calls) := by
  induction calls using List.reverseRecOn with
  | nil => exact hstart
  | append_singleton calls call ih =>
      rw [log_concat, after_concat]
      exact hstep _ _ call ih

end Machine

section Stands

variable {ε : Type} {begins ends : ε → Prop} {log : List ε} {e : ε}

/-- Something in the record begins what nothing after it ends. -/
def Stands (begins ends : ε → Prop) (log : List ε) : Prop :=
  ∃ before e after, log = before ++ e :: after ∧ begins e ∧ ∀ e' ∈ after, ¬ ends e'

theorem not_stands_nil : ¬ Stands begins ends [] := by
  rintro ⟨before, e, after, hlog, -⟩
  simp at hlog

theorem stands_concat_iff :
    Stands begins ends (log ++ [e]) ↔ begins e ∨ (Stands begins ends log ∧ ¬ ends e) := by
  constructor
  · rintro ⟨before, b, after, hlog, hbegins, hkept⟩
    rcases List.eq_nil_or_concat after with rfl | ⟨after, last, rfl⟩
    · left
      obtain rfl := List.singleton_inj.mp (List.append_inj' hlog rfl).2
      exact hbegins
    · right
      rw [List.concat_eq_append] at hlog hkept
      rw [← List.cons_append, ← List.append_assoc] at hlog
      obtain ⟨rfl, hlast⟩ := List.append_inj' hlog rfl
      obtain rfl := List.singleton_inj.mp hlast
      refine ⟨⟨before, b, after, rfl, hbegins, ?_⟩, hkept e (by simp)⟩
      exact fun e' hin => hkept e' (List.mem_append_left _ hin)
  · rintro (hbegins | ⟨⟨before, b, after, rfl, hbegins, hkept⟩, hends⟩)
    · exact ⟨log, e, [], rfl, hbegins, fun _ hin => absurd hin List.not_mem_nil⟩
    · refine ⟨before, b, after ++ [e], by simp, hbegins, ?_⟩
      intro e' hin
      rcases List.mem_append.mp hin with hin | hin
      · exact hkept e' hin
      · rw [List.mem_singleton.mp hin]
        exact hends

theorem stands_append_iff {log' : List ε} : Stands begins ends (log ++ log') ↔
    Stands begins ends log' ∨ (Stands begins ends log ∧ ∀ e ∈ log', ¬ ends e) := by
  induction log' using List.reverseRecOn with
  | nil => simp [not_stands_nil]
  | append_singleton log' e ih =>
      rw [← List.append_assoc, stands_concat_iff, ih, stands_concat_iff]
      simp only [List.forall_mem_append, List.forall_mem_singleton]
      tauto

theorem stands_map_iff {δ : Type} {f : δ → ε} {l : List δ} :
    Stands begins ends (l.map f) ↔ Stands (fun d => begins (f d)) (fun d => ends (f d)) l := by
  constructor
  · rintro ⟨before, e, after, hlog, hbegins, hkept⟩
    obtain ⟨before, rest, rfl, rfl, hrest⟩ := List.map_eq_append_iff.mp hlog
    obtain ⟨d, after, rfl, rfl, rfl⟩ := List.map_eq_cons_iff.mp hrest
    exact ⟨before, d, after, rfl, hbegins, fun d' hin => hkept (f d') (List.mem_map_of_mem hin)⟩
  · rintro ⟨before, d, after, rfl, hbegins, hkept⟩
    refine ⟨before.map f, f d, after.map f, by simp, hbegins, ?_⟩
    intro e' hin
    obtain ⟨d', hafter, rfl⟩ := List.mem_map.mp hin
    exact hkept d' hafter

theorem Stands.imp {ends' : ε → Prop} (h : Stands begins ends log)
    (himp : ∀ e ∈ log, ends' e → ends e) : Stands begins ends' log := by
  obtain ⟨before, b, after, rfl, hbegins, hkept⟩ := h
  refine ⟨before, b, after, rfl, hbegins, ?_⟩
  intro e hin hends
  exact hkept e hin (himp e (by simp [hin]) hends)

end Stands

end NumaFabric
