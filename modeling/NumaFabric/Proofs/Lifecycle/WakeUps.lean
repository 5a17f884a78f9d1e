import Mathlib.Data.List.Count
import Mathlib.Data.List.Induction
import NumaFabric.Lifecycle.Tracker
/-!
Workers that leave, and those who wait for them. Main statement: in whatever order they make their
steps, the count is that of the guards, a notification is due for every worker that left last and has
not given it yet, one who waits is done only after seeing no worker, and nobody sleeps unnotified where
no worker is left and no notification is due.
-/

namespace NumaFabric

namespace Waiter

theorem notify_ne_asleep (w : Waiter) : w.notify ≠ asleep false := by
  cases w <;> simp [notify]

theorem notify_eq_done_iff {w : Waiter} : w.notify = done ↔ w = done := by
  cases w <;> simp [notify]

theorem step_eq_asleep_iff {active : UInt64} {w : Waiter} :
    w.step active = asleep false ↔ w = armed false ∧ active ≠ 0 ∨ w = asleep false := by
  cases w with
  | armed notified => by_cases h : active = 0 <;> simp [step, h]
  | asleep notified => cases notified <;> simp [step]
  | starting => simp [step]
  | done => simp [step]

theorem step_eq_done_iff {active : UInt64} {w : Waiter} :
    w.step active = done ↔ (∃ notified, w = armed notified) ∧ active = 0 ∨ w = done := by
  cases w with
  | armed notified => by_cases h : active = 0 <;> simp [step, h]
  | asleep notified => cases notified <;> simp [step]
  | starting => simp [step]
  | done => simp [step]

/-- Where no worker is left, three steps are enough for everybody but one who sleeps unnotified. -/
theorem step_step_step_of_zero {w : Waiter} (h : w ≠ asleep false) :
    ((w.step 0).step 0).step 0 = done := by
  cases w with
  | asleep notified =>
      cases notified with
      | false => exact absurd rfl h
      | true => rfl
  | starting => rfl
  | armed notified => rfl
  | done => rfl

end Waiter

theorem Tracker.getElem?_waiters_advance (t : Tracker) (index : Nat) :
    (t.advance index).waiters[index]? = t.waiters[index]?.map (Waiter.step t.active) := by
  simp [advance]

namespace GuardedTracker

variable {g g' : GuardedTracker} {e : DrainEvent} {events : List DrainEvent} {index : Nat}
  {w' : Waiter}

inductive Step (g : GuardedTracker) : DrainEvent → GuardedTracker → Prop
  | enter (h : g.guards < maxGuards) : Step g .enter ⟨g.tracker.register, g.guards + 1⟩
  | leave {n : Nat} (h : g.guards = n + 1) : Step g .leave ⟨g.tracker.leave, n⟩
  | notify {n : Nat} (h : g.tracker.due = n + 1) :
      Step g .notify
        ⟨⟨g.tracker.active, n, g.tracker.waiters.map Waiter.notify⟩, g.guards⟩
  | wait :
      Step g .wait
        ⟨⟨g.tracker.active, g.tracker.due, g.tracker.waiters ++ [.starting]⟩, g.guards⟩
  | advance (index : Nat) : Step g (.advance index) ⟨g.tracker.advance index, g.guards⟩

theorem step_of_next? (h : g.next? e = some g') : Step g e g' := by
  cases e with
  | enter =>
      rw [next?] at h
      obtain ⟨hlt, hg'⟩ := Option.ite_none_right_eq_some.mp h
      exact Option.some.inj hg' ▸ .enter hlt
  | leave =>
      rw [next?] at h
      obtain ⟨hne, hg'⟩ := Option.ite_none_left_eq_some.mp h
      obtain ⟨n, hn⟩ := Nat.exists_eq_succ_of_ne_zero hne
      have hstep := Step.leave (g := g) hn
      rw [hn] at hg'
      exact Option.some.inj hg' ▸ hstep
  | notify =>
      rw [next?] at h
      obtain ⟨hne, hg'⟩ := Option.ite_none_left_eq_some.mp h
      obtain ⟨n, hn⟩ := Nat.exists_eq_succ_of_ne_zero hne
      have hstep := Step.notify (g := g) hn
      rw [Tracker.notify, hn] at hg'
      exact Option.some.inj hg' ▸ hstep
  | wait => exact Option.some.inj h ▸ .wait
  | advance index => exact Option.some.inj h ▸ .advance index

inductive Moves (g : GuardedTracker) (e : DrainEvent) (index : Nat) : Waiter → Prop
  | comes (h : e = .wait) : Moves g e index .starting
  | stays {w : Waiter} (hw : g.tracker.waiters[index]? = some w) (h : e ≠ .notify) :
      Moves g e index w
  | notified {w : Waiter} (hw : g.tracker.waiters[index]? = some w) (h : e = .notify) :
      Moves g e index w.notify
  | steps {w : Waiter} (hw : g.tracker.waiters[index]? = some w) (h : e = .advance index) :
      Moves g e index (w.step g.tracker.active)

theorem Step.moves (h : Step g e g') (hw' : g'.tracker.waiters[index]? = some w') :
    Moves g e index w' := by
  cases h with
  | enter _ => exact .stays hw' nofun
  | leave _ => exact .stays hw' nofun
  | notify _ =>
      rw [List.getElem?_map, Option.map_eq_some_iff] at hw'
      obtain ⟨w, hw, rfl⟩ := hw'
      exact .notified hw rfl
  | wait =>
      rw [List.getElem?_append] at hw'
      split at hw'
      · exact .stays hw' nofun
      · rw [List.mem_singleton.mp (List.mem_of_getElem? hw')]
        exact .comes rfl
  | advance stepping =>
      rw [Tracker.advance, List.getElem?_modify, Option.map_eq_map, Option.map_eq_some_iff] at hw'
      obtain ⟨w, hw, rfl⟩ := hw'
      split
      · rename_i heq
        exact .steps hw (congrArg _ heq)
      · exact .stays hw nofun

/-! The count. -/

def Counted (g : GuardedTracker) : Prop := g.tracker.active.toNat = g.guards

theorem Counted.active_eq_zero_iff (h : g.Counted) : g.tracker.active = 0 ↔ g.guards = 0 := by
  rw [← h, ← UInt64.toNat_inj, UInt64.toNat_zero]

theorem Counted.active_eq_one_iff (h : g.Counted) : g.tracker.active = 1 ↔ g.guards = 1 := by
  rw [← h, ← UInt64.toNat_inj, UInt64.toNat_one]

theorem Counted.step (h : g.Counted) (hstep : Step g e g') : g'.Counted := by
  cases hstep with
  | enter hlt =>
      have hroom : g.guards + 1 < 2 ^ 64 := Nat.lt_sub_iff_add_lt.mp hlt
      rw [Counted, Tracker.register, UInt64.toNat_add, h]
      exact Nat.mod_eq_of_lt hroom
  | @leave n hn =>
      have hone : (1 : UInt64) ≤ g.tracker.active := by
        rw [UInt64.le_iff_toNat_le, h, hn]
        exact Nat.le_add_left 1 n
      rw [Counted, Tracker.leave, UInt64.toNat_sub_of_le _ _ hone, h, hn]
      rfl
  | notify _ => exact h
  | wait => exact h
  | advance _ => exact h

theorem Step.guards_add_count (hstep : Step g e g')
    (h : g.guards + events.count .leave = events.count .enter) :
    g'.guards + (events ++ [e]).count .leave = (events ++ [e]).count .enter := by
  rw [List.count_append, List.count_append]
  cases hstep with
  | enter _ =>
      simp
      omega
  | leave hn =>
      simp
      omega
  | notify _ => simpa using h
  | wait => simpa using h
  | advance _ => simpa using h

/-! Notifications. -/

/-- How often in a run a worker leaves that is the only one. -/
def lastDepartures (g : GuardedTracker) : List DrainEvent → Nat
  | [] => 0
  | e :: rest =>
    (if e = .leave ∧ g.guards = 1 then 1 else 0) +
      (g.next? e).elim 0 fun g => lastDepartures g rest

theorem Step.due_add_count (hstep : Step g e g') (h : g.Counted) :
    g'.tracker.due + [e].count .notify =
      g.tracker.due + if e = .leave ∧ g.guards = 1 then 1 else 0 := by
  cases hstep with
  | enter _ => rfl
  | leave hn =>
      have hone := h.active_eq_one_iff
      by_cases hlast : g.guards = 1 <;> simp [Tracker.leave, hone, hlast]
  | notify hdue => simp [hdue]
  | wait => rfl
  | advance _ => rfl

/-- Every last departure makes one notification due, and nothing else does. -/
theorem due_add_count_of_run? (h : g.run? events = some g') (hcounted : g.Counted) :
    g'.tracker.due + events.count .notify = g.tracker.due + g.lastDepartures events := by
  induction events generalizing g with
  | nil =>
      cases h
      rfl
  | cons e events ih =>
      obtain ⟨next, hnext, hrun⟩ := Option.bind_eq_some_iff.mp h
      have hstep := step_of_next? hnext
      have hone := hstep.due_add_count hcounted
      have hrest := ih hrun (hcounted.step hstep)
      rw [lastDepartures, hnext, Option.elim_some, ← List.singleton_append, List.count_append]
      omega

/-! Those who sleep. -/

/-- Somebody will notify: a worker that is left, or one that left last. -/
def Promised (g : GuardedTracker) : Prop := g.guards ≠ 0 ∨ g.tracker.due ≠ 0

theorem Step.promised (hstep : Step g e g') (hcounted : g.Counted) (hne : e ≠ .notify)
    (h : g.Promised) : g'.Promised := by
  cases hstep with
  | enter _ => exact .inl (Nat.succ_ne_zero _)
  | @leave n hn =>
      by_cases hlast : n = 0
      · have hone : g.tracker.active = 1 := by
          rw [hcounted.active_eq_one_iff, hn, hlast]
        right
        rw [Tracker.leave, hone]
        exact Nat.succ_ne_zero _
      · exact .inl hlast
  | notify _ => exact absurd rfl hne
  | wait => exact h
  | advance _ => exact h

/-- All who sleep unnotified will be notified. -/
def Awaited (g : GuardedTracker) : Prop :=
  ∀ index : Nat, g.tracker.waiters[index]? = some (.asleep false) → g.Promised

theorem Awaited.step (h : g.Awaited) (hcounted : g.Counted) (hstep : Step g e g') :
    g'.Awaited := by
  intro index hasleep
  have hmoves := hstep.moves hasleep
  generalize hw' : Waiter.asleep false = w' at hmoves
  cases hmoves with
  | comes _ => cases hw'
  | stays hw hne => exact hstep.promised hcounted hne (h index (hw' ▸ hw))
  | notified _ _ => exact absurd hw'.symm (Waiter.notify_ne_asleep _)
  | steps hw he =>
      subst he
      rcases Waiter.step_eq_asleep_iff.mp hw'.symm with ⟨-, hactive⟩ | rfl
      · have hguards := mt hcounted.active_eq_zero_iff.mpr hactive
        exact hstep.promised hcounted nofun (.inl hguards)
      · exact hstep.promised hcounted nofun (h index hw)

/-! Those who are done. -/

theorem run?_append (g : GuardedTracker) (events events' : List DrainEvent) :
    g.run? (events ++ events') = (g.run? events).bind fun g => g.run? events' := by
  induction events generalizing g with
  | nil => rfl
  | cons e events ih =>
      rw [List.cons_append, run?, run?, Option.bind_assoc]
      exact congrArg _ (funext ih)

theorem run?_concat_eq_some_iff :
    new.run? (events ++ [e]) = some g' ↔ ∃ g, new.run? events = some g ∧ g.next? e = some g' := by
  rw [run?_append, Option.bind_eq_some_iff]
  refine exists_congr fun g => and_congr_right fun _ => ?_
  rw [run?, Option.bind_eq_some_iff]
  exact ⟨fun ⟨_, hnext, hsame⟩ => hnext.trans hsame, fun hnext => ⟨g', hnext, rfl⟩⟩

/-- At some point of a run, one who waits looked at the count, and there was no worker. -/
def SawNone (events : List DrainEvent) (index : Nat) : Prop :=
  ∃ before after g notified, events = before ++ .advance index :: after ∧
    new.run? before = some g ∧ g.tracker.waiters[index]? = some (.armed notified) ∧
    g.tracker.active = 0 ∧ g.guards = 0

theorem SawNone.concat (h : SawNone events index) (e : DrainEvent) :
    SawNone (events ++ [e]) index := by
  obtain ⟨before, after, g, notified, rfl, hg⟩ := h
  exact ⟨before, after ++ [e], g, notified, by simp, hg⟩

theorem sawNone_of_step (hrun : new.run? events = some g) (hcounted : g.Counted)
    (hstep : Step g e g') (hdone : g'.tracker.waiters[index]? = some .done)
    (h : g.tracker.waiters[index]? = some .done → SawNone events index) :
    SawNone (events ++ [e]) index := by
  have hmoves := hstep.moves hdone
  generalize hw' : Waiter.done = w' at hmoves
  cases hmoves with
  | comes _ => cases hw'
  | stays hw _ => exact (h (hw' ▸ hw)).concat e
  | notified hw _ => exact (h (Waiter.notify_eq_done_iff.mp hw'.symm ▸ hw)).concat e
  | steps hw he =>
      subst he
      rcases Waiter.step_eq_done_iff.mp hw'.symm with ⟨⟨notified, rfl⟩, hactive⟩ | rfl
      · exact ⟨events, [], g, notified, rfl, hrun, hw, hactive,
          hcounted.active_eq_zero_iff.mp hactive⟩
      · exact (h hw).concat _

/-! Whole runs. -/

structure Attended (events : List DrainEvent) (g : GuardedTracker) : Prop where
  counted : g.Counted
  guards_add : g.guards + events.count .leave = events.count .enter
  awaited : g.Awaited
  sawNone : ∀ index : Nat, g.tracker.waiters[index]? = some .done → SawNone events index

theorem attended_of_run? (h : new.run? events = some g) : Attended events g := by
  induction events using List.reverseRecOn generalizing g with
  | nil =>
      cases h
      exact ⟨rfl, rfl, nofun, nofun⟩
  | append_singleton events e ih =>
      obtain ⟨before, hrun, hnext⟩ := run?_concat_eq_some_iff.mp h
      have hstep := step_of_next? hnext
      obtain ⟨hcounted, hguards, hawaited, hsaw⟩ := ih hrun
      exact ⟨hcounted.step hstep, hstep.guards_add_count hguards, hawaited.step hcounted hstep,
        fun index hdone => sawNone_of_step hrun hcounted hstep hdone (hsaw index)⟩

theorem Attended.exists_done (h : Attended events g) (hactive : g.tracker.active = 0)
    (hdue : g.tracker.due = 0) (hindex : index < g.tracker.waiters.length) :
    ∃ g', g.run? (List.replicate 3 (.advance index)) = some g' ∧
      g'.tracker.waiters[index]? = some .done := by
  obtain ⟨w, hw⟩ : ∃ w, g.tracker.waiters[index]? = some w :=
    ⟨_, List.getElem?_eq_getElem hindex⟩
  have hawake : w ≠ .asleep false := by
    rintro rfl
    rcases h.awaited index hw with hguards | hnotify
    · exact hguards (h.counted.active_eq_zero_iff.mp hactive)
    · exact hnotify hdue
  refine ⟨_, rfl, ?_⟩
  have hthree := Waiter.step_step_step_of_zero hawake
  rw [← hactive] at hthree
  simp only [Tracker.getElem?_waiters_advance, hw, Option.map_some]
  exact congrArg some hthree

/-- No wake-up is lost: what is to be said of a state after the events that led there. -/
structure WakesAll (events : List DrainEvent) (g : GuardedTracker) : Prop where
  active_eq : g.tracker.active.toNat = g.guards
  guards_eq : g.guards + events.count .leave = events.count .enter
  due_eq : g.tracker.due + events.count .notify = new.lastDepartures events
  sawNone : ∀ index : Nat, g.tracker.waiters[index]? = some .done → SawNone events index
  not_lost : ∀ index : Nat, ¬ (g.tracker.waiters[index]? = some (.asleep false) ∧
    g.tracker.active = 0 ∧ g.tracker.due = 0)
  exists_done : g.tracker.active = 0 → g.tracker.due = 0 →
    ∀ index < g.tracker.waiters.length, ∃ g',
      g.run? (List.replicate 3 (.advance index)) = some g' ∧
        g'.tracker.waiters[index]? = some .done

theorem wakesAll_of_run? (h : new.run? events = some g) : WakesAll events g := by
  have hattended := attended_of_run? h
  have hdue := due_add_count_of_run? h rfl
  refine ⟨hattended.counted, hattended.guards_add, by simpa [new, Tracker.new] using hdue,
    hattended.sawNone, ?_, ?_⟩
  · rintro index ⟨hasleep, hactive, hdue⟩
    rcases hattended.awaited index hasleep with hguards | hnotify
    · exact hguards (hattended.counted.active_eq_zero_iff.mp hactive)
    · exact hnotify hdue
  · intro hactive hdue index hindex
    exact hattended.exists_done hactive hdue hindex

/-- A worker comes between the last one's leaving and its notification; one who waits is woken, finds
it at work and sleeps again. -/
theorem wakesAll_comesBetween :
    ∃ g, WakesAll [.enter, .wait, .advance 0, .advance 0, .leave, .enter, .notify, .advance 0,
        .advance 0, .advance 0] g ∧
      g.tracker.waiters = [.asleep false] ∧ g.guards = 1 :=
  ⟨⟨⟨1, 0, [.asleep false]⟩, 1⟩, wakesAll_of_run? (by decide), rfl, rfl⟩

end GuardedTracker

end NumaFabric
