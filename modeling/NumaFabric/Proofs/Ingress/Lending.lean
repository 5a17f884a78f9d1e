import Mathlib.Order.Bounds.Defs
import NumaFabric.Ingress.BufferPool
import NumaFabric.Proofs.Runs.Transcript
/-!
A pool and those who hold its items. Main statement: every item that was made lies idle, is held or was
discarded by a full pool; items that are handed out again were reset, in the order in which they came
back; and as many are made as were held at one time, if that is never more than the pool keeps.
-/

namespace NumaFabric

/-- A pool and the items that are out, each as its holder has left it. -/
structure Lending {α : Type} (supply : Supply α) where
  pool : Pool supply
  held : List α

namespace Lending

variable {α : Type} {supply : Supply α}

inductive Call (α : Type) where
  | acquire
  | change (index : Nat) (item : α)
  | drop (index : Nat)

inductive Fate where
  | made
  | reused
  | kept
  | discarded
deriving DecidableEq

inductive Reply (α : Type) where
  | item (fate : Fate) (item : α)
  | changed
  | unknown

/-- Whether an item was made, or kept, is told by the pool's own counts. -/
def perform : Machine (Lending supply) (Call α) (Reply α)
  | s, .acquire =>
    let (item, pool) := s.pool.acquire
    (.item (if s.pool.made < pool.made then .made else .reused) item, ⟨pool, s.held ++ [item]⟩)
  | s, .change index item => (.changed, { s with held := s.held.set index item })
  | s, .drop index =>
    match s.held[index]? with
    | none => (.unknown, s)
    | some item =>
      let pool := s.pool.giveBack item
      (.item (if s.pool.idle.length < pool.idle.length then .kept else .discarded) item,
        ⟨pool, s.held.eraseIdx index⟩)

def fresh (supply : Supply α) (maxIdle : Nat) : Lending supply := ⟨.new maxIdle, []⟩

def items (fate : Fate) (log : List (Call α × Reply α)) : List α :=
  log.filterMap fun e =>
    match e.2 with
    | .item fate' item => if fate' = fate then some item else none
    | _ => none

theorem items_concat_item (fate fate' : Fate) (log : List (Call α × Reply α)) (call : Call α)
    (item : α) :
    items fate (log ++ [(call, .item fate' item)]) =
      items fate log ++ if fate' = fate then [item] else [] := by
  rw [items, List.filterMap_append]
  by_cases h : fate' = fate <;> simp [items, h]

@[simp] theorem items_concat_changed (fate : Fate) (log : List (Call α × Reply α))
    (call : Call α) : items fate (log ++ [(call, .changed)]) = items fate log := by
  simp [items]

@[simp] theorem items_concat_unknown (fate : Fate) (log : List (Call α × Reply α))
    (call : Call α) : items fate (log ++ [(call, .unknown)]) = items fate log := by
  simp [items]

inductive Step (s : Lending supply) : Call α → Reply α → Lending supply → Prop
  | made {pool : Pool supply} (hnone : s.pool.idle = []) (hidle : pool.idle = [])
      (hcount : pool.made = s.pool.made + 1) (hmax : pool.maxIdle = s.pool.maxIdle) :
      Step s .acquire (.item .made (supply.make s.pool.made))
        ⟨pool, s.held ++ [supply.make s.pool.made]⟩
  | reused {item : α} {pool : Pool supply} (hidle : s.pool.idle = item :: pool.idle)
      (hcount : pool.made = s.pool.made) (hmax : pool.maxIdle = s.pool.maxIdle) :
      Step s .acquire (.item .reused item) ⟨pool, s.held ++ [item]⟩
  | changed {index : Nat} {item : α} :
      Step s (.change index item) .changed { s with held := s.held.set index item }
  | kept {index : Nat} {item : α} {pool : Pool supply} (hheld : s.held[index]? = some item)
      (hroom : s.pool.idle.length < s.pool.maxIdle)
      (hidle : pool.idle = s.pool.idle ++ [supply.reset item])
      (hcount : pool.made = s.pool.made) (hmax : pool.maxIdle = s.pool.maxIdle) :
      Step s (.drop index) (.item .kept item) ⟨pool, s.held.eraseIdx index⟩
  | discarded {index : Nat} {item : α} (hheld : s.held[index]? = some item)
      (hfull : s.pool.idle.length = s.pool.maxIdle) :
      Step s (.drop index) (.item .discarded item) { s with held := s.held.eraseIdx index }
  | unknown {index : Nat} (hnone : s.held[index]? = none) : Step s (.drop index) .unknown s

theorem step_perform (s : Lending supply) (call : Call α) :
    Step s call (perform s call).1 (perform s call).2 := by
  cases call with
  | acquire =>
      unfold perform
      dsimp only
      cases hidle : s.pool.idle with
      | nil =>
          obtain ⟨hitem, hidle', hcount, hmax⟩ := Pool.acquire_of_none hidle
          rw [if_pos (hcount ▸ Nat.lt_succ_self _), hitem]
          exact .made hidle hidle' hcount hmax
      | cons item rest =>
          obtain ⟨hitem, hidle', hcount, hmax⟩ := Pool.acquire_of_idle hidle
          rw [if_neg (hcount ▸ Nat.lt_irrefl _), hitem]
          exact .reused (hidle' ▸ hidle) hcount hmax
  | change index item => exact .changed
  | drop index =>
      unfold perform
      dsimp only
      cases hheld : s.held[index]? with
      | none => exact .unknown hheld
      | some item =>
          dsimp only
          rcases Nat.lt_or_eq_of_le s.pool.idle_le with hroom | hfull
          · obtain ⟨hidle, hcount, hmax⟩ := Pool.giveBack_of_lt hroom item
            rw [if_pos (by simp [hidle])]
            exact .kept hheld hroom hidle hcount hmax
          · rw [Pool.giveBack_of_full hfull, if_neg (Nat.lt_irrefl _)]
            exact .discarded hheld hfull

section Step

variable {s s' : Lending supply} {call : Call α} {reply : Reply α} {log : List (Call α × Reply α)}

theorem Step.maxIdle_eq (h : Step s call reply s') : s'.pool.maxIdle = s.pool.maxIdle := by
  cases h with
  | made _ _ _ hmax => exact hmax
  | reused _ _ hmax => exact hmax
  | kept _ _ _ _ hmax => exact hmax
  | changed => rfl
  | discarded _ _ => rfl
  | unknown _ => rfl

theorem length_eraseIdx_add_one {held : List α} {index : Nat} {item : α}
    (h : held[index]? = some item) : (held.eraseIdx index).length + 1 = held.length := by
  have hlt := (List.getElem?_eq_some_iff.mp h).1
  rw [List.length_eraseIdx_of_lt hlt]
  omega

/-- Where all items of a pool are, and where those that were handed out came from. -/
structure Accounted (log : List (Call α × Reply α)) (s : Lending supply) : Prop where
  total_eq : s.pool.made =
    s.pool.idle.length + s.held.length + (items .discarded log).length
  made_eq : items .made log = (List.range s.pool.made).map supply.make
  reused_append_idle : items .reused log ++ s.pool.idle = (items .kept log).map supply.reset

theorem accounted_fresh (maxIdle : Nat) : Accounted [] (fresh supply maxIdle) := ⟨rfl, rfl, rfl⟩

theorem Accounted.step (h : Accounted log s) (hstep : Step s call reply s') :
    Accounted (log ++ [(call, reply)]) s' := by
  obtain ⟨hcount, hmade, hreused⟩ := h
  cases hstep with
  | made hnone hidle hmore _ =>
      constructor <;> simp only [items_concat_item, reduceCtorEq, if_true, if_false,
        List.append_nil, hmore]
      · simp [hidle, hcount, hnone]
        omega
      · rw [hmade, List.range_succ, List.map_append, List.map_singleton]
      · rw [hidle, ← hreused, hnone]
  | @reused item pool hidle hsame _ =>
      constructor <;> simp only [items_concat_item, reduceCtorEq, if_true, if_false,
        List.append_nil, hsame]
      · simp [hcount, hidle]
        omega
      · exact hmade
      · rw [← hreused, hidle, List.append_assoc]
        rfl
  | changed => constructor <;> simpa
  | kept hheld _ hidle hsame _ =>
      have hone := length_eraseIdx_add_one hheld
      constructor <;> simp only [items_concat_item, reduceCtorEq, if_true, if_false,
        List.append_nil, hsame]
      · rw [hidle, List.length_append, List.length_singleton]
        omega
      · exact hmade
      · rw [hidle, ← List.append_assoc, hreused, List.map_append, List.map_singleton]
  | discarded hheld _ =>
      have hone := length_eraseIdx_add_one hheld
      constructor <;> simp only [items_concat_item, reduceCtorEq, if_true, if_false,
        List.append_nil]
      · rw [List.length_append, List.length_singleton]
        omega
      · exact hmade
      · exact hreused
  | unknown _ => constructor <;> simpa

theorem Accounted.held_le (h : Accounted log s) : s.held.length ≤ s.pool.made := by
  have := h.total_eq
  omega

theorem Accounted.created_eq (h : Accounted log s) : s.pool.created =
    .ofNat s.pool.idle.length + .ofNat s.held.length + .ofNat (items .discarded log).length := by
  rw [s.pool.created_eq, h.total_eq, UInt64.ofNat_add, UInt64.ofNat_add]

theorem Accounted.exists_kept (h : Accounted log s) {item : α} (hidle : item ∈ s.pool.idle) :
    ∃ given ∈ items .kept log, supply.reset given = item := by
  rw [← List.mem_map, ← h.reused_append_idle]
  exact List.mem_append_right _ hidle

theorem Accounted.acquired (h : Accounted log s) :
    (∃ n, (perform s .acquire).1 = .item .made (supply.make n)) ∨
      ∃ given ∈ items .kept log, (perform s .acquire).1 = .item .reused (supply.reset given) := by
  have hstep := step_perform s .acquire
  generalize perform s .acquire = answer at hstep ⊢
  obtain ⟨reply, s'⟩ := answer
  cases hstep with
  | made _ _ _ _ => exact .inl ⟨_, rfl⟩
  | @reused item _ hidle _ _ =>
      obtain ⟨given, hgiven, rfl⟩ := h.exists_kept (hidle ▸ List.mem_cons_self)
      exact .inr ⟨given, hgiven, rfl⟩

theorem dropped_cases {index : Nat} {item : α} (hheld : s.held[index]? = some item) :
    (perform s (.drop index)).1 =
      .item (if s.pool.idle.length = s.pool.maxIdle then .discarded else .kept) item := by
  have hstep := step_perform s (.drop index)
  generalize perform s (.drop index) = answer at hstep ⊢
  obtain ⟨reply, s'⟩ := answer
  cases hstep with
  | kept hheld' hroom _ _ _ =>
      obtain rfl := Option.some.inj (hheld'.symm.trans hheld)
      rw [if_neg (Nat.ne_of_lt hroom)]
  | discarded hheld' hfull =>
      obtain rfl := Option.some.inj (hheld'.symm.trans hheld)
      rw [if_pos hfull]
  | unknown hnone =>
      rw [hheld] at hnone
      cases hnone

theorem Step.made_cases (h : Step s call reply s') :
    s'.pool.made = s.pool.made ∨
      (s'.pool.made = s.pool.made + 1 ∧ s'.pool.idle = []) := by
  cases h with
  | made _ hidle hmore _ => exact .inr ⟨hmore, hidle⟩
  | reused _ hsame _ => exact .inl hsame
  | kept _ _ _ hsame _ => exact .inl hsame
  | changed => exact .inl rfl
  | discarded _ _ => exact .inl rfl
  | unknown _ => exact .inl rfl

theorem Step.discarded_of_le (h : Step s call reply s') (haccounted : Accounted log s)
    (hnone : items .discarded log = []) (hle : s.pool.made ≤ s.pool.maxIdle) :
    items .discarded (log ++ [(call, reply)]) = [] := by
  cases h with
  | discarded hheld hfull =>
      have hone := length_eraseIdx_add_one hheld
      have htotal := haccounted.total_eq
      omega
  | made _ _ _ _ => simpa [items_concat_item] using hnone
  | reused _ _ _ => simpa [items_concat_item] using hnone
  | kept _ _ _ _ _ => simpa [items_concat_item] using hnone
  | changed => simpa using hnone
  | unknown _ => simpa using hnone

end Step

/-! Whole runs. -/

section Run

variable (supply : Supply α) (maxIdle : Nat) (calls : List (Call α))

def reached : Lending supply := perform.after (fresh supply maxIdle) calls

def record : List (Call α × Reply α) := perform.log (fresh supply maxIdle) calls

theorem accounted_reached : Accounted (record supply maxIdle calls) (reached supply maxIdle calls) :=
  perform.invariant (accounted_fresh maxIdle) (fun _ s call h => h.step (step_perform s call)) calls

theorem maxIdle_reached : (reached supply maxIdle calls).pool.maxIdle = maxIdle :=
  perform.invariant (P := fun _ s => s.pool.maxIdle = maxIdle) (s := fresh supply maxIdle) rfl
    (fun _ s call h => (step_perform s call).maxIdle_eq.trans h) calls

/-- How many items were held at one time, over the whole run. -/
def Loads : Set Nat := {n | ∃ before, before <+: calls ∧ (reached supply maxIdle before).held.length = n}

variable {supply maxIdle calls}

theorem isGreatest_loads (hfew : ∀ n ∈ Loads supply maxIdle calls, n ≤ maxIdle) :
    items .discarded (record supply maxIdle calls) = [] ∧
      IsGreatest (Loads supply maxIdle calls) (reached supply maxIdle calls).pool.made := by
  -- so far no more were made than were held at one time, which is no more than the pool keeps
  induction calls using List.reverseRecOn with
  | nil =>
      refine ⟨rfl, ⟨[], List.prefix_rfl, rfl⟩, ?_⟩
      rintro n ⟨before, hbefore, rfl⟩
      rw [List.prefix_nil.mp hbefore]
      exact Nat.le_refl _
  | append_singleton calls call ih =>
      have hloads {n : Nat} (hn : n ∈ Loads supply maxIdle calls) :
          n ∈ Loads supply maxIdle (calls ++ [call]) := by
        obtain ⟨before, hbefore, hheld⟩ := hn
        exact ⟨before, hbefore.trans (List.prefix_append _ _), hheld⟩
      obtain ⟨hnone, hpeak, hbound⟩ := ih fun n hn => hfew n (hloads hn)
      have haccounted := accounted_reached supply maxIdle calls
      have hstep := step_perform (reached supply maxIdle calls) call
      have hrecord : record supply maxIdle (calls ++ [call]) =
          record supply maxIdle calls ++
            [(call, (perform (reached supply maxIdle calls) call).1)] :=
        perform.log_concat _ calls call
      have hreached : reached supply maxIdle (calls ++ [call]) =
          (perform (reached supply maxIdle calls) call).2 := perform.after_concat _ calls call
      have hkept : items .discarded (record supply maxIdle (calls ++ [call])) = [] := by
        rw [hrecord]
        apply hstep.discarded_of_le haccounted hnone
        rw [maxIdle_reached]
        exact hfew _ (hloads hpeak)
      have haccounted' := accounted_reached supply maxIdle (calls ++ [call])
      have htotal := haccounted'.total_eq
      rw [hkept] at htotal
      rw [← hreached] at hstep
      refine ⟨hkept, ?_, ?_⟩
      · rcases hstep.made_cases with hsame | ⟨hmore, hidle⟩
        · rw [hsame]
          exact hloads hpeak
        · refine ⟨_, List.prefix_rfl, ?_⟩
          rw [htotal, hidle]
          simp
      · rintro n ⟨before, hbefore, rfl⟩
        rcases List.prefix_concat_iff.mp hbefore with rfl | hbefore
        · exact haccounted'.held_le
        · have hle := hbound ⟨before, hbefore, rfl⟩
          rcases hstep.made_cases with hsame | ⟨hmore, -⟩ <;> omega

end Run

/-- What the counts of a pool say after a run, and what the next call comes to. -/
structure Balanced (supply : Supply α) (maxIdle : Nat) (calls : List (Call α)) : Prop where
  idle_le : (reached supply maxIdle calls).pool.idle.length ≤ maxIdle
  accounted : Accounted (record supply maxIdle calls) (reached supply maxIdle calls)
  created_eq : (reached supply maxIdle calls).pool.created =
    .ofNat (reached supply maxIdle calls).pool.idle.length +
      .ofNat (reached supply maxIdle calls).held.length +
      .ofNat (items .discarded (record supply maxIdle calls)).length
  acquired :
    (∃ n, (perform (reached supply maxIdle calls) .acquire).1 = .item .made (supply.make n)) ∨
      ∃ given ∈ items .kept (record supply maxIdle calls),
        (perform (reached supply maxIdle calls) .acquire).1 = .item .reused (supply.reset given)
  dropped : ∀ index item, (reached supply maxIdle calls).held[index]? = some item →
    (perform (reached supply maxIdle calls) (.drop index)).1 =
      .item (if (reached supply maxIdle calls).pool.idle.length = maxIdle then .discarded else .kept)
        item
  peak : (∀ n ∈ Loads supply maxIdle calls, n ≤ maxIdle) →
    items .discarded (record supply maxIdle calls) = [] ∧
      IsGreatest (Loads supply maxIdle calls) (reached supply maxIdle calls).pool.made ∧
      (maxIdle < UInt64.size →
        (reached supply maxIdle calls).pool.created.toNat = (reached supply maxIdle calls).pool.made)

theorem balanced_reached :
    (∀ {α : Type} (supply : Supply α) (maxIdle : Nat) (calls : List (Call α)),
      Balanced supply maxIdle calls) ∧
    ∀ (maxIdle : Nat) (calls : List (Call (List UInt8))),
      ∃ fate, (perform (reached buffers maxIdle calls) .acquire).1 = .item fate [] := by
  constructor
  · intro α supply maxIdle calls
    refine ⟨?_, accounted_reached supply maxIdle calls, (accounted_reached ..).created_eq,
      (accounted_reached ..).acquired, ?_, ?_⟩
    · have hle := (reached supply maxIdle calls).pool.idle_le
      rwa [maxIdle_reached] at hle
    · intro index item hheld
      rw [dropped_cases hheld, maxIdle_reached]
    · intro hfew
      obtain ⟨hnone, hpeak⟩ := isGreatest_loads hfew
      refine ⟨hnone, hpeak, fun hmax => ?_⟩
      have hmade := hfew _ hpeak.1
      rw [Pool.created_eq, UInt64.toNat_ofNat_of_lt' (Nat.lt_of_le_of_lt hmade hmax)]
  · intro maxIdle calls
    rcases (accounted_reached buffers maxIdle calls).acquired with ⟨n, hmade⟩ | ⟨_, -, hreused⟩
    · exact ⟨.made, hmade⟩
    · exact ⟨.reused, hreused⟩

end Lending

end NumaFabric
