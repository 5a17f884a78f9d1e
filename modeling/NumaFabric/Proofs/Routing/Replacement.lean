import NumaFabric.Proofs.Routing.Entries
import NumaFabric.Proofs.Runs.Transcript
import NumaFabric.Routing.SharedRoutes

namespace NumaFabric

namespace RouteTable

/-- What is wrong with a file: it cannot be read, holds no object of strings, or an entry that counts is
no node with an address. -/
inductive Flawed : Option String → Prop
  | unreadable : Flawed none
  | notStrings {text : String} (h : ∀ fields, Json.parse? text ≠ some (object fields)) :
      Flawed (some text)
  | entry {text : String} {fields : List (String × String)} {f : String × String}
      (hjson : Json.parse? text = some (object fields)) (hcounts : Counts fields f)
      (hbad : ¬ IsRoute f) : Flawed (some text)

theorem flawed_iff {file : Option String} : Flawed file ↔ ∃ e, load file = .error e := by
  constructor
  · intro h
    cases h with
    | unreadable => exact ⟨_, rfl⟩
    | notStrings h => exact ⟨_, parse_of_forall_ne h⟩
    | @entry text fields f hjson hcounts hbad =>
        cases hparse : parse text with
        | error e => exact ⟨e, hparse⟩
        | ok t => exact absurd ((exists_parse_eq_ok_iff hjson).mp ⟨t, hparse⟩ f hcounts) hbad
  · rintro ⟨e, he⟩
    cases file with
    | none => exact .unreadable
    | some text =>
        by_cases hjson : ∃ fields, Json.parse? text = some (object fields)
        · obtain ⟨fields, hjson⟩ := hjson
          have hnot : ¬ ∀ f, Counts fields f → IsRoute f := by
            rw [← exists_parse_eq_ok_iff hjson]
            rintro ⟨t, ht⟩
            cases he.symm.trans ht
          simp only [not_forall] at hnot
          obtain ⟨f, hcounts, hbad⟩ := hnot
          exact .entry hjson hcounts hbad
        · exact .notStrings (not_exists.mp hjson)

theorem load_eq_ok_iff {file : Option String} {t : RouteTable} :
    load file = .ok t ↔ ∃ text, file = some text ∧ parse text = .ok t := by
  cases file with
  | none => exact iff_of_false nofun (by rintro ⟨_, h, -⟩; cases h)
  | some text => simp [load]

end RouteTable

namespace SharedRoutes

inductive Call where
  | replace (new : RouteTable)
  | reload (file : Option String)
  | lookup (node : NodeId)
  | size
  | snapshot
  | read (snapshot : Snapshot)

inductive Reply where
  | done
  | failed (e : RouteTableError)
  | address (ip? : Option IpAddress)
  | count (n : Nat)
  | taken (snapshot : Snapshot)
  | table (t? : Option RouteTable)

def perform : Machine SharedRoutes Call Reply
  | s, .replace new => (.done, s.replace new)
  | s, .reload file =>
    match s.reload file with
    | (.ok (), s') => (.done, s')
    | (.error e, s') => (.failed e, s')
  | s, .lookup node => (.address (s.lookup node), s)
  | s, .size => (.count s.size, s)
  | s, .snapshot => (.taken s.snapshot, s)
  | s, .read snapshot => (.table (s.read? snapshot), s)

theorem perform_reload_of_ok (s : SharedRoutes) {file : Option String} {new : RouteTable}
    (h : RouteTable.load file = .ok new) : perform s (.reload file) = (.done, s.replace new) := by
  simp only [perform, reload, RouteTable.reload, h]

theorem perform_reload_of_error (s : SharedRoutes) {file : Option String} {e : RouteTableError}
    (h : RouteTable.load file = .error e) : perform s (.reload file) = (.failed e, s) := by
  simp only [perform, reload, RouteTable.reload, h]

def installed : Call × Reply → Option RouteTable
  | (.replace new, .done) => some new
  | (.reload file, .done) => (RouteTable.load file).toOption
  | _ => none

def latest (initial : RouteTable) (log : List (Call × Reply)) : RouteTable :=
  (log.filterMap installed).getLast?.getD initial

theorem latest_concat (initial : RouteTable) (log : List (Call × Reply)) (e : Call × Reply) :
    latest initial (log ++ [e]) = (installed e).getD (latest initial log) := by
  rw [latest, List.filterMap_append]
  cases h : installed e with
  | none => simp [h, latest]
  | some t => simp [h]

/-- The latest table is in force, and snapshots show what was the latest when they were taken. -/
structure Current (initial : RouteTable) (log : List (Call × Reply)) (s : SharedRoutes) : Prop where
  table_eq : s.table = latest initial log
  read?_eq : ∀ before snapshot, before ++ [(.snapshot, .taken snapshot)] <+: log →
    s.read? snapshot = some (latest initial before)

section

variable {initial : RouteTable} {log : List (Call × Reply)} {s : SharedRoutes} {e : Call × Reply}

theorem current_ofTable (initial : RouteTable) : Current initial [] (ofTable initial) := by
  refine ⟨rfl, ?_⟩
  intro before snapshot hprefix
  have hnil := List.prefix_nil.mp hprefix
  simp at hnil

theorem Current.concat {s' : SharedRoutes} (h : Current initial log s)
    (htable : s'.table = (installed e).getD s.table)
    (hkept : ∀ snapshot t, s.read? snapshot = some t → s'.read? snapshot = some t)
    (htaken : ∀ snapshot, e = (.snapshot, .taken snapshot) → s'.read? snapshot = some s.table) :
    Current initial (log ++ [e]) s' := by
  constructor
  · rw [htable, latest_concat, h.table_eq]
  · intro before snapshot hprefix
    rcases List.prefix_concat_iff.mp hprefix with hlast | hearlier
    · obtain ⟨rfl, he⟩ := List.append_inj' hlast rfl
      rw [htaken snapshot (List.singleton_inj.mp he).symm, h.table_eq]
    · exact hkept _ _ (h.read?_eq before snapshot hearlier)

theorem Current.replace (h : Current initial log s) {new : RouteTable}
    (hinstalled : installed e = some new) (he : e.1 ≠ .snapshot) :
    Current initial (log ++ [e]) (s.replace new) := by
  refine h.concat ?_ ?_ ?_
  · rw [table_replace, hinstalled]
    rfl
  · exact fun snapshot t hread => read?_replace_of_some hread new
  · rintro snapshot rfl
    exact absurd rfl he

theorem Current.unchanged (h : Current initial log s) (hinstalled : installed e = none)
    (he : e.1 ≠ .snapshot) : Current initial (log ++ [e]) s := by
  refine h.concat ?_ (fun _ _ hread => hread) ?_
  · rw [hinstalled]
    rfl
  · rintro snapshot rfl
    exact absurd rfl he

theorem Current.step (h : Current initial log s) (call : Call) :
    Current initial (log ++ [(call, (perform s call).1)]) (perform s call).2 := by
  cases call with
  | replace new => exact h.replace rfl nofun
  | reload file =>
      cases hload : RouteTable.load file with
      | ok new =>
          rw [perform_reload_of_ok s hload]
          exact h.replace (by rw [installed, hload]; rfl) nofun
      | error e =>
          rw [perform_reload_of_error s hload]
          exact h.unchanged rfl nofun
  | lookup node => exact h.unchanged rfl nofun
  | size => exact h.unchanged rfl nofun
  | snapshot =>
      refine h.concat rfl (fun _ _ hread => hread) ?_
      intro snapshot he
      cases he
      exact read?_snapshot s
  | read snapshot => exact h.unchanged rfl nofun

end

section Run

variable (initial : RouteTable) (calls : List Call)

def reached : SharedRoutes := perform.after (ofTable initial) calls

def record : List (Call × Reply) := perform.log (ofTable initial) calls

theorem current_reached : Current initial (record initial calls) (reached initial calls) :=
  perform.invariant (current_ofTable initial) (fun _ _ call h => h.step call) calls

end Run

structure Answers (s : SharedRoutes) (t : RouteTable) : Prop where
  lookup : ∀ node, perform s (.lookup node) = (.address (t.get? node), s)
  size : perform s .size = (.count t.size, s)
  snapshot : ∃ snapshot, perform s .snapshot = (.taken snapshot, s) ∧
    perform s (.read snapshot) = (.table (some t), s)
  replaced : ∀ new, (perform s (.replace new)).1 = .done ∧
    (perform s (.replace new)).2.table = new
  reloaded_iff : ∀ file new,
    ((perform s (.reload file)).1 = .done ∧ (perform s (.reload file)).2.table = new) ↔
      ∃ text, file = some text ∧ RouteTable.parse text = .ok new
  failed_iff : ∀ file, (∃ e, perform s (.reload file) = (.failed e, s)) ↔ RouteTable.Flawed file

theorem answers_table (s : SharedRoutes) : Answers s s.table := by
  refine ⟨fun _ => rfl, rfl, ?_, fun new => ⟨rfl, table_replace s new⟩, ?_, ?_⟩
  · exact ⟨s.snapshot, rfl, by rw [perform, read?_snapshot]⟩
  · intro file new
    rw [← RouteTable.load_eq_ok_iff]
    cases hload : RouteTable.load file with
    | ok new' => simp [perform_reload_of_ok s hload]
    | error e => simp [perform_reload_of_error s hload]
  · intro file
    rw [RouteTable.flawed_iff]
    cases hload : RouteTable.load file with
    | ok new => simp [perform_reload_of_ok s hload]
    | error e => simp [perform_reload_of_error s hload]

/-- What a run comes to. -/
structure Consistent (initial : RouteTable) (calls : List Call) : Prop where
  answers : Answers (reached initial calls) (latest initial (record initial calls))
  snapshots : ∀ before snapshot,
    before ++ [(.snapshot, .taken snapshot)] <+: record initial calls →
      perform (reached initial calls) (.read snapshot) =
        (.table (some (latest initial before)), reached initial calls)

theorem consistent_reached (initial : RouteTable) (calls : List Call) : Consistent initial calls := by
  have hcurrent := current_reached initial calls
  constructor
  · rw [← hcurrent.table_eq]
    exact answers_table _
  · intro before snapshot hprefix
    rw [perform, hcurrent.read?_eq before snapshot hprefix]

end SharedRoutes

end NumaFabric
