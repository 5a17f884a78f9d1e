import Mathlib.Data.List.Induction
import Mathlib.Data.List.Nodup
import NumaFabric.Logging.Filter
import NumaFabric.Proofs.Runs.Sequences
import NumaFabric.Proofs.Runs.Transcript

namespace NumaFabric.Logging

open NumaFabric.Text

theorem Verbosity.rank_injective : Function.Injective Verbosity.rank := by
  intro a b h
  cases a <;> cases b <;> first | rfl | cases h

namespace Rule

variable {a b r : Rule} {target : String} {fields : List String}

def key (r : Rule) : Option String × List String := (r.target, r.fields)

theorem sameKey_iff : a.sameKey b = true ↔ a.key = b.key := by
  simp [sameKey, key, Prod.ext_iff]

theorem utf8ByteSize_lt_of_begins {s t : String} (h : s.toList <+: t.toList) (hne : s ≠ t) :
    s.utf8ByteSize < t.utf8ByteSize := by
  obtain ⟨rest, hrest⟩ := h
  have happend : t = s ++ String.ofList rest := by
    rw [← String.toList_inj, String.toList_append, String.toList_ofList, hrest]
  have hsome : String.ofList rest ≠ "" := by
    intro hempty
    rw [hempty, String.append_empty] at happend
    exact hne happend.symm
  rw [happend, String.utf8ByteSize_append]
  exact Nat.lt_add_of_pos_right (Nat.pos_of_ne_zero (mt String.utf8ByteSize_eq_zero_iff.mp hsome))

instance : Std.TransCmp rank := inferInstanceAs (Std.TransCmp (compareLex _ _))

theorem key_eq_of_rank (h : a.rank b = .eq) : a.key = b.key := by
  simp only [rank, compareLex, compareOn, Ordering.then_eq_eq, Std.LawfulEqOrd.compare_eq_iff_eq] at h
  exact Prod.ext h.2.2.1 h.2.2.2

/-- Of the rules for an event, those that name its very target are the greatest. -/
theorem rank_eq_lt_of_applies (hr : r.target = some target) (h : b.applies target fields = true)
    (hother : b.target ≠ some target) : b.rank r = .lt := by
  have hlength : compare (b.target.map (·.utf8ByteSize)) (r.target.map (·.utf8ByteSize)) = .lt := by
    rw [hr]
    cases hb : b.target with
    | none => rfl
    | some t =>
        rw [applies, hb, Option.all_some, Bool.and_eq_true, List.isPrefixOf_iff_prefix] at h
        have hne : t ≠ target := by
          rintro rfl
          exact hother hb
        exact Nat.compare_eq_lt.mpr (utf8ByteSize_lt_of_begins h.1 hne)
  rw [rank, compareLex, compareOn, hlength, Ordering.lt_then]

theorem prefer_some (h : b = r ∨ b.rank r = .lt) : prefer (some r) b = some r := by
  rcases h with rfl | hless
  · have hself : b.rank b = .eq := Std.ReflCmp.compare_self
    simp [prefer, hself]
  · simp [prefer, Std.OrientedCmp.gt_of_lt hless]

theorem prefer_of_lt {best : Option Rule} (h : ∀ b, best = some b → b.rank r = .lt) :
    prefer best r = some r := by
  cases best with
  | none => rfl
  | some b => rw [prefer, if_pos (h b rfl)]

theorem prefer_eq_some {best : Option Rule} (h : prefer best a = some b) : b = a ∨ best = some b := by
  cases best with
  | none => exact .inl (Option.some.inj h).symm
  | some found =>
      rw [prefer] at h
      split at h
      · exact .inl (Option.some.inj h).symm
      · exact .inr h

end Rule

namespace Filter

variable {f : Filter} {r rule : Rule} {rules : List Rule} {ds : List Directive} {target : String}
  {level : Verbosity}

/-! The rules of a filter. -/

def Distinct (rules : List Rule) : Prop := rules.Pairwise fun a b => a.key ≠ b.key

theorem mem_putRule_iff (h : Distinct rules) :
    r ∈ putRule rule rules ↔ r = rule ∨ (r ∈ rules ∧ r.key ≠ rule.key) := by
  induction rules with
  | nil => simp [putRule]
  | cons first rules ih =>
      obtain ⟨hfirst, hrules⟩ := List.pairwise_cons.mp h
      rw [putRule]
      split
      · rename_i hsame
        have hkey := Rule.sameKey_iff.mp hsame
        have hothers (hr : r ∈ rules) : r.key ≠ rule.key := hkey ▸ (hfirst r hr).symm
        simp only [List.mem_cons]
        constructor
        · rintro (hr | hr)
          · exact .inl hr
          · exact .inr ⟨.inr hr, hothers hr⟩
        · rintro (hr | ⟨rfl | hr, hne⟩)
          · exact .inl hr
          · exact absurd hkey hne
          · exact .inr hr
      · rename_i hother
        have hkey := mt Rule.sameKey_iff.mpr hother
        simp only [List.mem_cons, ih hrules]
        constructor
        · rintro (rfl | hr | ⟨hr, hne⟩)
          · exact .inr ⟨.inl rfl, hkey⟩
          · exact .inl hr
          · exact .inr ⟨.inr hr, hne⟩
        · rintro (hr | ⟨rfl | hr, hne⟩)
          · exact .inr (.inl hr)
          · exact .inl rfl
          · exact .inr (.inr ⟨hr, hne⟩)

theorem distinct_putRule (h : Distinct rules) : Distinct (putRule rule rules) := by
  induction rules with
  | nil => exact List.pairwise_singleton _ rule
  | cons first rules ih =>
      obtain ⟨hfirst, hrules⟩ := List.pairwise_cons.mp h
      rw [putRule]
      split
      · rename_i hsame
        have hkey := Rule.sameKey_iff.mp hsame
        exact List.pairwise_cons.mpr ⟨fun r hr => hkey ▸ hfirst r hr, hrules⟩
      · rename_i hother
        have hkey := mt Rule.sameKey_iff.mpr hother
        refine List.pairwise_cons.mpr ⟨fun r hr => ?_, ih hrules⟩
        rcases (mem_putRule_iff hrules).mp hr with rfl | ⟨hr, -⟩
        · exact hkey
        · exact hfirst r hr

theorem rules_add_of_some {d : Directive} (h : Rule.ofDirective? d = some rule) :
    (f.add d).rules = putRule rule f.rules := by
  rw [add, h]

theorem rules_add_of_none {d : Directive} (h : Rule.ofDirective? d = none) :
    (f.add d).rules = f.rules := by
  rw [add, h]

theorem distinct_add (h : Distinct f.rules) (d : Directive) : Distinct (f.add d).rules := by
  cases hd : Rule.ofDirective? d with
  | none => rwa [rules_add_of_none hd]
  | some rule =>
      rw [rules_add_of_some hd]
      exact distinct_putRule h

theorem distinct_foldl_add (h : Distinct f.rules) (ds : List Directive) :
    Distinct (ds.foldl add f).rules := by
  induction ds generalizing f with
  | nil => exact h
  | cons d ds ih => exact ih (distinct_add h d)

theorem distinct_empty : Distinct empty.rules := List.Pairwise.nil

theorem distinct_ofDirectives (fallback : Directive) (ds : List Directive) :
    Distinct (ofDirectives fallback ds).rules := by
  have hfold := distinct_foldl_add distinct_empty ds
  rw [ofDirectives]
  split
  · apply distinct_add
    exact hfold
  · exact hfold

def Replaces (r : Rule) (d : Directive) : Prop :=
  ∃ r', Rule.ofDirective? d = some r' ∧ r'.key = r.key

/-- The rules are those that were given last. -/
theorem mem_rules_foldl_add_iff (h : Distinct f.rules) : r ∈ (ds.foldl add f).rules ↔
    Stands (Rule.ofDirective? · = some r) (Replaces r) ds ∨
      (r ∈ f.rules ∧ ∀ d ∈ ds, ¬ Replaces r d) := by
  induction ds using List.reverseRecOn with
  | nil => simp [not_stands_nil]
  | append_singleton ds d ih =>
      rw [List.foldl_append, List.foldl_cons, List.foldl_nil, stands_concat_iff]
      simp only [List.forall_mem_append, List.forall_mem_singleton]
      cases hd : Rule.ofDirective? d with
      | none =>
          have hkeeps : ¬ Replaces r d := by simp [Replaces, hd]
          rw [rules_add_of_none hd, ih]
          simp [hkeeps]
      | some rule =>
          have hkeeps : Replaces r d ↔ rule.key = r.key := by simp [Replaces, hd]
          rw [rules_add_of_some hd, mem_putRule_iff (distinct_foldl_add h ds), ih, hkeeps,
            Option.some.injEq, eq_comm (a := r), ne_comm (a := r.key)]
          tauto

/-! The rule that decides. -/

theorem foldl_prefer_eq_some {best : Option Rule} (hothers : ∀ r' ∈ rules, r' = r ∨ r'.rank r = .lt)
    (hbest : best = some r ∨ (r ∈ rules ∧ ∀ b, best = some b → b.rank r = .lt)) :
    rules.foldl Rule.prefer best = some r := by
  induction rules generalizing best with
  | nil => simpa using hbest
  | cons first rules ih =>
      obtain ⟨hfirst, hrules⟩ := List.forall_mem_cons.mp hothers
      apply ih hrules
      rcases hbest with rfl | ⟨hin, hbest⟩
      · exact .inl (Rule.prefer_some hfirst)
      · rcases List.mem_cons.mp hin with rfl | hin
        · exact .inl (Rule.prefer_of_lt hbest)
        · rcases hfirst with rfl | hless
          · exact .inl (Rule.prefer_of_lt hbest)
          · refine .inr ⟨hin, ?_⟩
            intro b hb
            rcases Rule.prefer_eq_some hb with rfl | hb
            · exact hless
            · exact hbest b hb

theorem exists_greatest (hsome : rules ≠ []) (h : Distinct rules) :
    ∃ r ∈ rules, ∀ r' ∈ rules, r' = r ∨ r'.rank r = .lt := by
  induction rules with
  | nil => exact absurd rfl hsome
  | cons first rules ih =>
      obtain ⟨hfirst, hrules⟩ := List.pairwise_cons.mp h
      by_cases hnone : rules = []
      · subst hnone
        exact ⟨first, List.mem_cons_self, fun r' hr' => .inl (List.mem_singleton.mp hr')⟩
      obtain ⟨r, hr, hothers⟩ := ih hnone hrules
      cases hrank : first.rank r with
      | lt =>
          exact ⟨r, List.mem_cons_of_mem _ hr, List.forall_mem_cons.mpr ⟨.inr hrank, hothers⟩⟩
      | eq => exact absurd (Rule.key_eq_of_rank hrank) (hfirst r hr)
      | gt =>
          have hless : r.rank first = .lt := Std.OrientedCmp.lt_of_gt hrank
          refine ⟨first, List.mem_cons_self, List.forall_mem_cons.mpr ⟨.inl rfl, ?_⟩⟩
          intro r' hr'
          rcases hothers r' hr' with rfl | hr'
          · exact .inr hless
          · exact .inr (Std.TransCmp.lt_trans hr' hless)

/-- The greatest of the rules that are about an event decides, in whatever order they were given. -/
theorem ruleFor?_eq_some_iff {fields : List String} (h : Distinct f.rules) :
    f.ruleFor? target fields = some r ↔ (r ∈ f.rules ∧ r.applies target fields = true) ∧
      ∀ r' ∈ f.rules, r'.applies target fields = true → r' = r ∨ r'.rank r = .lt := by
  have hmem (r' : Rule) : (r' ∈ f.rules ∧ r'.applies target fields = true) ↔
      r' ∈ f.rules.filter fun r => r.applies target fields := by
    rw [List.mem_filter]
  simp only [← and_imp, hmem]
  have hfound {r : Rule} (hr : r ∈ f.rules.filter fun r => r.applies target fields)
      (hothers : ∀ r' ∈ f.rules.filter fun r => r.applies target fields, r' = r ∨ r'.rank r = .lt) :
      f.ruleFor? target fields = some r :=
    foldl_prefer_eq_some hothers (.inr ⟨hr, nofun⟩)
  constructor
  · intro hr
    have hsome : (f.rules.filter fun r => r.applies target fields) ≠ [] := by
      intro hnone
      rw [ruleFor?, hnone] at hr
      cases hr
    obtain ⟨greatest, hgreatest, hothers⟩ := exists_greatest hsome (h.filter _)
    obtain rfl := Option.some.inj ((hfound hgreatest hothers).symm.trans hr)
    exact ⟨hgreatest, hothers⟩
  · rintro ⟨hr, hothers⟩
    exact hfound hr hothers

/-- Events of a target are logged up to a level, but for those with fields that a rule for this very
target asks for. -/
def Gives (f : Filter) (target : String) (level : Verbosity) : Prop :=
  ∀ fields,
    (∀ r ∈ f.rules, r.target = some target → r.applies target fields = true → r.fields = []) →
    ∀ v, f.enabled target v fields = true ↔ level.Allows v

theorem Gives.enabled_nil_iff (h : f.Gives target level) (v : Verbosity) :
    f.enabled target v [] = true ↔ level.Allows v := by
  apply h
  intro r _ _ happlies
  rw [Rule.applies, Bool.and_eq_true, List.all_eq_true] at happlies
  rw [List.eq_nil_iff_forall_not_mem]
  intro field hfield
  have hcontains := happlies.2 field hfield
  cases hcontains

theorem Gives.unique {level' : Verbosity} (h : f.Gives target level) (h' : f.Gives target level') :
    level = level' := by
  have hallows (v : Verbosity) : level.Allows v ↔ level'.Allows v :=
    (h.enabled_nil_iff v).symm.trans (h'.enabled_nil_iff v)
  exact Verbosity.rank_injective
    (Nat.le_antisymm ((hallows level).mp (Nat.le_refl _)) ((hallows level').mpr (Nat.le_refl _)))

theorem gives_of_mem (h : Distinct f.rules) (hr : ⟨some target, [], level⟩ ∈ f.rules) :
    f.Gives target level := by
  intro fields hfields v
  have happlies : Rule.applies ⟨some target, [], level⟩ target fields = true := by
    simp [Rule.applies]
  have hrule : f.ruleFor? target fields = some ⟨some target, [], level⟩ := by
    refine (ruleFor?_eq_some_iff h).mpr ⟨⟨hr, happlies⟩, ?_⟩
    intro r' hin happlies'
    by_cases htarget : r'.target = some target
    · left
      have hkey : r'.key = (some target, []) :=
        Prod.ext htarget (hfields r' hin htarget happlies')
      exact List.inj_on_of_nodup_map (List.pairwise_map.mpr h) hin hr hkey
    · exact .inr (Rule.rank_eq_lt_of_applies rfl happlies' htarget)
  rw [enabled, hrule]
  exact decide_eq_true_iff

end Filter

def Directive.Sets (target : String) (level : Verbosity) (d : Directive) : Prop :=
  d = ⟨some target, false, [], level⟩

section

variable {d : Directive} {target : String} {level : Verbosity} {ds : List Directive} {f : Filter}

theorem ofDirective?_eq_some_iff_sets :
    Rule.ofDirective? d = some ⟨some target, [], level⟩ ↔ d.Sets target level := by
  constructor
  · intro h
    unfold Rule.ofDirective? at h
    split at h
    · rename_i hstatic
      obtain ⟨htarget, hfields, hlevel⟩ := Rule.mk.inj (Option.some.inj h)
      have hspan := (Bool.and_eq_true_iff.mp hstatic).1
      rw [Bool.not_eq_true'] at hspan
      rw [List.map_eq_nil_iff] at hfields
      obtain ⟨target', inSpan, fields, level'⟩ := d
      simp_all [Directive.Sets]
    · cases h
  · rintro rfl
    rfl

theorem replaces_iff : Filter.Replaces ⟨some target, [], level⟩ d ↔ ∃ l, d.Sets target l := by
  simp only [← ofDirective?_eq_some_iff_sets]
  constructor
  · rintro ⟨⟨target', fields, l⟩, hd, hkey⟩
    obtain ⟨rfl, rfl⟩ := Prod.mk.inj hkey
    exact ⟨l, hd⟩
  · rintro ⟨l, hd⟩
    exact ⟨_, hd, rfl⟩

def LastSets (target : String) (level : Verbosity) (ds : List Directive) : Prop :=
  Stands (Directive.Sets target level) (fun d => ∃ l, d.Sets target l) ds

theorem mem_rules_foldl_add_iff_lastSets (h : Filter.Distinct f.rules) :
    ⟨some target, [], level⟩ ∈ (ds.foldl Filter.add f).rules ↔
      LastSets target level ds ∨
        (⟨some target, [], level⟩ ∈ f.rules ∧ ∀ d ∈ ds, ¬ ∃ l, d.Sets target l) := by
  have hends : Filter.Replaces ⟨some target, [], level⟩ = fun d => ∃ l, d.Sets target l :=
    funext fun _ => propext replaces_iff
  have hbegins : (Rule.ofDirective? · = some ⟨some target, [], level⟩) =
      Directive.Sets target level := funext fun _ => propext ofDirective?_eq_some_iff_sets
  rw [Filter.mem_rules_foldl_add_iff h, hbegins, hends]
  rfl

theorem exists_lastSets (h : ∃ d ∈ ds, ∃ l, d.Sets target l) : ∃ l, LastSets target l ds := by
  induction ds using List.reverseRecOn with
  | nil =>
      obtain ⟨d, hd, -⟩ := h
      cases hd
  | append_singleton ds d ih =>
      simp only [LastSets, stands_concat_iff]
      by_cases hsets : ∃ l, d.Sets target l
      · obtain ⟨l, hl⟩ := hsets
        exact ⟨l, .inl hl⟩
      · obtain ⟨d', hd', hl⟩ := h
        rcases List.mem_append.mp hd' with hin | hin
        · obtain ⟨l, hlast⟩ := ih ⟨d', hin, hl⟩
          exact ⟨l, .inr ⟨hlast, hsets⟩⟩
        · rw [List.mem_singleton.mp hin] at hl
          exact absurd hl hsets

theorem mem_rules_ofDirectives {fallback : Directive} (h : LastSets target level ds) :
    ⟨some target, [], level⟩ ∈ (Filter.ofDirectives fallback ds).rules := by
  have hin : ⟨some target, [], level⟩ ∈ (ds.foldl Filter.add Filter.empty).rules :=
    (mem_rules_foldl_add_iff_lastSets Filter.distinct_empty).mpr (.inl h)
  have hsome : (ds.foldl Filter.add Filter.empty).rules.isEmpty = false :=
    List.isEmpty_eq_false_iff_exists_mem.mpr ⟨_, hin⟩
  simpa [Filter.ofDirectives, hsome] using hin

end

/-! Texts. -/

/-- A text that is a directive or none, and does not end the reading of all. -/
def Readable (text : List Char) : Prop := ∀ cut, Directive.parse text ≠ .error (.split cut)

def directives (texts : List (List Char)) : List Directive :=
  texts.filterMap fun text => (Directive.parse text).toOption

theorem parse?_eq_ok_iff {text : List Char} {d : Option Directive} :
    Directive.parse? text = .ok d ↔ Readable text ∧ (Directive.parse text).toOption = d := by
  simp only [Directive.parse?, Readable]
  cases Directive.parse text with
  | ok _ => simp [Except.toOption]
  | error fault => cases fault <;> simp [Except.toOption]

theorem exists_parse?_eq_ok_iff {text : List Char} :
    (∃ d, Directive.parse? text = .ok d) ↔ Readable text := by
  simp [parse?_eq_ok_iff]

theorem filterMap_id_of_mapM {α : Type} {textOf : α → List Char} {l : List α}
    {ds : List (Option Directive)} (h : l.mapM (fun a => Directive.parse? (textOf a)) = .ok ds) :
    ds.filterMap id = directives (l.map textOf) := by
  rw [mapM_eq_ok_iff] at h
  induction l generalizing ds with
  | nil =>
      obtain rfl := List.map_eq_nil_iff.mp h.symm
      rfl
  | cons a l ih =>
      obtain ⟨d, rest, rfl, hd, hrest⟩ := List.map_eq_cons_iff.mp h.symm
      obtain ⟨-, rfl⟩ := parse?_eq_ok_iff.mp hd.symm
      rw [List.map_cons, directives, List.filterMap_cons, List.filterMap_cons, ih hrest.symm,
        directives, id_eq]

namespace LogConfig

variable {c : LogConfig} {text : String} {s : FilterSetup}

def ofVariable (text : String) : List Directive := directives (Filter.pieces text)

def ofSettings (c : LogConfig) : List Directive := directives (c.filters.map entryText)

theorem exists_filter_eq_ok_iff : (∃ s, c.filter text = .ok s) ↔
    Readable c.level.toList ∧ (∀ piece ∈ Filter.pieces text, Readable piece) ∧
      ∀ e ∈ c.filters, Readable (entryText e) := by
  have hlevel : (∃ d, c.fallback = .ok d) ↔ Readable c.level.toList := by
    rw [← exists_parse?_eq_ok_iff, fallback]
    cases Directive.parse? c.level.toList with
    | ok d => simp [Except.map]
    | error cut => simp [Except.map]
  rw [← hlevel]
  simp only [← exists_parse?_eq_ok_iff, ← exists_mapM_eq_ok_iff, filter, bind_eq_ok_iff]
  constructor
  · rintro ⟨s, fallback, hfallback, fromVariable, hvariable, fromSettings, hsettings, -⟩
    exact ⟨⟨fallback, hfallback⟩, ⟨fromVariable, hvariable⟩, fromSettings, hsettings⟩
  · rintro ⟨⟨fallback, hfallback⟩, ⟨fromVariable, hvariable⟩, fromSettings, hsettings⟩
    exact ⟨_, fallback, hfallback, fromVariable, hvariable, fromSettings, hsettings, rfl⟩

theorem exists_eq_of_filter (h : c.filter text = .ok s) : ∃ fallback,
    s.filter = c.ofSettings.foldl Filter.add (Filter.ofDirectives fallback (ofVariable text)) := by
  simp only [filter, bind_eq_ok_iff, pure, Except.pure, Except.ok.injEq] at h
  obtain ⟨fallback, -, fromVariable, hvariable, fromSettings, hsettings, rfl⟩ := h
  refine ⟨fallback, ?_⟩
  have hv : fromVariable.filterMap id = directives ((Filter.pieces text).map id) :=
    filterMap_id_of_mapM hvariable
  have hs := filterMap_id_of_mapM hsettings
  rw [List.map_id] at hv
  simp only [hv, hs]
  rfl

/-- What the last directive of the settings says of a target holds, and what the last one of the
variable says holds only where it is not against that. -/
structure SettingsFirst (c : LogConfig) (text : String) (f : Filter) : Prop where
  ofSettings : ∀ target level, LastSets target level c.ofSettings → f.Gives target level
  ofVariable_iff : ∀ target level, LastSets target level (ofVariable text) →
    (f.Gives target level ↔ ∀ l, LastSets target l c.ofSettings → l = level)

theorem settingsFirst_of_eq {f : Filter} {fallback : Directive}
    (h : f = c.ofSettings.foldl Filter.add (Filter.ofDirectives fallback (ofVariable text))) :
    SettingsFirst c text f := by
  have hbase := Filter.distinct_ofDirectives fallback (ofVariable text)
  have hdistinct : Filter.Distinct f.rules := h ▸ Filter.distinct_foldl_add hbase c.ofSettings
  have hmem (target : String) (level : Verbosity) : ⟨some target, [], level⟩ ∈ f.rules ↔
      LastSets target level c.ofSettings ∨
        (⟨some target, [], level⟩ ∈ (Filter.ofDirectives fallback (ofVariable text)).rules ∧
          ∀ d ∈ c.ofSettings, ¬ ∃ l, d.Sets target l) :=
    h ▸ mem_rules_foldl_add_iff_lastSets hbase
  have ofSettings (target : String) (level : Verbosity)
      (hlast : LastSets target level c.ofSettings) : f.Gives target level :=
    Filter.gives_of_mem hdistinct ((hmem target level).mpr (.inl hlast))
  refine ⟨ofSettings, ?_⟩
  intro target level hlast
  constructor
  · intro hgives l hsettings
    exact (ofSettings target l hsettings).unique hgives
  · intro hsettings
    by_cases hset : ∃ d ∈ c.ofSettings, ∃ l, d.Sets target l
    · obtain ⟨l, hl⟩ := exists_lastSets hset
      exact hsettings l hl ▸ ofSettings target l hl
    · push Not at hset
      apply Filter.gives_of_mem hdistinct
      refine (hmem target level).mpr (.inr ⟨mem_rules_ofDirectives hlast, ?_⟩)
      rintro d hd ⟨l, hl⟩
      exact hset d hd l hl

theorem filter_settingsFirst (c : LogConfig) (text : String) :
    ((∃ s, c.filter text = .ok s) ↔ Readable c.level.toList ∧
      (∀ piece ∈ Filter.pieces text, Readable piece) ∧ ∀ e ∈ c.filters, Readable (entryText e)) ∧
    ∀ s, c.filter text = .ok s → SettingsFirst c text s.filter := by
  refine ⟨exists_filter_eq_ok_iff, ?_⟩
  intro s hs
  obtain ⟨fallback, hfilter⟩ := exists_eq_of_filter hs
  exact settingsFirst_of_eq hfilter

theorem filter_settingsFirst_mioInBoth :
    ∃ s, LogConfig.filter ⟨"info", [("mio", "error")]⟩ "mio=trace,b=debug" = .ok s ∧
      s.filter.Gives "mio" .error ∧ s.filter.Gives "b" .debug := by
  obtain ⟨-, hfirst⟩ := filter_settingsFirst ⟨"info", [("mio", "error")]⟩ "mio=trace,b=debug"
  have hvariable : ofVariable "mio=trace,b=debug" =
      [⟨some "mio", false, [], .trace⟩, ⟨some "b", false, [], .debug⟩] := rfl
  have hsettings : ofSettings ⟨"info", [("mio", "error")]⟩ = [⟨some "mio", false, [], .error⟩] := rfl
  obtain ⟨s, hs⟩ : ∃ s, LogConfig.filter ⟨"info", [("mio", "error")]⟩ "mio=trace,b=debug" =
      .ok s :=
    ⟨_, rfl⟩
  refine ⟨s, hs, (hfirst s hs).ofSettings _ _ ?_, ((hfirst s hs).ofVariable_iff _ _ ?_).mpr ?_⟩
  · exact hsettings ▸ ⟨[], _, [], rfl, rfl, by simp⟩
  · exact hvariable ▸ ⟨[_], _, [], rfl, rfl, by simp⟩
  · rw [hsettings]
    rintro l ⟨before, d, after, hlog, hsets, -⟩
    have hin : d ∈ [⟨some "mio", false, [], .error⟩] := by
      rw [hlog]
      simp
    rw [List.mem_singleton.mp hin] at hsets
    exact absurd hsets (by simp [Directive.Sets])

/-- What is built in about some libraries holds against the variable. -/
theorem not_forall_variable_first :
    ¬ ∀ file c text s, load file = .ok c → c.filter text = .ok s → ∀ target level,
      LastSets target level (ofVariable text) → s.filter.Gives target level := by
  intro hall
  have hload : load none = .ok ⟨"info", [("tokio_util", "error"), ("mio", "error")]⟩ := rfl
  obtain ⟨s, hs⟩ : ∃ s, LogConfig.filter ⟨"info", [("tokio_util", "error"), ("mio", "error")]⟩
      "mio=trace" = .ok s :=
    ⟨_, rfl⟩
  have hvariable : ofVariable "mio=trace" = [⟨some "mio", false, [], .trace⟩] := rfl
  have hsettings : ofSettings ⟨"info", [("tokio_util", "error"), ("mio", "error")]⟩ =
      [⟨some "tokio_util", false, [], .error⟩, ⟨some "mio", false, [], .error⟩] := rfl
  have hgives : s.filter.Gives "mio" .trace := by
    apply hall none _ "mio=trace" s hload hs
    exact hvariable ▸ ⟨[], _, [], rfl, rfl, by simp⟩
  obtain ⟨fallback, hfilter⟩ := exists_eq_of_filter hs
  have hbuilt : s.filter.Gives "mio" .error := by
    apply (settingsFirst_of_eq hfilter).ofSettings
    exact hsettings ▸ ⟨[_], _, [], rfl, rfl, by simp⟩
  cases hgives.unique hbuilt

end LogConfig

end NumaFabric.Logging
