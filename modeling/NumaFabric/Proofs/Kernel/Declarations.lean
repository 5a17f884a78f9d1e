import Mathlib.Data.List.Infix
import NumaFabric.Kernel.Listing
import NumaFabric.Proofs.Text.Pieces
/-!
What a listing declares. Main statements: the search goes from each directive on to the first one
after it, and ends; and a listing that is written as declarations, with text between them that holds
no directive, is read as the names of these declarations.
-/

namespace NumaFabric.Listing

open NumaFabric.Text

/-- No directive stands anywhere in the text. -/
def Bare (s : List Char) : Prop := ¬ directive <:+: s

instance (s : List Char) : Decidable (Bare s) := inferInstanceAs (Decidable (¬ _))

/-! The first directive of a text. -/

def beyond? (s : List Char) : Option (List Char) := s.tails.findSome? afterDirective?

section

variable {c : Char} {s t after : List Char}

theorem afterDirective?_eq_some_iff : afterDirective? s = some after ↔ s = directive ++ after := by
  constructor
  · intro h
    rw [afterDirective?.eq_def] at h
    split at h
    · cases h
      rfl
    · cases h
  · rintro rfl
    rfl

theorem afterDirective?_eq_none_iff : afterDirective? s = none ↔ ¬ directive <+: s := by
  rw [Option.eq_none_iff_forall_ne_some, List.IsPrefix, not_exists]
  exact forall_congr' fun after => not_congr (afterDirective?_eq_some_iff.trans eq_comm)

theorem prefix_append_cons_iff {v : List Char} (hc : c ∉ v) : v <+: s ++ c :: t ↔ v <+: s := by
  constructor
  · intro h
    rcases List.prefix_or_prefix_of_prefix h (List.prefix_append s _) with hwithin | ⟨r, rfl⟩
    · exact hwithin
    · rw [List.prefix_append_right_inj] at h
      cases r with
      | nil => rw [List.append_nil]
      | cons d r =>
          obtain ⟨rfl, -⟩ := List.cons_prefix_cons.mp h
          exact absurd (by simp) hc
  · exact fun h => h.trans (List.prefix_append s _)

/-- A directive has no dot but its first character, so none begins before a dot and ends after it. -/
theorem afterDirective?_append_dot (h : afterDirective? (c :: s) = none) (t : List Char) :
    afterDirective? (c :: (s ++ '.' :: t)) = none := by
  rw [afterDirective?_eq_none_iff, directive, List.cons_prefix_cons] at h ⊢
  rwa [prefix_append_cons_iff (by decide)]

theorem bare_cons_iff : Bare (c :: s) ↔ afterDirective? (c :: s) = none ∧ Bare s := by
  rw [Bare, List.infix_cons_iff, not_or, afterDirective?_eq_none_iff, Bare]

theorem beyond?_cons (c : Char) (s : List Char) :
    beyond? (c :: s) = (afterDirective? (c :: s)).or (beyond? s) := by
  rw [beyond?, List.tails, List.findSome?_cons]
  cases afterDirective? (c :: s) with
  | none => rfl
  | some after => rfl

theorem beyond?_eq_none_iff : beyond? s = none ↔ Bare s := by
  induction s with
  | nil => exact iff_of_true rfl (by decide)
  | cons c s ih => rw [beyond?_cons, Option.or_eq_none_iff, bare_cons_iff, ih]

theorem beyond?_append (h : Bare s) (after : List Char) :
    beyond? (s ++ (directive ++ after)) = some after := by
  induction s with
  | nil => rfl
  | cons c s ih =>
      obtain ⟨hfirst, hrest⟩ := bare_cons_iff.mp h
      have hseam := afterDirective?_append_dot hfirst (directive.tail ++ after)
      rw [List.cons_append, beyond?_cons, ih hrest]
      exact congrArg (·.or (some after)) hseam

theorem beyond?_eq_some_iff :
    beyond? s = some after ↔ ∃ before, Bare before ∧ s = before ++ (directive ++ after) := by
  constructor
  · intro h
    induction s with
    | nil => cases h
    | cons c s ih =>
        rw [beyond?_cons] at h
        cases hfirst : afterDirective? (c :: s) with
        | some after' =>
            rw [hfirst] at h
            cases h
            exact ⟨[], by decide, afterDirective?_eq_some_iff.mp hfirst⟩
        | none =>
            rw [hfirst, Option.none_or] at h
            obtain ⟨before, hbare, rfl⟩ := ih h
            refine ⟨c :: before, bare_cons_iff.mpr ⟨?_, hbare⟩, rfl⟩
            rw [afterDirective?_eq_none_iff] at hfirst ⊢
            exact fun hwithin => hfirst (hwithin.trans (List.prefix_append (c :: before) _))
  · rintro ⟨before, hbare, rfl⟩
    exact beyond?_append hbare after

end

/-! The names of a text, one directive after the other. -/

def declared (after : List Char) : List (List Char) :=
  match name? after with
  | some (d :: name) => [d :: name]
  | _ => []

section

variable {c : Char} {s t after : List Char}

theorem entries_cons_of_none (h : afterDirective? (c :: s) = none) :
    entries (c :: s) = entries s := by
  rw [entries, h]

theorem entries_cons_of_some (h : afterDirective? (c :: s) = some after) :
    entries (c :: s) = declared after ++ entries s := by
  simp only [entries, h, declared]
  cases name? after with
  | none => rfl
  | some name =>
      cases name with
      | nil => rfl
      | cons d name => rfl

theorem entries_append_of_dot_not_mem (h : '.' ∉ s) (t : List Char) :
    entries (s ++ t) = entries t := by
  induction s with
  | nil => rfl
  | cons c s ih =>
      obtain ⟨hc, hs⟩ := not_or.mp (mt List.mem_cons.mpr h)
      have hnone : afterDirective? (c :: (s ++ t)) = none := by
        rw [afterDirective?_eq_none_iff, directive, List.cons_prefix_cons]
        exact fun hprefix => hc hprefix.1
      rw [List.cons_append, entries_cons_of_none hnone, ih hs]

theorem entries_of_bare (h : Bare s) : entries s = [] := by
  induction s with
  | nil => rfl
  | cons c s ih =>
      obtain ⟨hfirst, hrest⟩ := bare_cons_iff.mp h
      rw [entries_cons_of_none hfirst, ih hrest]

theorem entries_of_beyond? (h : beyond? s = some after) :
    entries s = declared after ++ entries after := by
  induction s with
  | nil => cases h
  | cons c s ih =>
      rw [beyond?_cons] at h
      cases hfirst : afterDirective? (c :: s) with
      | some after' =>
          rw [hfirst] at h
          cases h
          have hs : s = directive.tail ++ after :=
            congrArg List.tail (afterDirective?_eq_some_iff.mp hfirst)
          -- no directive begins in the rest of this one
          have hrest : entries s = entries after :=
            hs ▸ entries_append_of_dot_not_mem (by decide) after
          rw [entries_cons_of_some hfirst, hrest]
      | none =>
          rw [hfirst, Option.none_or] at h
          rw [entries_cons_of_none hfirst, ih h]

end

/-! The search, round by round. -/

structure Search where
  rest : List Char
  found : List (List Char)

namespace Search

/-- One round: the search goes on right after the first directive, with the name that stands there.
Without a directive there is no further round. -/
def round? (s : Search) : Option Search :=
  (beyond? s.rest).map fun after => ⟨after, s.found ++ declared after⟩

inductive Ends : Nat → Search → Search → Prop
  | done {s : Search} (h : s.round? = none) : Ends 0 s s
  | round {n : Nat} {s next last : Search} (h : s.round? = some next) (hnext : Ends n next last) :
      Ends (n + 1) s last

variable {n : Nat} {s next last : Search}

theorem round?_spec (h : s.round? = some next) :
    next.found ++ entries next.rest = s.found ++ entries s.rest ∧
      next.rest.length + directive.length ≤ s.rest.length := by
  obtain ⟨after, hafter, rfl⟩ := Option.map_eq_some_iff.mp h
  constructor
  · rw [entries_of_beyond? hafter, List.append_assoc]
  · obtain ⟨before, -, hs⟩ := beyond?_eq_some_iff.mp hafter
    rw [hs, List.length_append, List.length_append]
    change after.length + directive.length ≤ _
    omega

theorem Ends.spec (h : Ends n s last) :
    last.found = s.found ++ entries s.rest ∧ n * directive.length ≤ s.rest.length := by
  induction h with
  | @done s h =>
      have hbare := beyond?_eq_none_iff.mp (Option.map_eq_none_iff.mp h)
      rw [entries_of_bare hbare, List.append_nil, Nat.zero_mul]
      exact ⟨rfl, Nat.zero_le _⟩
  | round h _ ih =>
      obtain ⟨hfound, hlength⟩ := round?_spec h
      refine ⟨ih.1.trans hfound, ?_⟩
      rw [Nat.succ_mul]
      exact (Nat.add_le_add_right ih.2 _).trans hlength

theorem exists_ends (s : Search) : ∃ n last, Ends n s last := by
  -- on the length of the text that is left, which every round makes shorter
  induction hlength : s.rest.length using Nat.strongRecOn generalizing s with
  | ind length ih =>
      cases hround : s.round? with
      | none => exact ⟨0, s, .done hround⟩
      | some next =>
          have hshorter := (round?_spec hround).2
          have hpos : 0 < directive.length := by decide
          obtain ⟨n, last, hends⟩ := ih next.rest.length (by omega) next rfl
          exact ⟨n + 1, last, .round hround hends⟩

end Search

/-! Listings that are written. -/

def isWordChar (c : Char) : Bool := c.isAlphanum || c == '_' || c == '$'

structure Declaration where
  before : List Char
  blanks : List Char
  name : List Char
  stop : Char
  before_bare : Bare before
  blanks_ne_nil : blanks ≠ []
  blanks_blank : Blank blanks
  name_ne_nil : name ≠ []
  isWordChar_of_mem_name : ∀ c ∈ name, isWordChar c = true
  isWordChar_stop : isWordChar stop = false
  stop_ne_dot : stop ≠ '.'

theorem isNameChar_eq (c : Char) : isNameChar c = (isWordChar c || c == '.') := rfl

theorem not_isBlank_of_isWordChar {c : Char} (h : isWordChar c = true) : isBlank c = false := by
  delta isWordChar Char.isAlphanum Char.isAlpha Char.isUpper Char.isLower Char.isDigit at h
  simp only [Bool.or_eq_true, Bool.and_eq_true, decide_eq_true_eq, beq_iff_eq,
    UInt32.le_iff_toNat_le, ge_iff_le, Char.toNat_val, Char.reduceToNat, ← Char.toNat_inj] at h
  simp only [isBlank, Bool.or_eq_false_iff, Bool.and_eq_false_iff, decide_eq_false_iff_not,
    beq_eq_false_iff_ne]
  omega

theorem dot_not_mem_of_forall {p : Char → Bool} {s : List Char} (hdot : p '.' = false)
    (h : ∀ c ∈ s, p c = true) : '.' ∉ s := by
  intro hin
  rw [h '.' hin] at hdot
  cases hdot

namespace Declaration

variable (d : Declaration)

def tail : List Char := d.blanks ++ (d.name ++ [d.stop])

def text : List Char := d.before ++ (directive ++ d.tail)

theorem dot_not_mem_tail : '.' ∉ d.tail := by
  simp only [tail, List.mem_append, List.mem_singleton, not_or]
  exact ⟨dot_not_mem_of_forall (by decide) d.blanks_blank,
    dot_not_mem_of_forall (by decide) d.isWordChar_of_mem_name, d.stop_ne_dot.symm⟩

theorem declared_tail_append (rest : List Char) : declared (d.tail ++ rest) = [d.name] := by
  obtain ⟨b, blanks, hblanks⟩ := List.exists_cons_of_ne_nil d.blanks_ne_nil
  obtain ⟨c, name, hname⟩ := List.exists_cons_of_ne_nil d.name_ne_nil
  have hblank := List.forall_mem_cons.mp (hblanks ▸ d.blanks_blank)
  have hword : isWordChar c = true := d.isWordChar_of_mem_name c (hname ▸ List.mem_cons_self)
  have htrim : trimStart (blanks ++ (d.name ++ d.stop :: rest)) = d.name ++ d.stop :: rest := by
    refine (takeWhile_append_of_stops hblank.2 ?_).2
    rw [hname]
    exact stops_cons (not_isBlank_of_isWordChar hword) _
  have htake : (d.name ++ d.stop :: rest).takeWhile isNameChar = d.name := by
    refine (takeWhile_append_of_stops ?_ (stops_cons ?_ rest)).1
    · intro c hc
      rw [isNameChar_eq, d.isWordChar_of_mem_name c hc, Bool.true_or]
    · rw [isNameChar_eq, d.isWordChar_stop, Bool.false_or, beq_eq_false_iff_ne]
      exact d.stop_ne_dot
  have hname? : name? (d.tail ++ rest) = some d.name := by
    rw [tail, hblanks, List.append_assoc, List.append_assoc, List.cons_append, name?,
      if_pos hblank.1, List.singleton_append, htrim, htake]
  rw [declared, hname?, hname]

theorem entries_text_append (rest : List Char) :
    entries (d.text ++ rest) = d.name :: entries rest := by
  have hbeyond : beyond? (d.text ++ rest) = some (d.tail ++ rest) := by
    rw [text, List.append_assoc, List.append_assoc]
    exact beyond?_append d.before_bare _
  calc entries (d.text ++ rest)
      = declared (d.tail ++ rest) ++ entries (d.tail ++ rest) := entries_of_beyond? hbeyond
    _ = [d.name] ++ entries rest := by
      rw [d.declared_tail_append, entries_append_of_dot_not_mem d.dot_not_mem_tail]

end Declaration

/-- A listing is read as the names of its declarations. On every text the search ends with what the
text is read as, after so few rounds that a directive for each of them fits into the text. -/
theorem entries_flatMap_and_ends :
    (∀ (ds : List Declaration) (rest : List Char), Bare rest →
      entries (ds.flatMap Declaration.text ++ rest) = ds.map Declaration.name) ∧
    ∀ s, ∃ n last, Search.Ends n ⟨s, []⟩ last ∧ last.found = entries s ∧
      n * directive.length ≤ s.length := by
  constructor
  · intro ds rest hrest
    induction ds with
    | nil => exact entries_of_bare hrest
    | cons d ds ih =>
        rw [List.flatMap_cons, List.append_assoc, d.entries_text_append, ih, List.map_cons]
  · intro s
    obtain ⟨n, last, hends⟩ := Search.exists_ends ⟨s, []⟩
    exact ⟨n, last, hends, hends.spec⟩

def seamed : List Declaration :=
  [⟨".ent".toList, ['\u2003', '\n'], "entry".toList, '(', by decide, by decide,
      List.all_eq_true.mp rfl, by decide, List.all_eq_true.mp rfl, rfl, by decide⟩,
    ⟨"entry .entr".toList, [' '], "a$_1".toList, ';', by decide, by decide,
      List.all_eq_true.mp rfl, by decide, List.all_eq_true.mp rfl, rfl, by decide⟩]

theorem entries_flatMap_and_ends_seamed :
    Bare "entry.entr".toList ∧
      entries ".ent.entry\u2003\nentry(entry .entr.entry a$_1;entry.entr".toList =
        ["entry".toList, "a$_1".toList] :=
  ⟨by decide, entries_flatMap_and_ends.1 seamed "entry.entr".toList (by decide)⟩

end NumaFabric.Listing
