import Mathlib.Data.List.Forall2
import Mathlib.Data.List.Infix
import Mathlib.Data.List.Sort
import NumaFabric.Numa.CpuList
import NumaFabric.Proofs.Text.Numerals
/-!
What CPU lists say. Main statements: a list is read exactly if each of its parts is a number or a
range, up to the length that a list of numbers can have; what is read increases and holds the numbers
of the parts and no others; and a list that is written as numbers and ranges is read again.
-/

namespace NumaFabric.CpuList

open NumaFabric.Text

/-- A number, or two numbers around a dash; with the first and the last of the numbers it stands for. -/
inductive IsPart : List Char → Nat × Nat → Prop
  | single {s : List Char} {n : Nat} (h : IsNumber UInt64.size s n) : IsPart s (n, n)
  | range {a b : List Char} {first last : Nat} (ha : IsNumber UInt64.size a first)
      (hb : IsNumber UInt64.size b last) (hle : first ≤ last) : IsPart (a ++ '-' :: b) (first, last)

/-- A text that is no part, and what of it is named in the error. -/
inductive Blames : List Char → List Char → Prop
  | single {s : List Char} (hdash : '-' ∉ s) (h : ∀ n, ¬ IsNumber UInt64.size s n) : Blames s s
  | first {a b : List Char} (hdash : '-' ∉ a) (h : ∀ n, ¬ IsNumber UInt64.size a n) :
      Blames (a ++ '-' :: b) a
  | last {a b : List Char} {first : Nat} (ha : IsNumber UInt64.size a first)
      (h : ∀ n, ¬ IsNumber UInt64.size b n) : Blames (a ++ '-' :: b) b
  | reversed {a b : List Char} {first last : Nat} (ha : IsNumber UInt64.size a first)
      (hb : IsNumber UInt64.size b last) (hlt : last < first) :
      Blames (a ++ '-' :: b) (a ++ '-' :: b)

/-! One part. -/

section

variable {s : List Char} {e : String} {n : Nat} {r : Nat × Nat}

theorem number_eq_ok_iff : number s = .ok n ↔ IsNumber UInt64.size s n := by
  rw [← unsigned?_trim_eq_some_iff, number]
  cases unsigned? UInt64.size (trim s) with
  | none => simp
  | some m => simp

theorem number_eq_error_iff :
    number s = .error e ↔ (∀ n, ¬ IsNumber UInt64.size s n) ∧ e = String.ofList s := by
  simp only [← number_eq_ok_iff, number]
  cases unsigned? UInt64.size (trim s) with
  | none => simp [eq_comm]
  | some m => simp

theorem dash_not_mem (h : IsNumber UInt64.size s n) : '-' ∉ s :=
  h.not_mem (by decide) (by decide) (by decide)

theorem bounds_of_not_mem (h : '-' ∉ s) : bounds s = (number s).map fun n => (n, n) := by
  simp only [bounds, splitOnce_eq_none_iff.mpr h]
  rfl

theorem bounds_append {a : List Char} (h : '-' ∉ a) (b : List Char) :
    bounds (a ++ '-' :: b) =
      (number a).bind fun first => (number b).bind fun last =>
        if last < first then .error (String.ofList (a ++ '-' :: b)) else .ok (first, last) := by
  simp only [bounds, splitOnce_append h, bind, gt_iff_lt]
  rfl

theorem bounds_of_isPart (h : IsPart s r) : bounds s = .ok r := by
  cases h with
  | single h =>
      rw [bounds_of_not_mem (dash_not_mem h), number_eq_ok_iff.mpr h]
      rfl
  | range ha hb hle =>
      rw [bounds_append (dash_not_mem ha), number_eq_ok_iff.mpr ha, number_eq_ok_iff.mpr hb]
      exact if_neg (Nat.not_lt.mpr hle)

theorem bounds_of_blames {t : List Char} (h : Blames s t) : bounds s = .error (String.ofList t) := by
  cases h with
  | single hdash h =>
      rw [bounds_of_not_mem hdash, number_eq_error_iff.mpr ⟨h, rfl⟩]
      rfl
  | first hdash h =>
      rw [bounds_append hdash, number_eq_error_iff.mpr ⟨h, rfl⟩]
      rfl
  | last ha h =>
      rw [bounds_append (dash_not_mem ha), number_eq_ok_iff.mpr ha,
        number_eq_error_iff.mpr ⟨h, rfl⟩]
      rfl
  | reversed ha hb hlt =>
      rw [bounds_append (dash_not_mem ha), number_eq_ok_iff.mpr ha, number_eq_ok_iff.mpr hb]
      exact if_pos hlt

theorem blames_of_forall_not_digit (hdash : '-' ∉ s) (hdigit : ∀ c ∈ s, c.isDigit = false) :
    Blames s s := by
  apply Blames.single hdash
  intro n hn
  obtain ⟨c, hc, hd⟩ := hn.exists_isDigit
  rw [hdigit c hc] at hd
  cases hd

theorem isPart_or_blames (s : List Char) : (∃ r, IsPart s r) ∨ ∃ t, Blames s t := by
  by_cases hdash : '-' ∈ s
  · obtain ⟨a, b, rfl, hfirst⟩ := List.eq_append_cons_of_mem hdash
    rcases exists_or_forall_not (IsNumber UInt64.size a) with ⟨first, ha⟩ | ha
    · rcases exists_or_forall_not (IsNumber UInt64.size b) with ⟨last, hb⟩ | hb
      · rcases Nat.lt_or_ge last first with hlt | hle
        · exact .inr ⟨_, .reversed ha hb hlt⟩
        · exact .inl ⟨_, .range ha hb hle⟩
      · exact .inr ⟨_, .last ha hb⟩
    · exact .inr ⟨_, .first hfirst ha⟩
  · rcases exists_or_forall_not (IsNumber UInt64.size s) with ⟨n, hs⟩ | hs
    · exact .inl ⟨_, .single hs⟩
    · exact .inr ⟨_, .single hdash hs⟩

theorem IsPart.unique {r' : Nat × Nat} (h : IsPart s r) (h' : IsPart s r') : r = r' :=
  Except.ok.inj ((bounds_of_isPart h).symm.trans (bounds_of_isPart h'))

theorem Blames.not_isPart {t : List Char} (h : Blames s t) : ¬ IsPart s r := by
  intro hpart
  have hbounds := bounds_of_blames h
  rw [bounds_of_isPart hpart] at hbounds
  cases hbounds

end

/-! All parts. -/

def width : List (Nat × Nat) → Nat
  | [] => 0
  | r :: spans => (r.2 + 1 - r.1) + width spans

theorem width_cons (r : Nat × Nat) (spans : List (Nat × Nat)) :
    width (r :: spans) = (r.2 + 1 - r.1) + width spans := rfl

section

variable {length : Nat} {ps before : List (List Char)} {p : List Char} {r : Nat × Nat}
  {spans spans' : List (Nat × Nat)}

theorem writeOut_of_blames {t : List Char} (h : Blames p t) :
    writeOut length (p :: ps) = .error (.invalid (String.ofList t)) := by
  rw [writeOut, bounds_of_blames h]

theorem writeOut_of_lt (h : IsPart p r) (hlt : maxLength < length + (r.2 + 1 - r.1)) :
    writeOut length (p :: ps) = .error .tooLong := by
  rw [writeOut, bounds_of_isPart h]
  exact if_pos hlt

theorem writeOut_of_le (h : IsPart p r) (hle : length + (r.2 + 1 - r.1) ≤ maxLength) :
    writeOut length (p :: ps) =
      (writeOut (length + (r.2 + 1 - r.1)) ps).map (span r.1 r.2 ++ ·) := by
  rw [writeOut, bounds_of_isPart h]
  exact if_neg (Nat.not_lt.mpr hle)

/-- All that can come of writing parts out after `length` numbers. -/
inductive WrittenOut (length : Nat) (ps : List (List Char)) : Except Failure (List Nat) → Prop
  | ok {spans : List (Nat × Nat)} (hparts : List.Forall₂ IsPart ps spans)
      (hwidth : length + width spans ≤ maxLength) :
      WrittenOut length ps (.ok (spans.flatMap fun r => span r.1 r.2))
  | invalid {before after : List (List Char)} {p t : List Char} {spans : List (Nat × Nat)}
      (hps : ps = before ++ p :: after) (hparts : List.Forall₂ IsPart before spans)
      (hwidth : length + width spans ≤ maxLength) (hblames : Blames p t) :
      WrittenOut length ps (.error (.invalid (String.ofList t)))
  | tooLong {before : List (List Char)} {spans : List (Nat × Nat)} (hbefore : before <+: ps)
      (hparts : List.Forall₂ IsPart before spans) (hwidth : maxLength < length + width spans) :
      WrittenOut length ps (.error .tooLong)

theorem writtenOut_writeOut (hlength : length ≤ maxLength) :
    WrittenOut length ps (writeOut length ps) := by
  induction ps generalizing length with
  | nil => exact .ok .nil hlength
  | cons p ps ih =>
      rcases isPart_or_blames p with ⟨r, hpart⟩ | ⟨t, hblames⟩
      · rcases Nat.lt_or_ge maxLength (length + (r.2 + 1 - r.1)) with hlt | hle
        · rw [writeOut_of_lt hpart hlt]
          exact .tooLong ⟨ps, rfl⟩ (.cons hpart .nil) hlt
        · rw [writeOut_of_le hpart hle]
          -- the rest is written out after the numbers of this part, which its width counts in
          have hrest := ih hle
          generalize writeOut (length + (r.2 + 1 - r.1)) ps = answer at hrest ⊢
          cases hrest with
          | @ok spans hparts hwidth =>
              rw [Nat.add_assoc, ← width_cons] at hwidth
              exact .ok (.cons hpart hparts) hwidth
          | @invalid before after p' t spans hps hparts hwidth hblames =>
              rw [Nat.add_assoc, ← width_cons] at hwidth
              exact .invalid (congrArg (p :: ·) hps) (.cons hpart hparts) hwidth hblames
          | @tooLong before spans hbefore hparts hwidth =>
              rw [Nat.add_assoc, ← width_cons] at hwidth
              exact .tooLong (List.cons_prefix_cons.mpr ⟨rfl, hbefore⟩) (.cons hpart hparts) hwidth
      · rw [writeOut_of_blames hblames]
        exact .invalid (List.nil_append _).symm .nil hlength hblames

theorem width_le_width (hbefore : before <+: ps) (hparts : List.Forall₂ IsPart before spans)
    (hparts' : List.Forall₂ IsPart ps spans') : width spans ≤ width spans' := by
  induction hparts generalizing ps spans' with
  | nil => exact Nat.zero_le _
  | cons hpart _ ih =>
      cases hparts' with
      | nil => exact absurd (List.prefix_nil.mp hbefore) (List.cons_ne_nil _ _)
      | cons hpart' hrest =>
          obtain ⟨rfl, hrests⟩ := List.cons_prefix_cons.mp hbefore
          obtain rfl := hpart.unique hpart'
          rw [width_cons, width_cons]
          exact Nat.add_le_add_left (ih hrests hrest) _

theorem exists_spans_iff :
    (∃ spans, List.Forall₂ IsPart ps spans) ↔ ∀ p ∈ ps, ∃ r, IsPart p r := by
  induction ps with
  | nil => simp
  | cons p ps ih =>
      simp only [List.forall_mem_cons, ← ih, List.forall₂_cons_left_iff]
      constructor
      · rintro ⟨_, r, spans, hpart, hparts, rfl⟩
        exact ⟨⟨r, hpart⟩, spans, hparts⟩
      · rintro ⟨⟨r, hpart⟩, spans, hparts⟩
        exact ⟨r :: spans, r, spans, hpart, hparts, rfl⟩

theorem exists_mem_spans_iff (hparts : List.Forall₂ IsPart ps spans) (P : Nat × Nat → Prop) :
    (∃ r ∈ spans, P r) ↔ ∃ p ∈ ps, ∃ r, IsPart p r ∧ P r := by
  induction hparts with
  | nil => simp
  | cons hpart _ ih =>
      rw [List.exists_mem_cons_iff, List.exists_mem_cons_iff, ih]
      refine or_congr_left ⟨fun h => ⟨_, hpart, h⟩, ?_⟩
      rintro ⟨r, hpart', h⟩
      exact hpart.unique hpart' ▸ h

end

theorem mem_span_iff {first last x : Nat} : x ∈ span first last ↔ first ≤ x ∧ x ≤ last := by
  simp only [span, List.mem_map, List.mem_range]
  constructor
  · rintro ⟨k, hk, rfl⟩
    omega
  · rintro ⟨hfirst, hlast⟩
    exact ⟨x - first, by omega, by omega⟩

theorem mem_dropRepeats {l : List Nat} {x : Nat} : x ∈ dropRepeats l ↔ x ∈ l := by
  fun_induction dropRepeats l with
  | case1 a rest ih => simp [ih]
  | case2 a b rest _ ih => simp [ih]
  | case3 l _ => rfl

theorem pairwise_dropRepeats {l : List Nat} (h : l.Pairwise (· ≤ ·)) :
    (dropRepeats l).Pairwise (· < ·) := by
  fun_induction dropRepeats l with
  | case1 a rest ih => exact ih h.of_cons
  | case2 a b rest hne ih =>
      obtain ⟨ha, hrest⟩ := List.pairwise_cons.mp h
      refine List.pairwise_cons.mpr ⟨?_, ih hrest⟩
      intro x hx
      have hab : a < b := Nat.lt_of_le_of_ne (ha b List.mem_cons_self) hne
      rcases List.mem_cons.mp (mem_dropRepeats.mp hx) with rfl | hx
      · exact hab
      · exact Nat.lt_of_lt_of_le hab ((List.pairwise_cons.mp hrest).1 x hx)
  | case3 l hshort =>
      match l with
      | [] => exact .nil
      | [a] => exact List.pairwise_singleton _ a
      | a :: b :: rest => exact absurd rfl (hshort a b rest)

/-! Whole lists. -/

def entries (s : List Char) : List (List Char) :=
  (s.splitOn ',').filter fun p => p.any fun c => !isBlank c

theorem parts_eq_entries (s : List Char) : parts s = entries s := by
  rw [parts, entries, splitAll_eq_splitOn]
  congr 1
  funext p
  rw [Bool.eq_iff_iff]
  simp [trim_eq_nil_iff, Blank]

/-- No parts from the first on, up to one that is no part, stand for too many numbers. -/
def Fits (s : List Char) : Prop :=
  ∀ before spans, before <+: entries s → List.Forall₂ IsPart before spans → width spans ≤ maxLength

section

variable {s : List Char} {l : List Nat}

theorem writtenOut_entries (s : List Char) : WrittenOut 0 (entries s) (writeOut 0 (entries s)) :=
  writtenOut_writeOut (Nat.zero_le _)

theorem parse_eq_error_iff {failure : Failure} :
    parse s = .error failure ↔ writeOut 0 (entries s) = .error failure := by
  rw [parse, parts_eq_entries]
  cases writeOut 0 (entries s) with
  | error failure' => simp [Except.map]
  | ok numbers => simp [Except.map]

theorem exists_spans_of_parse (h : parse s = .ok l) :
    ∃ spans, List.Forall₂ IsPart (entries s) spans ∧ width spans ≤ maxLength ∧
      l.Pairwise (· < ·) ∧ ∀ x, x ∈ l ↔ ∃ r ∈ spans, r.1 ≤ x ∧ x ≤ r.2 := by
  have hwritten := writtenOut_entries s
  rw [parse, parts_eq_entries] at h
  cases hanswer : writeOut 0 (entries s) with
  | error failure =>
      rw [hanswer] at h
      cases h
  | ok numbers =>
      rw [hanswer] at h hwritten
      cases h
      cases hwritten with
      | @ok spans hparts hwidth =>
          rw [Nat.zero_add] at hwidth
          refine ⟨spans, hparts, hwidth,
            pairwise_dropRepeats (List.pairwise_mergeSort' (· ≤ ·) _), ?_⟩
          intro x
          simp only [mem_dropRepeats, List.mem_mergeSort, List.mem_flatMap, mem_span_iff]

theorem fits_of_forall₂ {spans : List (Nat × Nat)} (hparts : List.Forall₂ IsPart (entries s) spans)
    (hwidth : width spans ≤ maxLength) : Fits s := by
  intro before spans' hbefore hparts'
  exact (width_le_width hbefore hparts' hparts).trans hwidth

theorem fits_of_blames {before after : List (List Char)} {p t : List Char}
    {spans : List (Nat × Nat)} (hentries : entries s = before ++ p :: after)
    (hparts : List.Forall₂ IsPart before spans) (hwidth : width spans ≤ maxLength)
    (hblames : Blames p t) : Fits s := by
  intro before' spans' hbefore' hparts'
  have hbad : p ∉ before' := fun hp =>
    have ⟨_, hpart⟩ := exists_spans_iff.mp ⟨spans', hparts'⟩ p hp
    hblames.not_isPart hpart
  -- parts from the first on end before `p`, or `p` would be one of them
  have hprefix : before ++ [p] <+: entries s := ⟨after, by simp [hentries]⟩
  rcases List.prefix_or_prefix_of_prefix hbefore' hprefix with hshorter | hlonger
  · rcases List.prefix_concat_iff.mp hshorter with rfl | hshorter
    · exact absurd (List.mem_append_right _ List.mem_cons_self) hbad
    · exact (width_le_width hshorter hparts' hparts).trans hwidth
  · exact absurd (hlonger.subset (List.mem_append_right _ List.mem_cons_self)) hbad

theorem exists_blames_of_parse {entry : String} (h : parse s = .error (.invalid entry)) :
    ∃ before p after t, entries s = before ++ p :: after ∧
      (∀ q ∈ before, ∃ r, IsPart q r) ∧ Blames p t ∧ entry = String.ofList t := by
  have hwritten := writtenOut_entries s
  rw [parse_eq_error_iff.mp h] at hwritten
  cases hwritten with
  | @invalid before after p t spans hentries hparts _ hblames =>
      exact ⟨before, p, after, t, hentries, exists_spans_iff.mp ⟨spans, hparts⟩, hblames, rfl⟩

theorem parse_eq_tooLong_iff : parse s = .error .tooLong ↔ ¬ Fits s := by
  have hwritten := writtenOut_entries s
  rw [parse_eq_error_iff]
  generalize writeOut 0 (entries s) = answer at hwritten
  cases hwritten with
  | ok hparts hwidth =>
      rw [Nat.zero_add] at hwidth
      exact iff_of_false nofun (not_not_intro (fits_of_forall₂ hparts hwidth))
  | invalid hentries hparts hwidth hblames =>
      rw [Nat.zero_add] at hwidth
      exact iff_of_false nofun (not_not_intro (fits_of_blames hentries hparts hwidth hblames))
  | @tooLong before spans hbefore hparts hwidth =>
      rw [Nat.zero_add] at hwidth
      exact iff_of_true rfl fun hfits =>
        Nat.not_lt.mpr (hfits before spans hbefore hparts) hwidth

theorem exists_parse_eq_ok_iff (hfits : Fits s) :
    (∃ l, parse s = .ok l) ↔ ∀ p ∈ entries s, ∃ r, IsPart p r := by
  constructor
  · rintro ⟨l, hl⟩
    obtain ⟨spans, hparts, -⟩ := exists_spans_of_parse hl
    exact exists_spans_iff.mp ⟨spans, hparts⟩
  · intro hall
    cases hanswer : parse s with
    | ok l => exact ⟨l, rfl⟩
    | error failure =>
        cases failure with
        | tooLong => exact absurd hfits (parse_eq_tooLong_iff.mp hanswer)
        | invalid entry =>
            obtain ⟨before, p, after, t, hentries, -, hblames, -⟩ := exists_blames_of_parse hanswer
            obtain ⟨r, hpart⟩ := hall p (by simp [hentries])
            exact absurd hpart hblames.not_isPart

theorem parse_of_forall₂ {spans : List (Nat × Nat)}
    (hparts : List.Forall₂ IsPart (entries s) spans) (hwidth : width spans ≤ maxLength)
    (hincreases : l.Pairwise (· < ·)) (hmem : ∀ x, x ∈ l ↔ ∃ r ∈ spans, r.1 ≤ x ∧ x ≤ r.2) :
    parse s = .ok l := by
  obtain ⟨l', hl'⟩ := (exists_parse_eq_ok_iff (fits_of_forall₂ hparts hwidth)).mpr
    (exists_spans_iff.mp ⟨spans, hparts⟩)
  obtain ⟨spans', hparts', -, hincreases', hmem'⟩ := exists_spans_of_parse hl'
  rw [hl', hincreases.eq_of_mem_iff hincreases']
  intro x
  rw [hmem, hmem', exists_mem_spans_iff hparts, exists_mem_spans_iff hparts']

end

/-! Lists that are written. -/

inductive Item where
  | single (n : Nat)
  | range (first last : Nat)

namespace Item

def span : Item → Nat × Nat
  | single n => (n, n)
  | range first last => (first, last)

def text : Item → List Char
  | single n => decimal n
  | range first last => decimal first ++ '-' :: decimal last

def Valid (i : Item) : Prop := i.span.1 ≤ i.span.2 ∧ i.span.2 < UInt64.size

instance (i : Item) : Decidable i.Valid := inferInstanceAs (Decidable (_ ∧ _))

theorem isPart_text {i : Item} (h : i.Valid) : IsPart i.text i.span := by
  obtain ⟨hle, hlt⟩ := h
  cases i with
  | single n => exact .single (isNumber_decimal hlt)
  | range first last =>
      exact .range (isNumber_decimal (Nat.lt_of_le_of_lt hle hlt)) (isNumber_decimal hlt) hle

end Item

def render (items : List Item) : List Char := [','].intercalate (items.map Item.text)

theorem IsPart.comma_not_mem {p : List Char} {r : Nat × Nat} (h : IsPart p r) : ',' ∉ p := by
  cases h with
  | single h => exact h.not_mem (by decide) (by decide) (by decide)
  | range ha hb _ =>
      rw [List.mem_append, List.mem_cons, not_or, not_or]
      exact ⟨ha.not_mem (by decide) (by decide) (by decide), by decide,
        hb.not_mem (by decide) (by decide) (by decide)⟩

theorem IsPart.not_blank {p : List Char} {r : Nat × Nat} (h : IsPart p r) : ¬ Blank p := by
  intro hblank
  cases h with
  | single h => exact h.not_blank hblank
  | range _ _ _ => exact absurd (hblank '-' (by simp)) (by decide)

theorem entries_intercalate {ps : List (List Char)} (h : ∀ p ∈ ps, ∃ r, IsPart p r) :
    entries ([','].intercalate ps) = ps := by
  by_cases hne : ps = []
  · subst hne
    rfl
  · rw [entries, List.splitOn_intercalate ',' _ hne]
    · apply List.filter_eq_self.mpr
      intro p hp
      obtain ⟨r, hpart⟩ := h p hp
      have hblank := hpart.not_blank
      simp only [Blank, not_forall] at hblank
      obtain ⟨c, hc, hsolid⟩ := hblank
      exact List.any_eq_true.mpr ⟨c, hc, by simp [hsolid]⟩
    · intro p hp
      obtain ⟨r, hpart⟩ := h p hp
      exact hpart.comma_not_mem

/-- What reading a list comes to. -/
structure Understood (s : List Char) : Prop where
  accepts_iff : Fits s → ((∃ l, parse s = .ok l) ↔ ∀ p ∈ entries s, ∃ r, IsPart p r)
  refuses : Fits s → (∃ p ∈ entries s, ∀ r, ¬ IsPart p r) →
    ∃ entry, parse s = .error (.invalid entry)
  tooLong_iff : parse s = .error .tooLong ↔ ¬ Fits s
  lists : ∀ l, parse s = .ok l → l.Pairwise (· < ·) ∧
    ∀ x, x ∈ l ↔ ∃ p ∈ entries s, ∃ r, IsPart p r ∧ r.1 ≤ x ∧ x ≤ r.2
  blames : ∀ entry, parse s = .error (.invalid entry) →
    ∃ before p after t, entries s = before ++ p :: after ∧
      (∀ q ∈ before, ∃ r, IsPart q r) ∧ Blames p t ∧ entry = String.ofList t

theorem understood_and_read_again :
    (∀ s, Understood s) ∧
    ∀ (items : List Item) (l : List Nat), (∀ i ∈ items, i.Valid) →
      width (items.map Item.span) ≤ maxLength → l.Pairwise (· < ·) →
      (∀ x, x ∈ l ↔ ∃ i ∈ items, i.span.1 ≤ x ∧ x ≤ i.span.2) → parse (render items) = .ok l := by
  constructor
  · intro s
    constructor
    · exact exists_parse_eq_ok_iff
    · rintro hfits ⟨p, hp, hnone⟩
      cases hanswer : parse s with
      | ok l =>
          obtain ⟨r, hpart⟩ := (exists_parse_eq_ok_iff hfits).mp ⟨l, hanswer⟩ p hp
          exact absurd hpart (hnone r)
      | error failure =>
          cases failure with
          | tooLong => exact absurd hfits (parse_eq_tooLong_iff.mp hanswer)
          | invalid entry => exact ⟨entry, rfl⟩
    · exact parse_eq_tooLong_iff
    · intro l hl
      obtain ⟨spans, hparts, -, hincreases, hmem⟩ := exists_spans_of_parse hl
      refine ⟨hincreases, ?_⟩
      intro x
      rw [hmem, exists_mem_spans_iff hparts]
    · intro entry hentry
      exact exists_blames_of_parse hentry
  · intro items l hvalid hwidth hincreases hmem
    have hparts : List.Forall₂ IsPart (entries (render items)) (items.map Item.span) := by
      rw [render, entries_intercalate]
      · rw [List.forall₂_map_left_iff, List.forall₂_map_right_iff, List.forall₂_same]
        exact fun i hi => Item.isPart_text (hvalid i hi)
      · intro p hp
        obtain ⟨i, hi, rfl⟩ := List.mem_map.mp hp
        exact ⟨i.span, Item.isPart_text (hvalid i hi)⟩
    apply parse_of_forall₂ hparts hwidth hincreases
    intro x
    simp only [hmem, List.mem_map, exists_exists_and_eq_and]

theorem understood_and_read_again_overlapping :
    parse (render [.range 2 4, .single 8, .single 3, .range 3 5, .single 8]) =
        .ok [2, 3, 4, 5, 8] ∧
      Fits " 2-+4 ,,x".toList ∧ ∃ entry, parse " 2-+4 ,,x".toList = .error (.invalid entry) := by
  have hentries : entries " 2-+4 ,,x".toList = [" 2-+4 ".toList] ++ [['x']] := rfl
  have hparts : List.Forall₂ IsPart [" 2-+4 ".toList] [(2, 4)] :=
    .cons (.range (a := [' ', '2']) (b := ['+', '4', ' ']) (unsigned?_trim_eq_some_iff.mp rfl)
      (unsigned?_trim_eq_some_iff.mp rfl) (by decide)) .nil
  have hblames : Blames ['x'] ['x'] := blames_of_forall_not_digit (by decide) (by simp)
  have hfits : Fits " 2-+4 ,,x".toList :=
    fits_of_blames hentries hparts (by decide) hblames
  refine ⟨understood_and_read_again.2 _ _ (by decide) (by decide) (by decide) ?_, hfits, ?_⟩
  · intro x
    simp [Item.span]
    omega
  · refine (understood_and_read_again.1 _).refuses hfits ⟨['x'], ?_, ?_⟩
    · rw [hentries]
      exact List.mem_append_right _ List.mem_cons_self
    · exact fun _ => hblames.not_isPart

def NumbersFit (s : List Char) : Prop := ∀ ds n, ds <:+: s → Writes ds n → n < UInt64.size

theorem numbersFit_of_all {s : List Char}
    (h : (s.tails.flatMap List.inits).all (fun ds => (digits? 10 ds).all (· < UInt64.size)) = true) :
    NumbersFit s := by
  intro ds n hinfix hwrites
  obtain ⟨t, hprefix, hsuffix⟩ := List.infix_iff_prefix_suffix.mp hinfix
  have hin : ds ∈ s.tails.flatMap List.inits :=
    List.mem_flatMap.mpr ⟨t, (List.mem_tails _ _).mpr hsuffix, (List.mem_inits _ _).mpr hprefix⟩
  have hlt := List.all_eq_true.mp h ds hin
  rw [digits?_eq_some_iff.mpr hwrites] at hlt
  simpa using hlt

/-- A part may stand for more numbers than a list can have, and then those after it are not read. -/
theorem not_forall_accepted_or_refused :
    ¬ ∀ s, NumbersFit s →
      ((∃ l, parse s = .ok l) ↔ ∀ p ∈ entries s, ∃ r, IsPart p r) ∧
      ((∃ p ∈ entries s, ∀ r, ¬ IsPart p r) → ∃ entry, parse s = .error (.invalid entry)) := by
  intro hall
  have hanswer : parse "0-18446744073709551615,x".toList = .error .tooLong := rfl
  have hblames : Blames ['x'] ['x'] := blames_of_forall_not_digit (by decide) (by simp)
  have hnumbers : NumbersFit "0-18446744073709551615,x".toList :=
    numbersFit_of_all (by decide +kernel)
  obtain ⟨entry, hentry⟩ := (hall "0-18446744073709551615,x".toList hnumbers).2
    ⟨['x'], by decide, fun _ => hblames.not_isPart⟩
  rw [hanswer] at hentry
  cases hentry

end NumaFabric.CpuList
