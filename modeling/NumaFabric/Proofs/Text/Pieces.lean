import Mathlib.Data.List.DropRight
import NumaFabric.Proofs.Text.Digits
import NumaFabric.Text.Blank
import NumaFabric.Text.Split

namespace NumaFabric.Text

theorem splitAll_eq_splitOn (sep : Char) (s : List Char) : splitAll sep s = s.splitOn sep := by
  induction s with
  | nil => rfl
  | cons c s ih =>
      rw [splitAll, List.splitOn_cons_eq_if_modifyHead, ← ih]
      by_cases hc : c = sep
      · simp [hc]
      · rw [if_neg hc, if_neg (by simpa using hc)]
        cases hpieces : splitAll sep s with
        | nil => exact absurd hpieces (splitAll_ne_nil sep s)
        | cons piece pieces => rfl

section

variable {sep : Char} {s a b : List Char}

theorem splitOnce_append (h : sep ∉ a) : splitOnce sep (a ++ sep :: b) = some (a, b) := by
  induction a with
  | nil => simp [splitOnce]
  | cons c a ih =>
      rw [List.mem_cons, not_or] at h
      rw [List.cons_append, splitOnce, if_neg (Ne.symm h.1), ih h.2]
      rfl

theorem splitOnce_eq_none_iff : splitOnce sep s = none ↔ sep ∉ s := by
  constructor
  · intro hnone hin
    obtain ⟨a, b, rfl, hfirst⟩ := List.eq_append_cons_of_mem hin
    rw [splitOnce_append hfirst] at hnone
    cases hnone
  · intro hnot
    cases hsplit : splitOnce sep s with
    | none => rfl
    | some p =>
        obtain ⟨hs, -⟩ := eq_append_of_splitOnce (a := p.1) (b := p.2) hsplit
        rw [hs] at hnot
        simp at hnot

end

/-! Blanks at the ends. -/

def Blank (s : List Char) : Prop := ∀ c ∈ s, isBlank c = true

theorem blank_nil : Blank [] := nofun

theorem exists_eq_append_trim (s : List Char) :
    ∃ before after, Blank before ∧ Blank after ∧ s = before ++ trim s ++ after := by
  refine ⟨s.takeWhile isBlank, (trimStart s).rtakeWhile isBlank, ?_, ?_, ?_⟩
  · intro c hc
    exact List.mem_takeWhile_imp hc
  · intro c hc
    exact List.mem_rtakeWhile_imp hc
  · calc s = s.takeWhile isBlank ++ trimStart s := List.takeWhile_append_dropWhile.symm
      _ = s.takeWhile isBlank ++ (trim s ++ (trimStart s).rtakeWhile isBlank) :=
        congrArg _ List.rdropWhile_append_rtakeWhile.symm
      _ = _ := (List.append_assoc ..).symm

theorem trim_append {before s after : List Char} (hbefore : Blank before) (hafter : Blank after)
    (hne : s ≠ []) (hs : ∀ c ∈ s, isBlank c = false) : trim (before ++ s ++ after) = s := by
  have hstart : Stops isBlank (s ++ after) := by
    intro c hc
    rw [List.head?_append_of_ne_nil _ hne] at hc
    exact hs c (List.mem_of_head? hc)
  have hend : Stops isBlank s.reverse := fun c hc =>
    hs c (List.mem_reverse.mp (List.mem_of_head? hc))
  have hback : Blank after.reverse := fun c hc => hafter c (List.mem_reverse.mp hc)
  rw [trim, trimStart, List.append_assoc, List.dropWhile_append_of_pos hbefore,
    (takeWhile_of_stops hstart).2, trimEnd, List.reverse_append,
    List.dropWhile_append_of_pos hback, (takeWhile_of_stops hend).2, List.reverse_reverse]

theorem trim_eq_nil_iff (s : List Char) : trim s = [] ↔ Blank s := by
  constructor
  · intro h
    obtain ⟨before, after, hbefore, hafter, hs⟩ := exists_eq_append_trim s
    rw [hs, h, List.append_nil]
    intro c hc
    exact (List.mem_append.mp hc).elim (hbefore c) (hafter c)
  · intro h
    rw [trim, (trimStart_eq_nil_iff s).mpr h]
    rfl

end NumaFabric.Text
