import Mathlib.Data.List.Basic
import NumaFabric.Text.Numeral

namespace NumaFabric.Text

/-- The text is over, or goes on with a character of another kind. -/
def Stops (p : Char → Bool) (s : List Char) : Prop := ∀ c ∈ s.head?, p c = false

theorem stops_nil (p : Char → Bool) : Stops p [] := nofun

theorem stops_cons {p : Char → Bool} {c : Char} (h : p c = false) (s : List Char) :
    Stops p (c :: s) := by
  rintro d hd
  cases hd
  exact h

theorem takeWhile_of_stops {p : Char → Bool} {s : List Char} (h : Stops p s) :
    s.takeWhile p = [] ∧ s.dropWhile p = s := by
  cases s with
  | nil => exact ⟨rfl, rfl⟩
  | cons c s =>
      have hc : p c = false := h c rfl
      simp [hc]

theorem takeWhile_append_of_stops {p : Char → Bool} {s rest : List Char} (hs : ∀ c ∈ s, p c = true)
    (hrest : Stops p rest) :
    (s ++ rest).takeWhile p = s ∧ (s ++ rest).dropWhile p = rest := by
  obtain ⟨htake, hdrop⟩ := takeWhile_of_stops hrest
  rw [List.takeWhile_append_of_pos hs, List.dropWhile_append_of_pos hs, htake, hdrop]
  exact ⟨List.append_nil s, rfl⟩

section

variable {base n : Nat}

theorem digitValue?_eq (hbase : base ≤ 16) (c : Char) :
    digitValue? base c = (digitValue? 16 c).filter (· < base) := by
  simp only [digitValue?, Option.filter_filter]
  congr 1
  funext n
  grind

theorem digitValue?_digitChar (hbase : base ≤ 16) (h : n < base) :
    digitValue? base n.digitChar = some n := by
  have hsixteen : ∀ n < 16, digitValue? 16 n.digitChar = some n := by decide
  rw [digitValue?_eq hbase, hsixteen n (Nat.lt_of_lt_of_le h hbase)]
  simp [h]

theorem accumulate?_append (base acc : Nat) (s t : List Char) :
    accumulate? base acc (s ++ t) =
      (accumulate? base acc s).bind fun n => accumulate? base n t := by
  induction s generalizing acc with
  | nil => rfl
  | cons c s ih =>
      simp only [List.cons_append, accumulate?]
      cases digitValue? base c with
      | none => rfl
      | some d => exact ih _

theorem accumulate?_toDigits (hone : 1 < base) (hbase : base ≤ 16) (n : Nat) :
    accumulate? base 0 (Nat.toDigits base n) = some n := by
  induction n using Nat.strongRecOn with
  | ind n ih =>
      rcases Nat.lt_or_ge n base with hlt | hge
      · rw [Nat.toDigits_of_lt_base hlt, accumulate?, digitValue?_digitChar hbase hlt]
        simp [accumulate?]
      · have hless : n / base < n := Nat.div_lt_self (by omega) hone
        have hdigit : n % base < base := Nat.mod_lt n (by omega)
        rw [Nat.toDigits_of_base_le hone hge, accumulate?_append, ih _ hless, Option.bind_some,
          accumulate?, digitValue?_digitChar hbase hdigit]
        exact congrArg some (Nat.div_add_mod' n base)

theorem digits?_toDigits (hone : 1 < base) (hbase : base ≤ 16) (n : Nat) :
    digits? base (Nat.toDigits base n) = some n := by
  have haccumulate := accumulate?_toDigits hone hbase n
  cases hdigits : Nat.toDigits base n with
  | nil => exact absurd hdigits Nat.toDigits_ne_nil
  | cons c s =>
      rw [hdigits] at haccumulate
      exact haccumulate

theorem isSome_digitValue?_of_mem_toDigits (hone : 1 < base) (hbase : base ≤ 16) {c : Char}
    (h : c ∈ Nat.toDigits base n) : (digitValue? base c).isSome = true := by
  induction n using Nat.strongRecOn with
  | ind n ih =>
      rcases Nat.lt_or_ge n base with hlt | hge
      · rw [Nat.toDigits_of_lt_base hlt, List.mem_singleton] at h
        rw [h, digitValue?_digitChar hbase hlt]
        rfl
      · have hless : n / base < n := Nat.div_lt_self (by omega) hone
        have hdigit : n % base < base := Nat.mod_lt n (by omega)
        rw [Nat.toDigits_of_base_le hone hge, List.mem_append, List.mem_singleton] at h
        rcases h with h | rfl
        · exact ih _ hless h
        · rw [digitValue?_digitChar hbase hdigit]
          rfl

theorem eq_zero_of_head?_toDigits (hone : 1 < base) (hbase : base ≤ 16)
    (h : (Nat.toDigits base n).head? = some '0') : n = 0 := by
  induction n using Nat.strongRecOn with
  | ind n ih =>
      rcases Nat.lt_or_ge n base with hlt | hge
      · rw [Nat.toDigits_of_lt_base hlt] at h
        have hvalue := digitValue?_digitChar hbase hlt
        rw [show n.digitChar = '0' from Option.some.inj h,
          show '0' = (0 : Nat).digitChar from rfl, digitValue?_digitChar hbase (by omega)] at hvalue
        exact (Option.some.inj hvalue).symm
      · have hless : n / base < n := Nat.div_lt_self (by omega) hone
        rw [Nat.toDigits_of_base_le hone hge, List.head?_append_of_ne_nil _ Nat.toDigits_ne_nil] at h
        have hzero := ih _ hless h
        have hpos : 0 < n / base := Nat.div_pos hge (by omega)
        omega

theorem head?_toDigits_ne (hone : 1 < base) (hbase : base ≤ 16)
    (h : 1 < (Nat.toDigits base n).length) : (Nat.toDigits base n).head? ≠ some '0' := by
  intro hzero
  obtain rfl := eq_zero_of_head?_toDigits hone hbase hzero
  rw [Nat.toDigits_zero] at h
  exact absurd h (by decide)

end

end NumaFabric.Text
