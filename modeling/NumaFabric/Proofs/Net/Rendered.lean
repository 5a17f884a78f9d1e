import Mathlib.Data.List.TakeWhile
import NumaFabric.Net.IpAddress
import NumaFabric.Proofs.Text.Digits

namespace NumaFabric

open NumaFabric.Text

namespace Ipv4

theorem byte?_decimal_append (b : UInt8) {rest : List Char} (hrest : Stops Char.isDigit rest) :
    byte? (decimal b.toNat ++ rest) = some (b, rest) := by
  have hb := b.toNat_lt
  have hdigits : ∀ c ∈ decimal b.toNat, c.isDigit = true := fun c hc =>
    Nat.isDigit_of_mem_toDigits (by decide) (by decide) hc
  have hlength : (decimal b.toNat).length ≤ 3 :=
    (Nat.length_toDigits_le_iff (by decide) (by decide)).mpr (by omega)
  have hlead : ¬ ((decimal b.toNat).head? = some '0' ∧ 1 < (decimal b.toNat).length) := fun h =>
    head?_toDigits_ne (by decide) (by decide) h.2 h.1
  obtain ⟨htake, hdrop⟩ := takeWhile_append_of_stops hdigits hrest
  unfold byte?
  rw [htake, hdrop, if_neg]
  · rw [decimal, digits?_toDigits (by decide) (by decide)]
    simp [hb]
  · simp only [Bool.or_eq_true, Bool.and_eq_true, decide_eq_true_eq, beq_iff_eq, not_or]
    exact ⟨by omega, hlead⟩

theorem dot?_cons (rest : List Char) : dot? ('.' :: rest) = some rest := rfl

theorem read?_render_append (ip : Ipv4) {rest : List Char} (hrest : Stops Char.isDigit rest) :
    read? (ip.render ++ rest) = some (ip, rest) := by
  have hdot (s : List Char) : Stops Char.isDigit ('.' :: s) := stops_cons (by decide) s
  simp only [render, List.append_assoc, List.cons_append, read?]
  rw [byte?_decimal_append ip.a (hdot _)]
  simp only [Option.bind_eq_bind, Option.bind_some, dot?_cons]
  rw [byte?_decimal_append ip.b (hdot _)]
  simp only [Option.bind_some, dot?_cons]
  rw [byte?_decimal_append ip.c (hdot _)]
  simp only [Option.bind_some, dot?_cons]
  rw [byte?_decimal_append ip.d hrest]
  rfl

theorem read?_of_not_mem {s : List Char} (h : '.' ∉ s) : read? s = none := by
  have hrest : '.' ∉ s.dropWhile Char.isDigit := fun hin =>
    h ((List.dropWhile_sublist _).subset hin)
  have hdot : dot? (s.dropWhile Char.isDigit) = none := by
    unfold dot?
    split
    · rename_i heq
      rw [heq] at hrest
      simp at hrest
    · rfl
  unfold read? byte?
  dsimp only
  split
  · rfl
  · cases digits? 10 (s.takeWhile Char.isDigit) with
    | none => rfl
    | some n =>
        dsimp only
        split
        · simp [hdot]
        · rfl

theorem read?_of_stops {s : List Char} (h : Stops Char.isDigit s) : read? s = none := by
  unfold read? byte?
  rw [(takeWhile_of_stops h).1]
  rfl

end Ipv4

namespace Ipv6

theorem isHexDigit_of_mem {g : UInt16} {c : Char} (h : c ∈ Nat.toDigits 16 g.toNat) :
    isHexDigit c = true :=
  isSome_digitValue?_of_mem_toDigits (by decide) (by decide) h

theorem group?_append (g : UInt16) {rest : List Char} (hrest : Stops isHexDigit rest) :
    group? (Nat.toDigits 16 g.toNat ++ rest) = some (g, rest) := by
  have hg := g.toNat_lt
  have hlength : (Nat.toDigits 16 g.toNat).length ≤ 4 :=
    (Nat.length_toDigits_le_iff (by decide) (by decide)).mpr (by omega)
  obtain ⟨htake, hdrop⟩ := takeWhile_append_of_stops (fun _ => isHexDigit_of_mem) hrest
  unfold group?
  rw [htake, hdrop, if_neg (Nat.not_lt.mpr hlength), digits?_toDigits (by decide) (by decide)]
  simp

theorem group?_of_stops {s : List Char} (h : Stops isHexDigit s) : group? s = none := by
  unfold group?
  rw [(takeWhile_of_stops h).1]
  rfl

def renderTail (gs : List UInt16) : List Char :=
  gs.flatMap fun g => ':' :: Nat.toDigits 16 g.toNat

theorem renderTail_cons (g : UInt16) (gs : List UInt16) :
    renderTail (g :: gs) = ':' :: (Nat.toDigits 16 g.toNat ++ renderTail gs) := rfl

theorem renderGroups_cons (g : UInt16) (gs : List UInt16) :
    renderGroups (g :: gs) = Nat.toDigits 16 g.toNat ++ renderTail gs := by
  induction gs generalizing g with
  | nil => simp [renderGroups, renderTail]
  | cons h gs ih =>
      rw [renderTail_cons, ← ih]
      simp [renderGroups]

theorem not_mem_renderGroups (gs : List UInt16) : '.' ∉ renderGroups gs := by
  have hdigits (g : UInt16) : '.' ∉ Nat.toDigits 16 g.toNat := fun h => by
    have hhex := isHexDigit_of_mem h
    exact absurd hhex (by decide)
  cases gs with
  | nil => simp [renderGroups]
  | cons g gs =>
      rw [renderGroups_cons, List.mem_append, renderTail, List.mem_flatMap]
      rintro (h | ⟨g', -, h⟩)
      · exact hdigits g h
      · rcases List.mem_cons.mp h with h | h
        · cases h
        · exact hdigits g' h

/-- No group follows: the text is over, or there are two colons. -/
def Ends (s : List Char) : Prop := s = [] ∨ ∃ rest, s = ':' :: ':' :: rest

theorem Ends.stops {s : List Char} (h : Ends s) : Stops isHexDigit s := by
  obtain rfl | ⟨rest, rfl⟩ := h
  · exact stops_nil _
  · exact stops_cons (by decide) _

theorem stops_renderTail_append (gs : List UInt16) {rest : List Char} (h : Ends rest) :
    Stops isHexDigit (renderTail gs ++ rest) := by
  cases gs with
  | nil => exact h.stops
  | cons g gs => exact stops_cons (by decide) _

/-! What is read after a colon, or at the start without one. -/

section

variable {body rest : List Char}

theorem readGroups_of_neither (hdotted : Ipv4.read? body = none) (hgroup : group? body = none)
    (slots : Nat) (first : Bool) :
    readGroups slots first ((if first then [] else [':']) ++ body) =
      ([], false, (if first then [] else [':']) ++ body) := by
  cases slots with
  | zero => rfl
  | succ slots =>
      have hnone : (if slots = 0 then none else Ipv4.read? body) = none := by
        rw [hdotted, ite_self]
      cases first <;> rw [readGroups.eq_def] <;> simp [hnone, hgroup]

theorem readGroups_of_group {g : UInt16} (hdotted : Ipv4.read? body = none)
    (hgroup : group? body = some (g, rest)) (slots : Nat) (first : Bool) :
    readGroups (slots + 1) first ((if first then [] else [':']) ++ body) =
      (g :: (readGroups slots false rest).1, (readGroups slots false rest).2) := by
  have hnone : (if slots = 0 then none else Ipv4.read? body) = none := by
    rw [hdotted, ite_self]
  cases first <;> rw [readGroups.eq_def] <;> simp [hnone, hgroup]

theorem readGroups_of_v4 {ip : Ipv4} (h : Ipv4.read? body = some (ip, rest)) (slots : Nat)
    (first : Bool) :
    readGroups (slots + 2) first ((if first then [] else [':']) ++ body) =
      ([ip.high, ip.low], true, rest) := by
  cases first <;> rw [readGroups.eq_def] <;> simp [h]

end

theorem readGroups_nil {s : List Char} (hdot : '.' ∉ s) (h : Ends s) (slots : Nat) (first : Bool) :
    readGroups slots first s = ([], false, s) := by
  cases first with
  | true =>
      exact readGroups_of_neither (Ipv4.read?_of_not_mem hdot) (group?_of_stops h.stops) slots true
  | false =>
      obtain rfl | ⟨rest, rfl⟩ := h
      · cases slots with
        | zero => rfl
        | succ slots => simp [readGroups.eq_def]
      · have hrest : '.' ∉ ':' :: rest := fun hin => hdot (List.mem_cons_of_mem _ hin)
        exact readGroups_of_neither (Ipv4.read?_of_not_mem hrest)
          (group?_of_stops (stops_cons (by decide) rest)) slots false

theorem readGroups_cons_renderTail (g : UInt16) {gs : List UInt16} {rest : List Char} {slots : Nat}
    (hdot : '.' ∉ Nat.toDigits 16 g.toNat ++ (renderTail gs ++ rest)) (h : Ends rest)
    (hread : readGroups slots false (renderTail gs ++ rest) = (gs, false, rest)) (first : Bool) :
    readGroups (slots + 1) first
        ((if first then [] else [':']) ++
          (Nat.toDigits 16 g.toNat ++ (renderTail gs ++ rest))) = (g :: gs, false, rest) := by
  have hgroup := group?_append g (stops_renderTail_append gs h)
  rw [readGroups_of_group (Ipv4.read?_of_not_mem hdot) hgroup, hread]

theorem readGroups_renderTail {gs : List UInt16} {rest : List Char}
    (hdot : '.' ∉ renderTail gs ++ rest) (h : Ends rest) {slots : Nat} (hslots : gs.length ≤ slots) :
    readGroups slots false (renderTail gs ++ rest) = (gs, false, rest) := by
  induction gs generalizing slots with
  | nil => exact readGroups_nil hdot h slots false
  | cons g gs ih =>
      obtain ⟨slots, rfl⟩ := Nat.exists_eq_add_of_le' (Nat.lt_of_lt_of_le (Nat.zero_lt_succ _) hslots)
      have hgs : gs.length ≤ slots := Nat.le_of_succ_le_succ hslots
      rw [renderTail_cons, List.cons_append, List.append_assoc] at hdot ⊢
      have hbody := fun hin => hdot (List.mem_cons_of_mem _ hin)
      have htail := fun hin => hbody (List.mem_append_right _ hin)
      exact readGroups_cons_renderTail g hbody h (ih htail hgs) false

theorem readGroups_renderGroups {gs : List UInt16} {rest : List Char} (hdot : '.' ∉ rest)
    (h : Ends rest) {slots : Nat} (hslots : gs.length ≤ slots) :
    readGroups slots true (renderGroups gs ++ rest) = (gs, false, rest) := by
  cases gs with
  | nil => exact readGroups_nil hdot h slots true
  | cons g gs =>
      obtain ⟨slots, rfl⟩ := Nat.exists_eq_add_of_le' (Nat.lt_of_lt_of_le (Nat.zero_lt_succ _) hslots)
      have hgs : gs.length ≤ slots := Nat.le_of_succ_le_succ hslots
      have hbody : '.' ∉ renderGroups (g :: gs) ++ rest := fun hin =>
        (List.mem_append.mp hin).elim (not_mem_renderGroups _) hdot
      rw [renderGroups_cons, List.append_assoc] at hbody ⊢
      have htail := fun hin => hbody (List.mem_append_right _ hin)
      exact readGroups_cons_renderTail g hbody h (readGroups_renderTail htail h hgs) true

theorem takeWhile_eq_replicate (gs : List UInt16) :
    gs.takeWhile (· == 0) = List.replicate (zeroRun gs) 0 := by
  refine List.eq_replicate_of_mem fun g hg => ?_
  have hzero := List.mem_takeWhile_imp hg
  exact beq_iff_eq.mp hzero

theorem exists_of_longestZeroRun (gs : List UInt16) (position : Nat)
    (h : 0 < (longestZeroRun position gs).2) :
    ∃ front back, gs = front ++ List.replicate (longestZeroRun position gs).2 0 ++ back ∧
      (longestZeroRun position gs).1 = position + front.length := by
  induction gs generalizing position with
  | nil => cases h
  | cons g gs ih =>
      rw [longestZeroRun] at h ⊢
      split
      · refine ⟨[], (g :: gs).dropWhile (· == 0), ?_, rfl⟩
        rw [List.nil_append, ← takeWhile_eq_replicate, List.takeWhile_append_dropWhile]
      · rename_i hlater
        rw [if_neg hlater] at h
        obtain ⟨front, back, hgs, hposition⟩ := ih (position + 1) h
        refine ⟨g :: front, back, congrArg (g :: ·) hgs, ?_⟩
        rw [hposition, List.length_cons]
        omega

theorem ofGroups?_toList (ip : Ipv6) : ofGroups? ip.groups.toList = some ip := by
  obtain ⟨⟨groups, hsize⟩⟩ := ip
  simp [ofGroups?, hsize]

theorem length_toList (ip : Ipv6) : ip.groups.toList.length = 8 := by simp

theorem read?_renderGroups (ip : Ipv6) :
    read? (renderGroups ip.groups.toList) = some (ip, []) := by
  have hread : readGroups 8 true (renderGroups ip.groups.toList ++ []) =
      (ip.groups.toList, false, []) :=
    readGroups_renderGroups List.not_mem_nil (.inl rfl) (Nat.le_of_eq ip.length_toList)
  rw [List.append_nil] at hread
  unfold read?
  rw [hread]
  dsimp only
  rw [if_pos ip.length_toList, ofGroups?_toList]
  rfl

theorem read?_of_parts {ip : Ipv6} {s rest : List Char} {front back : List UInt16} {embedded : Bool}
    (hfront : readGroups 8 true s = (front, false, ':' :: ':' :: rest))
    (hback : readGroups (7 - front.length) true rest = (back, embedded, []))
    (hlength : front.length ≠ 8)
    (h : ip.groups.toList = front ++ List.replicate (8 - front.length - back.length) 0 ++ back) :
    read? s = some (ip, []) := by
  unfold read?
  simp only [hfront, if_neg hlength, Bool.false_eq_true, if_false, hback, ← h, ofGroups?_toList]
  rfl

theorem read?_without_zeros {ip : Ipv6} {front back : List UInt16} {zeros : Nat}
    (h : ip.groups.toList = front ++ List.replicate zeros 0 ++ back) (hzeros : 1 < zeros) :
    read? (renderGroups front ++ [':', ':'] ++ renderGroups back) = some (ip, []) := by
  have hlength : front.length + zeros + back.length = 8 := by
    rw [← ip.length_toList, h]
    simp [Nat.add_assoc]
  have hdot : '.' ∉ ':' :: ':' :: renderGroups back := by
    simp [not_mem_renderGroups]
  have hfront : readGroups 8 true (renderGroups front ++ ':' :: ':' :: renderGroups back) =
      (front, false, ':' :: ':' :: renderGroups back) :=
    readGroups_renderGroups hdot (.inr ⟨_, rfl⟩) (by omega)
  have hback : readGroups (7 - front.length) true (renderGroups back ++ []) = (back, false, []) :=
    readGroups_renderGroups List.not_mem_nil (.inl rfl) (by omega)
  rw [List.append_nil] at hback
  rw [List.append_assoc]
  refine read?_of_parts hfront hback (by omega) ?_
  rw [show 8 - front.length - back.length = zeros by omega]
  exact h

theorem high_ofHalves (high low : UInt16) : (Ipv4.ofHalves high low).high = high := by
  have := high.toNat_lt
  apply UInt16.toNat_inj.mp
  simp [Ipv4.ofHalves, Ipv4.high]
  omega

theorem low_ofHalves (high low : UInt16) : (Ipv4.ofHalves high low).low = low := by
  have := low.toNat_lt
  apply UInt16.toNat_inj.mp
  simp [Ipv4.ofHalves, Ipv4.low]
  omega

theorem read?_mapped {ip : Ipv6} {high low : UInt16}
    (h : ip.groups.toList = [0, 0, 0, 0, 0, 0xffff, high, low]) :
    read? ("::ffff:".toList ++ (Ipv4.ofHalves high low).render) = some (ip, []) := by
  have hembedded := (Ipv4.ofHalves high low).read?_render_append (stops_nil _)
  rw [List.append_nil] at hembedded
  generalize (Ipv4.ofHalves high low).render = s at hembedded
  have hfront : readGroups 8 true (':' :: ':' :: 'f' :: 'f' :: 'f' :: 'f' :: ':' :: s) =
      ([], false, ':' :: ':' :: 'f' :: 'f' :: 'f' :: 'f' :: ':' :: s) :=
    readGroups_of_neither (Ipv4.read?_of_stops (stops_cons (by decide) _))
      (group?_of_stops (stops_cons (by decide) _)) 8 true
  have hlast : readGroups 6 false (':' :: s) = ([high, low], true, []) := by
    have hread := readGroups_of_v4 hembedded 4 false
    rw [high_ofHalves, low_ofHalves] at hread
    exact hread
  have hback : readGroups 7 true ('f' :: 'f' :: 'f' :: 'f' :: ':' :: s) =
      ([0xffff, high, low], true, []) := by
    have hgroup : group? ('f' :: 'f' :: 'f' :: 'f' :: ':' :: s) = some (0xffff, ':' :: s) :=
      group?_append 0xffff (stops_cons (by decide) s)
    have hread := readGroups_of_group (Ipv4.read?_of_stops (stops_cons (by decide) _)) hgroup 6 true
    rw [hlast] at hread
    exact hread
  exact read?_of_parts hfront hback (by decide) h

theorem read?_render (ip : Ipv6) : read? ip.render = some (ip, []) := by
  unfold render
  split
  · rename_i high low hgroups
    exact read?_mapped hgroups
  · dsimp only
    split
    · rename_i hrun
      obtain ⟨front, back, hgroups, hstart⟩ := exists_of_longestZeroRun _ 0 (Nat.zero_lt_of_lt hrun)
      generalize longestZeroRun 0 ip.groups.toList = run at hrun hgroups hstart ⊢
      have hfront : ip.groups.toList.take run.1 = front := by
        rw [hgroups, hstart, Nat.zero_add, List.append_assoc]
        exact List.take_left
      have hback : ip.groups.toList.drop (run.1 + run.2) = back := by
        rw [hgroups, hstart, Nat.zero_add]
        exact List.drop_left' (by simp)
      rw [hfront, hback]
      exact read?_without_zeros hgroups hrun
    · exact read?_renderGroups ip

theorem v4_read?_render (ip : Ipv6) : Ipv4.read? ip.render = none := by
  unfold render
  split
  · exact Ipv4.read?_of_stops (stops_cons (by decide) _)
  · dsimp only
    refine Ipv4.read?_of_not_mem ?_
    split <;> simp [not_mem_renderGroups]

end Ipv6

theorem IpAddress.parse?_render (ip : IpAddress) : parse? ip.render = some ip := by
  unfold parse?
  cases ip with
  | v4 ip =>
      have hread := ip.read?_render_append (stops_nil _)
      rw [List.append_nil] at hread
      simp only [render, hread]
  | v6 ip => simp only [render, ip.v4_read?_render, ip.read?_render]

end NumaFabric
