import NumaFabric.Json.Parser
import NumaFabric.Json.Printer
import NumaFabric.Proofs.Text.Digits

namespace NumaFabric.Json

open NumaFabric.Text

/-! Texts. -/

theorem hexUnit?_control {n : Nat} (h : n < 32) (rest : List Char) :
    hexUnit? ('0' :: '0' :: Nat.digitChar (n / 16) :: Nat.digitChar (n % 16) :: rest) =
      some (n, rest) := by
  have hall : ∀ n < 32,
      digits? 16 ['0', '0', Nat.digitChar (n / 16), Nat.digitChar (n % 16)] = some n := by decide
  rw [hexUnit?, hall n h]
  rfl

theorem stringBody?_escape (fuel : Nat) (whole : Bool) (acc : List Char) (c : Char) (s : List Char) :
    stringBody? (fuel + 1) whole acc (escape c ++ s) = stringBody? fuel whole (c :: acc) s := by
  unfold escape
  split
  case h_8 =>
    rename_i hquote hbackslash _ _ _ _ _
    split
    · rename_i hcontrol
      have hlow : ¬ (0xdc00 ≤ c.toNat ∧ c.toNat ≤ 0xdfff) := by omega
      have hhigh : ¬ (0xd800 ≤ c.toNat ∧ c.toNat ≤ 0xdbff) := by omega
      simp only [List.cons_append, List.nil_append, stringBody?, hexUnit?_control hcontrol,
        if_neg hlow, if_neg hhigh, Char.ofNat_toNat]
    · rename_i hprinted
      rw [List.singleton_append, stringBody?, if_neg hprinted]
      · exact hquote
      · exact fun _ h _ => hbackslash h
      · exact fun _ _ h _ => hbackslash h
  all_goals rfl

theorem stringBody?_escapes {fuel : Nat} (acc cs rest : List Char) (hfuel : cs.length < fuel) :
    stringBody? fuel true acc (cs.flatMap escape ++ '"' :: rest) =
      some (some (String.ofList (acc.reverse ++ cs)), rest) := by
  induction cs generalizing acc fuel with
  | nil =>
      obtain ⟨fuel, rfl⟩ := Nat.exists_eq_add_of_le' hfuel
      rw [List.append_nil]
      rfl
  | cons c cs ih =>
      obtain ⟨fuel, rfl⟩ := Nat.exists_eq_add_of_le' (Nat.zero_lt_of_lt hfuel)
      have hcs : cs.length < fuel := Nat.lt_of_succ_lt_succ hfuel
      rw [List.flatMap_cons, List.append_assoc, stringBody?_escape, ih _ hcs]
      simp

theorem length_le_escapes (cs : List Char) : cs.length ≤ (cs.flatMap escape).length := by
  induction cs with
  | nil => exact Nat.zero_le _
  | cons c cs ih =>
      have hone : 1 ≤ (escape c).length := by
        unfold escape
        split <;> try exact Nat.le_add_left 1 _
        split <;> exact Nat.le_add_left 1 _
      rw [List.flatMap_cons, List.length_append, List.length_cons]
      omega

theorem string?_escapes (s : String) (rest : List Char) :
    string? (s.toList.flatMap escape ++ '"' :: rest) = some (some s, rest) := by
  have hlength := length_le_escapes s.toList
  have hfuel : s.toList.length < (s.toList.flatMap escape ++ '"' :: rest).length + 1 := by
    rw [List.length_append]
    omega
  rw [string?, stringBody?_escapes [] _ _ hfuel]
  simp

/-! Numbers. -/

def isNumberPart (c : Char) : Bool := c.isDigit || c == '.' || c == 'e' || c == 'E'

theorem stops_isDigit {s : List Char} (h : Stops isNumberPart s) : Stops Char.isDigit s := by
  intro c hc
  have hpart := h c hc
  simp only [isNumberPart, Bool.or_eq_false_iff] at hpart
  exact hpart.1.1.1

theorem someDigits?_append (n : Nat) {rest : List Char} (h : Stops isNumberPart rest) :
    someDigits? (Nat.toDigits 10 n ++ rest) = some (Nat.toDigits 10 n, rest) := by
  have hdigits : ∀ c ∈ Nat.toDigits 10 n, c.isDigit = true := fun c hc =>
    Nat.isDigit_of_mem_toDigits (by decide) (by decide) hc
  obtain ⟨htake, hdrop⟩ := takeWhile_append_of_stops hdigits (stops_isDigit h)
  unfold someDigits?
  rw [htake, hdrop]
  simp

theorem fraction?_of_stops {rest : List Char} (h : Stops isNumberPart rest) :
    fraction? rest = some (none, rest) := by
  unfold fraction?
  split
  · exact absurd (h '.' rfl) (by decide)
  · rfl

theorem exponent?_of_stops {rest : List Char} (h : Stops isNumberPart rest) :
    exponent? rest = some (none, rest) := by
  have hlower (s : List Char) : rest ≠ 'e' :: s := by
    rintro rfl
    exact absurd (h 'e' rfl) (by decide)
  have hupper (s : List Char) : rest ≠ 'E' :: s := by
    rintro rfl
    exact absurd (h 'E' rfl) (by decide)
  unfold exponent?
  split <;> first | rfl | exact absurd rfl (hlower _) | exact absurd rfl (hupper _)

theorem head?_toDigits_ne_sign (n : Nat) : (Nat.toDigits 10 n).head? ≠ some '-' := by
  intro hhead
  have hdigit := Nat.isDigit_of_mem_toDigits (by decide) (by decide) (List.mem_of_head? hhead)
  exact absurd hdigit (by decide)

def InRange (n : Int) : Prop := -(UInt64.size / 2 : Nat) ≤ n ∧ n < UInt64.size

theorem not_lead_toDigits (n : Nat) :
    ¬ ((Nat.toDigits 10 n).head? = some '0' ∧ 1 < (Nat.toDigits 10 n).length) := fun h =>
  head?_toDigits_ne (by decide) (by decide) h.2 h.1

theorem number?_toDigits {n : Nat} (hn : n < UInt64.size) {rest : List Char}
    (h : Stops isNumberPart rest) :
    number? (Nat.toDigits 10 n ++ rest) = some (int n, rest) := by
  have hdigits : digits? 10 (Nat.toDigits 10 n) = some n :=
    digits?_toDigits (by decide) (by decide) n
  rw [number?]
  simp [head?_toDigits_ne_sign, someDigits?_append n h, fraction?_of_stops h, exponent?_of_stops h,
    hdigits, not_lead_toDigits, hn]

theorem number?_minus_toDigits {n : Nat} (hpos : 0 < n) (hn : 2 * n ≤ UInt64.size)
    {rest : List Char} (h : Stops isNumberPart rest) :
    number? ('-' :: (Nat.toDigits 10 n ++ rest)) = some (int (-n), rest) := by
  have hdigits : digits? 10 (Nat.toDigits 10 n) = some n :=
    digits?_toDigits (by decide) (by decide) n
  rw [number?]
  simp [someDigits?_append n h, fraction?_of_stops h, exponent?_of_stops h, hdigits,
    not_lead_toDigits, hpos, hn]

theorem number?_renderInt {n : Int} (hn : InRange n) {rest : List Char}
    (h : Stops isNumberPart rest) : number? (renderInt n ++ rest) = some (int n, rest) := by
  obtain ⟨hlow, hhigh⟩ := hn
  unfold renderInt
  by_cases hsign : n < 0
  · have hvalue : (-(n.natAbs : Int)) = n := by omega
    have hpos : 0 < n.natAbs := by omega
    have hfits : 2 * n.natAbs ≤ UInt64.size := by
      simp only [UInt64.size] at hlow ⊢
      omega
    rw [if_pos hsign, List.cons_append, number?_minus_toDigits hpos hfits h, hvalue]
  · have hvalue : (n.natAbs : Int) = n := by omega
    have hfits : n.natAbs < UInt64.size := by omega
    rw [if_neg hsign, number?_toDigits hfits h, hvalue]

/-! Values. -/

mutual

/-- The numbers in the value are integers that are held as such, and all of it is readable. -/
def IsPlain : Json → Prop
  | int n => InRange n
  | arr items => ItemsPlain items
  | obj fields => FieldsPlain fields
  | real _ | unreadable => False
  | null | bool _ | str _ => True

def ItemsPlain : List Json → Prop
  | [] => True
  | j :: rest => j.IsPlain ∧ ItemsPlain rest

def FieldsPlain : List (String × Json) → Prop
  | [] => True
  | (_, j) :: rest => j.IsPlain ∧ FieldsPlain rest

end

def isSeparator (c : Char) : Bool := c == ' ' || c == '\t' || c == '\n' || c == '\r'

theorem skipBlanks_of_stops {s : List Char} (h : Stops isSeparator s) : skipBlanks s = s :=
  (takeWhile_of_stops h).2

theorem skipBlanks_cons {c : Char} (h : isSeparator c = false) (s : List Char) :
    skipBlanks (c :: s) = c :: s :=
  skipBlanks_of_stops (stops_cons h s)

def startsNumber (c : Char) : Bool := c == '-' || c.isDigit

theorem ne_of_startsNumber {c d : Char} (hc : startsNumber c = true) (hd : startsNumber d = false) :
    c ≠ d := by
  rintro rfl
  rw [hc] at hd
  cases hd

theorem exists_renderInt_eq (n : Int) :
    ∃ c s, renderInt n = c :: s ∧ startsNumber c = true := by
  unfold renderInt
  split
  · exact ⟨_, _, rfl, rfl⟩
  · cases hdigits : Nat.toDigits 10 n.natAbs with
    | nil => exact absurd hdigits Nat.toDigits_ne_nil
    | cons c s =>
        have hmem : c ∈ Nat.toDigits 10 n.natAbs := by
          rw [hdigits]
          exact List.mem_cons_self
        have hdigit := Nat.isDigit_of_mem_toDigits (by decide) (by decide) hmem
        exact ⟨c, s, rfl, by rw [startsNumber, hdigit, Bool.or_true]⟩

theorem isSeparator_of_startsNumber {c : Char} (h : startsNumber c = true) :
    isSeparator c = false := by
  simp only [isSeparator, Bool.or_eq_false_iff, beq_eq_false_iff_ne]
  exact ⟨⟨⟨ne_of_startsNumber h (by decide), ne_of_startsNumber h (by decide)⟩,
    ne_of_startsNumber h (by decide)⟩, ne_of_startsNumber h (by decide)⟩

theorem value?_of_startsNumber {c : Char} (h : startsNumber c = true) (fuel : Nat) (s : List Char) :
    value? (fuel + 1) (c :: s) = number? (c :: s) := by
  unfold value?
  rw [skipBlanks_cons (isSeparator_of_startsNumber h)]
  split <;>
    first
    | rfl
    | (rename_i heq; exact absurd (List.cons.inj heq).1 (ne_of_startsNumber h (by decide)))

theorem exists_render_eq {j : Json} (h : j.IsPlain) :
    ∃ c s, j.render = c :: s ∧ isSeparator c = false ∧ c ≠ ']' := by
  cases j with
  | int n =>
      obtain ⟨c, s, hrender, hstarts⟩ := exists_renderInt_eq n
      exact ⟨c, s, hrender, isSeparator_of_startsNumber hstarts, ne_of_startsNumber hstarts (by decide)⟩
  | bool b => cases b <;> exact ⟨_, _, rfl, by decide, by decide⟩
  | real _ | unreadable => exact h.elim
  | _ => exact ⟨_, _, rfl, by decide, by decide⟩

theorem renderString_append (s : String) (rest : List Char) :
    renderString s ++ rest = '"' :: (s.toList.flatMap escape ++ '"' :: rest) := by
  simp [renderString]

theorem value?_string (fuel : Nat) (s : String) (rest : List Char) :
    value? (fuel + 1) (renderString s ++ rest) = some (str s, rest) := by
  rw [renderString_append, value?, skipBlanks_cons (by decide)]
  simp only [string?_escapes]
  rfl

theorem value?_int (fuel : Nat) {n : Int} (hn : InRange n) {rest : List Char}
    (h : Stops isNumberPart rest) :
    value? (fuel + 1) (renderInt n ++ rest) = some (int n, rest) := by
  obtain ⟨c, s, hrender, hstarts⟩ := exists_renderInt_eq n
  have hnumber := number?_renderInt hn h
  rw [hrender] at hnumber ⊢
  rw [List.cons_append] at hnumber ⊢
  rw [value?_of_startsNumber hstarts, hnumber]

theorem value?_array {fuel : Nat} {j : Json} (hj : j.IsPlain) {s rest : List Char} {items : List Json}
    (h : items? fuel [] (j.render ++ s) = some (items, rest)) :
    value? (fuel + 1) ('[' :: (j.render ++ s)) = some (arr items, rest) := by
  obtain ⟨c, t, hrender, hseparator, hclosing⟩ := exists_render_eq hj
  rw [hrender, List.cons_append] at h ⊢
  rw [value?, skipBlanks_cons (by decide)]
  simp only [skipBlanks_cons hseparator]
  split
  · rename_i heq
    exact absurd (List.cons.inj heq).1 hclosing
  · rw [h]
    rfl

theorem value?_object {fuel : Nat} {k : String} {s rest : List Char} {fields : List (String × Json)}
    (h : fields? fuel true [] (renderString k ++ s) = some (some fields, rest)) :
    value? (fuel + 1) ('\x7b' :: (renderString k ++ s)) = some (obj fields, rest) := by
  rw [renderString_append] at h ⊢
  rw [value?, skipBlanks_cons (by decide)]
  simp only [skipBlanks_cons (show isSeparator '"' = false by decide), h]
  rfl

section

variable {fuel : Nat} {j : Json} {s rest : List Char}

theorem items?_of_comma (h : value? fuel s = some (j, ',' :: rest)) (acc : List Json) :
    items? (fuel + 1) acc s = items? fuel (j :: acc) rest := by
  simp only [items?, h, skipBlanks_cons (show isSeparator ',' = false by decide)]

theorem items?_of_closing (h : value? fuel s = some (j, ']' :: rest)) (acc : List Json) :
    items? (fuel + 1) acc s = some ((j :: acc).reverse, rest) := by
  simp only [items?, h, skipBlanks_cons (show isSeparator ']' = false by decide)]

theorem fields?_of_comma (h : value? fuel s = some (j, ',' :: rest)) (k : String)
    (acc : List (String × Json)) :
    fields? (fuel + 1) true acc (renderString k ++ ':' :: s) =
      fields? fuel true ((k, j) :: acc) rest := by
  rw [renderString_append, fields?, skipBlanks_cons (by decide)]
  simp only [string?_escapes, skipBlanks_cons (show isSeparator ':' = false by decide), h,
    skipBlanks_cons (show isSeparator ',' = false by decide), Option.isSome_some, Bool.and_self,
    Option.getD_some]

theorem fields?_of_closing (h : value? fuel s = some (j, '\x7d' :: rest)) (k : String)
    (acc : List (String × Json)) :
    fields? (fuel + 1) true acc (renderString k ++ ':' :: s) =
      some (some ((k, j) :: acc).reverse, rest) := by
  rw [renderString_append, fields?, skipBlanks_cons (by decide)]
  simp only [string?_escapes, skipBlanks_cons (show isSeparator ':' = false by decide), h,
    skipBlanks_cons (show isSeparator '\x7d' = false by decide), Option.isSome_some, Bool.and_self,
    Option.getD_some, if_true]

end

theorem length_render_pos {j : Json} (hj : j.IsPlain) : 0 < j.render.length := by
  obtain ⟨c, s, hrender, -⟩ := exists_render_eq hj
  rw [hrender]
  exact Nat.zero_lt_succ _

theorem exists_renderItems_eq (j : Json) (items : List Json) :
    ∃ s, renderItems (j :: items) = j.render ++ s := by
  cases items with
  | nil => exact ⟨[], (List.append_nil _).symm⟩
  | cons next items => exact ⟨_, rfl⟩

theorem exists_renderFields_eq (k : String) (j : Json) (fields : List (String × Json)) :
    ∃ s, renderFields ((k, j) :: fields) = renderString k ++ s := by
  cases fields with
  | nil => exact ⟨_, rfl⟩
  | cons next fields => exact ⟨_, rfl⟩

mutual

theorem value?_render (j : Json) (hj : j.IsPlain) {fuel : Nat} {rest : List Char}
    (hfuel : j.render.length ≤ fuel) (hrest : Stops isNumberPart rest) :
    value? fuel (j.render ++ rest) = some (j, rest) := by
  obtain ⟨fuel, rfl⟩ := Nat.exists_eq_add_of_le' (Nat.lt_of_lt_of_le (length_render_pos hj) hfuel)
  match j with
  | null => rfl
  | bool true => rfl
  | bool false => rfl
  | int n => exact value?_int fuel hj hrest
  | str s => exact value?_string fuel s rest
  | arr [] => rfl
  | arr (j :: items) =>
      have hlength : (renderItems (j :: items)).length < fuel := by
        simp only [render, List.length_cons, List.length_append] at hfuel
        omega
      have hitems := items?_renderItems j items hj [] rest hlength
      obtain ⟨s, hs⟩ := exists_renderItems_eq j items
      rw [render, List.cons_append, List.append_assoc, List.singleton_append]
      rw [hs, List.append_assoc] at hitems ⊢
      exact value?_array hj.1 hitems
  | obj [] => rfl
  | obj ((k, j) :: fields) =>
      have hlength : (renderFields ((k, j) :: fields)).length < fuel := by
        simp only [render, List.length_cons, List.length_append] at hfuel
        omega
      have hfields := fields?_renderFields k j fields hj [] rest hlength
      obtain ⟨s, hs⟩ := exists_renderFields_eq k j fields
      rw [render, List.cons_append, List.append_assoc, List.singleton_append]
      rw [hs, List.append_assoc] at hfields ⊢
      exact value?_object hfields
termination_by fuel

theorem items?_renderItems (j : Json) (items : List Json) (h : ItemsPlain (j :: items)) {fuel : Nat}
    (acc : List Json) (rest : List Char) (hfuel : (renderItems (j :: items)).length < fuel) :
    items? fuel acc (renderItems (j :: items) ++ ']' :: rest) =
      some (acc.reverse ++ j :: items, rest) := by
  obtain ⟨fuel, rfl⟩ := Nat.exists_eq_add_of_le' (Nat.zero_lt_of_lt hfuel)
  match items with
  | [] =>
      have hfits : j.render.length ≤ fuel := Nat.le_of_lt_succ hfuel
      have hclosing : Stops isNumberPart (']' :: rest) := stops_cons (by decide) rest
      rw [renderItems, items?_of_closing (value?_render j h.1 hfits hclosing), List.reverse_cons]
  | next :: items =>
      rw [renderItems, List.length_append, List.length_cons] at hfuel
      have hfits : j.render.length ≤ fuel := by omega
      have hmore : (renderItems (next :: items)).length < fuel := by omega
      rw [renderItems, List.append_assoc, List.cons_append,
        items?_of_comma (value?_render j h.1 hfits (stops_cons (by decide) _)),
        items?_renderItems next items h.2 (j :: acc) rest hmore, List.reverse_cons,
        List.append_assoc, List.singleton_append]
termination_by fuel

theorem fields?_renderFields (k : String) (j : Json) (fields : List (String × Json))
    (h : FieldsPlain ((k, j) :: fields)) {fuel : Nat} (acc : List (String × Json))
    (rest : List Char) (hfuel : (renderFields ((k, j) :: fields)).length < fuel) :
    fields? fuel true acc (renderFields ((k, j) :: fields) ++ '\x7d' :: rest) =
      some (some (acc.reverse ++ (k, j) :: fields), rest) := by
  obtain ⟨fuel, rfl⟩ := Nat.exists_eq_add_of_le' (Nat.zero_lt_of_lt hfuel)
  match fields with
  | [] =>
      have hfits : j.render.length ≤ fuel := by
        simp only [renderFields, List.length_append, List.length_cons] at hfuel
        omega
      have hclosing : Stops isNumberPart ('\x7d' :: rest) := stops_cons (by decide) rest
      rw [renderFields, List.append_assoc, List.cons_append,
        fields?_of_closing (value?_render j h.1 hfits hclosing), List.reverse_cons]
  | (k', j') :: fields =>
      simp only [renderFields, List.length_append, List.length_cons] at hfuel
      have hfits : j.render.length ≤ fuel := by omega
      have hmore : (renderFields ((k', j') :: fields)).length < fuel := by omega
      rw [renderFields, List.append_assoc, List.cons_append, List.append_assoc, List.cons_append,
        fields?_of_comma (value?_render j h.1 hfits (stops_cons (by decide) _)),
        fields?_renderFields k' j' fields h.2 ((k, j) :: acc) rest hmore, List.reverse_cons,
        List.append_assoc, List.singleton_append]
termination_by fuel

end

theorem parse?_text {j : Json} (h : j.IsPlain) : parse? j.text = some j := by
  have hfuel : j.render.length ≤ 2 * j.render.length + 2 := by omega
  have hvalue := value?_render j h hfuel (stops_nil _)
  rw [List.append_nil] at hvalue
  simp only [parse?, text, String.toList_ofList, hvalue]
  rfl

end NumaFabric.Json
