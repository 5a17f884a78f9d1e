namespace NumaFabric.Text

/-- The pieces between the occurrences of `sep`, one more than there are occurrences. -/
def splitAll (sep : Char) : List Char → List (List Char)
  | [] => [[]]
  | c :: cs =>
    if c = sep then [] :: splitAll sep cs
    else match splitAll sep cs with
      | [] => [[c]]
      | piece :: pieces => (c :: piece) :: pieces

def splitOnce (sep : Char) : List Char → Option (List Char × List Char)
  | [] => none
  | c :: cs =>
    if c = sep then some ([], cs)
    else (splitOnce sep cs).map fun p => (c :: p.1, p.2)

def dropSuffix (c : Char) (s : List Char) : List Char :=
  match s.reverse with
  | [] => []
  | d :: rest => if d = c then rest.reverse else s

/-- Lines end at a line feed, and a carriage return right before it is part of the ending. The
text after the last line feed is a line unless it is empty. -/
def lines (s : List Char) : List (List Char) :=
  let pieces := splitAll '\n' s
  let ended := pieces.dropLast.map (dropSuffix '\r')
  match pieces.getLast? with
  | some (c :: cs) => ended ++ [c :: cs]
  | _ => ended

theorem splitAll_ne_nil (sep : Char) (s : List Char) : splitAll sep s ≠ [] := by
  cases s with
  | nil => simp [splitAll]
  | cons c cs =>
    rw [splitAll]
    split
    · simp
    · split <;> simp

theorem eq_append_of_splitOnce {sep : Char} {s a b : List Char}
    (h : splitOnce sep s = some (a, b)) : s = a ++ sep :: b ∧ sep ∉ a := by
  induction s generalizing a b with
  | nil => simp [splitOnce] at h
  | cons c cs ih =>
    rw [splitOnce] at h
    split at h
    · simp_all
    · rename_i hc
      obtain ⟨p, hp, he⟩ := Option.map_eq_some_iff.mp h
      obtain ⟨rfl, rfl⟩ := Prod.mk.inj he
      obtain ⟨h₁, h₂⟩ := ih hp
      exact ⟨by simp [← h₁], by simp [h₂, Ne.symm hc]⟩

end NumaFabric.Text
