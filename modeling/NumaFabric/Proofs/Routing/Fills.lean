import NumaFabric.Proofs.Routing.Span
/-!
Fills of any length. The size field of a command has 32 bits, and it is the size of a fill that is
carried out here. Main statements: a fill of 2^32 bytes succeeds wherever its destination is mapped,
and what is checked and written for a fill is the remainder of its length by 2^32.
-/

namespace NumaFabric

open NumaFabric.Wire

namespace AddressSpace

/-- The `length` addresses from `a` on lie in one mapped region and hold `value` afterwards. -/
structure Filled (before after : AddressSpace) (a : Address) (length : Nat) (value : UInt8) :
    Prop where
  inside : ∃ region ∈ before.regions, region.Contains a length
  holds : ∀ x : Address, a.toNat ≤ x.toNat → x.toNat < a.toNat + length →
    after.byte? x = some value

theorem Wrote.filled {before after : AddressSpace} {a : Address} {length : Nat} {value : UInt8}
    (h : Wrote before after a (List.replicate length value)) :
    Filled before after a length value := by
  obtain ⟨hinside, -, -, hbytes⟩ := h
  rw [List.length_replicate] at hinside
  refine ⟨hinside, fun x hlow hhigh => ?_⟩
  rw [hbytes, List.length_replicate, if_pos ⟨hlow, hhigh⟩, List.getElem?_replicate, if_pos]
  omega

theorem map_write_congr (m : AddressSpace) (a : Address) {data data' : List UInt8}
    (h : data.length = data'.length) :
    (m.write a data).map (fun _ => ()) = (m.write a data').map fun _ => () := by
  unfold write
  cases m.find a with
  | error e => rfl
  | ok r =>
      simp only [bind, Except.bind, h]
      by_cases hin : r.region.Contains a data'.length
      · rw [dif_pos hin, dif_pos hin]
        cases r.held <;> rfl
      · rw [dif_neg hin, dif_neg hin]

end AddressSpace

namespace LocalMemory

variable {m : LocalMemory} {op op' : AddressSpace → Except MemoryError AddressSpace}

theorem fst_call_congr (h : (op m.space).map (fun _ => ()) = (op' m.space).map fun _ => ()) :
    (m.call op).1 = (m.call op').1 := by
  unfold call
  split
  · rfl
  · cases hop : op m.space <;> cases hop' : op' m.space <;> simp_all [Except.map]

theorem snd_call_of_error {e : MemoryError} (h : (m.call op).1 = .error e) :
    (m.call op).2 = { m with calls := m.calls + 1, faults := m.faults - 1 } := by
  unfold call at h ⊢
  split at h
  · rename_i hfaults
    rw [if_pos hfaults]
  · rename_i hfaults
    obtain hnone : m.faults = 0 := Nat.eq_zero_of_not_pos hfaults
    rw [if_neg hfaults]
    split at h
    · cases h
    · simp [hnone]

end LocalMemory

namespace Wire.Command

theorem carryOut_of_set {c : Command} (h : c.operation = .set) (m : AddressSpace) :
    c.carryOut m =
      m.write c.destination (List.replicate (c.payload.length % 2 ^ 32) (c.payload.headD 0)) := by
  have hsize : c.dataSize.toNat = c.payload.length % 2 ^ 32 := UInt32.toNat_ofNat'
  simp only [carryOut, h, hsize, AddressSpace.fill_eq_write]

theorem length_payload_fill (a : Address) (value : UInt8) (length : Nat) :
    (fill a value length).payload.length = length := List.length_replicate

theorem image_fill (a : Address) (value : UInt8) (length : Nat) :
    (fill a value length).image = List.replicate length value := by
  change List.replicate (fill a value length).payload.length
    ((List.replicate length value).headD 0) = _
  rw [length_payload_fill]
  cases length <;> rfl

theorem carryOut_fill (a : Address) (value : UInt8) {length : Nat} (h : length < 2 ^ 32)
    (m : AddressSpace) : (fill a value length).carryOut m = m.write a (List.replicate length value) := by
  have hlength := length_payload_fill a value length
  rw [← image_fill a value length, carryOut_of_set rfl, hlength, Nat.mod_eq_of_lt h, image, hlength]
  rfl

end Wire.Command

namespace Router

variable {φ : Type}

/-- A fill is carried out like one whose length its size field can hold. -/
theorem applyHere_of_set (r : Router φ) {c : Command} (h : c.operation = .set) :
    r.applyHere c =
      r.applyHere (.fill c.destination (c.payload.headD 0) (c.payload.length % 2 ^ 32)) := by
  have hattempt : attempt c =
      attempt (.fill c.destination (c.payload.headD 0) (c.payload.length % 2 ^ 32)) := by
    funext m
    rw [attempt_eq_call, attempt_eq_call]
    congr 1
    funext space
    rw [Command.carryOut_of_set h, Command.carryOut_fill _ _ (Nat.mod_lt _ (by decide))]
  unfold applyHere
  rw [hattempt]

theorem fst_applyHere_congr (r : Router φ) {c c' : Command}
    (h : ∀ m, (c.carryOut m).map (fun _ => ()) = (c'.carryOut m).map fun _ => ()) :
    (r.applyHere c).1 = (r.applyHere c').1 := by
  have hresult (m : LocalMemory) : (attempt c m).1 = (attempt c' m).1 := by
    rw [attempt_eq_call, attempt_eq_call]
    exact LocalMemory.fst_call_congr (h m.space)
  have hstate (m : LocalMemory) (e : MemoryError) (he : (attempt c m).1 = .error e) :
      (attempt c m).2 = (attempt c' m).2 := by
    have he' := (hresult m).symm.trans he
    rw [attempt_eq_call] at he he' ⊢
    rw [attempt_eq_call, LocalMemory.snd_call_of_error he, LocalMemory.snd_call_of_error he']
  have hrun := Retry.run_fst_congr (fun _ => hresult) (fun _ => hstate) r.retry
    MemoryError.isTransient r.memory
  rw [applyHere_eq, applyHere_eq, hrun]

theorem routeFill_eq_route (forward : Forward φ) (r : Router φ) (a : Address) (value : UInt8)
    (length : Nat) : r.routeFill forward a value length = r.route forward (.fill a value length) := by
  unfold routeFill
  cases length with
  | zero => exact (route_of_refused forward (.invalidPayload ⟨rfl, rfl⟩)).symm
  | succ length =>
      have hvalue : ¬ (Command.fill a value (length + 1)).LacksValue := fun h => nomatch h.2
      have hshort : r.applyHere (.fill a value (length + 1)) =
          r.applyHere (.fill a value ((length + 1) % UInt32.size)) := by
        have hset := r.applyHere_of_set (c := .fill a value (length + 1)) rfl
        rwa [Command.length_payload_fill] at hset
      rw [if_neg (Nat.succ_ne_zero length), route_of_not_lacksValue forward r hvalue, hshort]
      rfl

theorem not_forall_filled_of_route_here :
    ¬ ∀ (r : Router Unit) (c : Command) (node : NodeId), r.memory.space.Reachable →
      c.operation = .set → c.payload ≠ [] → (r.route takeAll c).1 = .ok (.here node) →
      r.memory.space.Filled (r.route takeAll c).2.memory.space c.destination c.payload.length
        (c.payload.headD 0) := by
  intro h
  have hlength := Command.length_payload_fill 0x1000 0 (2 ^ 32)
  have hpayload : (Command.fill 0x1000 0 (2 ^ 32)).payload ≠ [] := fun hnil => nomatch hnil
  have hanswer : (straddling.route takeAll (.fill 0x1000 0 (2 ^ 32))).1 = .ok (.here 1) := by
    rw [← routeFill_eq_route]
    rfl
  obtain ⟨region, hregion, hin⟩ :=
    (h straddling _ 1 reachable_space_straddling rfl hpayload hanswer).inside
  obtain rfl : region = ⟨0x1000, 32⟩ := List.mem_singleton.mp hregion
  rw [hlength] at hin
  revert hin
  decide

/-- A fill that is carried out here covers the remainder of its length by 2^32, and no other byte
changes; it is answered like a copy of that many bytes. So a fill of less than 2^32 bytes covers them
all. -/
theorem filled_of_route_here (forward : Forward φ) (r : Router φ) (c : Command)
    (hm : r.memory.space.Reachable) (hop : c.operation = .set) (hpayload : c.payload ≠ []) :
    let covered := c.payload.length % 2 ^ 32
    let done := r.route forward c
    (∀ node, done.1 = .ok (.here node) →
      r.memory.space.Filled done.2.memory.space c.destination covered (c.payload.headD 0) ∧
        ∀ x : Address, ¬ (c.destination.toNat ≤ x.toNat ∧
            x.toNat < c.destination.toNat + covered) →
          done.2.memory.space.byte? x = r.memory.space.byte? x) ∧
    (r.map.owner? c.destination = some r.node →
      done.1 = (r.route forward (.copy c.destination (c.payload.take covered))).1) := by
  intro covered done
  have hcovered : covered < 2 ^ 32 := Nat.mod_lt _ (by decide)
  constructor
  · intro node hnode
    obtain ⟨hhere, -, hok⟩ := staysHere_of_route_here hnode
    have hshort := r.applyHere_of_set hop
    rw [hshort] at hok
    have hlength : (Command.fill c.destination (c.payload.headD 0) covered).payload.length <
        2 ^ 32 := by
      rw [Command.length_payload_fill]
      exact hcovered
    have hwrote := wrote_of_applyHere hlength hm.sound hok
    have hdone : done.2 = (r.applyHere (.fill c.destination (c.payload.headD 0) covered)).2 := by
      rw [← hshort]
      exact congrArg Prod.snd (route_of_staysHere forward hhere)
    rw [← hdone, Command.image_fill] at hwrote
    refine ⟨hwrote.filled, fun x hx => ?_⟩
    rw [hwrote.bytes, List.length_replicate]
    exact if_neg hx
  · intro howner
    have hvalue : ¬ c.LacksValue := fun h => hpayload h.2
    have hcopy : ¬ (Command.copy c.destination (c.payload.take covered)).LacksValue :=
      fun h => nomatch h.1
    -- A write is refused for its range alone, so the bytes of the copy do not matter.
    have hlength : (List.replicate covered (c.payload.headD 0)).length =
        (c.payload.take covered).length := by
      rw [List.length_replicate, List.length_take_of_le (Nat.mod_le _ _)]
    have hanswer : (r.applyHere c).1 =
        (r.applyHere (.copy c.destination (c.payload.take covered))).1 := by
      apply fst_applyHere_congr
      intro m
      rw [Command.carryOut_of_set hop]
      exact m.map_write_congr c.destination hlength
    change (r.route forward c).1 = _
    rw [route_of_staysHere forward ⟨hvalue, howner⟩, route_of_staysHere forward ⟨hcopy, howner⟩,
      hanswer]

theorem filled_of_route_here_long :
    let c := Command.fill 0x1004 7 (2 ^ 32 + 3)
    straddling.memory.space.Reachable ∧ c.operation = .set ∧ c.payload ≠ [] ∧
      (straddling.route takeAll c).1 = .ok (.here 1) ∧
      straddling.memory.space.Filled (straddling.route takeAll c).2.memory.space 0x1004 3 7 := by
  intro c
  have hpayload : c.payload ≠ [] := fun hnil => nomatch hnil
  have hlength : c.payload.length = 2 ^ 32 + 3 := Command.length_payload_fill ..
  have hanswer : (straddling.route takeAll c).1 = .ok (.here 1) := by
    rw [← routeFill_eq_route]
    rfl
  have hfilled :=
    ((filled_of_route_here takeAll straddling c reachable_space_straddling rfl hpayload).1 1 hanswer).1
  rw [hlength] at hfilled
  exact ⟨reachable_space_straddling, rfl, hpayload, hanswer, hfilled⟩

end Router

end NumaFabric
