import NumaFabric.Proofs.Numa.Ranges
import NumaFabric.Proofs.Routing.Effect
/-!
Who owns the bytes that a node writes. Ownership is asked for the first of them only, so a write may
go on past the range that its destination lies in. Main statements: it can reach into a range of
another node, and up to the end of its own range all it writes belongs to the node.
-/

namespace NumaFabric.Router

open NumaFabric.Wire

variable {φ : Type}

theorem staysHere_of_route_here {forward : Forward φ} {r : Router φ} {c : Command} {node : NodeId}
    (h : (r.route forward c).1 = .ok (.here node)) :
    r.StaysHere c ∧ node = r.node ∧ (r.applyHere c).1 = .ok () := by
  rcases r.refused_or_staysHere_or_goesTo c with ⟨e, he⟩ | hhere | ⟨owner, address, haway⟩
  · rw [route_of_refused forward he] at h
    cases h
  · rw [route_of_staysHere forward hhere] at h
    cases hrun : (r.applyHere c).1 with
    | error e =>
        simp only [hrun, Except.map] at h
        cases h
    | ok u =>
        simp only [hrun, Except.map] at h
        cases h
        exact ⟨hhere, rfl, rfl⟩
  · rw [route_of_goesTo forward haway] at h
    cases hsent : (forward owner address c.withFreshChecksum r.links).1 with
    | error e =>
        simp only [hsent, answerAway] at h
        cases h
    | ok u =>
        simp only [hsent, answerAway] at h
        cases h

def straddling : Router Unit where
  node := 1
  map := (OrderedMap.empty.insert 0x1000 ⟨0x1000, 16, 1⟩).insert 0x1010 ⟨0x1010, 16, 2⟩
  routes := .empty
  memory := .of (AddressSpace.ofRegion ⟨0x1000, 32⟩)
  retry := .localMemory
  links := ()

theorem reachable_map_straddling : straddling.map.Reachable := by
  have hfirst : AddressMap.insertRange .empty 0x1000 16 1 =
      .ok (OrderedMap.empty.insert 0x1000 ⟨0x1000, 16, 1⟩) := rfl
  have hsecond : AddressMap.insertRange (OrderedMap.empty.insert 0x1000 ⟨0x1000, 16, 1⟩)
      0x1010 16 2 = .ok straddling.map := rfl
  exact .insert (.insert .empty hfirst) hsecond

theorem reachable_space_straddling : straddling.memory.space.Reachable :=
  AddressSpace.reachable_ofRegion (by decide) (by decide)

/-- A node may write bytes of another node: those of a write that starts in its own range. -/
theorem not_forall_span_owned_here :
    ¬ ∀ (r : Router Unit) (c : Command) (node : NodeId), r.map.Reachable →
      r.memory.space.Reachable → c.payload ≠ [] → c.payload.length < 2 ^ 32 →
      (r.route takeAll c).1 = .ok (.here node) →
      ∀ a : Address, c.destination.toNat ≤ a.toNat →
        a.toNat < c.destination.toNat + c.payload.length → r.map.owner? a = some r.node := by
  intro h
  have howner := h straddling (Command.copy 0x100c [1, 2, 3, 4, 5, 6, 7, 8]) 1
    reachable_map_straddling reachable_space_straddling (by decide) (by decide) rfl 0x1010
    (by decide) (by decide)
  have hother : straddling.map.owner? 0x1010 = some 2 := rfl
  rw [hother] at howner
  cases howner

/-- What a node writes lies in one region of its memory, and belongs to it up to the end of the
range that the destination lies in. -/
theorem owner?_of_route_here (forward : Forward φ) (r : Router φ) (c : Command) (node : NodeId)
    (hmap : r.map.Reachable) (hm : r.memory.space.Reachable)
    (hc : c.payload.length < 2 ^ 32) (h : (r.route forward c).1 = .ok (.here node)) :
    node = r.node ∧
      (∃ region ∈ r.memory.space.regions, region.Contains c.destination c.payload.length) ∧
      ∃ range ∈ r.map.ranges, range.node = r.node ∧
        range.base.toNat ≤ c.destination.toNat ∧ c.destination.toNat < range.stop ∧
        ∀ a : Address, c.destination.toNat ≤ a.toNat →
          a.toNat < c.destination.toNat + c.payload.length → a.toNat < range.stop →
          r.map.owner? a = some r.node := by
  obtain ⟨⟨-, howner⟩, hnode, hok⟩ := staysHere_of_route_here h
  have hwrote := wrote_of_applyHere hc hm.sound hok
  obtain ⟨range, hrange, hmine, hbase, hstop⟩ :=
    AddressMap.exists_range_of_owner? hmap.sound howner
  refine ⟨hnode, ?_, range, hrange, hmine, hbase, hstop, ?_⟩
  · rw [← c.length_image]
    exact hwrote.inside
  · intro a hlow _ hin
    rw [← hmine]
    exact AddressMap.owner?_of_mem_ranges hmap.sound hrange (Nat.le_trans hbase hlow) hin

theorem owner?_of_route_here_straddling :
    straddling.map.Reachable ∧ straddling.memory.space.Reachable ∧
      (straddling.route takeAll (Command.copy 0x100c [1, 2, 3, 4, 5, 6, 7, 8])).1 =
        .ok (.here 1) ∧
      ∃ range ∈ straddling.map.ranges, range.node = 1 ∧
        ∀ a : Address, 0x100c ≤ a.toNat → a.toNat < 0x1014 → a.toNat < range.stop →
          straddling.map.owner? a = some 1 := by
  refine ⟨reachable_map_straddling, reachable_space_straddling, rfl, ?_⟩
  obtain ⟨-, -, range, hrange, hmine, -, -, hown⟩ :=
    owner?_of_route_here takeAll straddling (Command.copy 0x100c [1, 2, 3, 4, 5, 6, 7, 8]) 1
      reachable_map_straddling reachable_space_straddling (by decide) rfl
  exact ⟨range, hrange, hmine, hown⟩

end NumaFabric.Router
