import NumaFabric.Proofs.Routing.Effect

namespace NumaFabric.Router

open NumaFabric.Wire

variable {φ : Type}

/-- A router without its links. -/
def unlinked (r : Router φ) : Router Unit := { r with links := () }

def carryOut (r : Router Unit) (c : Command) : Router Unit := (r.route takeAll c).2

theorem carryOut_of_not_staysHere {r : Router Unit} {c : Command} (h : ¬ r.StaysHere c) :
    r.carryOut c = r := by
  unfold carryOut
  rcases r.refused_or_staysHere_or_goesTo c with ⟨e, he⟩ | hhere | ⟨owner, address, haway⟩
  · rw [route_of_refused takeAll he]
  · exact absurd hhere h
  · rw [route_of_goesTo takeAll haway]

theorem carryOut_of_not_owner {r : Router Unit} {c : Command}
    (h : r.map.owner? c.destination ≠ some r.node) : r.carryOut c = r :=
  carryOut_of_not_staysHere fun hhere => h hhere.2

theorem carryOut_of_staysHere {r : Router Unit} {c : Command} (h : r.StaysHere c) :
    r.carryOut c = (r.applyHere c).2 := by
  rw [carryOut, route_of_staysHere takeAll h]

theorem unlinked_applyHere (r : Router φ) (c : Command) :
    (r.applyHere c).2.unlinked = (r.unlinked.applyHere c).2 := by
  rw [applyHere_eq, applyHere_eq]
  rfl

theorem links_applyHere (r : Router φ) (c : Command) : (r.applyHere c).2.links = r.links := by
  rw [applyHere_eq]

/-- The links have no part in what a command leaves behind on the rest of a router. -/
theorem unlinked_route (forward : Forward φ) (r : Router φ) (c : Command) :
    (r.route forward c).2.unlinked = r.unlinked.carryOut c := by
  by_cases hhere : r.StaysHere c
  · have hunlinked : r.unlinked.StaysHere c := hhere
    rw [carryOut_of_staysHere hunlinked, route_of_staysHere forward hhere]
    exact unlinked_applyHere r c
  · have hunlinked : ¬ r.unlinked.StaysHere c := hhere
    rw [carryOut_of_not_staysHere hunlinked]
    rcases r.refused_or_staysHere_or_goesTo c with ⟨e, he⟩ | hstays | ⟨owner, address, haway⟩
    · rw [route_of_refused forward he]
    · exact absurd hstays hhere
    · rw [route_of_goesTo forward haway]
      rfl

theorem links_route (forward : Forward φ) {r : Router φ} {c : Command}
    (h : ∀ owner address, ¬ r.GoesTo c owner address) :
    (r.route forward c).2.links = r.links := by
  rcases r.refused_or_staysHere_or_goesTo c with ⟨e, he⟩ | hhere | ⟨owner, address, haway⟩
  · rw [route_of_refused forward he]
  · rw [route_of_staysHere forward hhere]
    exact links_applyHere r c
  · exact absurd haway (h owner address)

theorem carryOut_eq (r : Router Unit) (c : Command) :
    r.carryOut c = { r with memory := (r.carryOut c).memory } := by
  by_cases hhere : r.StaysHere c
  · rw [carryOut_of_staysHere hhere, applyHere_eq]
  · rw [carryOut_of_not_staysHere hhere]

theorem node_carryOut (r : Router Unit) (c : Command) : (r.carryOut c).node = r.node := by
  rw [carryOut_eq]

theorem map_carryOut (r : Router Unit) (c : Command) : (r.carryOut c).map = r.map := by
  rw [carryOut_eq]

theorem routes_carryOut (r : Router Unit) (c : Command) : (r.carryOut c).routes = r.routes := by
  rw [carryOut_eq]

end NumaFabric.Router
