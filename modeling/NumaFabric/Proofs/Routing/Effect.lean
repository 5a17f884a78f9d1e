import Mathlib.Logic.ExistsUnique
import NumaFabric.Proofs.Routing.Attempt

namespace NumaFabric

open NumaFabric.Wire

namespace Router

variable {φ : Type}

/-- Why a command is refused before anything is done, in the order in which causes are looked
for. -/
inductive Refused (r : Router φ) (c : Command) : RouteError → Prop
  | invalidPayload : c.LacksValue → Refused r c .invalidPayload
  | unmapped : ¬ c.LacksValue → r.map.owner? c.destination = none →
      Refused r c (.unmappedAddress c.destination)
  | noRoute {owner : NodeId} : ¬ c.LacksValue → r.map.owner? c.destination = some owner →
      owner ≠ r.node → r.routes.get? owner = none → Refused r c (.routeNotFound owner)

def StaysHere (r : Router φ) (c : Command) : Prop :=
  ¬ c.LacksValue ∧ r.map.owner? c.destination = some r.node

def GoesTo (r : Router φ) (c : Command) (owner : NodeId) (address : IpAddress) : Prop :=
  ¬ c.LacksValue ∧ r.map.owner? c.destination = some owner ∧ owner ≠ r.node ∧
    r.routes.get? owner = some address

theorem refused_or_staysHere_or_goesTo (r : Router φ) (c : Command) :
    (∃ e, r.Refused c e) ∨ r.StaysHere c ∨ ∃ owner address, r.GoesTo c owner address := by
  by_cases hvalue : c.LacksValue
  · exact .inl ⟨_, .invalidPayload hvalue⟩
  · cases howner : r.map.owner? c.destination with
    | none => exact .inl ⟨_, .unmapped hvalue howner⟩
    | some owner =>
        by_cases hhere : owner = r.node
        · subst hhere
          exact .inr (.inl ⟨hvalue, howner⟩)
        · cases hroute : r.routes.get? owner with
          | none => exact .inl ⟨_, .noRoute hvalue howner hhere hroute⟩
          | some address => exact .inr (.inr ⟨owner, address, hvalue, howner, hhere, hroute⟩)

theorem StaysHere.not_refused {r : Router φ} {c : Command} (h : r.StaysHere c) (e : RouteError) :
    ¬ r.Refused c e := by
  obtain ⟨hvalue, howner⟩ := h
  rintro (hlacks | ⟨-, hnone⟩ | ⟨-, hother, hne, -⟩)
  · exact hvalue hlacks
  · rw [howner] at hnone
    cases hnone
  · exact hne (Option.some.inj (hother.symm.trans howner))

theorem GoesTo.not_refused {r : Router φ} {c : Command} {owner : NodeId} {address : IpAddress}
    (h : r.GoesTo c owner address) (e : RouteError) : ¬ r.Refused c e := by
  obtain ⟨hvalue, howner, -, hroute⟩ := h
  rintro (hlacks | ⟨-, hnone⟩ | ⟨-, hother, -, hmissing⟩)
  · exact hvalue hlacks
  · rw [howner] at hnone
    cases hnone
  · obtain rfl := Option.some.inj (hother.symm.trans howner)
    rw [hroute] at hmissing
    cases hmissing

theorem GoesTo.not_staysHere {r : Router φ} {c : Command} {owner : NodeId} {address : IpAddress}
    (h : r.GoesTo c owner address) : ¬ r.StaysHere c := by
  rintro ⟨-, hhere⟩
  exact h.2.2.1 (Option.some.inj (h.2.1.symm.trans hhere))

theorem route_of_not_lacksValue (forward : Forward φ) (r : Router φ) {c : Command}
    (h : ¬ c.LacksValue) :
    r.route forward c =
      match r.map.owner? c.destination with
      | none => (.error (.unmappedAddress c.destination), r)
      | some owner =>
        if owner = r.node then
          match r.applyHere c with
          | (.ok (), r) => (.ok (.here owner), r)
          | (.error e, r) => (.error e, r)
        else r.forwardTo forward owner c :=
  if_neg h

theorem route_of_refused (forward : Forward φ) {r : Router φ} {c : Command} {e : RouteError}
    (h : r.Refused c e) : r.route forward c = (.error e, r) := by
  cases h with
  | invalidPayload hlacks => exact if_pos hlacks
  | unmapped hvalue hnone =>
      rw [route_of_not_lacksValue forward r hvalue]
      simp only [hnone]
  | noRoute hvalue howner hne hmissing =>
      rw [route_of_not_lacksValue forward r hvalue]
      simp only [howner, if_neg hne, forwardTo, hmissing]

theorem route_of_staysHere (forward : Forward φ) {r : Router φ} {c : Command}
    (h : r.StaysHere c) :
    r.route forward c =
      ((r.applyHere c).1.map fun _ => .here r.node, (r.applyHere c).2) := by
  rw [route_of_not_lacksValue forward r h.1]
  simp only [h.2, if_true]
  obtain ⟨e | u, r'⟩ := r.applyHere c <;> rfl

def answerAway (owner : NodeId) (address : IpAddress) :
    Except TransferError Unit → Except RouteError RouteOutcome
  | .ok () => .ok (.forwarded owner address)
  | .error e => .error (.transfer owner e)

theorem route_of_goesTo (forward : Forward φ) {r : Router φ} {c : Command} {owner : NodeId}
    {address : IpAddress} (h : r.GoesTo c owner address) :
    r.route forward c =
      (answerAway owner address (forward owner address c.withFreshChecksum r.links).1,
        { r with links := (forward owner address c.withFreshChecksum r.links).2 }) := by
  rw [route_of_not_lacksValue forward r h.1]
  simp only [h.2.1, if_neg h.2.2.1, forwardTo, h.2.2.2]
  obtain ⟨e | u, links⟩ := forward owner address c.withFreshChecksum r.links <;> rfl

end Router

structure Sending where
  owner : NodeId
  address : IpAddress
  command : Command
deriving DecidableEq

/-- The same links with a record of their uses. -/
def Forward.logged {φ : Type} (forward : Forward φ) : Forward (φ × List Sending) :=
  fun owner address c (links, log) =>
    let (result, links) := forward owner address c links
    (result, links, log ++ [⟨owner, address, c⟩])

inductive RouteCase where
  | refused
  | here
  | away
deriving DecidableEq

namespace Router

variable {φ : Type}

/-- What a router has answered and done to a command in each case. Whatever is not named there is as
before. -/
def HasEffect (forward : Forward φ) (r : Router (φ × List Sending)) (c : Command)
    (done : Except RouteError RouteOutcome × Router (φ × List Sending)) : RouteCase → Prop
  | .refused => ∃ e, r.Refused c e ∧ done = (.error e, r)
  | .here => r.StaysHere c ∧ ∃ calls answer memory, r.Applied c memory calls answer ∧
      done = (answer.map fun _ => .here r.node, { r with memory })
  | .away => ∃ owner address, r.GoesTo c owner address ∧
      let sent := forward owner address c.withFreshChecksum r.links.1
      done = (answerAway owner address sent.1,
        { r with links := (sent.2, r.links.2 ++ [⟨owner, address, c.withFreshChecksum⟩]) })

/-- Exactly one of three things becomes of a command. -/
theorem existsUnique_effect (forward : Forward φ) (r : Router (φ × List Sending)) (c : Command)
    (hm : r.memory.space.Reachable) (hc : c.payload.length < 2 ^ 32)
    (hretry : r.retry.NeverOverflows) :
    ∃! k, r.HasEffect forward c (r.route forward.logged c) k := by
  rcases r.refused_or_staysHere_or_goesTo c with ⟨e, he⟩ | hhere | ⟨owner, address, haway⟩
  · refine ⟨.refused, ⟨e, he, route_of_refused forward.logged he⟩, ?_⟩
    rintro (_ | _ | _) hk
    · rfl
    · exact absurd he (hk.1.not_refused e)
    · obtain ⟨owner, address, hgoes, -⟩ := hk
      exact absurd he (hgoes.not_refused e)
  · obtain ⟨calls, answer, memory, hrun, happlied⟩ := exists_applied r hc hm.sound hretry
    refine ⟨.here, ⟨hhere, calls, answer, memory, happlied, ?_⟩, ?_⟩
    · rw [route_of_staysHere forward.logged hhere, hrun]
    · rintro (_ | _ | _) hk
      · obtain ⟨e, he, -⟩ := hk
        exact absurd he (hhere.not_refused e)
      · rfl
      · obtain ⟨owner, address, hgoes, -⟩ := hk
        exact absurd hhere hgoes.not_staysHere
  · refine ⟨.away, ⟨owner, address, haway, route_of_goesTo forward.logged haway⟩, ?_⟩
    rintro (_ | _ | _) hk
    · obtain ⟨e, he, -⟩ := hk
      exact absurd he (haway.not_refused e)
    · exact absurd hk.1 haway.not_staysHere
    · rfl

def busyTwice : Router (Unit × List Sending) where
  node := 1
  map := (OrderedMap.empty.insert 0x1000 ⟨0x1000, 16, 1⟩).insert 0x1010 ⟨0x1010, 16, 2⟩
  routes := OrderedMap.empty.insert 2 (.v4 ⟨10, 0, 0, 2⟩)
  memory := { LocalMemory.of (AddressSpace.ofRegion ⟨0x1000, 16⟩) with faults := 2 }
  retry := .localMemory
  links := ((), [])

def takeAll : Forward Unit := fun _ _ _ _ => (.ok (), ())

theorem existsUnique_effect_busyTwice :
    busyTwice.memory.space.Reachable ∧ (Command.copy 0x1004 [7, 8]).payload.length < 2 ^ 32 ∧
      busyTwice.retry.NeverOverflows ∧
      (busyTwice.route takeAll.logged (Command.copy 0x1004 [7, 8])).1 = .ok (.here 1) ∧
      (busyTwice.route takeAll.logged (Command.copy 0x1004 [7, 8])).2.memory.calls = 3 ∧
      ∃! k, busyTwice.HasEffect takeAll (Command.copy 0x1004 [7, 8])
        (busyTwice.route takeAll.logged (Command.copy 0x1004 [7, 8])) k := by
  have hspace : busyTwice.memory.space.Reachable :=
    AddressSpace.reachable_ofRegion (by decide) (by decide)
  have hretry : busyTwice.retry.NeverOverflows := Retry.Policy.neverOverflows_linear (by decide)
  refine ⟨hspace, by decide, hretry, rfl, rfl, ?_⟩
  exact existsUnique_effect takeAll busyTwice _ hspace (by decide) hretry

end Router

end NumaFabric
