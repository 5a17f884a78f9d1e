import Mathlib.Data.List.ReduceOption
import NumaFabric.Numa.Topology
import NumaFabric.Proofs.Runs.Sequences
import NumaFabric.Proofs.Store.Listed
/-!
The two views of the nodes and their CPUs. Main statement: a node has the CPUs of its last listing, and
a CPU is on the node of the last listing that names it. The views say the same exactly if, for every
listing, its CPUs are named again later where its node is listed again later, and only there.
-/

namespace NumaFabric.Topology

variable {t : Topology} {node : NodeId} {cpu : Nat} {cpus : List Nat}
  {nodes : List (NodeId × List Nat)}

/-! One listing. -/

theorem get?_foldl_insert (m : OrderedMap Nat NodeId) :
    (cpus.foldl (fun m c => m.insert c node) m).get? cpu =
      if cpu ∈ cpus then some node else m.get? cpu := by
  induction cpus generalizing m with
  | nil => simp
  | cons c cpus ih =>
      rw [List.foldl_cons, ih]
      by_cases hc : c = cpu
      · subst hc
        simp
      · rw [m.get?_insert_of_ne node hc]
        simp [Ne.symm hc]

theorem nodeForCpu?_insert : (t.insert node cpus).nodeForCpu? cpu =
    if cpu ∈ cpus then some node else t.nodeForCpu? cpu :=
  get?_foldl_insert t.nodeOf

theorem cpusForNode?_insert_self : (t.insert node cpus).cpusForNode? node = some cpus :=
  t.cpusOf.get?_insert_self node cpus

theorem cpusForNode?_insert_of_ne {other : NodeId} (h : node ≠ other) :
    (t.insert node cpus).cpusForNode? other = t.cpusForNode? other :=
  t.cpusOf.get?_insert_of_ne cpus h

/-! All listings. -/

theorem ofNodes_concat (nodes : List (NodeId × List Nat)) (n : NodeId × List Nat) :
    ofNodes (nodes ++ [n]) = (ofNodes nodes).insert n.1 n.2 := by
  rw [ofNodes, List.foldl_append]
  rfl

theorem cpusForNode?_ofNodes_iff : (ofNodes nodes).cpusForNode? node = some cpus ↔
    Stands (· = (node, cpus)) (fun e => e.1 = node) nodes := by
  induction nodes using List.reverseRecOn with
  | nil => exact iff_of_false nofun not_stands_nil
  | append_singleton nodes n ih =>
      rw [ofNodes_concat, stands_concat_iff, ← ih]
      by_cases hn : n.1 = node
      · subst hn
        rw [cpusForNode?_insert_self, Option.some.injEq]
        simp [Prod.ext_iff]
      · rw [cpusForNode?_insert_of_ne hn]
        have hother : n ≠ (node, cpus) := fun h => hn (congrArg Prod.fst h)
        simp [hn, hother]

theorem nodeForCpu?_ofNodes_iff : (ofNodes nodes).nodeForCpu? cpu = some node ↔
    Stands (fun e => e.1 = node ∧ cpu ∈ e.2) (fun e => cpu ∈ e.2) nodes := by
  induction nodes using List.reverseRecOn with
  | nil => exact iff_of_false nofun not_stands_nil
  | append_singleton nodes n ih =>
      rw [ofNodes_concat, stands_concat_iff, ← ih, nodeForCpu?_insert]
      by_cases hcpu : cpu ∈ n.2 <;> simp [hcpu]

theorem isEmpty_cpusOf_ofNodes : (ofNodes nodes).cpusOf.isEmpty = true ↔ nodes = [] := by
  rcases List.eq_nil_or_concat nodes with rfl | ⟨before, n, rfl⟩
  · exact iff_of_true rfl rfl
  · refine iff_of_false (fun hempty => ?_) (by simp)
    have hlisted : ((ofNodes before).insert n.1 n.2).cpusForNode? n.1 = some n.2 :=
      cpusForNode?_insert_self
    rw [← ofNodes_concat, ← List.concat_eq_append, cpusForNode?, OrderedMap.get?,
      List.isEmpty_iff.mp hempty] at hlisted
    cases hlisted

/-! Where the views agree. -/

def Has (t : Topology) (node : NodeId) (cpu : Nat) : Prop :=
  ∃ cpus, t.cpusForNode? node = some cpus ∧ cpu ∈ cpus

/-- A CPU is on a node exactly if the node has it. -/
def Agrees (t : Topology) : Prop := ∀ node cpu, t.nodeForCpu? cpu = some node ↔ t.Has node cpu

/-- After every listing, each of its CPUs is named again exactly if its node is listed again. -/
def RelistsTogether (nodes : List (NodeId × List Nat)) : Prop :=
  ∀ before e after, nodes = before ++ e :: after → ∀ cpu ∈ e.2,
    (∃ e' ∈ after, cpu ∈ e'.2) ↔ ∃ e' ∈ after, e'.1 = e.1

theorem agrees_ofNodes (h : RelistsTogether nodes) : (ofNodes nodes).Agrees := by
  intro node cpu
  simp only [Has, nodeForCpu?_ofNodes_iff, cpusForNode?_ofNodes_iff]
  constructor
  · rintro ⟨before, e, after, hnodes, ⟨rfl, hcpu⟩, hlast⟩
    refine ⟨e.2, ⟨before, e, after, hnodes, rfl, ?_⟩, hcpu⟩
    intro e' he' hnode
    obtain ⟨e'', he'', hcpu''⟩ := (h before e after hnodes cpu hcpu).mpr ⟨e', he', hnode⟩
    exact hlast e'' he'' hcpu''
  · rintro ⟨cpus, ⟨before, e, after, hnodes, rfl, hlast⟩, hcpu⟩
    refine ⟨before, (node, cpus), after, hnodes, ⟨rfl, hcpu⟩, ?_⟩
    intro e' he' hcpu'
    obtain ⟨e'', he'', hnode⟩ := (h before _ after hnodes cpu hcpu).mp ⟨e', he', hcpu'⟩
    exact hlast e'' he'' hnode

theorem relistsTogether_of_agrees (h : (ofNodes nodes).Agrees) : RelistsTogether nodes := by
  intro before e after hnodes cpu hcpu
  have hagrees := h e.1 cpu
  simp only [Has, nodeForCpu?_ofNodes_iff, cpusForNode?_ofNodes_iff] at hagrees
  have hcut : nodes = (before ++ [e]) ++ after := by simp [hnodes]
  constructor
  · rintro ⟨e', he', hcpu'⟩
    by_contra hnone
    push Not at hnone
    -- the node has the CPUs of this listing, and the CPU must be on it
    have hon := hagrees.mpr ⟨e.2, ⟨before, e, after, hnodes, rfl, hnone⟩, hcpu⟩
    rw [hcut, stands_append_iff] at hon
    rcases hon with ⟨_, f, _, rfl, ⟨hnode, -⟩, -⟩ | ⟨-, hlast⟩
    · exact hnone f (by simp) hnode
    · exact hlast e' he' hcpu'
  · rintro ⟨e', he', hnode⟩
    by_contra hnone
    push Not at hnone
    -- the CPU is on the node of this listing, and the node must have it
    obtain ⟨cpus, hhas, hmem⟩ := hagrees.mp ⟨before, e, after, hnodes, ⟨rfl, hcpu⟩, hnone⟩
    rw [hcut, stands_append_iff] at hhas
    rcases hhas with ⟨_, f, _, rfl, rfl, -⟩ | ⟨-, hlast⟩
    · exact hnone (e.1, cpus) (by simp) hmem
    · exact hlast e' he' hnode

theorem agrees_ofNodes_iff : (ofNodes nodes).Agrees ↔ RelistsTogether nodes :=
  ⟨relistsTogether_of_agrees, agrees_ofNodes⟩

/-! The node of several CPUs. -/

theorem mem_nodesOfCpus_iff : node ∈ t.nodesOfCpus cpus ↔ ∃ c ∈ cpus, t.nodeForCpu? c = some node := by
  have hkeys (m : OrderedMap NodeId Unit) : node ∈ m.keys ↔ ∃ v, m.get? node = some v := by
    simp [OrderedMap.keys, ← OrderedMap.mem_toList_iff, OrderedMap.toList]
  rw [nodesOfCpus, hkeys, OrderedMap.exists_get?_ofList_iff]
  simp

theorem nodup_nodesOfCpus (t : Topology) (cpus : List Nat) : (t.nodesOfCpus cpus).Nodup :=
  OrderedMap.nodup_keys _

theorem nodeForCpus_eq_ok_iff_nodesOfCpus :
    t.nodeForCpus cpus = .ok node ↔ t.nodesOfCpus cpus = [node] := by
  unfold nodeForCpus
  split
  · rename_i hnone
    simp [hnone]
  · rename_i n hone
    simp [hone]
  · rename_i nodes _ hsome
    exact iff_of_false nofun fun hone => hsome node hone

theorem nodeForCpus_eq_ok_iff : t.nodeForCpus cpus = .ok node ↔
    (∀ c ∈ cpus, (∃ n, t.nodeForCpu? c = some n) → t.nodeForCpu? c = some node) ∧
      ∃ c ∈ cpus, t.nodeForCpu? c = some node := by
  rw [nodeForCpus_eq_ok_iff_nodesOfCpus, ← mem_nodesOfCpus_iff]
  constructor
  · intro hone
    refine ⟨?_, hone ▸ List.mem_singleton_self node⟩
    rintro c hc ⟨n, hn⟩
    have hin : n ∈ t.nodesOfCpus cpus := mem_nodesOfCpus_iff.mpr ⟨c, hc, hn⟩
    rw [hone, List.mem_singleton] at hin
    rwa [← hin]
  · rintro ⟨hall, hin⟩
    refine List.perm_singleton.mp ?_
    rw [List.perm_ext_iff_of_nodup (nodup_nodesOfCpus t cpus) (List.nodup_singleton node)]
    intro n
    rw [List.mem_singleton]
    constructor
    · intro hn
      obtain ⟨c, hc, hon⟩ := mem_nodesOfCpus_iff.mp hn
      exact Option.some.inj (hon.symm.trans (hall c hc ⟨n, hon⟩))
    · rintro rfl
      exact hin

/-! Directories. -/

inductive Says : String × NodeEntry → Option (NodeId × List Nat) → Prop
  | listing {name : String} {bytes : List UInt8} {node : NodeId} {text : String} {cpus : List Nat}
      (hname : nodeNumber? name = some node) (htext : Text.utf8Decode? bytes = some text)
      (hcpus : CpuList.parse (Text.trim text.toList) = .ok cpus) :
      Says (name, .listed bytes) (some (node, cpus))
  | otherName {name : String} {found : NodeEntry} (hname : nodeNumber? name = none) :
      Says (name, found) none
  | noList {name : String} : Says (name, .other) none

theorem addEntry_eq_ok_iff {t' : Topology} {entry : String × NodeEntry} :
    addEntry t entry = .ok t' ↔
      ∃ said, Says entry said ∧ t' = said.elim t fun n => t.insert n.1 n.2 := by
  obtain ⟨name, found⟩ := entry
  constructor
  · intro h
    unfold addEntry at h
    split at h
    · rename_i node bytes hname hfound
      obtain rfl : found = .listed bytes := hfound
      split at h
      · cases h
      · rename_i text htext
        split at h
        · rename_i cpus hcpus
          exact ⟨some (node, cpus), .listing hname htext hcpus, (Except.ok.inj h).symm⟩
        · cases h
    · rename_i hpassed
      refine ⟨none, ?_, (Except.ok.inj h).symm⟩
      cases hname : nodeNumber? name with
      | none => exact .otherName hname
      | some node =>
          cases found with
          | listed bytes => exact absurd rfl (hpassed node bytes hname)
          | other => exact .noList
  · rintro ⟨said, hsays, rfl⟩
    cases hsays with
    | listing hname htext hcpus => simp [addEntry, hname, htext, hcpus]
    | otherName hname => simp [addEntry, hname]
    | noList => simp [addEntry]

def Lists (entries : List (String × NodeEntry)) (nodes : List (NodeId × List Nat)) : Prop :=
  ∃ said, List.Forall₂ Says entries said ∧ nodes = said.reduceOption

theorem lists_cons_iff {entry : String × NodeEntry} {entries : List (String × NodeEntry)} :
    Lists (entry :: entries) nodes ↔
      ∃ said, Says entry said ∧ ∃ rest, Lists entries rest ∧ nodes = said.toList ++ rest := by
  simp only [Lists, List.forall₂_cons_left_iff]
  constructor
  · rintro ⟨_, ⟨said, saids, hsays, hrest, rfl⟩, rfl⟩
    refine ⟨said, hsays, saids.reduceOption, ⟨saids, hrest, rfl⟩, ?_⟩
    cases said <;> rfl
  · rintro ⟨said, hsays, _, ⟨saids, hrest, rfl⟩, rfl⟩
    refine ⟨said :: saids, ⟨said, saids, hsays, hrest, rfl⟩, ?_⟩
    cases said <;> rfl

theorem foldlM_addEntry_eq_ok_iff {t' : Topology} {entries : List (String × NodeEntry)} :
    entries.foldlM addEntry t = .ok t' ↔
      ∃ nodes, Lists entries nodes ∧ t' = nodes.foldl (fun t n => t.insert n.1 n.2) t := by
  induction entries generalizing t with
  | nil =>
      constructor
      · intro h
        exact ⟨[], ⟨[], .nil, rfl⟩, (Except.ok.inj h).symm⟩
      · rintro ⟨_, ⟨_, ⟨⟩, rfl⟩, rfl⟩
        rfl
  | cons entry entries ih =>
      simp only [List.foldlM_cons, bind_eq_ok_iff, addEntry_eq_ok_iff, ih, lists_cons_iff]
      constructor
      · rintro ⟨_, ⟨said, hsays, rfl⟩, rest, hrest, rfl⟩
        refine ⟨said.toList ++ rest, ⟨said, hsays, rest, hrest, rfl⟩, ?_⟩
        cases said <;> rfl
      · rintro ⟨_, ⟨said, hsays, rest, hrest, rfl⟩, rfl⟩
        refine ⟨_, ⟨said, hsays, rfl⟩, rest, hrest, ?_⟩
        cases said <;> rfl

theorem ofDirectory_eq_ok_iff {entries : List (String × NodeEntry)} :
    ofDirectory (some entries) = .ok t ↔
      ∃ nodes, Lists entries nodes ∧ nodes ≠ [] ∧ t = ofNodes nodes := by
  simp only [ofDirectory, bind_eq_ok_iff, foldlM_addEntry_eq_ok_iff]
  constructor
  · rintro ⟨_, ⟨nodes, hlists, rfl⟩, h⟩
    split at h
    · cases h
    · rename_i hempty
      exact ⟨nodes, hlists, mt isEmpty_cpusOf_ofNodes.mpr hempty, (Except.ok.inj h).symm⟩
  · rintro ⟨nodes, hlists, hne, rfl⟩
    refine ⟨ofNodes nodes, ⟨nodes, hlists, rfl⟩, ?_⟩
    rw [if_neg (mt isEmpty_cpusOf_ofNodes.mp hne)]
    rfl

/-- What the two views say after some listings, and when they say the same. -/
structure Views (nodes : List (NodeId × List Nat)) (t : Topology) : Prop where
  cpusForNode?_iff : ∀ node cpus, t.cpusForNode? node = some cpus ↔
    Stands (· = (node, cpus)) (fun e => e.1 = node) nodes
  nodeForCpu?_iff : ∀ cpu node, t.nodeForCpu? cpu = some node ↔
    Stands (fun e => e.1 = node ∧ cpu ∈ e.2) (fun e => cpu ∈ e.2) nodes
  agrees_iff : t.Agrees ↔ RelistsTogether nodes
  nodeForCpus_iff : ∀ cpus node, t.nodeForCpus cpus = .ok node ↔
    (∀ c ∈ cpus, (∃ n, t.nodeForCpu? c = some n) → t.nodeForCpu? c = some node) ∧
      ∃ c ∈ cpus, t.nodeForCpu? c = some node
  nodeForCpus_iff_of_agrees : t.Agrees → ∀ cpus node, t.nodeForCpus cpus = .ok node ↔
    (∀ c ∈ cpus, (∃ n, t.Has n c) → t.Has node c) ∧ ∃ c ∈ cpus, t.Has node c

theorem views_ofNodes_and_ofDirectory (nodes : List (NodeId × List Nat))
    (entries : List (String × NodeEntry)) (t : Topology) :
    Views nodes (ofNodes nodes) ∧
      (ofDirectory (some entries) = .ok t ↔
        ∃ nodes, Lists entries nodes ∧ nodes ≠ [] ∧ t = ofNodes nodes) := by
  refine ⟨⟨?_, ?_, agrees_ofNodes_iff, ?_, ?_⟩, ofDirectory_eq_ok_iff⟩
  · exact fun node cpus => cpusForNode?_ofNodes_iff
  · exact fun cpu node => nodeForCpu?_ofNodes_iff
  · exact fun cpus node => nodeForCpus_eq_ok_iff
  · intro hagrees cpus node
    rw [Agrees] at hagrees
    simp only [← hagrees]
    exact nodeForCpus_eq_ok_iff

/-- A node that is listed again keeps none of its CPUs, but they stay on it; so it is with two names
of one node in a directory, and a CPU of two nodes is on one of them only. -/
theorem not_forall_agrees :
    ¬ (∀ nodes, (ofNodes nodes).Agrees) ∧
      ¬ (∀ entries t, ofDirectory (some entries) = .ok t → t.Agrees) ∧
      ¬ ∀ nodes cpus node, (ofNodes nodes).nodeForCpus cpus = .ok node ↔
        (∀ c ∈ cpus, (∃ n, (ofNodes nodes).Has n c) → (ofNodes nodes).Has node c) ∧
          ∃ c ∈ cpus, (ofNodes nodes).Has node c := by
  have hstale : ¬ (ofNodes [(0, [1]), (0, [2])]).Has 0 1 := by
    rintro ⟨cpus, hcpus, hmem⟩
    cases hcpus
    exact absurd hmem (by decide)
  refine ⟨?_, ?_, ?_⟩
  · intro hall
    exact hstale ((hall [(0, [1]), (0, [2])] 0 1).mp rfl)
  · intro hall
    have hread : ofDirectory (some [("node0", .listed [49]), ("node00", .listed [50])]) =
        .ok (ofNodes [(0, [1]), (0, [2])]) := by
      with_unfolding_all rfl
    exact hstale ((hall _ _ hread 0 1).mp rfl)
  · intro hall
    obtain ⟨c, hc, hhas⟩ := ((hall [(0, [1]), (0, [2])] [1] 0).mp rfl).2
    rw [List.mem_singleton.mp hc] at hhas
    exact hstale hhas

end NumaFabric.Topology
