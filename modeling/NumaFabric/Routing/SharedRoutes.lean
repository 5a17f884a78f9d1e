import NumaFabric.Routing.RouteTable

namespace NumaFabric

structure Snapshot where
  place : Nat
deriving DecidableEq

structure SharedRoutes where
  tables : List RouteTable
  current : Nat
  current_lt : current < tables.length

namespace SharedRoutes

def ofTable (t : RouteTable) : SharedRoutes := ⟨[t], 0, Nat.zero_lt_one⟩

def table (s : SharedRoutes) : RouteTable := s.tables.get ⟨s.current, s.current_lt⟩

def lookup (s : SharedRoutes) (node : NodeId) : Option IpAddress := s.table.get? node

def size (s : SharedRoutes) : Nat := s.table.size

def snapshot (s : SharedRoutes) : Snapshot := ⟨s.current⟩

def read? (s : SharedRoutes) (snapshot : Snapshot) : Option RouteTable :=
  s.tables[snapshot.place]?

def replace (s : SharedRoutes) (new : RouteTable) : SharedRoutes where
  tables := s.tables ++ [new]
  current := s.tables.length
  current_lt := by simp

/-- Reads a file again and puts its table in force; if that fails nothing changes. -/
def reload (s : SharedRoutes) (file : Option String) :
    Except RouteTableError Unit × SharedRoutes :=
  match s.table.reload file with
  | (.ok (), new) => (.ok (), s.replace new)
  | (.error e, _) => (.error e, s)

theorem read?_snapshot (s : SharedRoutes) : s.read? s.snapshot = some s.table :=
  List.getElem?_eq_getElem s.current_lt

@[simp] theorem table_replace (s : SharedRoutes) (new : RouteTable) :
    (s.replace new).table = new := by
  simp [table, replace]

theorem read?_replace_of_some {s : SharedRoutes} {snapshot : Snapshot} {t : RouteTable}
    (h : s.read? snapshot = some t) (new : RouteTable) :
    (s.replace new).read? snapshot = some t := by
  have hlt := (List.getElem?_eq_some_iff.mp h).1
  exact (List.getElem?_append_left hlt).trans h

end SharedRoutes

end NumaFabric
