import NumaFabric.Ingress.Pool

namespace NumaFabric

def buffers : Supply (List UInt8) := ⟨fun _ => [], fun _ => []⟩

abbrev BufferPool := Pool buffers

namespace BufferPool

def new (maxIdle : Nat) : BufferPool := Pool.new maxIdle

theorem acquire_fst (p : BufferPool) : p.acquire.1 = [] := by
  cases h : p.idle with
  | nil => exact (Pool.acquire_of_none h).1
  | cons b rest =>
    rw [(Pool.acquire_of_idle h).1]
    obtain ⟨a, hreset⟩ := p.idle_reset b (h ▸ List.mem_cons_self)
    exact hreset

/-- Buffers are asked for in advance, so some numbers of them are too large for any machine. -/
def idleLimit : Nat := UInt64.size / 2 / 24 + 1

def byteLimit : Nat := UInt64.size / 2

def limitMessage : String := "capacity overflow"

def debugText (b : List UInt8) : String :=
  "PoolItem \x7b value: Some([" ++ ", ".intercalate (b.map fun x => toString x.toNat) ++ "]) \x7d"

end BufferPool

end NumaFabric
