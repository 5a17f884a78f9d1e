import NumaFabric.Proofs.Memory.Contents
import NumaFabric.Proofs.Runs.Transcript
/-!
Runs of a node's memory that nobody holds. Main statement: an access succeeds exactly if its range
begins and stays in a live region, and what is read is what was written last.
-/

namespace NumaFabric

/-- An access at `x` finds the region. The last address of the space is in no region. -/
def Region.Covers (r : Region) (x : Address) : Prop := r.base.toNat ≤ x.toNat ∧ x.toNat < r.stop

instance (r : Region) (x : Address) : Decidable (r.Covers x) := inferInstanceAs (Decidable (_ ∧ _))

namespace AddressSpace

inductive Call where
  | map (base : Address) (size : UInt64)
  | unmap (base : Address)
  | copyIn (a : Address) (data : List UInt8)
  | fill (a : Address) (length : Nat) (value : UInt8)
  | read (a : Address) (length : Nat)
deriving DecidableEq

inductive Reply where
  | mapped (region : Region)
  | unmapped (region : Option Region)
  | done
  | bytes (data : List UInt8)
  | refused (cause : MapError)
  | failed (cause : MemoryError)
deriving DecidableEq

def Reply.IsFailure : Reply → Prop
  | refused _ | failed _ => True
  | _ => False

/-- The reply to a write and the memory after it, which is the one before if the write failed. -/
def conclude (m : AddressSpace) : Except MemoryError AddressSpace → Reply × AddressSpace
  | .ok m' => (.done, m')
  | .error e => (.failed e, m)

def perform (m : AddressSpace) : Call → Reply × AddressSpace
  | .map base size =>
    match m.map base size with
    | .ok (region, m') => (.mapped region, m')
    | .error e => (.refused e, m)
  | .unmap base => (.unmapped (m.unmap base).1, (m.unmap base).2)
  | .copyIn a data => m.conclude (m.write a data)
  | .fill a length value => m.conclude (m.fill a length value)
  | .read a length =>
    match m.read a length with
    | .ok data => (.bytes data, m)
    | .error e => (.failed e, m)

def Call.written? : Call → Option (Address × List UInt8)
  | copyIn a data => some (a, data)
  | fill a length value => some (a, List.replicate length value)
  | _ => none

def Call.range? : Call → Option (Address × Nat)
  | copyIn a data => some (a, data.length)
  | fill a length _ => some (a, length)
  | read a length => some (a, length)
  | _ => none

/-! What the calls so far say about regions and bytes. -/

/-- The region was mapped, and not unmapped since. -/
def Live (log : List (Call × Reply)) (region : Region) : Prop :=
  ∃ before after, log = before ++ (.map region.base region.size, .mapped region) :: after ∧
    ∀ e ∈ after, e.1 ≠ .unmap region.base

/-- What one call says about the byte at `x`: a new region holds zeros. -/
def byteOf? (x : Address) : Call × Reply → Option UInt8
  | (_, .mapped region) => if region.Covers x then some 0 else none
  | (call, .done) =>
    call.written?.bind fun (a, data) =>
      if a.toNat ≤ x.toNat then data[x.toNat - a.toNat]? else none
  | _ => none

/-- The byte that was written last at `x` since its region was mapped, or zero. -/
def lastByte (log : List (Call × Reply)) (x : Address) : UInt8 :=
  (log.reverse.findSome? (byteOf? x)).getD 0

/-- The range begins in a live region and does not leave it. -/
def Fits (log : List (Call × Reply)) (a : Address) (length : Nat) : Prop :=
  ∃ region, Live log region ∧ region.Covers a ∧ a.toNat + length ≤ region.stop

theorem not_live_nil (region : Region) : ¬ Live [] region := by
  rintro ⟨before, after, hlog, -⟩
  simp at hlog

theorem live_concat_iff {log : List (Call × Reply)} {e : Call × Reply} {region : Region} :
    Live (log ++ [e]) region ↔
      e = (.map region.base region.size, .mapped region) ∨
        (Live log region ∧ e.1 ≠ .unmap region.base) := by
  constructor
  · rintro ⟨before, after, hlog, hkept⟩
    rcases List.eq_nil_or_concat after with rfl | ⟨after, e', rfl⟩
    · left
      exact List.singleton_inj.mp (List.append_inj' hlog rfl).2
    · right
      rw [List.concat_eq_append] at hlog hkept
      rw [← List.cons_append, ← List.append_assoc] at hlog
      obtain ⟨rfl, he⟩ := List.append_inj' hlog rfl
      obtain rfl := List.singleton_inj.mp he
      refine ⟨⟨before, after, rfl, ?_⟩, hkept e (by simp)⟩
      intro e' hin
      exact hkept e' (List.mem_append_left _ hin)
  · rintro (rfl | ⟨⟨before, after, rfl, hkept⟩, hlast⟩)
    · exact ⟨log, [], rfl, by simp⟩
    · refine ⟨before, after ++ [e], by simp, ?_⟩
      intro e' hin
      rcases List.mem_append.mp hin with hin | hin
      · exact hkept e' hin
      · rw [List.mem_singleton.mp hin]
        exact hlast

theorem lastByte_concat (log : List (Call × Reply)) (e : Call × Reply) (x : Address) :
    lastByte (log ++ [e]) x = (byteOf? x e).getD (lastByte log x) := by
  rw [lastByte, List.reverse_append, List.reverse_singleton, List.singleton_append,
    List.findSome?_cons]
  cases byteOf? x e with
  | none => rfl
  | some b => rfl

/-! What succeeds. -/

theorem exists_of_map_eq_ok {m m' : AddressSpace} {base : Address} {size : UInt64}
    {region : Region} (h : m.map base size = .ok (region, m')) :
    region = ⟨base, size⟩ ∧ m' = m.insert base (HostRegion.zeroed ⟨base, size⟩) ∧ size ≠ 0 ∧
      ∀ r ∈ m.values, ¬ (base.toNat < r.region.stop ∧
        r.region.base.toNat < (Region.mk base size).stop) := by
  unfold map at h
  dsimp only at h
  split at h
  · cases h
  · rename_i hfree
    simp only [Bool.or_eq_true, beq_iff_eq, not_or, List.any_eq_true, Bool.and_eq_true,
      decide_eq_true_eq, not_exists, not_and] at hfree
    split at h
    · cases h
    · cases h
      refine ⟨rfl, rfl, hfree.2, ?_⟩
      rintro r hr ⟨hbase, hstop⟩
      exact hfree.1 r hr hbase hstop

theorem read_eq_ok_iff {m : AddressSpace} {a : Address} {length : Nat} {data : List UInt8} :
    m.read a length = .ok data ↔
      ∃ r, m.regionFor? a = some r ∧ r.region.Contains a length ∧
        data = (r.bytes.drop (r.offset a)).take length := by
  cases hf : m.find a with
  | error e =>
      have hnone : ∀ r, m.regionFor? a ≠ some r := by
        intro r hr
        rw [find_eq_ok_iff.mpr hr] at hf
        cases hf
      simp [read, hf, bind, Except.bind, hnone]
  | ok r =>
      simp only [read, hf, bind, Except.bind, HostRegion.read, find_eq_ok_iff.mp hf]
      split
      · rename_i hin
        simp [hin, eq_comm]
      · rename_i hout
        simp [hout]

theorem fill_eq_ok_iff {m m' : AddressSpace} {a : Address} {length : Nat} {value : UInt8} :
    m.fill a length value = .ok m' ↔ m.write a (List.replicate length value) = .ok m' := by
  rw [fill_eq_write]

theorem regionFor?_eq_some_iff {m : AddressSpace} (hm : m.Sound) {a : Address} {r : HostRegion} :
    m.regionFor? a = some r ↔ r ∈ m.values ∧ r.region.Covers a := by
  constructor
  · intro h
    obtain ⟨k, hfloor, hstop⟩ := regionFor?_eq_some h
    obtain ⟨hget, hle, -⟩ := m.floor?_word_eq_some_iff.mp hfloor
    refine ⟨m.mem_values_iff.mpr ⟨k, hget⟩, ?_, hstop⟩
    rw [hm.base_eq k r hget]
    exact hle
  · rintro ⟨hr, hbase, hstop⟩
    obtain ⟨k, hget⟩ := m.mem_values_iff.mp hr
    have hfloor : m.floor? a = some (k, r) :=
      hm.floor?_eq_some (fun w => le_rangeEnd w.region.base w.region.size) hget hbase hstop
    simp [regionFor?, hfloor, hstop]

theorem byte?_of_covers {m : AddressSpace} (hm : m.Sound) {r : HostRegion} (hr : r ∈ m.values)
    {x : Address} (hx : r.region.Covers x) : m.byte? x = r.bytes[r.offset x]? := by
  obtain ⟨k, hget⟩ := m.mem_values_iff.mp hr
  have hfloor : m.floor? x = some (k, r) :=
    hm.floor?_eq_some (fun w => le_rangeEnd w.region.base w.region.size) hget hx.1 hx.2
  rw [byte?, hfloor]
  rfl

theorem perform_cases (m : AddressSpace) (call : Call) :
    ((m.perform call).2 = m ∧ (∀ x, byteOf? x (call, (m.perform call).1) = none) ∧
      (∀ region, (m.perform call).1 ≠ .mapped region) ∧ ∀ base, call ≠ .unmap base) ∨
    (∃ base size m', call = .map base size ∧ m.map base size = .ok (⟨base, size⟩, m') ∧
      m.perform call = (.mapped ⟨base, size⟩, m')) ∨
    (∃ base, call = .unmap base ∧
      m.perform call = (.unmapped (m.unmap base).1, m.erase base)) ∨
    ∃ a data m', call.written? = some (a, data) ∧ m.write a data = .ok m' ∧
      m.perform call = (.done, m') := by
  cases call with
  | map base size =>
      cases h : m.map base size with
      | error e => exact .inl (by simp [perform, h, byteOf?])
      | ok result =>
          obtain ⟨region, m'⟩ := result
          obtain ⟨rfl, -⟩ := exists_of_map_eq_ok h
          exact .inr (.inl ⟨base, size, m', rfl, h, by simp only [perform, h]⟩)
  | unmap base => exact .inr (.inr (.inl ⟨base, rfl, rfl⟩))
  | copyIn a data =>
      cases h : m.write a data with
      | error e => exact .inl (by simp [perform, h, conclude, byteOf?])
      | ok m' =>
          exact .inr (.inr (.inr ⟨a, data, m', rfl, h, by simp only [perform, h, conclude]⟩))
  | fill a length value =>
      cases h : m.fill a length value with
      | error e => exact .inl (by simp [perform, h, conclude, byteOf?])
      | ok m' =>
          refine .inr (.inr (.inr ⟨a, _, m', rfl, fill_eq_ok_iff.mp h, ?_⟩))
          simp only [perform, h, conclude]
  | read a length =>
      cases h : m.read a length with
      | error e => exact .inl (by simp [perform, h, byteOf?])
      | ok data => exact .inl (by simp [perform, h, byteOf?])

/-! Runs. -/

structure Agrees (log : List (Call × Reply)) (m : AddressSpace) : Prop where
  sound : m.Sound
  free : ∀ r ∈ m.values, r.held = false
  /-- A region at the last address can be lost to another one there, but no access finds either. -/
  live_iff : ∀ region : Region, region.base.toNat < region.stop →
    (region ∈ m.regions ↔ Live log region)
  bytes : ∀ x, (∃ region ∈ m.regions, region.Covers x) → m.byte? x = some (lastByte log x)

theorem agrees_empty : Agrees [] .empty where
  sound := OrderedMap.separated_empty
  free r hr := by cases hr
  live_iff region _ := by
    refine iff_of_false ?_ (not_live_nil region)
    intro hin
    cases hin
  bytes x hx := by
    obtain ⟨region, hin, -⟩ := hx
    cases hin

section Steps

variable {log : List (Call × Reply)} {m m' : AddressSpace} (h : Agrees log m)
include h

theorem Agrees.map {base : Address} {size : UInt64}
    (hok : m.map base size = .ok (⟨base, size⟩, m')) :
    Agrees (log ++ [(.map base size, .mapped ⟨base, size⟩)]) m' := by
  have hsound : m'.Sound := sound_of_map h.sound hok
  obtain ⟨-, rfl, hsize, hfree⟩ := exists_of_map_eq_ok hok
  have hvalues (r : HostRegion) :
      r ∈ (OrderedMap.insert m base (HostRegion.zeroed ⟨base, size⟩)).values ↔
        r = HostRegion.zeroed ⟨base, size⟩ ∨ (r ∈ m.values ∧ r.region.base ≠ base) :=
    h.sound.mem_values_insert_iff (v := HostRegion.zeroed ⟨base, size⟩)
  refine ⟨hsound, ?_, ?_, ?_⟩
  · intro r hr
    rcases (hvalues r).mp hr with rfl | ⟨hr, -⟩
    · rfl
    · exact h.free r hr
  · intro region hne
    -- where a region is found there is no room for another one
    have hbase : region ∈ m.regions → region.base ≠ base := by
      rintro hin rfl
      obtain ⟨r, hr, rfl⟩ := List.mem_map.mp hin
      have hpos : 0 < size.toNat := UInt64.lt_iff_toNat_lt.mp (UInt64.pos_iff_ne_zero.mpr hsize)
      refine hfree r hr ⟨hne, ?_⟩
      simp only [Region.stop, rangeEnd] at hne ⊢
      omega
    rw [live_concat_iff, ← h.live_iff region hne]
    simp only [regions, List.mem_map, hvalues]
    constructor
    · rintro ⟨r, rfl | ⟨hr, -⟩, rfl⟩
      · exact .inl rfl
      · exact .inr ⟨⟨r, hr, rfl⟩, by simp⟩
    · rintro (heq | ⟨⟨r, hr, rfl⟩, -⟩)
      · simp only [Prod.mk.injEq, Reply.mapped.injEq] at heq
        exact ⟨_, .inl rfl, heq.2⟩
      · exact ⟨r, .inr ⟨hr, hbase (List.mem_map.mpr ⟨r, hr, rfl⟩)⟩, rfl⟩
  · rintro x ⟨region, hin, hx⟩
    obtain ⟨r, hr, rfl⟩ := List.mem_map.mp hin
    rw [byte?_of_covers hsound hr hx, lastByte_concat]
    rcases (hvalues r).mp hr with rfl | ⟨hold, hne⟩
    · have hlt : x.toNat - base.toNat < size.toNat := by
        have := (HostRegion.zeroed ⟨base, size⟩).region.stop_le
        have := hx.1
        have := hx.2
        simp only [HostRegion.zeroed] at *
        omega
      have hcovers : (Region.mk base size).Covers x := hx
      simp only [byteOf?, if_pos hcovers, Option.getD_some]
      simp only [HostRegion.zeroed, HostRegion.offset]
      rw [List.getElem?_replicate_of_lt hlt]
    · have hout : ¬ (Region.mk base size).Covers x := by
        intro hnew
        obtain ⟨hbase, hstop⟩ := hx
        obtain ⟨hbase', hstop'⟩ := hnew
        refine hfree r hold ⟨Nat.lt_of_le_of_lt hbase' hstop, Nat.lt_of_le_of_lt hbase hstop'⟩
      simp only [byteOf?, if_neg hout, Option.getD_none]
      rw [← byte?_of_covers h.sound hold hx]
      exact h.bytes x ⟨r.region, List.mem_map.mpr ⟨r, hold, rfl⟩, hx⟩

theorem Agrees.unmap (base : Address) (region? : Option Region) :
    Agrees (log ++ [(.unmap base, .unmapped region?)]) (m.erase base) := by
  have hsound : Sound (m.erase base) := h.sound.erase base
  have hvalues (r : HostRegion) : r ∈ (OrderedMap.erase m base).values ↔
      r ∈ m.values ∧ r.region.base ≠ base := h.sound.mem_values_erase_iff
  refine ⟨hsound, ?_, ?_, ?_⟩
  · intro r hr
    exact h.free r ((hvalues r).mp hr).1
  · intro region hne
    rw [live_concat_iff, ← h.live_iff region hne]
    simp only [regions, List.mem_map, hvalues]
    constructor
    · rintro ⟨r, ⟨hr, hbase⟩, rfl⟩
      exact .inr ⟨⟨r, hr, rfl⟩, by simpa using Ne.symm hbase⟩
    · rintro (heq | ⟨⟨r, hr, rfl⟩, hbase⟩)
      · simp at heq
      · exact ⟨r, ⟨hr, by simpa using Ne.symm hbase⟩, rfl⟩
  · rintro x ⟨region, hin, hx⟩
    obtain ⟨r, hr, rfl⟩ := List.mem_map.mp hin
    have hold := ((hvalues r).mp hr).1
    rw [byte?_of_covers hsound hr hx, ← byte?_of_covers h.sound hold hx, lastByte_concat]
    exact h.bytes x ⟨r.region, List.mem_map.mpr ⟨r, hold, rfl⟩, hx⟩

theorem Agrees.write {call : Call} {a : Address} {data : List UInt8}
    (hcall : call.written? = some (a, data)) (hok : m.write a data = .ok m') :
    Agrees (log ++ [(call, .done)]) m' := by
  have hwrote := wrote_of_write h.sound hok
  have hkind (base : Address) (size : UInt64) : call ≠ .map base size ∧ call ≠ .unmap base := by
    constructor <;> rintro rfl <;> cases hcall
  refine ⟨sound_of_write h.sound hok, ?_, ?_, ?_⟩
  · intro r hr
    have hin : r.held ∈ m'.values.map HostRegion.held := List.mem_map.mpr ⟨r, hr, rfl⟩
    rw [hwrote.held] at hin
    obtain ⟨r₀, hr₀, hheld⟩ := List.mem_map.mp hin
    rw [← hheld]
    exact h.free r₀ hr₀
  · intro region hne
    rw [hwrote.regions, live_concat_iff, h.live_iff region hne]
    simp [hkind region.base region.size]
  · rintro x hx
    rw [hwrote.regions] at hx
    rw [hwrote.bytes x, lastByte_concat, h.bytes x hx]
    simp only [byteOf?, hcall, Option.bind_some]
    by_cases hle : a.toNat ≤ x.toNat
    · by_cases hlt : x.toNat < a.toNat + data.length
      · have hindex : x.toNat - a.toNat < data.length := by omega
        simp [hle, hlt, List.getElem?_eq_getElem hindex]
      · have hindex : data.length ≤ x.toNat - a.toNat := by omega
        simp [hle, hlt, List.getElem?_eq_none hindex]
    · simp [hle]

theorem Agrees.told {call : Call} {reply : Reply} (hbytes : ∀ x, byteOf? x (call, reply) = none)
    (hmapped : ∀ region, reply ≠ .mapped region) (hunmap : ∀ base, call ≠ .unmap base) :
    Agrees (log ++ [(call, reply)]) m where
  sound := h.sound
  free := h.free
  live_iff region hne := by
    rw [live_concat_iff, h.live_iff region hne]
    simp [hmapped, hunmap]
  bytes x hx := by
    rw [lastByte_concat, hbytes, h.bytes x hx]
    rfl

end Steps

theorem Agrees.perform {log : List (Call × Reply)} {m : AddressSpace} (h : Agrees log m)
    (call : Call) : Agrees (log ++ [(call, (m.perform call).1)]) (m.perform call).2 := by
  obtain ⟨hsame, hbytes, hmapped, hunmap⟩ | ⟨base, size, m', rfl, hok, hp⟩ | ⟨base, rfl, hp⟩ |
    ⟨a, data, m', hcall, hok, hp⟩ := m.perform_cases call
  · rw [hsame]
    exact h.told hbytes hmapped hunmap
  · rw [hp]
    exact h.map hok
  · rw [hp]
    exact h.unmap base _
  · rw [hp]
    exact h.write hcall hok

section Agrees

variable {log : List (Call × Reply)} {m m' : AddressSpace} (h : Agrees log m)
include h

theorem Agrees.fits_iff {a : Address} {length : Nat} :
    Fits log a length ↔ ∃ r, m.regionFor? a = some r ∧ r.region.Contains a length := by
  simp only [regionFor?_eq_some_iff h.sound]
  constructor
  · rintro ⟨region, hlive, hcovers, hlength⟩
    have hne : region.base.toNat < region.stop := Nat.lt_of_le_of_lt hcovers.1 hcovers.2
    obtain ⟨r, hr, rfl⟩ := List.mem_map.mp ((h.live_iff region hne).mpr hlive)
    exact ⟨r, ⟨hr, hcovers⟩, hcovers.1, hlength⟩
  · rintro ⟨r, ⟨hr, hcovers⟩, hin⟩
    have hne : r.region.base.toNat < r.region.stop := Nat.lt_of_le_of_lt hcovers.1 hcovers.2
    have hlive := (h.live_iff r.region hne).mp (List.mem_map.mpr ⟨r, hr, rfl⟩)
    exact ⟨r.region, hlive, hcovers, hin.2⟩

theorem Agrees.exists_write_eq_ok_iff (a : Address) (data : List UInt8) :
    (∃ m', m.write a data = .ok m') ↔ Fits log a data.length := by
  rw [h.fits_iff]
  constructor
  · rintro ⟨m', hok⟩
    obtain ⟨r, hr, -, hin, -⟩ := write_eq_ok_iff.mp hok
    exact ⟨r, hr, hin⟩
  · rintro ⟨r, hr, hin⟩
    have hheld := h.free r ((regionFor?_eq_some_iff h.sound).mp hr).1
    exact ⟨_, write_eq_ok_iff.mpr ⟨r, hr, hheld, hin, rfl⟩⟩

theorem Agrees.not_isFailure_iff {call : Call} {a : Address} {length : Nat}
    (hcall : call.range? = some (a, length)) :
    ¬ (m.perform call).1.IsFailure ↔ Fits log a length := by
  cases call with
  | map base size => cases hcall
  | unmap base => cases hcall
  | copyIn a data =>
      cases hcall
      rw [← h.exists_write_eq_ok_iff]
      cases hw : m.write a data <;> simp [AddressSpace.perform, conclude, Reply.IsFailure, hw]
  | fill a length value =>
      cases hcall
      have hfits := h.exists_write_eq_ok_iff a (List.replicate length value)
      simp only [← fill_eq_ok_iff, List.length_replicate] at hfits
      rw [← hfits]
      cases hw : m.fill a length value <;>
        simp [AddressSpace.perform, conclude, Reply.IsFailure, hw]
  | read a length =>
      cases hcall
      have hfits : (∃ data, m.read a length = .ok data) ↔ Fits log a length := by
        simp [h.fits_iff, read_eq_ok_iff]
      rw [← hfits]
      cases hw : m.read a length <;> simp [AddressSpace.perform, Reply.IsFailure, hw]

theorem Agrees.getElem?_of_read {a : Address} {length : Nat} {data : List UInt8}
    (hok : m.read a length = .ok data) {x : Address} (hle : a.toNat ≤ x.toNat)
    (hlt : x.toNat < a.toNat + length) : data[x.toNat - a.toNat]? = some (lastByte log x) := by
  obtain ⟨r, hr, hin, rfl⟩ := read_eq_ok_iff.mp hok
  obtain ⟨hvalue, hcovers⟩ := (regionFor?_eq_some_iff h.sound).mp hr
  have hx : r.region.Covers x := ⟨Nat.le_trans hcovers.1 hle, Nat.lt_of_lt_of_le hlt hin.2⟩
  have hindex : r.offset a + (x.toNat - a.toNat) = r.offset x := by
    have := hcovers.1
    simp only [HostRegion.offset]
    omega
  rw [List.getElem?_take_of_lt (by omega), List.getElem?_drop, hindex,
    ← byte?_of_covers h.sound hvalue hx]
  exact h.bytes x ⟨r.region, List.mem_map.mpr ⟨r, hvalue, rfl⟩, hx⟩

end Agrees

theorem offset_add_length_le (r : HostRegion) {a : Address} {length : Nat}
    (h : r.region.Contains a length) : r.offset a + length ≤ r.bytes.length := by
  rw [r.length_bytes]
  exact h.offset_add_le

theorem length_of_read {m : AddressSpace} {a : Address} {length : Nat} {data : List UInt8}
    (hok : m.read a length = .ok data) : data.length = length := by
  obtain ⟨r, -, hin, rfl⟩ := read_eq_ok_iff.mp hok
  have := offset_add_length_le r hin
  rw [List.length_take, List.length_drop]
  omega

theorem exists_get?_of_write {m m' : AddressSpace} (hm : m.Sound) {a : Address}
    {data : List UInt8} (hok : m.write a data = .ok m') {base : Address} {r : HostRegion}
    (hr : m.get? base = some r) :
    ∃ r', m'.get? base = some r' ∧ r'.region = r.region ∧
      ∀ i, ¬ (a.toNat ≤ base.toNat + i ∧ base.toNat + i < a.toNat + data.length) →
        r'.bytes[i]? = r.bytes[i]? := by
  obtain ⟨r₀, hr₀, -, hin, rfl⟩ := write_eq_ok_iff.mp hok
  have hget₀ := get?_base_of_regionFor? hm hr₀
  by_cases hbase : base = r₀.region.base
  · subst hbase
    obtain rfl : r₀ = r := Option.some.inj (hget₀.symm.trans hr)
    refine ⟨r₀.overwrite a data hin, OrderedMap.get?_insert_self .., rfl, fun i hi => ?_⟩
    have hle := hin.1
    rw [getElem?_bytes_overwrite, if_neg]
    simp only [HostRegion.offset]
    omega
  · exact ⟨r, (OrderedMap.get?_insert_of_ne m _ (Ne.symm hbase)).trans hr, rfl, fun _ _ => rfl⟩

theorem write_of_done {m : AddressSpace} {call : Call} {a : Address} {data : List UInt8}
    (hcall : call.written? = some (a, data)) (hdone : (m.perform call).1 = .done) :
    m.write a data = .ok (m.perform call).2 := by
  cases call with
  | map base size => cases hcall
  | unmap base => cases hcall
  | copyIn a data =>
      cases hcall
      cases hw : m.write a data with
      | error e => simp [perform, conclude, hw] at hdone
      | ok m' => simp [perform, conclude, hw]
  | fill a length value =>
      cases hcall
      rw [← fill_eq_ok_iff]
      cases hw : m.fill a length value with
      | error e => simp [perform, conclude, hw] at hdone
      | ok m' => simp [perform, conclude, hw]
  | read a length => cases hcall

theorem read_of_bytes {m : AddressSpace} {a : Address} {length : Nat} {data : List UInt8}
    (hbytes : (m.perform (.read a length)).1 = .bytes data) : m.read a length = .ok data := by
  cases hr : m.read a length with
  | error e => simp [perform, hr] at hbytes
  | ok data' => simpa [perform, hr] using hbytes

theorem perform_of_isFailure {m : AddressSpace} {call : Call}
    (h : (m.perform call).1.IsFailure) : (m.perform call).2 = m := by
  obtain ⟨hsame, -⟩ | ⟨_, _, _, -, -, hp⟩ | ⟨_, -, hp⟩ | ⟨_, _, _, -, -, hp⟩ := m.perform_cases call
  · exact hsame
  · simp [hp, Reply.IsFailure] at h
  · simp [hp, Reply.IsFailure] at h
  · simp [hp, Reply.IsFailure] at h

/-- What holds of memory after the calls of `log`. -/
structure Accurate (log : List (Call × Reply)) (m : AddressSpace) : Prop where
  succeeds_iff : ∀ call a length, call.range? = some (a, length) →
    (¬ (m.perform call).1.IsFailure ↔ Fits log a length)
  inside : ∀ call a length, call.range? = some (a, length) → ¬ (m.perform call).1.IsFailure →
    ∃ r, m.regionFor? a = some r ∧ r.region.base.toNat ≤ a.toNat ∧
      r.offset a + length ≤ r.bytes.length
  read_eq : ∀ a length data, (m.perform (.read a length)).1 = .bytes data →
    data.length = length ∧ ∀ x : Address, a.toNat ≤ x.toNat → x.toNat < a.toNat + length →
      data[x.toNat - a.toNat]? = some (lastByte log x)
  failed_unchanged : ∀ call, (m.perform call).1.IsFailure → (m.perform call).2 = m
  outside_unchanged : ∀ call a data, call.written? = some (a, data) →
    (m.perform call).1 = .done → (m.perform call).2.regions = m.regions ∧
      ∀ base r, m.get? base = some r →
        ∃ r', (m.perform call).2.get? base = some r' ∧ r'.region = r.region ∧
          ∀ i, ¬ (a.toNat ≤ base.toNat + i ∧ base.toNat + i < a.toNat + data.length) →
            r'.bytes[i]? = r.bytes[i]?

theorem accurate_after (calls : List Call) :
    Accurate (Machine.log perform .empty calls) (Machine.after perform .empty calls) := by
  have hagrees : Agrees (Machine.log perform .empty calls) (Machine.after perform .empty calls) :=
    Machine.invariant perform agrees_empty (fun _ _ call h => h.perform call) calls
  generalize Machine.after perform .empty calls = m at hagrees ⊢
  constructor
  case succeeds_iff =>
    intro call a length hcall
    exact hagrees.not_isFailure_iff hcall
  case inside =>
    intro call a length hcall hdone
    obtain ⟨r, hr, hin⟩ := hagrees.fits_iff.mp ((hagrees.not_isFailure_iff hcall).mp hdone)
    exact ⟨r, hr, hin.1, offset_add_length_le r hin⟩
  case read_eq =>
    intro a length data hbytes
    have hok := read_of_bytes hbytes
    refine ⟨length_of_read hok, ?_⟩
    intro x hle hlt
    exact hagrees.getElem?_of_read hok hle hlt
  case failed_unchanged =>
    intro call hfailed
    exact perform_of_isFailure hfailed
  case outside_unchanged =>
    intro call a data hcall hdone
    have hok := write_of_done hcall hdone
    refine ⟨(wrote_of_write hagrees.sound hok).regions, ?_⟩
    intro base r hr
    exact exists_get?_of_write hagrees.sound hok hr

example :
    (Machine.log perform .empty [.map 16 4, .copyIn 17 [1, 2], .unmap 16, .map 16 4, .fill 18 2 7,
      .read 16 4, .read 18 3, .read 20 0]).map (·.2) =
      [.mapped ⟨16, 4⟩, .done, .unmapped (some ⟨16, 4⟩), .mapped ⟨16, 4⟩, .done,
        .bytes [0, 0, 7, 7], .failed (.outOfBounds 18 3 16 20), .failed (.unmapped 20)] := by
  decide

end AddressSpace

end NumaFabric
