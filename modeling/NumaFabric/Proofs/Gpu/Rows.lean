import NumaFabric.Proofs.Gpu.Grants
import NumaFabric.Proofs.Runs.Sequences
import NumaFabric.Proofs.Text.Numerals

namespace NumaFabric.Inventory

open NumaFabric.Text

variable {field : List Char} {number n bound : Nat} {text : String} {gpus : List Gpu} {g : Gpu}
  {e : InventoryError}

/-- A size in MiB: a number, or a marker of an unknown size, which counts as zero. -/
inductive IsSize : List Char → Nat → Prop
  | number {sign digits : List Char} {n : Nat} (hsign : sign = [] ∨ sign = ['+'])
      (hdigits : Writes digits n) : IsSize (sign ++ digits) n
  | marked : IsSize "N/A".toList 0
  | bracketed : IsSize "[N/A]".toList 0

theorem isSize_iff : IsSize field n ↔ unsigned? (n + 1) field = some n ∨
    n = 0 ∧ (field = "[N/A]".toList ∨ field = "N/A".toList) := by
  rw [unsigned?_eq_some_iff]
  constructor
  · rintro (⟨hsign, hdigits⟩ | - | -)
    · exact .inl ⟨_, _, hsign, hdigits, Nat.lt_succ_self n, rfl⟩
    · exact .inr ⟨rfl, .inr rfl⟩
    · exact .inr ⟨rfl, .inl rfl⟩
  · rintro (⟨sign, digits, hsign, hdigits, -, rfl⟩ | ⟨rfl, rfl | rfl⟩)
    · exact .number hsign hdigits
    · exact .bracketed
    · exact .marked

theorem not_marker_of_unsigned? (h : unsigned? bound field = some n) :
    ¬ (field = "[N/A]".toList ∨ field = "N/A".toList) := by
  rintro (rfl | rfl)
  · cases h
  · cases h

theorem IsSize.unique {m : Nat} (hm : IsSize field m) (hn : IsSize field n) : m = n := by
  rcases isSize_iff.mp hm with hread | ⟨rfl, hmarker⟩
  · rcases isSize_iff.mp hn with hread' | ⟨-, hmarker⟩
    · rw [unsigned?] at hread hread'
      have hdigits := (Option.filter_eq_some_iff.mp hread).1
      rw [(Option.filter_eq_some_iff.mp hread').1] at hdigits
      exact (Option.some.inj hdigits).symm
    · exact absurd hmarker (not_marker_of_unsigned? hread)
  · rcases isSize_iff.mp hn with hread' | ⟨rfl, -⟩
    · exact absurd hmarker (not_marker_of_unsigned? hread')
    · rfl

theorem memory_of_isSize (h : IsSize field n) (hn : n * 2 ^ 20 < 2 ^ 64) :
    memory number field = .ok (UInt64.ofNat (n * mib)) := by
  cases h with
  | @number sign digits n hsign hdigits =>
      have hsize : n < UInt64.size := by
        rw [UInt64.size]
        omega
      have hread : unsigned? UInt64.size (sign ++ digits) = some n :=
        unsigned?_eq_some_iff.mpr ⟨sign, digits, hsign, hdigits, hsize, rfl⟩
      rw [memory, if_neg (not_marker_of_unsigned? hread), hread]
  | marked => rfl
  | bracketed => rfl

theorem memory_of_not_isSize (h : ¬ ∃ n, IsSize field n) :
    memory number field = .error (.invalidMemory number (String.ofList field)) := by
  have hmarker : ¬ (field = "[N/A]".toList ∨ field = "N/A".toList) := by
    rintro (rfl | rfl)
    · exact h ⟨0, .bracketed⟩
    · exact h ⟨0, .marked⟩
  rw [memory, if_neg hmarker]
  cases hread : unsigned? UInt64.size field with
  | none => rfl
  | some n =>
      obtain ⟨sign, digits, hsign, hdigits, -, rfl⟩ := unsigned?_eq_some_iff.mp hread
      exact absurd ⟨n, .number hsign hdigits⟩ h

theorem toNat_ofNat_mul_mib (hn : n * 2 ^ 20 < 2 ^ 64) :
    (UInt64.ofNat (n * mib)).toNat = n * 2 ^ 20 :=
  UInt64.toNat_ofNat_of_lt' hn

/-- A line with four fields or more, each without the blanks around it. -/
structure Row where
  number : Nat
  uuid : String
  name : String
  total : List Char
  free : List Char

def row? (number : Nat) (s : List Char) : Option Row :=
  match (s.splitOn ',').map trim with
  | uuid :: name :: total :: free :: _ =>
    some ⟨number, String.ofList uuid, String.ofList name, total, free⟩
  | _ => none

def rowsFrom (number : Nat) (ss : List (List Char)) : List Row :=
  (ss.zipIdx number).filterMap fun p => row? p.2 p.1

def rows (text : String) : List Row := rowsFrom 1 (lines text.toList)

namespace Row

variable {r : Row}

def Sized (r : Row) : Prop := (∃ n, IsSize r.total n) ∧ ∃ n, IsSize r.free n

inductive Offends (r : Row) : List Char → Prop
  | total (htotal : ¬ ∃ n, IsSize r.total n) : Offends r r.total
  | free (htotal : ∃ n, IsSize r.total n) (hfree : ¬ ∃ n, IsSize r.free n) : Offends r r.free

/-- A size has less bytes than a word counts. -/
def Fits (r : Row) : Prop := ∀ n, IsSize r.total n ∨ IsSize r.free n → n * 2 ^ 20 < 2 ^ 64

structure Describes (r : Row) (g : Gpu) : Prop where
  uuid : g.uuid = r.uuid
  name : g.name = r.name
  total : ∃ n, IsSize r.total n ∧ g.totalMemory.toNat = n * 2 ^ 20
  free : ∃ n, IsSize r.free n ∧ g.freeMemory.toNat = n * 2 ^ 20
  ownership : g.ownership = .free

def gpu (r : Row) : Except InventoryError Gpu := do
  let total ← memory r.number r.total
  let free ← memory r.number r.free
  return Gpu.of r.uuid r.name total free

theorem fits_of_isSize {m : Nat} (hm : IsSize r.total m) (hn : IsSize r.free n)
    (hmfits : m * 2 ^ 20 < 2 ^ 64) (hnfits : n * 2 ^ 20 < 2 ^ 64) : r.Fits := by
  rintro k (hk | hk)
  · exact hm.unique hk ▸ hmfits
  · exact hn.unique hk ▸ hnfits

theorem exists_gpu_eq_ok (hsized : r.Sized) (hfits : r.Fits) :
    ∃ g, r.gpu = .ok g ∧ r.Describes g := by
  obtain ⟨⟨m, hm⟩, n, hn⟩ := hsized
  have hmfits := hfits m (.inl hm)
  have hnfits := hfits n (.inr hn)
  refine ⟨Gpu.of r.uuid r.name (UInt64.ofNat (m * mib)) (UInt64.ofNat (n * mib)), ?_, rfl, rfl,
    ⟨m, hm, toNat_ofNat_mul_mib hmfits⟩, ⟨n, hn, toNat_ofNat_mul_mib hnfits⟩, rfl⟩
  rw [gpu, memory_of_isSize hm hmfits, memory_of_isSize hn hnfits]
  rfl

theorem gpu_eq_error_iff (hfits : r.Fits) : r.gpu = .error e ↔
    ∃ field, r.Offends field ∧ e = .invalidMemory r.number (String.ofList field) := by
  by_cases htotal : ∃ n, IsSize r.total n
  · by_cases hfree : ∃ n, IsSize r.free n
    · obtain ⟨g, hg, -⟩ := exists_gpu_eq_ok ⟨htotal, hfree⟩ hfits
      rw [hg]
      refine iff_of_false nofun ?_
      rintro ⟨_, ⟨hnot⟩ | ⟨-, hnot⟩, -⟩
      · exact hnot htotal
      · exact hnot hfree
    · obtain ⟨n, hn⟩ := htotal
      rw [gpu, memory_of_isSize hn (hfits n (.inl hn)), memory_of_not_isSize hfree]
      constructor
      · intro h
        cases h
        exact ⟨_, .free ⟨n, hn⟩ hfree, rfl⟩
      · rintro ⟨_, ⟨hnot⟩ | ⟨-, -⟩, rfl⟩
        · exact absurd ⟨n, hn⟩ hnot
        · rfl
  · rw [gpu, memory_of_not_isSize htotal]
    constructor
    · intro h
      cases h
      exact ⟨_, .total htotal, rfl⟩
    · rintro ⟨_, ⟨-⟩ | ⟨hnumber, -⟩, rfl⟩
      · rfl
      · exact absurd hnumber htotal

theorem exists_gpu_eq_ok_iff (hfits : r.Fits) : (∃ g, r.gpu = .ok g) ↔ r.Sized := by
  constructor
  · rintro ⟨g, hg⟩
    have hnone (field : List Char) : ¬ r.Offends field := by
      intro hoffends
      have herror := (gpu_eq_error_iff hfits).mpr ⟨field, hoffends, rfl⟩
      rw [hg] at herror
      cases herror
    have htotal : ∃ n, IsSize r.total n := by
      by_contra hnot
      exact hnone _ (.total hnot)
    refine ⟨htotal, ?_⟩
    by_contra hnot
    exact hnone _ (.free htotal hnot)
  · intro hsized
    obtain ⟨g, hg, -⟩ := exists_gpu_eq_ok hsized hfits
    exact ⟨g, hg⟩

theorem describes_of_gpu (hfits : r.Fits) (h : r.gpu = .ok g) : r.Describes g := by
  obtain ⟨g', hg', hdescribes⟩ := exists_gpu_eq_ok ((exists_gpu_eq_ok_iff hfits).mp ⟨g, h⟩) hfits
  rw [h] at hg'
  exact Except.ok.inj hg' ▸ hdescribes

end Row

/-! All lines. -/

theorem line_eq (number : Nat) (s : List Char) :
    line number s = match row? number s with
      | some r => r.gpu.map some
      | none => .ok none := by
  rw [line, row?, splitAll_eq_splitOn]
  rcases (s.splitOn ',').map trim with _ | ⟨uuid, _ | ⟨name, _ | ⟨total, _ | ⟨free, rest⟩⟩⟩⟩
  · rfl
  · rfl
  · rfl
  · rfl
  · simp only [Row.gpu]
    cases memory number total with
    | error e => rfl
    | ok total => cases memory number free <;> rfl

theorem rowsFrom_cons (number : Nat) (s : List Char) (ss : List (List Char)) :
    rowsFrom number (s :: ss) = (row? number s).toList ++ rowsFrom (number + 1) ss := by
  rw [rowsFrom, List.zipIdx_cons, List.filterMap_cons]
  cases row? number s <;> rfl

theorem gpuLines_eq_mapM (number : Nat) (ss : List (List Char)) :
    gpuLines number ss = (rowsFrom number ss).mapM Row.gpu := by
  induction ss generalizing number with
  | nil => rfl
  | cons s ss ih =>
      rw [gpuLines, line_eq, ih, rowsFrom_cons]
      cases row? number s with
      | none =>
          rw [Option.toList_none, List.nil_append]
          cases (rowsFrom (number + 1) ss).mapM Row.gpu <;> rfl
      | some r =>
          rw [Option.toList_some, List.singleton_append, List.mapM_cons]
          dsimp only
          cases r.gpu with
          | error e => rfl
          | ok g => cases (rowsFrom (number + 1) ss).mapM Row.gpu <;> rfl

/-! Uuids that stand there again. -/

theorem repeatedUuid?_eq_some_iff {seen : List String} {uuid : String} (hseen : seen.Nodup) :
    repeatedUuid? seen gpus = some uuid ↔ ∃ before after,
      gpus.map Gpu.uuid = before ++ uuid :: after ∧ (seen ++ before).Nodup ∧
        uuid ∈ seen ++ before := by
  induction gpus generalizing seen with
  | nil => simp [repeatedUuid?]
  | cons g gpus ih =>
      rw [repeatedUuid?, List.map_cons]
      split
      · rename_i hin
        rw [List.contains_iff_mem] at hin
        constructor
        · intro h
          obtain rfl := Option.some.inj h
          exact ⟨[], gpus.map Gpu.uuid, rfl, by simpa using hseen, by simpa using hin⟩
        · rintro ⟨before, after, hgpus, hnodup, -⟩
          rcases List.cons_eq_append_iff.mp hgpus with ⟨-, hgpus⟩ | ⟨before, rfl, -⟩
          · rw [(List.cons.inj hgpus).1]
          · exact absurd rfl ((List.nodup_append.mp hnodup).2.2 _ hin _ List.mem_cons_self)
      · rename_i hnew
        rw [List.contains_iff_mem] at hnew
        rw [ih (List.nodup_cons.mpr ⟨hnew, hseen⟩)]
        -- a new uuid goes from the list that is left to those that were seen
        have hperm (before : List String) :
            (g.uuid :: seen ++ before).Perm (seen ++ g.uuid :: before) := List.perm_middle.symm
        constructor
        · rintro ⟨before, after, hgpus, hnodup, hin⟩
          exact ⟨g.uuid :: before, after, congrArg _ hgpus, (hperm before).nodup_iff.mp hnodup,
            (hperm before).mem_iff.mp hin⟩
        · rintro ⟨before, after, hgpus, hnodup, hin⟩
          rcases List.cons_eq_append_iff.mp hgpus with ⟨rfl, hfirst⟩ | ⟨before, rfl, hrest⟩
          · rw [(List.cons.inj hfirst).1, List.append_nil] at hin
            exact absurd hin hnew
          · exact ⟨before, after, hrest, (hperm before).nodup_iff.mpr hnodup,
              (hperm before).mem_iff.mpr hin⟩

def FirstAgain (uuid : String) (uuids : List String) : Prop :=
  ∃ before after, uuids = before ++ uuid :: after ∧ before.Nodup ∧ uuid ∈ before

theorem FirstAgain.not_nodup {uuid : String} {uuids : List String} (h : FirstAgain uuid uuids) :
    ¬ uuids.Nodup := by
  obtain ⟨before, after, rfl, -, hin⟩ := h
  intro hnodup
  exact (List.nodup_append.mp hnodup).2.2 uuid hin uuid List.mem_cons_self rfl

theorem repeatedUuid?_nil_eq_some_iff {uuid : String} :
    repeatedUuid? [] gpus = some uuid ↔ FirstAgain uuid (gpus.map Gpu.uuid) :=
  repeatedUuid?_eq_some_iff List.nodup_nil

theorem rejectDuplicates_eq_error_iff : rejectDuplicates gpus = .error e ↔
    ∃ uuid, FirstAgain uuid (gpus.map Gpu.uuid) ∧ e = .duplicateUuid uuid := by
  simp only [← repeatedUuid?_nil_eq_some_iff]
  rw [rejectDuplicates]
  cases repeatedUuid? [] gpus with
  | none => simp
  | some uuid => simp [eq_comm]

theorem rejectDuplicates_eq_ok_iff {found : List Gpu} : rejectDuplicates found = .ok gpus ↔
    (found.map Gpu.uuid).Nodup ∧ found = gpus := by
  rw [rejectDuplicates]
  cases hrepeated : repeatedUuid? [] found with
  | none =>
      have hnodup := (nodup_of_repeatedUuid?_eq_none hrepeated).1
      simp [hnodup]
  | some uuid =>
      simp [(repeatedUuid?_nil_eq_some_iff.mp hrepeated).not_nodup]

/-! All rows. -/

/-- The first field among all rows that ought to be a size and is none. -/
def FirstOffence (rows : List Row) (number : Nat) (field : List Char) : Prop :=
  ∃ before r after, rows = before ++ r :: after ∧ (∀ r' ∈ before, r'.Sized) ∧ r.Offends field ∧
    r.number = number

section

variable {rows : List Row}

theorem exists_mapM_gpu_eq_ok_iff (hfits : ∀ r ∈ rows, r.Fits) :
    (∃ gpus, rows.mapM Row.gpu = .ok gpus) ↔ ∀ r ∈ rows, r.Sized := by
  rw [exists_mapM_eq_ok_iff]
  exact forall₂_congr fun r hr => Row.exists_gpu_eq_ok_iff (hfits r hr)

theorem describes_of_mapM_gpu (hfits : ∀ r ∈ rows, r.Fits) (h : rows.mapM Row.gpu = .ok gpus) :
    List.Forall₂ Row.Describes rows gpus := by
  rw [mapM_eq_ok_iff, ← List.forall₂_eq_eq_eq, List.forall₂_map_left_iff,
    List.forall₂_map_right_iff] at h
  have hboth := (List.forall₂_and_left rows gpus).mpr ⟨hfits, h⟩
  exact hboth.imp fun r g hg => Row.describes_of_gpu hg.1 hg.2

theorem map_uuid_of_describes (h : List.Forall₂ Row.Describes rows gpus) :
    gpus.map Gpu.uuid = rows.map Row.uuid := by
  rw [← List.forall₂_eq_eq_eq, List.forall₂_map_left_iff, List.forall₂_map_right_iff]
  exact h.flip.imp fun g r hg => hg.uuid

theorem mapM_gpu_eq_error_iff (hfits : ∀ r ∈ rows, r.Fits) : rows.mapM Row.gpu = .error e ↔
    ∃ number field, FirstOffence rows number field ∧
      e = .invalidMemory number (String.ofList field) := by
  rw [mapM_eq_error_iff]
  constructor
  · rintro ⟨before, r, after, rfl, hbefore, hr⟩
    obtain ⟨hfirst, hrest⟩ := List.forall_mem_append.mp hfits
    obtain ⟨field, hoffends, he⟩ := (Row.gpu_eq_error_iff (hrest r List.mem_cons_self)).mp hr
    refine ⟨r.number, field, ⟨before, r, after, rfl, ?_, hoffends, rfl⟩, he⟩
    exact fun r' hr' => (Row.exists_gpu_eq_ok_iff (hfirst r' hr')).mp (hbefore r' hr')
  · rintro ⟨_, field, ⟨before, r, after, rfl, hbefore, hoffends, rfl⟩, he⟩
    obtain ⟨hfirst, hrest⟩ := List.forall_mem_append.mp hfits
    refine ⟨before, r, after, rfl, ?_, ?_⟩
    · exact fun r' hr' => (Row.exists_gpu_eq_ok_iff (hfirst r' hr')).mpr (hbefore r' hr')
    · exact (Row.gpu_eq_error_iff (hrest r List.mem_cons_self)).mpr ⟨field, hoffends, he⟩

end

theorem parseCsv_eq (text : String) :
    parseCsv text = (rows text).mapM Row.gpu >>= rejectDuplicates := by
  rw [parseCsv, gpuLines_eq_mapM]
  rfl

/-- A scheduler for these GPUs lists each of them once, in the order of their uuids. -/
structure ListedOnce (gpus : List Gpu) : Prop where
  perm : ∀ enforce, (Scheduler.ofGpus gpus enforce).list.Perm (gpus.map Gpu.info)
  increasing : ∀ enforce,
    ((Scheduler.ofGpus gpus enforce).list.map GpuInfo.uuid).Pairwise (· < ·)

theorem listedOnce_of_valid (h : Valid gpus) : ListedOnce gpus := by
  constructor
  · intro enforce
    have hlist := (Scheduler.offers_ofGpus h enforce).list_perm
    have hinfo : gpus.map (fun g => g.infoUnder ((Scheduler.ofGpus gpus enforce).owner? g.uuid)) =
        gpus.map Gpu.info := by
      refine List.map_congr_left fun g hg => ?_
      rw [Scheduler.owner?_ofGpus h, Gpu.infoUnder, Gpu.info, h.free g hg]
      rfl
    rwa [hinfo] at hlist
  · intro enforce
    have hkeys : (Scheduler.ofGpus gpus enforce).list.map GpuInfo.uuid =
        (Scheduler.ofGpus gpus enforce).gpus.keys := by
      rw [Scheduler.list, OrderedMap.values, OrderedMap.keys, List.map_map, List.map_map]
      refine List.map_congr_left fun entry hentry => ?_
      have hget := ((Scheduler.ofGpus gpus enforce).gpus.mem_toList_iff).mp hentry
      exact ((Scheduler.offers_ofGpus h enforce).mem_map_uuid hget).1
    rw [hkeys, OrderedMap.keys, List.pairwise_map]
    exact (Scheduler.ofGpus gpus enforce).gpus.increasing.imp compareOfLessAndEq_eq_lt.mp

structure ReadsRows (rows : List Row) (answer : Except InventoryError (List Gpu)) : Prop where
  exists_ok_iff : (∃ gpus, answer = .ok gpus) ↔
    (∀ r ∈ rows, r.Sized) ∧ (rows.map Row.uuid).Nodup
  describes : ∀ gpus, answer = .ok gpus → List.Forall₂ Row.Describes rows gpus
  listedOnce : ∀ gpus, answer = .ok gpus → ListedOnce gpus
  error_iff : ∀ e, answer = .error e ↔
    (∃ number field, FirstOffence rows number field ∧
      e = .invalidMemory number (String.ofList field)) ∨
    (∀ r ∈ rows, r.Sized) ∧ ∃ uuid, FirstAgain uuid (rows.map Row.uuid) ∧ e = .duplicateUuid uuid

theorem readsRows_parseCsv (text : String) (hfits : ∀ r ∈ rows text, r.Fits) :
    ReadsRows (rows text) (parseCsv text) := by
  have hvalid (gpus : List Gpu) : parseCsv text = .ok gpus → Valid gpus := valid_of_parseCsv
  have hparse := parseCsv_eq text
  constructor
  case exists_ok_iff =>
    simp only [hparse, bind_eq_ok_iff, rejectDuplicates_eq_ok_iff]
    constructor
    · rintro ⟨gpus, _, hgpus, hnodup, rfl⟩
      rw [map_uuid_of_describes (describes_of_mapM_gpu hfits hgpus)] at hnodup
      exact ⟨(exists_mapM_gpu_eq_ok_iff hfits).mp ⟨_, hgpus⟩, hnodup⟩
    · rintro ⟨hsized, hnodup⟩
      obtain ⟨gpus, hgpus⟩ := (exists_mapM_gpu_eq_ok_iff hfits).mpr hsized
      rw [← map_uuid_of_describes (describes_of_mapM_gpu hfits hgpus)] at hnodup
      exact ⟨gpus, gpus, hgpus, hnodup, rfl⟩
  case describes =>
    intro gpus h
    rw [hparse, bind_eq_ok_iff] at h
    obtain ⟨found, hfound, hreject⟩ := h
    obtain ⟨-, rfl⟩ := rejectDuplicates_eq_ok_iff.mp hreject
    exact describes_of_mapM_gpu hfits hfound
  case listedOnce => exact fun gpus h => listedOnce_of_valid (hvalid gpus h)
  case error_iff =>
    intro e
    rw [hparse, bind_eq_error_iff, mapM_gpu_eq_error_iff hfits]
    refine or_congr_right ?_
    simp only [rejectDuplicates_eq_error_iff]
    constructor
    · rintro ⟨gpus, hgpus, hagain⟩
      rw [map_uuid_of_describes (describes_of_mapM_gpu hfits hgpus)] at hagain
      exact ⟨(exists_mapM_gpu_eq_ok_iff hfits).mp ⟨gpus, hgpus⟩, hagain⟩
    · rintro ⟨hsized, hagain⟩
      obtain ⟨gpus, hgpus⟩ := (exists_mapM_gpu_eq_ok_iff hfits).mpr hsized
      rw [← map_uuid_of_describes (describes_of_mapM_gpu hfits hgpus)] at hagain
      exact ⟨gpus, hgpus, hagain⟩

def pairOfRows : String := "GPU-1, V100, 2, +1\nGPU-0\n GPU-0 ,,[N/A], 0,x"

theorem readsRows_parseCsv_pairOfRows :
    (∀ r ∈ rows pairOfRows, r.Fits) ∧ ReadsRows (rows pairOfRows) (parseCsv pairOfRows) ∧
      parseCsv pairOfRows =
        .ok [Gpu.of "GPU-1" "V100" (2 * 1048576) 1048576, Gpu.of "GPU-0" "" 0 0] := by
  have hrows : rows pairOfRows =
      [⟨1, "GPU-1", "V100", ['2'], ['+', '1']⟩, ⟨3, "GPU-0", "", "[N/A]".toList, ['0']⟩] := rfl
  have hfits : ∀ r ∈ rows pairOfRows, r.Fits := by
    have htwo : IsSize ['2'] 2 := isSize_iff.mpr (.inl rfl)
    have hone : IsSize ['+', '1'] 1 := isSize_iff.mpr (.inl rfl)
    have hzero : IsSize ['0'] 0 := isSize_iff.mpr (.inl rfl)
    rw [hrows, List.forall_mem_cons, List.forall_mem_singleton]
    constructor
    · exact Row.fits_of_isSize htwo hone (by decide) (by decide)
    · exact Row.fits_of_isSize .bracketed hzero (by decide) (by decide)
  refine ⟨hfits, readsRows_parseCsv pairOfRows hfits, ?_⟩
  rw [parseCsv_eq, hrows]
  rfl

end NumaFabric.Inventory
