import NumaFabric.Ingress.Dispatcher
import NumaFabric.Cluster
import NumaFabric.Proofs.Routing.Effect

namespace NumaFabric.Strict

open NumaFabric.Wire

/-- The bytes from one place on up to another, which lie in order in the string. -/
def slice? (bytes : List UInt8) (start stop : Nat) : Option (List UInt8) :=
  if start ≤ stop ∧ stop ≤ bytes.length then some ((bytes.drop start).take (stop - start)) else none

def sum? (a b : Nat) : Option Nat := if a + b < UInt64.size then some (a + b) else none

def difference? (a b : Nat) : Option Nat := if b ≤ a then some (a - b) else none

theorem slice?_eq (bytes : List UInt8) {start stop : Nat} (hle : start ≤ stop)
    (hstop : stop ≤ bytes.length) :
    slice? bytes start stop = some ((bytes.drop start).take (stop - start)) :=
  if_pos ⟨hle, hstop⟩

theorem sum?_eq {a b : Nat} (h : a + b < UInt64.size) : sum? a b = some (a + b) := if_pos h

theorem difference?_eq {a b : Nat} (h : b ≤ a) : difference? a b = some (a - b) := if_pos h

def decodeHeader (bytes : List UInt8) : Option (Except CodecError Header) :=
  if bytes.length < headerLength then some (.error (.headerTooShort bytes.length))
  else do
    let header ← slice? bytes 0 headerLength
    let code ← header[0]?
    match Operation.ofCode? code with
    | none => some (.error (.unknownOperation code))
    | some operation =>
      let destination ← slice? header 1 9
      let dataSize ← slice? header 9 13
      some (.ok ⟨operation, UInt64.ofNat (ofLittleEndian destination),
        UInt32.ofNat (ofLittleEndian dataSize)⟩)

def decodeFramed (bytes : List UInt8) : Option (Except CodecError Command) := do
  match ← decodeHeader bytes with
  | .error e => some (.error e)
  | .ok header =>
    let payloadEnd ← sum? headerLength header.dataSize.toNat
    let frameEnd ← sum? payloadEnd checksumLength
    if bytes.length < frameEnd then some (.error (.sizeMismatch frameEnd bytes.length))
    else
      let payload ← slice? bytes headerLength payloadEnd
      let trailer ← slice? bytes payloadEnd frameEnd
      let expected := UInt32.ofNat (ofLittleEndian trailer)
      let actual := checksum payload
      if expected = actual then
        some (.ok ⟨header.operation, header.destination, expected, payload⟩)
      else some (.error (.checksumMismatch expected actual))

theorem slice?_take_eq {bytes : List UInt8} {n : Nat} (hn : n ≤ bytes.length) {start stop : Nat}
    (hle : start ≤ stop) (hstop : stop ≤ n) :
    slice? (bytes.take n) start stop = some ((bytes.drop start).take (stop - start)) := by
  have hlength : (bytes.take n).length = n := List.length_take_of_le hn
  rw [slice?_eq _ hle (hlength.symm ▸ hstop), List.drop_take, List.take_take,
    Nat.min_eq_left (by omega)]

theorem decodeHeader_eq (bytes : List UInt8) :
    decodeHeader bytes = some (Wire.decodeHeader bytes) := by
  unfold decodeHeader Wire.decodeHeader
  split
  · rfl
  · rename_i hlong
    have hlong : headerLength ≤ bytes.length := Nat.not_lt.mp hlong
    have hheader : slice? bytes 0 headerLength = some (bytes.take headerLength) :=
      slice?_eq bytes (Nat.zero_le _) hlong
    have hcode : (bytes.take headerLength)[0]? = some (bytes.headD 0) := by
      cases bytes with
      | nil => cases hlong
      | cons code rest => rfl
    have hdestination : slice? (bytes.take headerLength) 1 9 = some ((bytes.drop 1).take 8) :=
      slice?_take_eq hlong (by decide) (by decide)
    have hdataSize : slice? (bytes.take headerLength) 9 13 = some ((bytes.drop 9).take 4) :=
      slice?_take_eq hlong (by decide) (by decide)
    simp only [hheader, hcode, hdestination, hdataSize, Option.bind_eq_bind, Option.bind_some]
    cases Operation.ofCode? (bytes.headD 0) <;> rfl

theorem decodeFramed_eq (bytes : List UInt8) :
    decodeFramed bytes = some (Wire.decodeFramed bytes) := by
  unfold decodeFramed
  rw [decodeHeader_eq, Option.bind_eq_bind, Option.bind_some]
  cases hheader : Wire.decodeHeader bytes with
  | error e => simp [Wire.decodeFramed, hheader, bind, Except.bind]
  | ok header =>
      have hsize := header.dataSize.toNat_lt
      have hend : sum? headerLength header.dataSize.toNat =
          some (headerLength + header.dataSize.toNat) :=
        sum?_eq (by simp only [headerLength, UInt64.size]; omega)
      have hframe : sum? (headerLength + header.dataSize.toNat) checksumLength =
          some (headerLength + header.dataSize.toNat + checksumLength) :=
        sum?_eq (by simp only [headerLength, checksumLength, UInt64.size]; omega)
      rw [Wire.decodeFramed_of_decodeHeader hheader]
      simp only [hend, hframe, Option.bind_eq_bind, Option.bind_some]
      split
      · rfl
      · rename_i hlong
        have hpayload := slice?_eq bytes (Nat.le_add_right headerLength header.dataSize.toNat)
          (by omega)
        have htrailer := slice?_eq bytes
          (Nat.le_add_right (headerLength + header.dataSize.toNat) checksumLength) (by omega)
        simp only [hpayload, htrailer, Option.bind_some, Nat.add_sub_cancel_left]
        split <;> rfl

def write (m : AddressSpace) (a : Address) (data : List UInt8) :
    Option (Except MemoryError AddressSpace) :=
  match m.find a with
  | .error e => some (.error e)
  | .ok r =>
    if h : r.region.Contains a data.length then
      if r.held then some (.error (.busy r.region.base))
      else do
        let offset ← difference? a.toNat r.region.base.toNat
        let stop ← sum? offset data.length
        let range ← slice? r.bytes offset stop
        -- bytes are copied between ranges of one length
        if range.length = data.length then
          some (.ok (m.insert r.region.base (r.overwrite a data h)))
        else none
    else some (.error (r.outside a data.length))

def fill (m : AddressSpace) (a : Address) (length : Nat) (value : UInt8) :
    Option (Except MemoryError AddressSpace) :=
  match m.find a with
  | .error e => some (.error e)
  | .ok r =>
    match r.grant a length with
    | .error e => some (.error e)
    | .ok () => write m a (List.replicate length value)

def call (m : LocalMemory) (op : AddressSpace → Option (Except MemoryError AddressSpace)) :
    Option (Except MemoryError Unit × LocalMemory) :=
  if m.faults > 0 then
    some (.error (.busy m.faultBase),
      { m with calls := m.calls + 1, faults := m.faults - 1 })
  else do
    match ← op m.space with
    | .ok space => some (.ok (), { m with space, calls := m.calls + 1 })
    | .error e => some (.error e, { m with calls := m.calls + 1 })

def attempt (c : Command) (m : LocalMemory) : Option (Except MemoryError Unit × LocalMemory) :=
  match c.operation with
  | .copy => call m fun space => write space c.destination c.payload
  | .set => do
    let value ← c.payload[0]?
    call m fun space => fill space c.destination c.dataSize.toNat value

theorem write_eq (m : AddressSpace) (a : Address) (data : List UInt8) :
    write m a data = some (m.write a data) := by
  unfold write AddressSpace.write
  cases m.find a with
  | error e => rfl
  | ok r =>
      by_cases hcontains : r.region.Contains a data.length
      · cases hheld : r.held with
        | true => simp [hcontains, hheld, bind, Except.bind, throw, throwThe, MonadExceptOf.throw]
        | false =>
            have hfits := hcontains.offset_add_le
            have hbytes := r.length_bytes
            have hsize := r.region.size.toNat_lt
            have hstop : sum? (a.toNat - r.region.base.toNat) data.length =
                some (a.toNat - r.region.base.toNat + data.length) :=
              sum?_eq (by simp only [UInt64.size]; omega)
            have hrange := slice?_eq r.bytes
              (Nat.le_add_right (a.toNat - r.region.base.toNat) data.length) (by omega)
            have hlength : (List.take data.length
                (List.drop (a.toNat - r.region.base.toNat) r.bytes)).length = data.length := by
              rw [List.length_take, List.length_drop]
              omega
            simp [hcontains, hheld, difference?_eq hcontains.1, hstop, hrange, hlength, bind,
              Except.bind, pure, Except.pure]
      · simp [hcontains, bind, Except.bind, throw, throwThe, MonadExceptOf.throw]

theorem fill_eq (m : AddressSpace) (a : Address) (length : Nat) (value : UInt8) :
    fill m a length value = some (m.fill a length value) := by
  unfold fill AddressSpace.fill
  cases m.find a with
  | error e => rfl
  | ok r =>
      cases hgrant : r.grant a length with
      | error e => simp [hgrant, bind, Except.bind]
      | ok _ => simp [hgrant, bind, Except.bind, write_eq]

theorem call_eq {op : AddressSpace → Option (Except MemoryError AddressSpace)}
    {op' : AddressSpace → Except MemoryError AddressSpace} (h : ∀ space, op space = some (op' space))
    (m : LocalMemory) : call m op = some (m.call op') := by
  unfold call LocalMemory.call
  split
  · rfl
  · rw [h, Option.bind_eq_bind, Option.bind_some]
    cases op' m.space <;> rfl

theorem attempt_eq {c : Command} (h : ¬ c.LacksValue) (m : LocalMemory) :
    attempt c m = some (Router.attempt c m) := by
  unfold attempt Router.attempt
  cases hop : c.operation with
  | copy => exact call_eq (fun space => write_eq space c.destination c.payload) m
  | set =>
      cases hpayload : c.payload with
      | nil => exact absurd ⟨hop, hpayload⟩ h
      | cons value rest =>
          exact call_eq (fun space => fill_eq space c.destination c.dataSize.toNat value) m

section

variable {φ : Type}

/-- What an attempt gives, with nothing as the error of a step out of bounds. -/
def attemptOr (c : Command) : Retry.Operation LocalMemory (Option MemoryError) Unit := fun _ m =>
  match attempt c m with
  | none => (.error none, m)
  | some (result, m) => (result.mapError some, m)

def applyHere (r : Router φ) (c : Command) : Option (Except RouteError Unit × Router φ) :=
  let (outcome, memory) :=
    Retry.run r.retry (·.any MemoryError.isTransient) (attemptOr c) r.memory
  let r := { r with memory }
  match outcome with
  | .ok () => some (.ok (), r)
  | .permanent _ (some e) => some (.error (.memory e), r)
  | .exhausted attempts (some e) => some (.error (.retriesExhausted attempts e), r)
  | .permanent _ none | .exhausted _ none | .delayOverflow _ => none

def route (forward : Forward φ) (r : Router φ) (c : Command) :
    Option (Except RouteError RouteOutcome × Router φ) :=
  if c.LacksValue then some (.error .invalidPayload, r)
  else
    match r.map.owner? c.destination with
    | none => some (.error (.unmappedAddress c.destination), r)
    | some owner =>
      if owner = r.node then do
        match ← applyHere r c with
        | (.ok (), r) => some (.ok (.here owner), r)
        | (.error e, r) => some (.error e, r)
      else some (r.forwardTo forward owner c)

theorem applyHere_eq (r : Router φ) {c : Command} (hvalue : ¬ c.LacksValue)
    (hretry : r.retry.NeverOverflows) : applyHere r c = some (r.applyHere c) := by
  have hattempt (n : Nat) (m : LocalMemory) : attemptOr c n m =
      ((Router.attempt c m).1.mapError some, (Router.attempt c m).2) := by
    unfold attemptOr
    rw [attempt_eq hvalue]
  have htransient (e : MemoryError) :
      (some e).any MemoryError.isTransient = MemoryError.isTransient e := rfl
  have hrun := Retry.run_mapError htransient hattempt r.retry r.memory
  have hends := Retry.run_ne_delayOverflow hretry MemoryError.isTransient
    (fun _ => Router.attempt c) r.memory
  unfold applyHere
  rw [Router.applyHere_eq, hrun]
  generalize Retry.run r.retry MemoryError.isTransient (fun _ => Router.attempt c) r.memory = ran
    at hends
  obtain ⟨_ | _ | _ | attempt, memory⟩ := ran
  case delayOverflow => exact absurd rfl (hends attempt)
  all_goals rfl

/-- Every step of routing a command is in bounds. -/
theorem route_eq (forward : Forward φ) (r : Router φ) (c : Command)
    (hretry : r.retry.NeverOverflows) : route forward r c = some (r.route forward c) := by
  unfold route
  by_cases hvalue : c.LacksValue
  · rw [if_pos hvalue]
    exact congrArg some (Router.route_of_refused forward (.invalidPayload hvalue)).symm
  · rw [if_neg hvalue, Router.route_of_not_lacksValue forward r hvalue]
    cases r.map.owner? c.destination with
    | none => rfl
    | some owner =>
        by_cases hhere : owner = r.node
        · simp only [if_pos hhere, applyHere_eq r hvalue hretry, Option.bind_eq_bind,
            Option.bind_some]
          obtain ⟨e | _, r'⟩ := r.applyHere c <;> rfl
        · simp only [if_neg hhere]

end

end NumaFabric.Strict
