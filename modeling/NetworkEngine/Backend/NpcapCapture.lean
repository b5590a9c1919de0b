import NetworkEngine.Backend.NpcapAdapters
import NetworkEngine.Lib.Ledger
import NetworkEngine.Lib.Logged

/-!
# NpcapCapture — capture sessions and their native handles

`backend_npcap::capture` and the native calls of `backend_npcap::ffi`, on Windows.  A session keeps
at most one `pcap_t`, from a start that succeeds until the session is stopped, fails or is dropped.
What the native calls answer is an input; the calls that are made with a handle are recorded.
-/

namespace NetworkEngine.Npcap

open Rust Ledger

/-! ## 1. What the library delivers -/

structure PcapPkthdr where
  tsSec : Int64
  tsUsec : Int64
  caplen : UInt32
  len : UInt32
  deriving DecidableEq, Repr

inductive PcapReceiveStatus where
  | packet
  | timeout
  | endOfCapture
  | error
  deriving DecidableEq, Repr

def PcapReceiveStatus.fromRaw (value : Int32) : PcapReceiveStatus :=
  if value = 1 then .packet
  else if value = 0 then .timeout
  else if value = -2 then .endOfCapture
  else .error

/-- The answer of `pcap_next_ex`; a null pointer is `none`.  The data of a packet are as long as its
header says, at least. -/
structure NextEx where
  result : Int32
  header : Option PcapPkthdr
  data : Option Bytes
  length_le : result = 1 → ∀ h ∈ header, ∀ d ∈ data, h.caplen.toNat ≤ d.len
  deriving DecidableEq, Repr

/-- The answers to `open_native_handle`: the handle, `none` for a null pointer, and the result of
`pcap_setdirection`. -/
structure OpenAnswers where
  openLive : Option Nat
  setDirection : Int32
  deriving DecidableEq, Repr

/-- `SystemTime` of Windows: steps of 100 ns since 1601, in an `i64`. -/
structure SystemTime where
  intervals : Nat
  deriving DecidableEq, Repr

namespace SystemTime

def unixEpoch : SystemTime := ⟨11644473600 * 10000000⟩

def checkedAdd (t : SystemTime) (intervals : Nat) : Option SystemTime :=
  if t.intervals + intervals < 2 ^ 63 then some ⟨t.intervals + intervals⟩ else none

end SystemTime

def pcapTimestampToSystemTime (header : PcapPkthdr) : Option SystemTime := do
  if header.tsSec.toInt < 0 ∨ header.tsUsec.toInt < 0 then none
  let secs := header.tsSec.toInt.toNat
  -- `u32::try_from`
  let micros := header.tsUsec.toInt.toNat
  if 2 ^ 32 ≤ micros then none
  let t ← SystemTime.unixEpoch.checkedAdd (secs * 10000000)
  t.checkedAdd (micros * 10)

def validatePacketHeader (header : PcapPkthdr) : Except PcapReceiveStatus (Nat × Nat) :=
  let capturedLength := header.caplen.toNat
  let originalLength := header.len.toNat
  if capturedLength = 0 then .error .error
  else if originalLength = 0 then .error .error
  else if originalLength < capturedLength then .error .error
  else .ok (capturedLength, originalLength)

/-! ## 2. Packets and configurations -/

structure CapturedPacket where
  data : Bytes
  timestamp : SystemTime
  interfaceIndex : UInt32
  originalLength : Nat
  deriving DecidableEq, Repr

namespace CapturedPacket

def fromPcap (data : Bytes) (interfaceIndex : UInt32) (originalLength : Nat)
    (timestamp : SystemTime) : Option CapturedPacket :=
  if data.isEmpty ∨ interfaceIndex = 0 ∨ originalLength < data.len then none
  else some ⟨data, timestamp, interfaceIndex, originalLength⟩

def len (p : CapturedPacket) : Nat := p.data.len

def isEmpty (p : CapturedPacket) : Bool := p.data.isEmpty

end CapturedPacket

/-- Without `promiscuous` and `direction`, which only the native calls look at. -/
structure CaptureConfig where
  interfaceIndex : UInt32
  snaplen : Nat
  timeoutMs : Int32
  deriving DecidableEq, Repr

namespace CaptureConfig

def new (interfaceIndex : UInt32) : Option CaptureConfig :=
  if interfaceIndex = 0 then none else some ⟨interfaceIndex, 65535, 1000⟩

def validate (c : CaptureConfig) : Bool :=
  c.interfaceIndex ≠ 0 && 0 < c.snaplen && c.snaplen ≤ 65535 && 0 ≤ c.timeoutMs.toInt

end CaptureConfig

/-! ## 3. Sessions -/

inductive CaptureState where
  | stopped
  | starting
  | running
  | failed
  deriving DecidableEq, Repr

inductive CaptureError where
  | invalidConfiguration
  | alreadyRunning
  | notRunning
  | interfaceUnavailable
  | receiveFailed
  | invalidPacket
  deriving DecidableEq, Repr

structure CaptureSession where
  config : CaptureConfig
  state : CaptureState
  packetsReceived : UInt64
  bytesReceived : UInt64
  handle : Option Nat
  deriving DecidableEq, Repr

/-- A session next to the native calls made so far. -/
abbrev SessionOp (α : Type) := Op (Logged CaptureSession (Event Nat)) CaptureError α

namespace CaptureSession

def session : SessionOp CaptureSession := onObject getState

def update (f : CaptureSession → CaptureSession) : SessionOp Unit := onObject (modifyState f)

def isRunning (s : CaptureSession) : Bool := s.state = .running

def new (config : CaptureConfig) : Except CaptureError CaptureSession :=
  if config.validate then .ok ⟨config, .stopped, 0, 0, none⟩ else .error .invalidConfiguration

def openNativeHandle (answers : OpenAnswers) (deviceName : String) (config : CaptureConfig) :
    SessionOp Nat := do
  -- `CString::new`
  if '\x00' ∈ deviceName.toList then throw .interfaceUnavailable
  -- `i32::try_from(config.snaplen)`, then `snaplen <= 0`
  if 2 ^ 31 ≤ config.snaplen then throw .invalidConfiguration
  if config.snaplen = 0 then throw .invalidConfiguration
  match answers.openLive with
  | none => throw .interfaceUnavailable
  | some handle => do
    write (.opened handle)
    write (.used handle)
    if answers.setDirection ≠ 0 then do
      write (.closed handle)
      throw .interfaceUnavailable
    return handle

def closeNativeHandle : SessionOp Unit := do
  let s ← session
  match s.handle with
  | some handle => do
    update fun s => { s with handle := none }
    write (.closed handle)
  | none => pure ()

def start (answers : OpenAnswers) (deviceName : String) : SessionOp Unit := do
  let s ← session
  if s.state = .running then throw .alreadyRunning
  if !s.config.validate then do
    update fun s => { s with state := .failed }
    throw .invalidConfiguration
  if (trim deviceName).isEmpty then do
    update fun s => { s with state := .failed }
    throw .interfaceUnavailable
  update fun s => { s with state := .starting }
  match ← attempt (openNativeHandle answers deviceName s.config) with
  | .ok handle => update fun s => { s with handle := some handle, state := .running }
  | .error error => do
    update fun s => { s with handle := none, state := .failed }
    throw error

def stop : SessionOp Unit := do
  let s ← session
  if s.state ≠ .running then throw .notRunning
  closeNativeHandle
  update fun s => { s with state := .stopped }

def recordPacket (packet : CapturedPacket) : SessionOp Unit := do
  let s ← session
  if !s.isRunning then throw .notRunning
  if packet.isEmpty ∨ packet.interfaceIndex ≠ s.config.interfaceIndex ∨
      packet.originalLength < packet.len ∨ s.config.snaplen < packet.len then
    throw .invalidPacket
  update fun s => { s with
    packetsReceived := saturatingAdd64 s.packetsReceived 1
    bytesReceived := saturatingAdd64 s.bytesReceived (UInt64.ofNat packet.len) }

/-- The session fails and gives up its handle. -/
def receiveFailed : SessionOp (Option CapturedPacket) := do
  update fun s => { s with state := .failed }
  closeNativeHandle
  throw .receiveFailed

/-- `slice::from_raw_parts(data, length).to_vec()`. -/
def copied (data : Bytes) (length : Nat) : Bytes :=
  ⟨data.toList.take length, Nat.le_trans (List.length_take_le' ..) data.length_le⟩

def orInvalid {α : Type} : Option α → SessionOp α
  | some a => pure a
  | none => throw .invalidPacket

/-- The part of `receive_packet` behind the pointers. -/
def packetReceived (s : CaptureSession) (header : PcapPkthdr) (data : Bytes) :
    SessionOp (Option CapturedPacket) := do
  let lengths ← orInvalid (validatePacketHeader header).toOption
  if s.config.snaplen < lengths.1 then throw .invalidPacket
  let bytes := copied data lengths.1
  let timestamp ← orInvalid (pcapTimestampToSystemTime header)
  let packet ← orInvalid (CapturedPacket.fromPcap bytes s.config.interfaceIndex lengths.2 timestamp)
  recordPacket packet
  return some packet

def receivePacket (answer : NextEx) : SessionOp (Option CapturedPacket) := do
  let s ← session
  if !s.isRunning then throw .notRunning
  match s.handle with
  | none => throw .notRunning
  | some handle => do
    write (.used handle)
    match PcapReceiveStatus.fromRaw answer.result with
    | .packet =>
      match answer.header, answer.data with
      | some header, some data => packetReceived s header data
      | _, _ => receiveFailed
    | .timeout => return none
    | .endOfCapture | .error => receiveFailed

/-- `Drop`, of which only the native call is left. -/
def drop : SessionOp Unit := do
  closeNativeHandle
  update fun s => { s with state := .stopped }

/-! ## 4. What becomes of the handle -/

/-- A session has a handle exactly while it is running, and it is an open one, beside those that
`others` keep. -/
structure Owns (others : List Nat) (t : Logged CaptureSession (Event Nat)) : Prop where
  held : Held (t.1.handle.toList ++ others) t.2
  running : t.1.handle.isSome = true ↔ t.1.state = .running

/-- The session has no handle. -/
structure Idle (others : List Nat) (t : Logged CaptureSession (Event Nat)) : Prop where
  held : Held others t.2
  none : t.1.handle = none

variable {others : List Nat} {α : Type}

theorem Idle.owns {t : Logged CaptureSession (Event Nat)} (h : Idle others t)
    (hstate : t.1.state ≠ .running) : Owns others t := by
  refine ⟨?_, ?_⟩
  · rw [h.none]
    exact h.held
  · rw [h.none]
    exact iff_of_false Bool.false_ne_true hstate

theorem Owns.idle {t : Logged CaptureSession (Event Nat)} (h : Owns others t)
    (hstate : t.1.state ≠ .running) : Idle others t := by
  have hnone : t.1.handle = none :=
    Option.not_isSome_iff_eq_none.mp fun hsome => hstate (h.running.mp hsome)
  have hheld := h.held
  rw [hnone] at hheld
  exact ⟨hheld, hnone⟩

theorem closeNativeHandle_triple {epost : CaptureError → Logged CaptureSession (Event Nat) → Prop}
    (s : CaptureSession) :
    Triple (fun t => Held (t.1.handle.toList ++ others) t.2 ∧ t.1 = s) closeNativeHandle
      (fun _ t => Held others t.2 ∧ t.1 = { s with handle := none }) epost := by
  unfold closeNativeHandle
  refine Triple.readObject_bind fun s' => ?_
  cases hhandle : s'.handle with
  | none =>
    refine Triple.pure ?_
    rintro t ⟨⟨hheld, rfl⟩, rfl⟩
    rw [hhandle] at hheld
    refine ⟨hheld, ?_⟩
    rw [← hhandle]
  | some handle =>
    refine Triple.bind_with (fun _ t => Held (handle :: others) t.2 ∧
      t.1 = { s with handle := none }) (Triple.updateObject ?_) fun _ => Triple.write ?_
    · rintro t ⟨⟨hheld, rfl⟩, rfl⟩
      rw [hhandle] at hheld
      exact ⟨hheld, rfl⟩
    · rintro t ⟨hheld, hs⟩
      exact ⟨hheld.closed, hs⟩

theorem openNativeHandle_triple (answers : OpenAnswers) (deviceName : String)
    (config : CaptureConfig) :
    Triple (Idle others) (openNativeHandle answers deviceName config)
      (fun handle => Idle (handle :: others)) (fun _ => Idle others) := by
  refine Triple.reject (fun _ _ h => h) fun _ => ?_
  refine Triple.reject (fun _ _ h => h) fun _ => ?_
  refine Triple.reject (fun _ _ h => h) fun _ => ?_
  cases answers.openLive with
  | none => exact Triple.throw fun _ h => h
  | some handle =>
    refine Triple.bind_with (fun _ => Idle (handle :: others))
      (Triple.write fun t h => ⟨h.held.opened handle, h.none⟩) fun _ => ?_
    refine Triple.bind_with (fun _ => Idle (handle :: others))
      (Triple.write fun t h => ⟨h.held.used List.mem_cons_self, h.none⟩) fun _ => ?_
    refine Triple.ite (fun _ => ?_) fun _ => Triple.pure fun _ h => h
    refine Triple.bind_with (fun _ => Idle others)
      (Triple.write fun t h => ⟨h.held.closed, h.none⟩) fun _ => ?_
    exact Triple.bind (Triple.throw fun _ h => h) fun _ => Triple.unreachable

theorem start_keeps (answers : OpenAnswers) (deviceName : String) :
    Keeps (Owns others) (start answers deviceName) := by
  unfold start
  refine Triple.readObject_bind fun s => ?_
  refine Triple.reject (fun _ _ h => h.1) fun hstate => ?_
  have hfail {e : CaptureError} {f : PUnit → SessionOp Unit} :
      Triple (fun t => Owns others t ∧ t.1 = s)
        (update (fun s => { s with state := .failed }) >>= fun _ => throw e >>= f)
        (fun _ => Owns others) (fun _ => Owns others) := by
    refine Triple.bind_with (fun _ => Owns others) (Triple.updateObject ?_) fun _ =>
      Triple.bind (Triple.throw fun _ h => h) fun _ => Triple.unreachable
    intro t h
    obtain ⟨h, rfl⟩ := h
    exact Idle.owns ⟨(h.idle hstate).held, (h.idle hstate).none⟩ nofun
  refine Triple.ite (fun _ => hfail) fun _ => Triple.ite (fun _ => hfail) fun _ => ?_
  refine Triple.bind_with (fun _ => Idle others) (Triple.updateObject ?_) fun _ => ?_
  · intro t h
    obtain ⟨h, rfl⟩ := h
    exact ⟨(h.idle hstate).held, (h.idle hstate).none⟩
  refine Triple.bind (openNativeHandle_triple answers deviceName s.config).attempt fun r => ?_
  cases r with
  | ok handle =>
    refine Triple.updateObject fun t h => ⟨h.held, iff_of_true rfl rfl⟩
  | error e =>
    refine Triple.bind_with (fun _ => Owns others) (Triple.updateObject fun t h => ?_)
      fun _ => Triple.throw fun _ h => h
    exact Idle.owns ⟨h.held, rfl⟩ nofun

theorem exec_stop {s : CaptureSession} {calls : List (Event Nat)} {handle : Nat}
    (hrunning : s.state = .running) (hhandle : s.handle = some handle) :
    exec stop (s, calls) =
      (.ok (), ({ s with state := .stopped, handle := none }, calls ++ [.closed handle])) := by
  obtain ⟨config, state, packets, bytes, slot⟩ := s
  obtain rfl : state = .running := hrunning
  obtain rfl : slot = some handle := hhandle
  rfl

theorem exec_stop_error {s : CaptureSession} {calls : List (Event Nat)}
    (hstate : s.state ≠ .running) : exec stop (s, calls) = (.error .notRunning, (s, calls)) := by
  have hread : exec session (s, calls) = (.ok s, (s, calls)) := rfl
  unfold stop
  rw [exec_bind_ok hread, if_pos hstate]
  rfl

theorem stop_keeps : Keeps (Owns others) stop := by
  refine Keeps.of_run ?_
  rintro ⟨s, calls⟩ h
  by_cases hrunning : s.state = .running
  · obtain ⟨handle, hhandle⟩ := Option.isSome_iff_exists.mp (h.running.mpr hrunning)
    have hheld := h.held
    rw [hhandle] at hheld
    rw [exec_stop hrunning hhandle]
    exact ⟨hheld.closed, iff_of_false Bool.false_ne_true nofun⟩
  · rw [exec_stop_error hrunning]
    exact h

/-! ## 5. What a receive comes to -/

/-- The packet that a session makes of a header and the data behind it. -/
def packetOf (config : CaptureConfig) (header : PcapPkthdr) (data : Bytes) :
    Option CapturedPacket := do
  let lengths ← (validatePacketHeader header).toOption
  if config.snaplen < lengths.1 then none
  let timestamp ← pcapTimestampToSystemTime header
  CapturedPacket.fromPcap (copied data lengths.1) config.interfaceIndex lengths.2 timestamp

inductive Delivery where
  | packet (packet : CapturedPacket)
  | invalid
  | timeout
  | failed
  deriving DecidableEq, Repr

def deliver (config : CaptureConfig) (answer : NextEx) : Delivery :=
  match PcapReceiveStatus.fromRaw answer.result, answer.header, answer.data with
  | .timeout, _, _ => .timeout
  | .packet, some header, some data => (packetOf config header data).elim .invalid .packet
  | _, _, _ => .failed

def count (packet : CapturedPacket) (s : CaptureSession) : CaptureSession :=
  { s with
    packetsReceived := saturatingAdd64 s.packetsReceived 1
    bytesReceived := saturatingAdd64 s.bytesReceived (UInt64.ofNat packet.len) }

/-- The packet holds the bytes that the library delivered, as many as the session asked for at
most, and says how many there were. -/
structure Delivered (config : CaptureConfig) (answer : NextEx) (packet : CapturedPacket) :
    Prop where
  bytes : ∃ header ∈ answer.header, ∃ data ∈ answer.data,
    packet.data.toList = data.toList.take packet.len ∧ packet.len = header.caplen.toNat ∧
      packet.originalLength = header.len.toNat
  nonempty : 0 < packet.len
  snaplen : packet.len ≤ config.snaplen
  original : packet.len ≤ packet.originalLength
  interface : packet.interfaceIndex = config.interfaceIndex

variable {config : CaptureConfig} {answer : NextEx} {packet : CapturedPacket} {header : PcapPkthdr}
  {data : Bytes} {s : CaptureSession} {calls : List (Event Nat)} {handle : Nat}

theorem of_packetOf (h : packetOf config header data = some packet) :
    packet.data = copied data header.caplen.toNat ∧ packet.originalLength = header.len.toNat ∧
      packet.interfaceIndex = config.interfaceIndex ∧ header.caplen.toNat ≤ config.snaplen ∧
      packet.isEmpty = false ∧ packet.len ≤ packet.originalLength := by
  unfold packetOf at h
  obtain ⟨lengths, hlengths, h⟩ := Option.bind_eq_some_iff.mp h
  have hvalid : lengths = (header.caplen.toNat, header.len.toNat) := by
    unfold validatePacketHeader at hlengths
    dsimp only at hlengths
    split_ifs at hlengths
    · nomatch hlengths
    · nomatch hlengths
    · nomatch hlengths
    · exact (Option.some.inj hlengths).symm
  subst hvalid
  dsimp only at h
  split_ifs at h with hsnaplen
  · nomatch h
  obtain ⟨timestamp, -, h⟩ := Option.bind_eq_some_iff.mp h
  unfold CapturedPacket.fromPcap at h
  split_ifs at h with hempty
  obtain rfl := Option.some.inj h
  refine ⟨rfl, rfl, rfl, Nat.le_of_not_lt hsnaplen, ?_, ?_⟩
  · exact Bool.eq_false_iff.mpr fun h => hempty (.inl h)
  · exact Nat.le_of_not_lt fun h => hempty (.inr (.inr h))

theorem delivered_of_deliver (h : deliver config answer = .packet packet) :
    Delivered config answer packet := by
  unfold deliver at h
  split at h
  · nomatch h
  · rename_i header data hstatus hheader hdata
    cases hpacket : packetOf config header data with
    | none =>
      rw [hpacket] at h
      nomatch h
    | some packet' =>
      rw [hpacket] at h
      obtain rfl := Delivery.packet.inj h
      obtain ⟨hcopied, horiginal, hinterface, hsnaplen, hempty, hle⟩ := of_packetOf hpacket
      have hresult : answer.result = 1 := by
        by_contra hne
        unfold PcapReceiveStatus.fromRaw at hstatus
        rw [if_neg hne] at hstatus
        split_ifs at hstatus
      have hlength := answer.length_le hresult header hheader data hdata
      have hlen : packet'.len = header.caplen.toNat := by
        rw [CapturedPacket.len, hcopied]
        exact (List.length_take ..).trans (Nat.min_eq_left hlength)
      refine ⟨⟨header, hheader, data, hdata, ?_, hlen, horiginal⟩, ?_, ?_, hle, hinterface⟩
      · rw [hlen, hcopied]
        rfl
      · exact List.length_pos_iff.mpr (by simpa [CapturedPacket.isEmpty, Bytes.isEmpty] using hempty)
      · rw [hlen]
        exact hsnaplen
  · nomatch h

theorem exec_recordPacket (hrunning : s.state = .running)
    (h : packetOf s.config header data = some packet) :
    exec (recordPacket packet) (s, calls) = (.ok (), (s.count packet, calls)) := by
  obtain ⟨hcopied, -, hinterface, hsnaplen, hempty, hle⟩ := of_packetOf h
  have hlen : packet.len ≤ header.caplen.toNat := by
    rw [CapturedPacket.len, hcopied]
    exact List.length_take_le ..
  have hrun : s.isRunning = true := decide_eq_true hrunning
  have hfits : ¬ (packet.isEmpty = true ∨ packet.interfaceIndex ≠ s.config.interfaceIndex ∨
      packet.originalLength < packet.len ∨ s.config.snaplen < packet.len) := by
    rw [hempty, hinterface]
    simp
    omega
  have hread : exec session (s, calls) = (.ok s, (s, calls)) := rfl
  unfold recordPacket
  rw [exec_bind_ok hread, hrun, if_neg hfits]
  rfl

theorem exec_orInvalid_some {β : Type} {o : Option α} {f : α → SessionOp β} {a : α}
    {t : Logged CaptureSession (Event Nat)} (h : o = some a) :
    exec (orInvalid o >>= f) t = exec (f a) t := by
  rw [h]
  rfl

theorem exec_packetReceived (hrunning : s.state = .running) :
    exec (packetReceived s header data) (s, calls) =
      match packetOf s.config header data with
      | some packet => (.ok (some packet), (s.count packet, calls))
      | none => (.error .invalidPacket, (s, calls)) := by
  have hcount {packet : CapturedPacket} (h : packetOf s.config header data = some packet) :
      exec (recordPacket packet) (s, calls) = (.ok (), (s.count packet, calls)) :=
    exec_recordPacket hrunning h
  unfold packetOf at hcount ⊢
  unfold packetReceived
  cases hlengths : (validatePacketHeader header).toOption with
  | none => rfl
  | some lengths =>
    rw [hlengths] at hcount
    rw [exec_orInvalid_some rfl]
    dsimp only [Option.bind_eq_bind, Option.bind_some] at hcount ⊢
    by_cases hsnaplen : s.config.snaplen < lengths.1
    · rw [if_pos hsnaplen, if_pos hsnaplen]
      rfl
    · rw [if_neg hsnaplen] at hcount ⊢
      rw [if_neg hsnaplen]
      cases htimestamp : pcapTimestampToSystemTime header with
      | none => rfl
      | some timestamp =>
        rw [htimestamp] at hcount
        rw [exec_orInvalid_some rfl]
        dsimp only [Option.bind_some] at hcount ⊢
        cases hpacket : CapturedPacket.fromPcap (copied data lengths.1) s.config.interfaceIndex
            lengths.2 timestamp with
        | none => rfl
        | some packet =>
          rw [exec_orInvalid_some rfl, exec_bind_ok (hcount hpacket)]
          rfl

/-- What a running session does with the answer of the library. -/
theorem exec_receivePacket (hrunning : s.state = .running) (hhandle : s.handle = some handle) :
    exec (receivePacket answer) (s, calls) =
      match deliver s.config answer with
      | .packet packet => (.ok (some packet), (s.count packet, calls ++ [.used handle]))
      | .invalid => (.error .invalidPacket, (s, calls ++ [.used handle]))
      | .timeout => (.ok none, (s, calls ++ [.used handle]))
      | .failed => (.error .receiveFailed,
          ({ s with state := .failed, handle := none }, calls ++ [.used handle] ++ [.closed handle])) := by
  have hrun : s.isRunning = true := decide_eq_true hrunning
  have hread : exec session (s, calls) = (.ok s, (s, calls)) := rfl
  have hwrite : exec (write (.used handle) : SessionOp Unit) (s, calls) =
      (.ok (), (s, calls ++ [.used handle])) := rfl
  have hfailed : exec receiveFailed (s, calls ++ [.used handle]) = (.error .receiveFailed,
      ({ s with state := .failed, handle := none }, calls ++ [.used handle] ++ [.closed handle])) := by
    obtain ⟨config, state, packets, bytes, slot⟩ := s
    obtain rfl : slot = some handle := hhandle
    rfl
  unfold receivePacket deliver
  rw [exec_bind_ok hread, hrun, hhandle]
  show exec (write (.used handle) >>= _) (s, calls) = _
  rw [exec_bind_ok hwrite]
  cases PcapReceiveStatus.fromRaw answer.result with
  | timeout => rfl
  | endOfCapture | error => exact hfailed
  | packet =>
    cases hheader : answer.header with
    | none => exact hfailed
    | some header =>
      cases hdata : answer.data with
      | none => exact hfailed
      | some data =>
        dsimp only
        rw [exec_packetReceived hrunning]
        cases packetOf s.config header data <;> rfl

theorem receivePacket_keeps (answer : NextEx) : Keeps (Owns others) (receivePacket answer) := by
  refine Keeps.of_run ?_
  rintro ⟨s, calls⟩ h
  by_cases hrunning : s.state = .running
  · obtain ⟨handle, hhandle⟩ := Option.isSome_iff_exists.mp (h.running.mpr hrunning)
    have hheld := h.held
    rw [hhandle] at hheld
    have hused := hheld.used List.mem_cons_self
    rw [exec_receivePacket hrunning hhandle]
    cases deliver s.config answer with
    | packet packet =>
      have hcount : (s.count packet).handle = some handle := hhandle
      exact ⟨by rw [hcount]; exact hused, h.running⟩
    | invalid | timeout => exact ⟨by rw [hhandle]; exact hused, h.running⟩
    | failed => exact ⟨hused.closed, iff_of_false Bool.false_ne_true nofun⟩
  · have hrun : s.isRunning = false := decide_eq_false hrunning
    have hread : exec session (s, calls) = (.ok s, (s, calls)) := rfl
    unfold receivePacket
    rw [exec_bind_ok hread, hrun]
    exact h

theorem drop_run (t : Logged CaptureSession (Event Nat))
    (h : Held (t.1.handle.toList ++ others) t.2) : Held others (exec drop t).2.2 := by
  have hdrop : Triple (fun t' => Held (t'.1.handle.toList ++ others) t'.2 ∧ t'.1 = t.1) drop
      (fun _ t => Held others t.2) (fun _ _ => False) := by
    refine Triple.bind (closeNativeHandle_triple t.1) fun _ => ?_
    exact Triple.updateObject fun _ h => h.1
  have hrun := hdrop t ⟨h, rfl⟩
  match hexec : exec drop t with
  | (.ok _, t') =>
    rw [hexec] at hrun
    exact hrun
  | (.error _, t') =>
    rw [hexec] at hrun
    exact hrun.elim

end CaptureSession

end NetworkEngine.Npcap
