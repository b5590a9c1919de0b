import NetworkEngine.Ffi.FlowStats
import NetworkEngine.Lib.Json
import NetworkEngine.Network.State

/-!
# StateJson — documents for the host

The calls of `ffi::{api, ffi_backend}` that answer in JSON: the interfaces, routes and neighbors of
the network state, one interface, and the runtime state of a backend.  A document is put together
by `format!`, which copies a name into it as it is.
-/

namespace NetworkEngine

open Rust Json

/-! ## 1. Words -/

namespace NetworkState

def InterfaceKind.word : InterfaceKind → String
  | unknown => "unknown"
  | ethernet => "ethernet"
  | wifi => "wifi"
  | loopback => "loopback"
  | tunnel => "tunnel"
  | virtual => "virtual"
  | other => "other"

def InterfaceState.word : InterfaceState → String
  | unknown => "unknown"
  | down => "down"
  | up => "up"
  | dormant => "dormant"
  | testing => "testing"

def NeighborState.word : NeighborState → String
  | unknown => "unknown"
  | reachable => "reachable"
  | stale => "stale"
  | delay => "delay"
  | probe => "probe"
  | failed => "failed"
  | incomplete => "incomplete"
  | permanent => "permanent"
  | unreachable => "unreachable"

end NetworkState

/-- `lifecycle as u8`. -/
def BackendLifecycle.toU8 : BackendLifecycle → UInt8
  | disabled => 0
  | starting => 1
  | running => 2
  | degraded => 3
  | failed => 4
  | stopping => 5
  | stopped => 6

/-- `health as u8`. -/
def BackendHealth.toU8 : BackendHealth → UInt8
  | unknown => 0
  | healthy => 1
  | degraded => 2
  | unhealthy => 3

namespace Ffi

/-! ## 2. The texts of `format!` -/

/-- `.map(|q| q.to_string()).unwrap_or_else(|| "null".into())`. -/
def orNull {α : Type} [ToString α] : Option α → String
  | some q => toString q
  | none => "null"

def interfaceText (v : NetworkState.InterfaceInfo) : String :=
  "\x7b\"id\":" ++ toString v.id ++ ",\"name\":\"" ++ v.name ++ "\",\"description\":\"" ++
    v.description ++ "\",\"kind\":\"" ++ v.kind.word ++ "\",\"state\":\"" ++ v.state.word ++
    "\",\"mtu\":" ++ toString v.mtu ++ ",\"if_index\":" ++ orNull v.ifIndex ++ "\x7d"

def routeText (v : NetworkState.RouteInfo) : String :=
  "\x7b\"id\":" ++ toString v.id ++ ",\"destination\":\"" ++ String.ofList v.destination.text ++
    "\",\"prefix_length\":" ++ toString v.prefixLength ++ ",\"interface_id\":" ++
    toString v.interfaceId ++ ",\"metric\":" ++ toString v.metric ++ ",\"enabled\":" ++
    toString v.enabled ++ "\x7d"

def neighborText (v : NetworkState.NeighborInfo) : String :=
  "\x7b\"interface_id\":" ++ toString v.interfaceId ++ ",\"ip\":\"" ++
    String.ofList v.ipAddress.text ++ "\",\"state\":\"" ++ v.state.word ++ "\",\"is_router\":" ++
    toString v.isRouter ++ "\x7d"

/-- `format!("[{}]", items.join(","))`. -/
def listText (items : List String) : String := "[" ++ ",".intercalate items ++ "]"

/-- The `match k` of `state_json`. -/
def stateText (k : String) (x : NetworkState.NetworkStateSnapshot) : String :=
  match k with
  | "interfaces" => listText (x.interfaces.map interfaceText)
  | "routes" => listText (x.routes.map routeText)
  | _ => listText (x.neighbors.map neighborText)

def runtimeText (runtime : BackendRuntimeState) (health : BackendHealth) : String :=
  "\x7b\"name\":\"" ++ runtime.descriptor.name ++ "\",\"lifecycle\":" ++
    toString runtime.lifecycle.toU8 ++ ",\"health\":" ++ toString health.toU8 ++
    ",\"error_count\":" ++ toString runtime.errorCount ++ ",\"last_native_error\":" ++
    orNull runtime.lastNativeError ++ "\x7d"

/-! ## 3. The calls -/

/-- The answer is the string whose bytes, and a zero, are written to the buffer. -/
def copyString (notNull : Bool) (n : UInt32) (s : String) : FfiOp String :=
  if !notNull then fail .invalidArgument "invalid output buffer"
  else if n = 0 ∨ n.toNat < s.utf8ByteSize + 1 then
    fail .bufferExhausted "output buffer too small"
  else do
    setLastError "OK"
    return s

section Calls

-- The network state of the engine.
variable (s : NetworkState)

def stateJson (k : String) : FfiOp String := do
  let ffi ← getState
  -- The code alone says what is missing: the last error stays.
  if ffi.engine.isNone then throw .notInitialized else return stateText k s

def listCall (k : String) (notNull : Bool) (n : UInt32) : FfiOp String := do
  let v ← stateJson s k
  copyString notNull n v

def interfaceList := listCall s "interfaces"

def routeList := listCall s "routes"

def neighborList := listCall s "neighbors"

/-- The interface that `interface_info` answers for `i`. -/
def interfaceOf (i : UInt32) : Option NetworkState.InterfaceInfo :=
  s.interfaces.find? fun v => v.id = i.toUInt64 ∨ v.ifIndex = some i

def interfaceInfo (i : UInt32) (notNull : Bool) (n : UInt32) : FfiOp String := do
  if !notNull then fail .invalidArgument "invalid interface output buffer"
  else
    requireEngine
    match interfaceOf s i with
    | none => fail .invalidArgument "interface not found"
    | some v => copyString notNull n (interfaceText v)

end Calls

def readName : CText → FfiOp String
  | .null => fail .invalidArgument "invalid backend name pointer"
  | .notUtf8 => fail .invalidArgument "backend name is not valid UTF-8"
  | .text value => return value

/-- The two questions that `backend_runtime_info` asks the manager. -/
def runtimeAndHealth (name : String) : EngineOp (BackendRuntimeState × BackendHealth) := do
  let e ← getState
  let runtime ← ofResult (e.backendManager.runtimeState name)
  let health ← ofResult (e.backendManager.health name)
  return (runtime, health)

def backendRuntimeInfo (name : CText) (notNull : Bool) (n : UInt32) : FfiOp String := do
  let name ← readName name
  if !notNull then fail .invalidArgument "invalid backend runtime buffer"
  else
    requireEngine
    let (runtime, health) ← callEngine (runtimeAndHealth name)
    copyString notNull n (runtimeText runtime health)

/-! ## 4. What the documents stand for -/

def orNullValue (q : Option Int) : Json := q.elim .null fun i => .number i 0

def textValue (s : String) : Json := .string s.toList

def natValue (n : Nat) : Json := .number n 0

def interfaceValue (v : NetworkState.InterfaceInfo) : Json :=
  .object [
    ("id".toList, natValue v.id.toNat),
    ("name".toList, textValue v.name),
    ("description".toList, textValue v.description),
    ("kind".toList, textValue v.kind.word),
    ("state".toList, textValue v.state.word),
    ("mtu".toList, natValue v.mtu.toNat),
    ("if_index".toList, orNullValue (v.ifIndex.map fun q => q.toNat))]

def routeValue (v : NetworkState.RouteInfo) : Json :=
  .object [
    ("id".toList, natValue v.id.toNat),
    ("destination".toList, .string v.destination.text),
    ("prefix_length".toList, natValue v.prefixLength.toNat),
    ("interface_id".toList, natValue v.interfaceId.toNat),
    ("metric".toList, natValue v.metric.toNat),
    ("enabled".toList, .bool v.enabled)]

def neighborValue (v : NetworkState.NeighborInfo) : Json :=
  .object [
    ("interface_id".toList, natValue v.interfaceId.toNat),
    ("ip".toList, .string v.ipAddress.text),
    ("state".toList, textValue v.state.word),
    ("is_router".toList, .bool v.isRouter)]

def stateValue (k : String) (x : NetworkState.NetworkStateSnapshot) : Json :=
  if k = "interfaces" then .array (x.interfaces.map interfaceValue)
  else if k = "routes" then .array (x.routes.map routeValue)
  else .array (x.neighbors.map neighborValue)

def runtimeValue (runtime : BackendRuntimeState) (health : BackendHealth) : Json :=
  .object [
    ("name".toList, textValue runtime.descriptor.name),
    ("lifecycle".toList, natValue runtime.lifecycle.toU8.toNat),
    ("health".toList, natValue health.toU8.toNat),
    ("error_count".toList, natValue runtime.errorCount.toNat),
    ("last_native_error".toList, orNullValue runtime.lastNativeError)]

/-! ## 5. The texts are the values, written without escapes -/

@[simp] theorem toString_u64 (n : UInt64) : toString n = toString n.toNat := rfl

@[simp] theorem toString_u32 (n : UInt32) : toString n = toString n.toNat := rfl

@[simp] theorem toString_u8 (n : UInt8) : toString n = toString n.toNat := rfl

theorem toList_toString (i : Int) : (toString i).toList = decimal i := by
  cases i with
  | ofNat n =>
    show (toString n).toList = _
    rw [Nat.toString_eq_repr, Nat.toList_repr]
    rfl
  | negSucc n =>
    show ("-" ++ toString (n + 1)).toList = _
    rw [String.toList_append, Nat.toString_eq_repr, Nat.toList_repr]
    rfl

theorem verbatim_integer (i : Int) : verbatim (.number i 0) = (toString i).toList := by
  rw [verbatim, if_pos rfl, List.append_nil, toList_toString]

@[simp] theorem verbatim_natValue (n : Nat) : verbatim (natValue n) = (toString n).toList := by
  rw [natValue, verbatim_integer]
  rfl

@[simp] theorem verbatim_bool (b : Bool) : verbatim (.bool b) = (toString b).toList := by
  cases b <;> rw [verbatim] <;> rfl

@[simp] theorem verbatim_string (chars : List Char) : verbatim (.string chars) = quoted chars := by
  rw [verbatim]

theorem verbatim_orNull {α : Type} [ToString α] (number : α → Int)
    (hnumber : ∀ q, toString (number q) = toString q) (q : Option α) :
    verbatim (orNullValue (q.map number)) = (orNull q).toList := by
  cases q with
  | none =>
    show verbatim .null = "null".toList
    rw [verbatim]
    rfl
  | some q =>
    show verbatim (.number (number q) 0) = (toString q).toList
    rw [verbatim_integer, hnumber]

theorem verbatim_ifIndex (q : Option UInt32) :
    verbatim (orNullValue (q.map fun q => q.toNat)) = (orNull q).toList := by
  apply verbatim_orNull
  intro q
  rfl

theorem verbatim_nativeError (q : Option Int) : verbatim (orNullValue q) = (orNull q).toList := by
  have h := verbatim_orNull (fun i : Int => i) (fun _ => rfl) q
  rwa [Option.map_id'] at h

theorem toList_interfaceText (v : NetworkState.InterfaceInfo) :
    (interfaceText v).toList = verbatim (interfaceValue v) := by
  unfold interfaceText interfaceValue textValue
  rw [verbatim_object]
  simp [verbatimMember, quoted, List.intercalate_cons_cons, verbatim_ifIndex]

theorem toList_routeText (v : NetworkState.RouteInfo) :
    (routeText v).toList = verbatim (routeValue v) := by
  unfold routeText routeValue
  rw [verbatim_object]
  simp [verbatimMember, quoted, List.intercalate_cons_cons]

theorem toList_neighborText (v : NetworkState.NeighborInfo) :
    (neighborText v).toList = verbatim (neighborValue v) := by
  unfold neighborText neighborValue textValue
  rw [verbatim_object]
  simp [verbatimMember, quoted, List.intercalate_cons_cons]

theorem toList_runtimeText (runtime : BackendRuntimeState) (health : BackendHealth) :
    (runtimeText runtime health).toList = verbatim (runtimeValue runtime health) := by
  unfold runtimeText runtimeValue textValue
  rw [verbatim_object]
  simp [verbatimMember, quoted, List.intercalate_cons_cons, verbatim_nativeError]

theorem toList_listText {α : Type} {text : α → String} {value : α → Json}
    (htext : ∀ a, (text a).toList = verbatim (value a)) (items : List α) :
    (listText (items.map text)).toList = verbatim (.array (items.map value)) := by
  have hmap : (items.map text).map String.toList = (items.map value).map verbatim := by
    rw [List.map_map, List.map_map]
    exact List.map_congr_left fun a _ => htext a
  rw [listText, String.toList_append, String.toList_append, String.toList_intercalate, hmap,
    verbatim]
  rfl

theorem toList_stateText (k : String) (x : NetworkState.NetworkStateSnapshot) :
    (stateText k x).toList = verbatim (stateValue k x) := by
  unfold stateText stateValue
  split
  · rw [if_pos rfl]
    exact toList_listText toList_interfaceText x.interfaces
  · rw [if_neg (by decide), if_pos rfl]
    exact toList_listText toList_routeText x.routes
  · rename_i hinterfaces hroutes
    rw [if_neg hinterfaces, if_neg hroutes]
    exact toList_listText toList_neighborText x.neighbors

/-! ## 6. Which documents need no escape -/

@[simp] theorem plain_text (ip : IpAddr) : Plain ip.text := by
  intro c hc
  obtain rfl | rfl | hdigit := IpAddr.text_mem hc
  · decide
  · decide
  · have hall : Fields.digits.all fun c => c ≠ '"' ∧ c ≠ '\\' ∧ 32 ≤ c.toNat := by decide
    exact of_decide_eq_true (List.all_eq_true.mp hall c hdigit)

@[simp] theorem plain_interfaceKind (kind : NetworkState.InterfaceKind) :
    Plain kind.word.toList := by
  cases kind <;> decide

@[simp] theorem plain_interfaceState (state : NetworkState.InterfaceState) :
    Plain state.word.toList := by
  cases state <;> decide

@[simp] theorem plain_neighborState (state : NetworkState.NeighborState) :
    Plain state.word.toList := by
  cases state <;> decide

@[simp] theorem allPlain_natValue (n : Nat) : AllPlain (natValue n) := by
  rw [natValue, AllPlain]
  trivial

@[simp] theorem allPlain_orNullValue (q : Option Int) : AllPlain (orNullValue q) := by
  cases q with
  | none =>
    show AllPlain .null
    rw [AllPlain]
    trivial
  | some i =>
    show AllPlain (.number i 0)
    rw [AllPlain]
    trivial

@[simp] theorem allPlain_bool (b : Bool) : AllPlain (.bool b) := by
  rw [AllPlain]
  trivial

@[simp] theorem allPlain_string (chars : List Char) : AllPlain (.string chars) ↔ Plain chars := by
  rw [AllPlain]

/-- The names of the members are plain, so that it is up to their values. -/
theorem allPlain_object {members : List (List Char × Json)} (names : List String)
    (hnames : members.map Prod.fst = names.map String.toList)
    (hplain : names.all fun name => Plain name.toList) :
    AllPlain (.object members) ↔ ∀ v ∈ members.map Prod.snd, AllPlain v := by
  have hkeys : ∀ m ∈ members, Plain m.1 := by
    intro m hm
    have hmem : m.1 ∈ names.map String.toList := hnames ▸ List.mem_map_of_mem hm
    obtain ⟨name, hname, hm⟩ := List.mem_map.mp hmem
    exact hm ▸ of_decide_eq_true (List.all_eq_true.mp hplain name hname)
  rw [AllPlain, List.forall_mem_map]
  apply forall₂_congr
  intro m hm
  exact and_iff_right (hkeys m hm)

theorem allPlain_interfaceValue (v : NetworkState.InterfaceInfo) :
    AllPlain (interfaceValue v) ↔ Plain v.name.toList ∧ Plain v.description.toList := by
  unfold interfaceValue textValue
  rw [allPlain_object ["id", "name", "description", "kind", "state", "mtu", "if_index"] rfl
    (by decide)]
  simp

theorem allPlain_routeValue (v : NetworkState.RouteInfo) : AllPlain (routeValue v) := by
  unfold routeValue
  rw [allPlain_object ["id", "destination", "prefix_length", "interface_id", "metric", "enabled"]
    rfl (by decide)]
  simp

theorem allPlain_neighborValue (v : NetworkState.NeighborInfo) : AllPlain (neighborValue v) := by
  unfold neighborValue textValue
  rw [allPlain_object ["interface_id", "ip", "state", "is_router"] rfl (by decide)]
  simp

theorem allPlain_runtimeValue (runtime : BackendRuntimeState) (health : BackendHealth) :
    AllPlain (runtimeValue runtime health) ↔ Plain runtime.descriptor.name.toList := by
  unfold runtimeValue textValue
  rw [allPlain_object ["name", "lifecycle", "health", "error_count", "last_native_error"] rfl
    (by decide)]
  simp

theorem allPlain_array {α : Type} (value : α → Json) (items : List α) :
    AllPlain (.array (items.map value)) ↔ ∀ a ∈ items, AllPlain (value a) := by
  rw [AllPlain, List.forall_mem_map]

/-- Only the interfaces bring texts that the engine did not choose. -/
theorem allPlain_stateValue (k : String) (x : NetworkState.NetworkStateSnapshot) :
    AllPlain (stateValue k x) ↔
      (k = "interfaces" →
        ∀ v ∈ x.interfaces, Plain v.name.toList ∧ Plain v.description.toList) := by
  unfold stateValue
  split_ifs with hinterfaces hroutes
  · rw [allPlain_array, forall_prop_of_true hinterfaces]
    exact forall₂_congr fun v _ => allPlain_interfaceValue v
  · rw [allPlain_array]
    exact iff_of_true (fun v _ => allPlain_routeValue v) (absurd · hinterfaces)
  · rw [allPlain_array]
    exact iff_of_true (fun v _ => allPlain_neighborValue v) (absurd · hinterfaces)

/-! ## 7. What the calls write -/

variable {ffi : FfiState} {e : EngineRuntime} {s : NetworkState}

/-- The call leaves `text` in every buffer with room for it and its zero, and nothing else in any
buffer. -/
def Writes (call : Bool → UInt32 → FfiOp String) (ffi : FfiState) (text : String) : Prop :=
  ∀ notNull n answer, (exec (call notNull n) ffi).1 = .ok answer ↔
    notNull = true ∧ text.utf8ByteSize < n.toNat ∧ answer = text

theorem copyString_eq_ok (notNull : Bool) (n : UInt32) (text answer : String) :
    (exec (copyString notNull n text) ffi).1 = .ok answer ↔
      notNull = true ∧ text.utf8ByteSize < n.toNat ∧ answer = text := by
  unfold copyString
  cases notNull with
  | false => exact iff_of_false nofun fun h => Bool.false_ne_true h.1
  | true =>
    rw [if_neg (by decide)]
    split_ifs with hsmall
    · have hfull : ¬ text.utf8ByteSize < n.toNat := by
        obtain rfl | hn := hsmall
        · exact Nat.not_lt_zero _
        · omega
      exact iff_of_false nofun fun h => hfull h.2.1
    · have hroom : text.utf8ByteSize < n.toNat := by omega
      have hexec : (exec (do setLastError "OK"; return text : FfiOp String) ffi).1 = .ok text := rfl
      rw [hexec]
      constructor
      · intro h
        exact ⟨rfl, hroom, (Except.ok.inj h).symm⟩
      · rintro ⟨-, -, rfl⟩
        rfl

theorem exec_requireEngine (he : ffi.engine = some e) : exec requireEngine ffi = (.ok (), ffi) := by
  rw [requireEngine, exec_bind_ok (exec_getState ffi), he]
  rfl

theorem exec_stateJson (he : ffi.engine = some e) (s : NetworkState) (k : String) :
    exec (stateJson s k) ffi = (.ok (stateText k s), ffi) := by
  rw [stateJson, exec_bind_ok (exec_getState ffi), he]
  rfl

theorem writes_listCall (he : ffi.engine = some e) (s : NetworkState) (k : String) :
    Writes (listCall s k) ffi (stateText k s) := by
  intro notNull n answer
  rw [listCall, exec_bind_ok (exec_stateJson he s k)]
  exact copyString_eq_ok notNull n (stateText k s) answer

theorem writes_interfaceInfo (he : ffi.engine = some e) {i : UInt32}
    {v : NetworkState.InterfaceInfo} (hv : interfaceOf s i = some v) :
    Writes (interfaceInfo s i) ffi (interfaceText v) := by
  intro notNull n answer
  cases notNull with
  | false => exact iff_of_false nofun fun h => Bool.false_ne_true h.1
  | true =>
    unfold interfaceInfo
    rw [if_neg (by decide), exec_bind_ok (exec_requireEngine he), hv]
    exact copyString_eq_ok true n (interfaceText v) answer

theorem exec_runtimeAndHealth {name : String} {b : ManagedBackend}
    (hb : e.backendManager.backends.lookup name = some b) :
    exec (runtimeAndHealth name) e = (.ok (b.runtime, b.health.health), e) := by
  have hruntime : e.backendManager.runtimeState name = .ok b.runtime := by
    rw [BackendManager.runtimeState, hb]
  have hhealth : e.backendManager.health name = .ok b.health.health := by
    rw [BackendManager.health, hb]
  rw [runtimeAndHealth, exec_bind_ok (exec_getState e), hruntime, hhealth]
  rfl

theorem writes_backendRuntimeInfo (he : ffi.engine = some e) {name : String} {b : ManagedBackend}
    (hb : e.backendManager.backends.lookup name = some b) :
    Writes (backendRuntimeInfo (.text name)) ffi (runtimeText b.runtime b.health.health) := by
  have hcall : exec (callEngine (runtimeAndHealth name)) ffi =
      (.ok (b.runtime, b.health.health), { ffi with engine := some e }) := by
    have hon : exec (onEngine (runtimeAndHealth name)) ffi =
        (.ok (b.runtime, b.health.health), { ffi with engine := some e }) := by
      rw [onEngine_some _ he, exec_runtimeAndHealth hb]
    rw [callEngine, exec_bind_ok (exec_attempt ffi _), hon]
    rfl
  intro notNull n answer
  have hname : exec (readName (.text name)) ffi = (.ok name, ffi) := rfl
  unfold backendRuntimeInfo
  rw [exec_bind_ok hname]
  cases notNull with
  | false => exact iff_of_false nofun fun h => Bool.false_ne_true h.1
  | true =>
    rw [if_neg (by decide), exec_bind_ok (exec_requireEngine he), exec_bind_ok hcall]
    exact copyString_eq_ok true n (runtimeText b.runtime b.health.health) answer

/-! ## 8. The documents and what they were built from -/

/-- A text that is a value written without escapes is read as that value when nothing in it needed
one. -/
theorem decodes_iff_of_toList {text : String} {v : Json} (h : text.toList = verbatim v) :
    Decodes text.toList v ↔ AllPlain v := by
  rw [h]
  exact decodes_verbatim_iff v

/-- The three kinds of documents are written as they were put together, and each stands for what it
was built from exactly when the names it copies are plain.  That the health of a backend is read
after its runtime state makes no difference to this. -/
theorem documents_decode_iff (he : ffi.engine = some e) (s : NetworkState) :
    (∀ k, exec (stateJson s k) ffi = (.ok (stateText k s), ffi) ∧
      Writes (listCall s k) ffi (stateText k s) ∧
      (Decodes (stateText k s).toList (stateValue k s) ↔
        (k = "interfaces" →
          ∀ v ∈ s.interfaces, Plain v.name.toList ∧ Plain v.description.toList))) ∧
    (∀ i v, interfaceOf s i = some v →
      Writes (interfaceInfo s i) ffi (interfaceText v) ∧
      (Decodes (interfaceText v).toList (interfaceValue v) ↔
        Plain v.name.toList ∧ Plain v.description.toList)) ∧
    ∀ name b, e.backendManager.backends.lookup name = some b →
      Writes (backendRuntimeInfo (.text name)) ffi (runtimeText b.runtime b.health.health) ∧
      ∀ health, Decodes (runtimeText b.runtime health).toList (runtimeValue b.runtime health) ↔
        Plain b.runtime.descriptor.name.toList := by
  refine ⟨fun k => ⟨exec_stateJson he s k, writes_listCall he s k, ?_⟩,
    fun i v hv => ⟨writes_interfaceInfo he hv, ?_⟩,
    fun name b hb => ⟨writes_backendRuntimeInfo he hb, fun health => ?_⟩⟩
  · rw [decodes_iff_of_toList (toList_stateText k s), allPlain_stateValue]
  · rw [decodes_iff_of_toList (toList_interfaceText v), allPlain_interfaceValue]
  · rw [decodes_iff_of_toList (toList_runtimeText b.runtime health), allPlain_runtimeValue]

def quoteDescriptor : BackendDescriptor :=
  ⟨"a\"b", "0.1.0", "", ∅, false, .supplementary⟩

/-- A host has registered a backend whose name holds a quote. -/
def quoteEngine : EngineRuntime :=
  { EngineRuntime.new ⟨1, 1, 1, 1⟩ with
    backendManager := (exec (BackendManager.register quoteDescriptor) .new).2 }

def quoteFfi : FfiState := { webState with engine := some quoteEngine }

def quoteState : NetworkState :=
  { NetworkState.NetworkStateSnapshot.new with interfaces := [.new 7 "Ethernet", .new 8 "a\"b"] }

theorem documents_decode_iff_ethernet :
    Decodes (interfaceText (.new 7 "Ethernet")).toList (interfaceValue (.new 7 "Ethernet")) :=
  ((documents_decode_iff (rfl : quoteFfi.engine = some quoteEngine) quoteState).2.1 7
    (.new 7 "Ethernet") rfl).2.mpr (by decide)

/-- Both names end at their quote, and neither document stands for what it was built from. -/
theorem quoted_names_break :
    (exec (stateJson quoteState "interfaces") quoteFfi).1 =
      .ok (stateText "interfaces" quoteState) ∧
    ¬ Decodes (stateText "interfaces" quoteState).toList (stateValue "interfaces" quoteState) ∧
    (exec (interfaceInfo quoteState 8 true 256) quoteFfi).1 = .ok
      ("\x7b\"id\":8,\"name\":\"a\"b\",\"description\":\"\",\"kind\":\"unknown\"," ++
        "\"state\":\"unknown\",\"mtu\":1500,\"if_index\":null\x7d") ∧
    ¬ Decodes (interfaceText (.new 8 "a\"b")).toList (interfaceValue (.new 8 "a\"b")) ∧
    (exec (backendRuntimeInfo (.text "a\"b") true 256) quoteFfi).1 = .ok
      ("\x7b\"name\":\"a\"b\",\"lifecycle\":6,\"health\":0,\"error_count\":0," ++
        "\"last_native_error\":null\x7d") ∧
    ¬ Decodes (runtimeText (.new quoteDescriptor) .unknown).toList
      (runtimeValue (.new quoteDescriptor) .unknown) := by
  have hquote : ¬ Plain "a\"b".toList := by decide
  refine ⟨rfl, ?_, rfl, ?_, ?_, ?_⟩
  · rw [decodes_iff_of_toList (toList_stateText _ _), allPlain_stateValue]
    intro h
    exact hquote (h rfl (.new 8 "a\"b") (by decide)).1
  · rw [decodes_iff_of_toList (toList_interfaceText _), allPlain_interfaceValue]
    exact fun h => hquote h.1
  · have hbackend : quoteEngine.backendManager.backends.lookup "a\"b" =
        some (.new quoteDescriptor) := rfl
    have hengine : quoteFfi.engine = some quoteEngine := rfl
    exact (writes_backendRuntimeInfo hengine hbackend true 256 _).mpr ⟨rfl, by decide, rfl⟩
  · rw [decodes_iff_of_toList (toList_runtimeText _ _), allPlain_runtimeValue]
    exact hquote

end Ffi

end NetworkEngine
