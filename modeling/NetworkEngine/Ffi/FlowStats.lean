import NetworkEngine.Ffi.Handles
import NetworkEngine.Flow.Conversations
import NetworkEngine.Network.AddressText

/-!
# FlowStats — a flow by the text of its key

`flow_stats` of the C interface and the `Display` of `flow_engine::FlowKey`.  The table finds a flow
under its key and under the reverse of it; `flow_stats` looks for the text of the stored key.
-/

namespace NetworkEngine

open Rust Fields Transition

/-! ## 1. The text of a key -/

namespace FlowKey

def text (k : FlowKey) : List Char :=
  k.sourceIp.text ++ [':'] ++ Nat.toDigits 10 k.sourcePort.toNat ++ [' ', '-', '>', ' '] ++
    k.destinationIp.text ++ [':'] ++ Nat.toDigits 10 k.destinationPort.toNat ++ [' ', '/', ' '] ++
    Nat.toDigits 10 k.protocol.toNat

def toString (k : FlowKey) : String := String.ofList k.text

end FlowKey

/-! ## 2. The call -/

namespace Ffi

/-- What a `*const c_char` points to. -/
inductive CText where
  | null
  | notUtf8
  | text (value : String)
  deriving DecidableEq, Repr

def readString : CText → FfiOp String
  | .null => fail .invalidArgument "invalid string pointer"
  | .notUtf8 => fail .invalidArgument "string is not valid UTF-8"
  | .text value => return value

/-- What is written through the two pointers, where they are not null. -/
structure FlowStatistics where
  packets : Option UInt64
  bytes : Option UInt64
  deriving DecidableEq, Repr

/-- `wantsPackets` and `wantsBytes` say which pointer is not null, and `values` are the flows of the
table in the order in which its map gives them. -/
def flowStats (values : List Flow) (key : CText) (wantsPackets wantsBytes : Bool) :
    FfiOp FlowStatistics := do
  if key = .null then fail .invalidArgument "invalid flow key pointer"
  else if !wantsPackets && !wantsBytes then
    fail .invalidArgument "at least one flow statistic output is required"
  else
    let key ← readString key
    requireEngine
    match values.find? fun flow => flow.key.toString == key with
    | none => fail .invalidArgument ("flow not found: " ++ key)
    | some flow =>
      setLastError "OK"
      return {
        packets := if wantsPackets then some flow.counters.packets else none
        bytes := if wantsBytes then some flow.counters.bytes else none }

end Ffi

/-! ## 3. The text names the key -/

namespace FlowKey

theorem port_mem {n : Nat} {c : Char} (h : c ∈ Nat.toDigits 10 n) : c ∈ digits :=
  mem_toDigits (by decide) (by decide) h

theorem decimal_injective : Function.Injective (Nat.toDigits 10) :=
  toDigits_injective (by decide) (by decide)

/-- An address and its port, as in `{}:{}`. -/
def endpoint (ip : IpAddr) (port : UInt16) : List Char :=
  ip.text ++ ':' :: Nat.toDigits 10 port.toNat

theorem endpoint_inj {ip ip' : IpAddr} {port port' : UInt16}
    (h : endpoint ip port = endpoint ip' port') : ip = ip' ∧ port = port' := by
  have hcolon : ∀ port : UInt16, ':' ∉ Nat.toDigits 10 port.toNat := fun port hc =>
    absurd (port_mem hc) (by decide)
  obtain ⟨hip, hport⟩ := append_cons_inj (hcolon port) (hcolon port') h
  exact ⟨IpAddr.text_injective hip, UInt16.toNat_inj.mp (decimal_injective hport)⟩

/-- The five words of the text. -/
def words (k : FlowKey) : List (List Char) :=
  [endpoint k.sourceIp k.sourcePort, ['-', '>'], endpoint k.destinationIp k.destinationPort, ['/'],
    Nat.toDigits 10 k.protocol.toNat]

theorem text_eq (k : FlowKey) : k.text = [' '].intercalate k.words := by
  simp [text, words, endpoint, List.intercalate_cons_cons]

theorem space_notMem_words (k : FlowKey) : ∀ word ∈ k.words, ' ' ∉ word := by
  have hendpoint : ∀ ip port, ' ' ∉ endpoint ip port := by
    intro ip port hc
    obtain hip | hport := List.mem_append.mp hc
    · obtain hcolon | hdot | hdigit := IpAddr.text_mem hip
      · exact absurd hcolon (by decide)
      · exact absurd hdot (by decide)
      · exact absurd hdigit (by decide)
    · obtain hcolon | hport := List.mem_cons.mp hport
      · exact absurd hcolon (by decide)
      · exact absurd (port_mem hport) (by decide)
  have hprotocol : ' ' ∉ Nat.toDigits 10 k.protocol.toNat := fun hc =>
    absurd (port_mem hc) (by decide)
  simp only [words, List.forall_mem_cons]
  exact ⟨hendpoint _ _, by decide, hendpoint _ _, by decide, hprotocol, fun _ hc => nomatch hc⟩

theorem text_injective : Function.Injective text := by
  intro k k' h
  rw [text_eq, text_eq] at h
  have hwords := intercalate_injective k.space_notMem_words (List.cons_ne_nil _ _)
    k'.space_notMem_words (List.cons_ne_nil _ _) h
  simp only [words, List.cons.injEq, and_true, true_and] at hwords
  obtain ⟨hsource, hdestination, hprotocol⟩ := hwords
  obtain ⟨hsourceIp, hsourcePort⟩ := endpoint_inj hsource
  obtain ⟨hdestinationIp, hdestinationPort⟩ := endpoint_inj hdestination
  have hnumber := UInt8.toNat_inj.mp (decimal_injective hprotocol)
  obtain ⟨sourceIp, destinationIp, sourcePort, destinationPort, protocol⟩ := k
  obtain ⟨sourceIp', destinationIp', sourcePort', destinationPort', protocol'⟩ := k'
  simp only at hsourceIp hsourcePort hdestinationIp hdestinationPort hnumber
  rw [hsourceIp, hsourcePort, hdestinationIp, hdestinationPort, hnumber]

/-- Distinct keys have distinct texts. -/
theorem toString_injective : Function.Injective toString := by
  intro k k' h
  exact text_injective (String.ofList_injective h)

end FlowKey

/-! ## 4. The flow of the text and the flow of the key -/

namespace FlowTable

variable {t : FlowTable} {values : List Flow} {k : FlowKey} {flow : Flow}

/-- `values` are the flows of the table, in some order. -/
def Lists (t : FlowTable) (values : List Flow) : Prop :=
  ∀ flow, flow ∈ values ↔ ∃ key, t.flows.lookup key = some flow

/-- The text of a stored key finds its flow, whatever the order. -/
theorem find_stored (h : t.Conversations) (hvalues : t.Lists values)
    (hk : t.flows.lookup k = some flow) :
    values.find? (fun flow => flow.key.toString == k.toString) = some flow := by
  cases hfind : values.find? (fun flow => flow.key.toString == k.toString) with
  | none =>
    have hno := List.find?_eq_none.mp hfind flow ((hvalues flow).mpr ⟨k, hk⟩)
    rw [h.own_key k flow hk] at hno
    exact absurd (beq_self_eq_true _) hno
  | some found =>
    have htext := List.find?_some hfind
    have hkey : found.key = k := FlowKey.toString_injective (beq_iff_eq.mp htext)
    obtain ⟨key, hlookup⟩ := (hvalues found).mp (List.mem_of_find?_eq_some hfind)
    rw [← h.own_key key found hlookup, hkey, hk] at hlookup
    exact hlookup.symm

theorem find_absent (h : t.Conversations) (hvalues : t.Lists values) (hk : k ∉ t.flows) :
    values.find? (fun flow => flow.key.toString == k.toString) = none := by
  apply List.find?_eq_none.mpr
  intro found hfound htext
  have hkey : found.key = k := FlowKey.toString_injective (beq_iff_eq.mp htext)
  obtain ⟨key, hlookup⟩ := (hvalues found).mp hfound
  rw [← h.own_key key found hlookup, hkey] at hlookup
  exact hk (Finmap.mem_of_lookup_eq_some hlookup)

end FlowTable

namespace Ffi

variable {s : FfiState} {e : EngineRuntime} {values : List Flow} {text : String}
  {wantsPackets wantsBytes : Bool}

/-- The counts of the flow, where they are asked for. -/
def statistics (wantsPackets wantsBytes : Bool) (flow : Flow) : FlowStatistics where
  packets := if wantsPackets then some flow.counters.packets else none
  bytes := if wantsBytes then some flow.counters.bytes else none

/-- What the call returns is what the lookup in the table gives. -/
def Answers (wantsPackets wantsBytes : Bool) (r : Except NeCode FlowStatistics) :
    Option Flow → Prop
  | some flow => r = .ok (statistics wantsPackets wantsBytes flow)
  | none => ∃ code, r = .error code

/-- Behind the checks of its arguments, the call returns what its search finds. -/
theorem flowStats_eq (he : s.engine = some e) (hout : (wantsPackets || wantsBytes) = true) :
    (exec (flowStats values (.text text) wantsPackets wantsBytes) s).1 =
      match values.find? fun flow => flow.key.toString == text with
      | none => .error .invalidArgument
      | some flow => .ok (statistics wantsPackets wantsBytes flow) := by
  have hnotNull : ¬ CText.text text = .null := nofun
  have hwanted : ¬ (!wantsPackets && !wantsBytes) = true := by
    rw [← Bool.not_or, hout]
    exact Bool.false_ne_true
  have hread : exec (readString (.text text)) s = (.ok text, s) := rfl
  have hrequire : exec requireEngine s = (.ok (), s) := by
    rw [requireEngine, exec_bind_ok (exec_getState s), he]
    rfl
  rw [flowStats, if_neg hnotNull, if_neg hwanted, exec_bind_ok hread, exec_bind_ok hrequire]
  cases values.find? fun flow => flow.key.toString == text with
  | none => rfl
  | some flow => rfl

open FlowTable in
/-- Every text is the text of one key, and the call agrees with the lookup unless the conversation
is stored under the other direction only. -/
theorem flowStats_answers_iff (k : FlowKey) :
    (∀ k' : FlowKey, k'.toString = k.toString → k' = k) ∧
      ∀ (maxEntries idleTimeout : Nat) (calls : List Call) (s : FfiState) (e : EngineRuntime)
        (values : List Flow) (wantsPackets wantsBytes : Bool),
        s.engine = some e → e.flowTable = run step (.empty maxEntries idleTimeout) calls →
        e.flowTable.Lists values → (wantsPackets || wantsBytes) = true →
        (Answers wantsPackets wantsBytes
            (exec (flowStats values (.text k.toString) wantsPackets wantsBytes) s).1
            (e.flowTable.get k) ↔
          k ∈ e.flowTable.flows ∨ k.reverse ∉ e.flowTable.flows) := by
  refine ⟨fun k' htext => FlowKey.toString_injective htext, ?_⟩
  intro maxEntries idleTimeout calls s e values wantsPackets wantsBytes he ht hvalues hout
  have hconv : e.flowTable.Conversations := by
    rw [ht]
    exact conversations_run maxEntries idleTimeout calls
  rw [flowStats_eq he hout]
  by_cases hk : k ∈ e.flowTable.flows
  · obtain ⟨flow, hflow⟩ := Finmap.mem_iff.mp hk
    have hget : e.flowTable.get k = some flow := by
      rw [FlowTable.get, hflow]
      rfl
    rw [find_stored hconv hvalues hflow, hget]
    exact iff_of_true rfl (.inl hk)
  · rw [find_absent hconv hvalues hk]
    have hnone := Finmap.lookup_eq_none.mpr hk
    have hget : e.flowTable.get k = e.flowTable.flows.lookup k.reverse := by
      rw [FlowTable.get, hnone]
      rfl
    rw [hget]
    by_cases hreverse : k.reverse ∈ e.flowTable.flows
    · obtain ⟨flow, hflow⟩ := Finmap.mem_iff.mp hreverse
      rw [hflow]
      have hno : ¬ Answers wantsPackets wantsBytes (.error .invalidArgument) (some flow) := by
        intro h
        cases h
      exact iff_of_false hno fun h => h.elim hk fun habsent => habsent hreverse
    · rw [Finmap.lookup_eq_none.mpr hreverse]
      exact iff_of_true ⟨_, rfl⟩ (.inr hreverse)

/-- A flow from 10.0.0.1:1234 to 10.0.0.2:80 with one packet of a hundred bytes. -/
def webFlow : Flow :=
  (Flow.new ⟨.v4 ⟨10, 0, 0, 1⟩, .v4 ⟨10, 0, 0, 2⟩, 1234, 80, 6⟩ 0).recordPacket 100 .forward
    (some 5) 0

def webEngine : EngineRuntime :=
  { EngineRuntime.new ⟨1, 1, 1, 1⟩ with
    flowTable := run FlowTable.step (.empty 4 1000) [.insert webFlow] }

def webState : FfiState where
  engine := some webEngine
  packetHandles := ∅
  handleCounter := 1
  nextInjected := 1
  lastError := ""

theorem webEngine_flows :
    webEngine.flowTable.flows = (∅ : Table FlowKey Flow).insert webFlow.key webFlow := rfl

theorem webEngine_lists : webEngine.flowTable.Lists [webFlow] := by
  intro flow
  rw [webEngine_flows, List.mem_singleton]
  constructor
  · rintro rfl
    exact ⟨_, Finmap.lookup_insert _⟩
  · rintro ⟨key, hlookup⟩
    rw [Table.lookup_insert] at hlookup
    split at hlookup
    · exact (Option.some.inj hlookup).symm
    · cases hlookup

theorem flowStats_answers_iff_stored :
    Answers true true (exec (flowStats [webFlow] (.text webFlow.key.toString) true true) webState).1
      (webEngine.flowTable.get webFlow.key) :=
  ((flowStats_answers_iff webFlow.key).2 4 1000 [.insert webFlow] webState webEngine [webFlow] true
    true rfl rfl webEngine_lists rfl).mpr (.inl (by decide))

/-- The other direction of the flow is found in the table, and not by its text. -/
theorem reversed_flow_missed :
    webEngine.flowTable.get webFlow.key.reverse = some webFlow ∧
      (exec (flowStats [webFlow] (.text webFlow.key.reverse.toString) true true) webState).1 =
        .error .invalidArgument := by
  have hconv : webEngine.flowTable.Conversations :=
    FlowTable.conversations_run 4 1000 [.insert webFlow]
  have hk : webFlow.key.reverse ∉ webEngine.flowTable.flows := by decide
  refine ⟨by decide, ?_⟩
  rw [flowStats_eq rfl rfl, FlowTable.find_absent hconv webEngine_lists hk]

end Ffi

end NetworkEngine
