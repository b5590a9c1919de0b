import NetworkEngine.Flow.Conversations

/-!
# IdleClock — flow expiry on two clocks

`flow.rs` and `flow_table.rs` each have a `now_ns` with a baseline of its own, set by the first
call.  Packets are stamped on the clock of the first file and expiry reads the clock of the second,
so an idle time comes out as the difference of readings of two clocks.  Real time is in
nanoseconds.
-/

namespace NetworkEngine

open Rust Transition

/-! ## 1. The two clocks -/

/-- What a clock with this baseline shows at real time `time`. -/
def shownNs (baseline time : Nat) : UInt64 := UInt64.ofNat (min (time - baseline) (2 ^ 64 - 1))

/-- `now_ns` at real time `time`: the first call sets the baseline. -/
def nowNs (baseline : Option Nat) (time : Nat) : UInt64 × Option Nat :=
  let baseline := baseline.getD time
  (shownNs baseline time, some baseline)

theorem toNat_shownNs (baseline time : Nat) :
    (shownNs baseline time).toNat = min (time - baseline) (2 ^ 64 - 1) := by
  unfold shownNs
  rw [UInt64.toNat_ofNat']
  omega

theorem shownNs_mono (baseline : Nat) {time later : Nat} (h : time ≤ later) :
    shownNs baseline time ≤ shownNs baseline later := by
  rw [UInt64.le_iff_toNat_le, toNat_shownNs, toNat_shownNs]
  omega

/-- The part of the process that expiry depends on: both baselines and a table. -/
structure FlowProcess where
  flowBaseline : Option Nat
  tableBaseline : Option Nat
  table : FlowTable
  deriving DecidableEq

namespace FlowProcess

/-- A packet recorded without a timestamp, or an expiry, at a real time. -/
inductive Event where
  | packet (key : FlowKey) (bytes : Nat) (direction : FlowDirection) (time : Nat)
  | expire (time : Nat)
  deriving DecidableEq, Repr

def Event.time : Event → Nat
  | .packet _ _ _ time => time
  | .expire time => time

def recordPacket (key : FlowKey) (bytes : Nat) (direction : FlowDirection) (time : Nat)
    (p : FlowProcess) : FlowProcess :=
  let clock := nowNs p.flowBaseline time
  -- Both readings of one call fall on the same instant.
  match p.table.recordPacket key bytes direction none ⟨clock.1, clock.1⟩ with
  | .ok (_, table) => { p with flowBaseline := clock.2, table := table }
  -- A full table is noticed before the clock is read.
  | .error _ => p

def expireIdleNow (time : Nat) (p : FlowProcess) : FlowProcess :=
  let clock := nowNs p.tableBaseline time
  { p with tableBaseline := clock.2, table := (p.table.expireIdleNow clock.1).2 }

def step (p : FlowProcess) : Event → FlowProcess
  | .packet key bytes direction time => p.recordPacket key bytes direction time
  | .expire time => p.expireIdleNow time

/-! ## 2. Real idle time -/

def packetTime (key : FlowKey) : Event → Option Nat
  -- A packet of either direction is a packet of the conversation.
  | .packet key' _ _ time => if key' = key ∨ key' = key.reverse then some time else none
  | .expire _ => none

/-- The real time of the last packet of the conversation of `key`. -/
def lastPacket (events : List Event) (key : FlowKey) : Option Nat :=
  (events.filterMap (packetTime key)).getLast?

/-- The last packet of the conversation is at least the timeout away. -/
def Idle (p : FlowProcess) (events : List Event) (time : Nat) (key : FlowKey) : Prop :=
  ∃ last, lastPacket events key = some last ∧ p.table.idleTimeout ≤ time - last

/-- An expiry at `time` removes exactly the idle flows. -/
def ExpiresExactly (p : FlowProcess) (events : List Event) (time : Nat) : Prop :=
  ∀ key flow, p.table.flows.lookup key = some flow →
    (p.Idle events time key → (p.expireIdleNow time).table.flows.lookup key = none) ∧
    (¬ p.Idle events time key → (p.expireIdleNow time).table.flows.lookup key = some flow)

/-! ## 3. The packet a flow was last stamped with -/

variable {p : FlowProcess} {t : FlowTable} {key : FlowKey} {bytes : Nat}
  {direction : FlowDirection} {time : Nat} {events : List Event}

/-- The flow a packet of `key` goes to, and the key it is stored under: the one of the table for
either direction, or a new one. -/
inductive Target (t : FlowTable) (key : FlowKey) (created : UInt64) : FlowKey → Flow → Prop where
  | forward {flow : Flow} (h : t.flows.lookup key = some flow) : Target t key created key flow
  | reverse {flow : Flow} (hkey : key ∉ t.flows) (h : t.flows.lookup key.reverse = some flow) :
      Target t key created key.reverse flow
  | fresh (hkey : key ∉ t.flows) (hreverse : key.reverse ∉ t.flows) :
      Target t key created key (.new key created)

theorem recordPacket_ok {clock : FlowClock} {r : Unit × FlowTable}
    (h : t.recordPacket key bytes direction none clock = .ok r) :
    ∃ slot flow, Target t key clock.created slot flow ∧
      r.2.flows = t.flows.insert slot (flow.recordPacket bytes direction none clock.recorded) := by
  -- Found as it is, found reversed, or new in a table with room.
  unfold FlowTable.recordPacket FlowTable.getOrCreate at h
  split at h
  · rename_i hkey
    rcases Finmap.mem_iff.mp hkey with ⟨flow, hflow⟩
    refine ⟨key, flow, .forward hflow, ?_⟩
    rw [← Except.ok.inj h]
    simp only [FlowTable.modify, hflow]
  · rename_i hkey
    split at h
    · rename_i hreverse
      rcases Finmap.mem_iff.mp hreverse with ⟨flow, hflow⟩
      refine ⟨key.reverse, flow, .reverse hkey hflow, ?_⟩
      rw [← Except.ok.inj h]
      simp only [FlowTable.modify, hflow]
    · rename_i hreverse
      split at h
      · cases h
      · refine ⟨key, .new key clock.created, .fresh hkey hreverse, ?_⟩
        rw [← Except.ok.inj h]
        simp only [FlowTable.modify, Finmap.lookup_insert, Finmap.insert_insert]

theorem recordPacket_error {clock : FlowClock} {err : EngineError}
    (h : t.recordPacket key bytes direction none clock = .error err) :
    key ∉ t.flows ∧ key.reverse ∉ t.flows := by
  unfold FlowTable.recordPacket FlowTable.getOrCreate at h
  split at h
  · exact nomatch h
  · rename_i hkey
    split at h
    · exact nomatch h
    · rename_i hreverse
      exact ⟨hkey, hreverse⟩

theorem lastPacket_concat (event : Event) :
    lastPacket (events ++ [event]) key =
      match packetTime key event with
      | some time => some time
      | none => lastPacket events key := by
  unfold lastPacket
  rw [List.filterMap_append]
  cases h : packetTime key event with
  | none => simp [h]
  | some time => simp [h]

theorem recordPacket_lastSeen (bytes : Nat) (direction : FlowDirection) (now : UInt64)
    (flow : Flow) (h : flow.counters.lastSeenNs ≤ now) :
    (flow.recordPacket bytes direction none now).counters.lastSeenNs = now ∧
      (flow.recordPacket bytes direction none now).lastSeenNs = now := by
  -- `record` keeps the later of both stamps, and the reading is not before the stored one.
  have hrecord : (flow.counters.record (UInt64.ofNat bytes) now).lastSeenNs = now := by
    unfold FlowCounters.record
    dsimp only
    split
    · rename_i hle
      exact UInt64.le_antisymm h hle
    · rfl
  unfold Flow.recordPacket
  cases direction <;> dsimp only <;> split <;> exact ⟨hrecord, hrecord⟩

/-- Every stored flow shows, on the clock of `flow.rs`, the last packet of its conversation. -/
structure Tracks (p : FlowProcess) (events : List Event) : Prop where
  conversations : p.table.Conversations
  stamped : ∀ key flow, p.table.flows.lookup key = some flow →
    ∃ last baseline, lastPacket events key = some last ∧ p.flowBaseline = some baseline ∧
      flow.counters.lastSeenNs = shownNs baseline last ∧
      flow.lastSeenNs = shownNs baseline last

theorem Tracks.empty (flowBaseline tableBaseline : Option Nat) (maxEntries idleTimeout : Nat) :
    Tracks ⟨flowBaseline, tableBaseline, .empty maxEntries idleTimeout⟩ [] where
  conversations := .empty maxEntries idleTimeout
  stamped _ _ h := nomatch h

theorem lookup_expireIdle {now : UInt64} {flow : Flow} :
    (t.expireIdle now).2.flows.lookup key = some flow ↔
      t.flows.lookup key = some flow ∧ flow.isIdle now t.idleTimeout = false := by
  have hbody (t : FlowTable) (k k' : FlowKey) :
      (t.expireKey k).flows.lookup k' = if k' = k then none else t.flows.lookup k' := by
    rw [FlowTable.flows_expireKey]
    exact Table.lookup_erase _ _ _
  exact Table.lookup_forEach_remove FlowTable.flows hbody

theorem Tracks.expire (h : p.Tracks events) (time : Nat) :
    (p.expireIdleNow time).Tracks (events ++ [.expire time]) where
  conversations := h.conversations.change (FlowTable.change_expireIdle _ _)
  stamped key flow hflow := by
    rcases h.stamped key flow (lookup_expireIdle.mp hflow).1 with ⟨last, baseline, hlast, hrest⟩
    refine ⟨last, baseline, ?_, hrest⟩
    rw [lastPacket_concat]
    exact hlast

theorem lastPacket_mem (h : lastPacket events key = some time) :
    ∃ event ∈ events, event.time = time := by
  have hin := List.mem_of_getLast? h
  rcases List.mem_filterMap.mp hin with ⟨event, hevent, htime⟩
  refine ⟨event, hevent, ?_⟩
  cases event with
  | packet key' bytes direction time' =>
    change (if key' = key ∨ key' = key.reverse then some time' else none) = some time at htime
    split at htime
    · exact Option.some.inj htime
    · exact nomatch htime
  | expire time' => exact nomatch htime

theorem lastPacket_packet_self {k : FlowKey} (h : key = k ∨ key = k.reverse) :
    lastPacket (events ++ [.packet key bytes direction time]) k = some time := by
  have htime : packetTime k (.packet key bytes direction time) = some time := if_pos h
  rw [lastPacket_concat, htime]

theorem lastPacket_packet_other {k : FlowKey} (h : ¬ (key = k ∨ key = k.reverse)) :
    lastPacket (events ++ [.packet key bytes direction time]) k = lastPacket events k := by
  have htime : packetTime k (.packet key bytes direction time) = none := if_neg h
  rw [lastPacket_concat, htime]

theorem Target.slot_eq {created : UInt64} {slot : FlowKey} {flow : Flow}
    (h : Target t key created slot flow) : key = slot ∨ key = slot.reverse := by
  cases h with
  | forward => exact .inl rfl
  | reverse => exact .inr rfl
  | fresh => exact .inl rfl

/-- The key of another stored flow is not of the packet's conversation. -/
theorem Target.other {created : UInt64} {slot k : FlowKey} {flow : Flow}
    (h : Target t key created slot flow) (hconv : t.Conversations) (hk : k ∈ t.flows)
    (hne : k ≠ slot) : ¬ (key = k ∨ key = k.reverse) := by
  intro hsame
  cases h with
  -- Two stored keys of one conversation are the same key, by `one_way`.
  | forward hflow =>
    have hkey := Finmap.mem_of_lookup_eq_some hflow
    rcases hsame with hsame | hsame
    · exact hne hsame.symm
    · rw [hsame] at hkey
      have hself := hconv.one_way k hk hkey
      exact hne (hself.symm.trans hsame.symm)
  | reverse hkey =>
    rcases hsame with hsame | hsame
    · rw [hsame] at hkey
      exact hkey hk
    · rw [hsame] at hne
      exact hne rfl
  | fresh hkey hreverse =>
    rcases hsame with hsame | hsame
    · rw [hsame] at hkey
      exact hkey hk
    · rw [hsame] at hreverse
      exact hreverse hk

theorem Tracks.stored_le {flow : Flow} (h : p.Tracks events)
    (hlater : ∀ event ∈ events, event.time ≤ time) (hflow : p.table.flows.lookup key = some flow) :
    flow.counters.lastSeenNs ≤ (nowNs p.flowBaseline time).1 := by
  rcases h.stamped key flow hflow with ⟨last, baseline, hlast, hbaseline, hseen, -⟩
  rcases lastPacket_mem hlast with ⟨event, hevent, rfl⟩
  rw [hseen, hbaseline]
  exact shownNs_mono baseline (hlater event hevent)

/-- The clock of `flow.rs` does not go back. -/
theorem Tracks.stamp_le {created : UInt64} {slot : FlowKey} {flow : Flow} (h : p.Tracks events)
    (htarget : Target p.table key created slot flow)
    (hlater : ∀ event ∈ events, event.time ≤ time) :
    flow.counters.lastSeenNs ≤ (nowNs p.flowBaseline time).1 := by
  cases htarget with
  | forward hflow => exact h.stored_le hlater hflow
  | reverse hkey hflow => exact h.stored_le hlater hflow
  -- A new flow's counters start at zero.
  | fresh =>
    apply UInt64.le_iff_toNat_le.mpr
    exact Nat.zero_le _

theorem Tracks.packet (h : p.Tracks events) (hlater : ∀ event ∈ events, event.time ≤ time) :
    (p.recordPacket key bytes direction time).Tracks
      (events ++ [.packet key bytes direction time]) := by
  unfold recordPacket
  dsimp only
  split
  · rename_i r table hrecord
    rcases recordPacket_ok hrecord with ⟨slot, flow, htarget, hflows⟩
    change table.flows = _ at hflows
    refine ⟨h.conversations.change (FlowTable.change_recordPacket hrecord), ?_⟩
    intro k flow' hflow'
    change table.flows.lookup k = some flow' at hflow'
    rw [hflows, Table.lookup_insert] at hflow'
    split at hflow'
    · -- The packet's own flow: its stamp is the new reading.
      rename_i heq
      have hstamp := h.stamp_le htarget hlater
      have hseen := recordPacket_lastSeen bytes direction _ flow hstamp
      rw [← Option.some.inj hflow']
      refine ⟨time, p.flowBaseline.getD time, ?_, rfl, hseen.1, hseen.2⟩
      apply lastPacket_packet_self
      rw [heq]
      exact htarget.slot_eq
    · -- Another flow: the packet is not of its conversation, and the baseline was set before.
      rename_i hne
      rcases h.stamped k flow' hflow' with ⟨last, baseline, hlast, hbaseline, hseen⟩
      refine ⟨last, baseline, ?_, ?_, hseen⟩
      · rw [lastPacket_packet_other]
        · exact hlast
        · exact htarget.other h.conversations (Finmap.mem_of_lookup_eq_some hflow') hne
      · show some (p.flowBaseline.getD time) = some baseline
        rw [hbaseline]
        rfl
  -- A refused packet is of a conversation that the table does not hold.
  · rename_i err hrecord
    have habsent := recordPacket_error hrecord
    refine ⟨h.conversations, fun k flow hflow => ?_⟩
    rcases h.stamped k flow hflow with ⟨last, baseline, hlast, hrest⟩
    refine ⟨last, baseline, ?_, hrest⟩
    rw [lastPacket_packet_other]
    · exact hlast
    · intro hsame
      have hk := Finmap.mem_of_lookup_eq_some hflow
      rcases hsame with hsame | hsame
      · exact habsent.1 (hsame ▸ hk)
      · rw [hsame] at habsent
        exact habsent.2 hk

/-- Real time does not go back along the events. -/
def Timed (events : List Event) : Prop := events.Pairwise (fun a b => a.time ≤ b.time)

theorem tracks_run (start : FlowProcess) (h : start.Tracks []) (events : List Event)
    (htimed : Timed events) : (run step start events).Tracks events := by
  induction events using List.reverseRecOn with
  | nil => exact h
  -- The last packet is a property of the whole prefix, so the induction adds the last event.
  | append_singleton events event ih =>
    have hpair := List.pairwise_append.mp htimed
    have hlater : ∀ e ∈ events, e.time ≤ event.time :=
      fun e he => hpair.2.2 e he event List.mem_cons_self
    have htracks := ih hpair.1
    rw [run_append]
    cases event with
    | packet key bytes direction time => exact htracks.packet hlater
    | expire time => exact htracks.expire time

/-! ## 4. Expiry -/

theorem isIdle_iff {flow : Flow} {now : UInt64} {timeout : Nat} :
    flow.isIdle now timeout = true ↔ timeout ≤ now.toNat - flow.lastSeenNs.toNat := by
  unfold Flow.isIdle Flow.idleFor
  rw [decide_eq_true_eq]
  split
  -- A stamp ahead of the reading shows no idle time, as the truncated difference does.
  · rename_i hle
    have hnat := UInt64.le_iff_toNat_le.mp hle
    omega
  · rw [toNat_saturatingSub64]

/-- The idle time of a flow as its two clocks show it: the table's clock at `time`, whose baseline
is `time` itself when no expiry came before, and the flow's clock at the last packet. -/
def shownIdle (p : FlowProcess) (flowBaseline last time : Nat) : Nat :=
  (shownNs (p.tableBaseline.getD time) time).toNat - (shownNs flowBaseline last).toNat

/-- For every stored flow, the idle time shown and the real one are on the same side of the
timeout. -/
def ClocksAgree (p : FlowProcess) (events : List Event) (time : Nat) : Prop :=
  ∀ key last baseline, key ∈ p.table.flows → lastPacket events key = some last →
    p.flowBaseline = some baseline →
    (p.table.idleTimeout ≤ p.shownIdle baseline last time ↔
      p.table.idleTimeout ≤ time - last)

/-- What an expiry does to one stored flow. -/
theorem lookup_expireIdleNow {flow : Flow} {last baseline : Nat} (time : Nat)
    (hflow : p.table.flows.lookup key = some flow)
    (hseen : flow.lastSeenNs = shownNs baseline last) :
    (p.expireIdleNow time).table.flows.lookup key =
      if p.table.idleTimeout ≤ p.shownIdle baseline last time then none else some flow := by
  have hidle : flow.isIdle (nowNs p.tableBaseline time).1 p.table.idleTimeout = true ↔
      p.table.idleTimeout ≤ p.shownIdle baseline last time := by
    rw [isIdle_iff, hseen]
    rfl
  split
  · rename_i hshown
    cases hlookup : (p.expireIdleNow time).table.flows.lookup key with
    | none => rfl
    | some flow' =>
      have hkept := lookup_expireIdle.mp hlookup
      rw [← Option.some.inj (hflow.symm.trans hkept.1), hidle.mpr hshown] at hkept
      exact nomatch hkept.2
  · rename_i hshown
    apply lookup_expireIdle.mpr
    refine ⟨hflow, ?_⟩
    by_contra htrue
    exact hshown (hidle.mp (Bool.of_not_eq_false htrue))

theorem expiresExactly_iff (h : p.Tracks events) (time : Nat) :
    p.ExpiresExactly events time ↔ p.ClocksAgree events time := by
  constructor
  · intro hexact key last baseline hkey hlast hbaseline
    rcases Finmap.mem_iff.mp hkey with ⟨flow, hflow⟩
    rcases h.stamped key flow hflow with ⟨last', baseline', hlast', hbaseline', -, hseen⟩
    -- The invariant's own packet and baseline are the given ones.
    rw [← Option.some.inj (hlast.symm.trans hlast'),
      ← Option.some.inj (hbaseline.symm.trans hbaseline')] at hseen
    have hlookup := lookup_expireIdleNow time hflow hseen
    rcases hexact key flow hflow with ⟨hremoved, hkept⟩
    constructor
    · intro hshown
      rw [if_pos hshown] at hlookup
      by_contra hreal
      rw [hkept ?_] at hlookup
      · exact nomatch hlookup
      · intro hidle
        rcases hidle with ⟨last'', hlast'', htimeout⟩
        rw [← Option.some.inj (hlast.symm.trans hlast'')] at htimeout
        exact hreal htimeout
    · intro hreal
      by_contra hshown
      rw [if_neg hshown, hremoved ⟨last, hlast, hreal⟩] at hlookup
      exact nomatch hlookup
  · intro hagree key flow hflow
    rcases h.stamped key flow hflow with ⟨last, baseline, hlast, hbaseline, -, hseen⟩
    have hsides := hagree key last baseline (Finmap.mem_of_lookup_eq_some hflow) hlast hbaseline
    have hlookup := lookup_expireIdleNow time hflow hseen
    constructor
    · intro hidle
      rcases hidle with ⟨last', hlast', htimeout⟩
      rw [← Option.some.inj (hlast.symm.trans hlast')] at htimeout
      rw [hlookup, if_pos (hsides.mpr htimeout)]
    · intro hbusy
      rw [hlookup, if_neg]
      intro hshown
      exact hbusy ⟨last, hlast, hsides.mp hshown⟩

/-- One baseline for both clocks, in a process that has not run for `2 ^ 64` nanoseconds. -/
theorem clocksAgree_of_shared {baseline : Nat} (hflow : p.flowBaseline = some baseline)
    (htable : p.tableBaseline.getD time = baseline)
    (htimes : ∀ event ∈ events, baseline ≤ event.time ∧ event.time ≤ time)
    (hyoung : time < baseline + 2 ^ 64) : p.ClocksAgree events time := by
  intro key last baseline' _ hlast hbaseline
  rcases lastPacket_mem hlast with ⟨event, hevent, rfl⟩
  have htime := htimes event hevent
  rw [← Option.some.inj (hflow.symm.trans hbaseline)]
  -- Neither reading is clamped, and the common baseline cancels.
  unfold shownIdle
  rw [htable, toNat_shownNs, toNat_shownNs]
  omega

/-- An expiry removes exactly the idle flows precisely when the two clocks show every flow on the
right side of the timeout, as they do when they share a baseline. -/
theorem expireIdleNow_exact (flowBaseline tableBaseline : Option Nat)
    (maxEntries idleTimeout : Nat) (events : List Event) (htimed : Timed events) (time : Nat) :
    let p := run step ⟨flowBaseline, tableBaseline, .empty maxEntries idleTimeout⟩ events
    (p.ExpiresExactly events time ↔ p.ClocksAgree events time) ∧
      ∀ baseline, p.flowBaseline = some baseline → p.tableBaseline.getD time = baseline →
        (∀ event ∈ events, baseline ≤ event.time ∧ event.time ≤ time) →
        time < baseline + 2 ^ 64 → p.ExpiresExactly events time := by
  have htracks := tracks_run _ (.empty flowBaseline tableBaseline maxEntries idleTimeout) events
    htimed
  have hiff := expiresExactly_iff htracks time
  refine ⟨hiff, fun baseline hflow htable htimes hyoung => ?_⟩
  exact hiff.mpr (clocksAgree_of_shared hflow htable htimes hyoung)

def dnsKey : FlowKey := ⟨.v4 ⟨192, 168, 1, 10⟩, .v4 ⟨8, 8, 8, 8⟩, 53000, 53, 17⟩

theorem expireIdleNow_exact_dns :
    Timed [.packet dnsKey 64 .forward 1000] ∧
      ((run step ⟨some 0, some 0, .empty 10 300⟩
          [.packet dnsKey 64 .forward 1000]).ExpiresExactly [.packet dnsKey 64 .forward 1000] 1300 ↔
        (run step ⟨some 0, some 0, .empty 10 300⟩
          [.packet dnsKey 64 .forward 1000]).ClocksAgree [.packet dnsKey 64 .forward 1000] 1300) :=
  ⟨List.pairwise_singleton _ _,
    (expireIdleNow_exact (some 0) (some 0) 10 300 _ (List.pairwise_singleton _ _) 1300).1⟩

/-- Idle for an hour, with a timeout of five minutes, and still there after the first expiry: the
clock of the table starts with this very call. -/
theorem first_expiry_removes_nothing :
    ¬ (run step ⟨none, none, .empty 10 (300 * 10 ^ 9)⟩
        [.packet dnsKey 64 .forward 0]).ExpiresExactly [.packet dnsKey 64 .forward 0]
      (3600 * 10 ^ 9) := by
  intro hexact
  have hstored : (run step ⟨none, none, .empty 10 (300 * 10 ^ 9)⟩
      [.packet dnsKey 64 .forward 0]).table.flows.lookup dnsKey =
        some ((Flow.new dnsKey 0).recordPacket 64 .forward none 0) := by decide
  have hidle : (run step ⟨none, none, .empty 10 (300 * 10 ^ 9)⟩
      [.packet dnsKey 64 .forward 0]).Idle [.packet dnsKey 64 .forward 0] (3600 * 10 ^ 9) dnsKey :=
    ⟨0, by decide, by decide⟩
  exact absurd ((hexact dnsKey _ hstored).1 hidle) (by decide)

end FlowProcess

end NetworkEngine
