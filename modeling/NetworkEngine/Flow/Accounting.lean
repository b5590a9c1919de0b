import Mathlib.Algebra.Ring.Nat
import Mathlib.Order.Bounds.Defs
import NetworkEngine.Flow.FlowTable

/-!
# Accounting — what a flow adds up to

`flow_engine::{counters, flow}`.  The packets of a flow are recorded one after the other.  All its
fields but one are sums and maxima, which no order changes; the first-seen time takes a zero for a
time that has not been set.
-/

namespace NetworkEngine

open Rust

attribute [ext] FlowCounters

/-- A call of `record_packet` with a time of its own. -/
structure PacketRecord where
  bytes : Nat
  bytes_lt : bytes < usizeSize
  direction : FlowDirection
  timestampNs : UInt64

namespace Flow

/-- The clock is not read. -/
def recordCall (f : Flow) (p : PacketRecord) : Flow :=
  f.recordPacket p.bytes p.direction (some p.timestampNs) p.timestampNs

/-- A new flow after the calls of `l`. -/
def replay (key : FlowKey) (now : UInt64) (l : List PacketRecord) : Flow :=
  l.foldl recordCall (new key now)

variable (key : FlowKey) (now : UInt64) {f : Flow} {p q : PacketRecord} {l : List PacketRecord}

/-! ## 1. One call -/

/-- Every field after a call. -/
theorem recordCall_eq (f : Flow) (p : PacketRecord) :
    f.recordCall p =
      { key := f.key
        counters := f.counters.record (UInt64.ofNat p.bytes) p.timestampNs
        packets := (f.counters.record (UInt64.ofNat p.bytes) p.timestampNs).packets
        bytes := (f.counters.record (UInt64.ofNat p.bytes) p.timestampNs).bytes
        forwardPackets :=
          if p.direction = .forward then saturatingAdd64 f.forwardPackets 1 else f.forwardPackets
        forwardBytes :=
          if p.direction = .forward then saturatingAdd64 f.forwardBytes (UInt64.ofNat p.bytes)
          else f.forwardBytes
        reversePackets :=
          if p.direction = .reverse then saturatingAdd64 f.reversePackets 1 else f.reversePackets
        reverseBytes :=
          if p.direction = .reverse then saturatingAdd64 f.reverseBytes (UInt64.ofNat p.bytes)
          else f.reverseBytes
        firstSeenNs := (f.counters.record (UInt64.ofNat p.bytes) p.timestampNs).firstSeenNs
        lastSeenNs := (f.counters.record (UInt64.ofNat p.bytes) p.timestampNs).lastSeenNs
        lastForwardSeenNs :=
          if p.direction = .forward then max f.lastForwardSeenNs p.timestampNs
          else f.lastForwardSeenNs
        lastReverseSeenNs :=
          if p.direction = .reverse then max f.lastReverseSeenNs p.timestampNs
          else f.lastReverseSeenNs
        state := if f.state = .new then .active else f.state } := by
  unfold recordCall recordPacket
  cases p.direction with
  | forward | reverse | unknown => dsimp only [Option.getD]; split <;> rfl

theorem replay_concat : replay key now (l ++ [p]) = (replay key now l).recordCall p := by
  rw [replay, List.foldl_concat]
  rfl

/-! ## 2. Calls that change places -/

theorem saturatingAdd64_right_comm (x a b : UInt64) :
    saturatingAdd64 (saturatingAdd64 x a) b = saturatingAdd64 (saturatingAdd64 x b) a := by
  apply UInt64.toNat_inj.mp
  rw [toNat_saturatingAdd64, toNat_saturatingAdd64, toNat_saturatingAdd64, toNat_saturatingAdd64]
  omega

theorem max64_right_comm (x a b : UInt64) : max (max x a) b = max (max x b) a := by
  have hmax : ∀ y z : UInt64, max y z = if y ≤ z then z else y := fun _ _ => rfl
  grind

/-- Two updates of one field, each made under a condition of its own. -/
theorem ite_right_comm {α β : Type} {g : α → β → α} (hg : ∀ x a b, g (g x a) b = g (g x b) a)
    (c d : Prop) [Decidable c] [Decidable d] (x : α) (a b : β) :
    (if d then g (if c then g x a else x) b else if c then g x a else x) =
      if c then g (if d then g x b else x) a else if d then g x b else x := by
  by_cases hc : c
  · by_cases hd : d
    · rw [if_pos hc, if_pos hd, if_pos hc, if_pos hd, hg]
    · rw [if_neg hd, if_pos hc, if_pos hc, if_neg hd]
  · rw [if_neg hc, if_neg hc]

/-- Neither time is a zero, or they are the same. -/
def Exchangeable (s t : UInt64) : Prop := s ≠ 0 ∧ t ≠ 0 ∨ s = t

theorem counters_right_comm {s t : UInt64} (h : Exchangeable s t) (a b : UInt64)
    (c : FlowCounters) : (c.record a s).record b t = (c.record b t).record a s := by
  have hfirst : ((c.record a s).record b t).firstSeenNs = ((c.record b t).record a s).firstSeenNs := by
    obtain ⟨hs, ht⟩ | rfl := h
    · simp only [FlowCounters.record]
      grind
    · rfl
  have hlast : ((c.record a s).record b t).lastSeenNs = ((c.record b t).record a s).lastSeenNs := by
    simp only [FlowCounters.record]
    grind
  exact FlowCounters.ext rfl (saturatingAdd64_right_comm _ _ _) hfirst hlast

theorem recordCall_right_comm (h : Exchangeable p.timestampNs q.timestampNs) (f : Flow) :
    (f.recordCall p).recordCall q = (f.recordCall q).recordCall p := by
  have hcounters := counters_right_comm h (UInt64.ofNat p.bytes) (UInt64.ofNat q.bytes)
    f.counters
  have hsum := ite_right_comm saturatingAdd64_right_comm
  have hmax := ite_right_comm max64_right_comm
  simp only [recordCall_eq, hcounters]
  congr 1
  · exact hsum _ _ _ _ _
  · exact hsum _ _ _ _ _
  · exact hsum _ _ _ _ _
  · exact hsum _ _ _ _ _
  · exact hmax _ _ _ _ _
  · exact hmax _ _ _ _ _

theorem replay_perm {l' : List PacketRecord} (hperm : l.Perm l')
    (h : ∀ p ∈ l, ∀ q ∈ l, Exchangeable p.timestampNs q.timestampNs) :
    replay key now l = replay key now l' :=
  hperm.foldl_eq' (fun p hp q hq f => recordCall_right_comm (h p hp q hq) f) _

/-! ## 3. Sums -/

/-- The mirror fields have the values of the counters. -/
structure Mirrored (f : Flow) : Prop where
  packets : f.packets = f.counters.packets
  bytes : f.bytes = f.counters.bytes
  firstSeen : f.firstSeenNs = f.counters.firstSeenNs
  lastSeen : f.lastSeenNs = f.counters.lastSeenNs

theorem mirrored_recordCall (f : Flow) (p : PacketRecord) : Mirrored (f.recordCall p) := by
  rw [recordCall_eq]
  exact ⟨rfl, rfl, rfl, rfl⟩

theorem mirrored_replay (h : l ≠ []) : Mirrored (replay key now l) := by
  rw [← List.dropLast_concat_getLast h, replay_concat]
  exact mirrored_recordCall _ _

/-- A field that saturates at each call holds the saturated sum. -/
theorem toNat_replay {g : Flow → UInt64} {w : PacketRecord → Nat} (hnew : g (new key now) = 0)
    (hstep : ∀ f p, (g (f.recordCall p)).toNat = min ((g f).toNat + w p) (2 ^ 64 - 1))
    (l : List PacketRecord) :
    (g (replay key now l)).toNat = min (l.map w).sum (2 ^ 64 - 1) := by
  induction l using List.reverseRecOn with
  | nil =>
    show (g (new key now)).toNat = _
    rw [hnew]
    rfl
  | append_singleton l p ih =>
    rw [replay_concat, hstep, ih, List.map_append, List.sum_append, List.map_singleton,
      List.sum_singleton]
    omega

theorem packets_replay (l : List PacketRecord) :
    (replay key now l).counters.packets.toNat = min l.length (2 ^ 64 - 1) := by
  have hsum : (l.map fun _ => 1).sum = l.length := by
    rw [List.map_const', List.sum_replicate_nat, Nat.mul_one]
  rw [← hsum]
  refine toNat_replay key now (g := fun f => f.counters.packets) rfl (fun f p => ?_) l
  rw [recordCall_eq]
  exact toNat_saturatingAdd64 _ _

theorem bytes_replay (l : List PacketRecord) :
    (replay key now l).counters.bytes.toNat = min (l.map (·.bytes)).sum (2 ^ 64 - 1) := by
  refine toNat_replay key now (g := fun f => f.counters.bytes) rfl (fun f p => ?_) l
  have hbytes : (UInt64.ofNat p.bytes).toNat = p.bytes := UInt64.toNat_ofNat_of_lt' p.bytes_lt
  rw [recordCall_eq]
  show (saturatingAdd64 _ _).toNat = _
  rw [toNat_saturatingAdd64, hbytes]

/-- One for a packet of direction `d`. -/
def weight (d : FlowDirection) (p : PacketRecord) : Nat := if p.direction = d then 1 else 0

theorem toNat_countIf (c : Prop) [Decidable c] (x : UInt64) :
    (if c then saturatingAdd64 x 1 else x).toNat =
      min (x.toNat + if c then 1 else 0) (2 ^ 64 - 1) := by
  have hx := x.toNat_lt
  by_cases hc : c
  · rw [if_pos hc, if_pos hc, toNat_saturatingAdd64]
    rfl
  · rw [if_neg hc, if_neg hc]
    omega

theorem forwardPackets_replay (l : List PacketRecord) :
    (replay key now l).forwardPackets.toNat = min (l.map (weight .forward)).sum (2 ^ 64 - 1) := by
  refine toNat_replay key now (g := fun f => f.forwardPackets) rfl (fun f p => ?_) l
  rw [recordCall_eq]
  exact toNat_countIf _ _

theorem reversePackets_replay (l : List PacketRecord) :
    (replay key now l).reversePackets.toNat = min (l.map (weight .reverse)).sum (2 ^ 64 - 1) := by
  refine toNat_replay key now (g := fun f => f.reversePackets) rfl (fun f p => ?_) l
  rw [recordCall_eq]
  exact toNat_countIf _ _

/-- Every packet has one of the three directions. -/
theorem weight_add (p : PacketRecord) :
    weight .forward p + weight .reverse p + (if p.direction = .unknown then 1 else 0) = 1 := by
  unfold weight
  cases p.direction with
  | forward | reverse | unknown => rfl

theorem sum_weight (l : List PacketRecord) :
    (l.map (weight .forward)).sum + (l.map (weight .reverse)).sum +
      l.countP (·.direction = .unknown) = l.length := by
  induction l with
  | nil => rfl
  | cons p l ih =>
    have hp := weight_add p
    simp only [List.map_cons, List.sum_cons, List.countP_cons, List.length_cons,
      decide_eq_true_iff]
    omega

/-! ## 4. The last and the first time -/

/-- The times of the calls. -/
def times (l : List PacketRecord) : Set UInt64 := {t | ∃ p ∈ l, p.timestampNs = t}

theorem lastSeen_recordCall (f : Flow) (p : PacketRecord) :
    (f.recordCall p).counters.lastSeenNs =
      if p.timestampNs ≤ f.counters.lastSeenNs then f.counters.lastSeenNs else p.timestampNs := by
  rw [recordCall_eq]
  rfl

theorem lastSeen_upper (l : List PacketRecord) :
    ∀ p ∈ l, p.timestampNs ≤ (replay key now l).counters.lastSeenNs := by
  induction l using List.reverseRecOn with
  | nil => simp
  | append_singleton l q ih =>
    intro p hp
    rw [replay_concat, lastSeen_recordCall]
    obtain hold | hnew := List.mem_append.mp hp
    · have hle := ih p hold
      grind
    · rw [List.mem_singleton.mp hnew]
      grind

theorem lastSeen_attained (l : List PacketRecord) :
    (replay key now l).counters.lastSeenNs = 0 ∨
      (replay key now l).counters.lastSeenNs ∈ times l := by
  induction l using List.reverseRecOn with
  | nil => exact .inl rfl
  | append_singleton l p ih =>
    rw [replay_concat, lastSeen_recordCall]
    split
    · obtain hzero | ⟨q, hq, hlast⟩ := ih
      · exact .inl hzero
      · exact .inr ⟨q, List.mem_append_left _ hq, hlast⟩
    · exact .inr ⟨p, List.mem_append_right _ (List.mem_singleton_self p), rfl⟩

theorem isGreatest_lastSeen (h : l ≠ []) :
    IsGreatest (times l) (replay key now l).counters.lastSeenNs := by
  have hupper := lastSeen_upper key now l
  constructor
  · obtain hzero | hmem := lastSeen_attained key now l
    -- No time is less than zero, so that any call attains it.
    · obtain ⟨p, hp⟩ := List.exists_mem_of_ne_nil l h
      have hle := hupper p hp
      exact ⟨p, hp, by grind⟩
    · exact hmem
  · rintro t ⟨p, hp, rfl⟩
    exact hupper p hp

theorem firstSeen_recordCall (f : Flow) (p : PacketRecord) :
    (f.recordCall p).counters.firstSeenNs =
      if f.counters.firstSeenNs ≠ 0 ∧ f.counters.firstSeenNs ≤ p.timestampNs then
        f.counters.firstSeenNs
      else p.timestampNs := by
  rw [recordCall_eq]
  rfl

/-- A call leaves a zero when its own time is zero, whatever was there. -/
theorem firstSeen_recordCall_eq_zero (f : Flow) (p : PacketRecord) :
    (f.recordCall p).counters.firstSeenNs = 0 ↔ p.timestampNs = 0 := by
  rw [firstSeen_recordCall]
  grind

theorem firstSeen_replay_eq_zero (h : l ≠ []) :
    (replay key now l).counters.firstSeenNs = 0 ↔ (l.getLast h).timestampNs = 0 := by
  conv_lhs => rw [← List.dropLast_concat_getLast h, replay_concat]
  exact firstSeen_recordCall_eq_zero _ _

/-- Without a zero the first-seen time is the least. -/
theorem isLeast_firstSeen (h : l ≠ []) (hne : ∀ p ∈ l, p.timestampNs ≠ 0) :
    IsLeast (times l) (replay key now l).counters.firstSeenNs := by
  induction l using List.reverseRecOn with
  | nil => exact absurd rfl h
  | append_singleton l p ih =>
    have hp : p.timestampNs ≠ 0 := hne p (List.mem_append_right _ (List.mem_singleton_self p))
    rw [replay_concat, firstSeen_recordCall]
    by_cases hl : l = []
    · subst hl
      have hnew : (replay key now []).counters.firstSeenNs = 0 := rfl
      rw [hnew, if_neg (by simp)]
      constructor
      · exact ⟨p, List.mem_singleton_self p, rfl⟩
      · rintro t ⟨q, hq, rfl⟩
        rw [List.mem_singleton.mp hq]
        exact UInt64.le_refl _
    · obtain ⟨hmem, hlower⟩ := ih hl fun q hq => hne q (List.mem_append_left _ hq)
      obtain ⟨q, hq, hfirst⟩ := hmem
      have hq0 : q.timestampNs ≠ 0 := hne q (List.mem_append_left _ hq)
      rw [← hfirst] at hlower ⊢
      constructor
      · split
        · exact ⟨q, List.mem_append_left _ hq, rfl⟩
        · exact ⟨p, List.mem_append_right _ (List.mem_singleton_self p), rfl⟩
      · rintro t ⟨r, hr, rfl⟩
        obtain hold | hlast := List.mem_append.mp hr
        · have hle : q.timestampNs ≤ r.timestampNs := hlower ⟨r, hold, rfl⟩
          grind
        · rw [List.mem_singleton.mp hlast]
          grind

/-- With a zero it is when the last time is zero. -/
theorem isLeast_firstSeen_iff (h : l ≠ []) :
    IsLeast (times l) (replay key now l).counters.firstSeenNs ↔
      (∀ p ∈ l, p.timestampNs ≠ 0) ∨ (l.getLast h).timestampNs = 0 := by
  constructor
  · intro hleast
    by_cases hne : ∀ p ∈ l, p.timestampNs ≠ 0
    · exact .inl hne
    · obtain ⟨p, hp, hzero⟩ : ∃ p ∈ l, p.timestampNs = 0 := by
        by_contra hno
        exact hne fun p hp hzero => hno ⟨p, hp, hzero⟩
      have hle : (replay key now l).counters.firstSeenNs ≤ 0 := hleast.2 ⟨p, hp, hzero⟩
      have hfirst := UInt64.le_antisymm hle UInt64.zero_le
      exact .inr ((firstSeen_replay_eq_zero key now h).mp hfirst)
  · rintro (hne | hlast)
    · exact isLeast_firstSeen key now h hne
    · rw [(firstSeen_replay_eq_zero key now h).mpr hlast]
      constructor
      · exact ⟨_, List.getLast_mem h, hlast⟩
      · intro t _
        exact UInt64.zero_le

/-! ## 5. The account -/

/-- What holds of a flow after the calls of `l`, in whatever order they came. -/
structure Accounted (f : Flow) (l : List PacketRecord) : Prop where
  mirrored : Mirrored f
  packets : f.packets.toNat = min l.length (2 ^ 64 - 1)
  bytes : f.bytes.toNat = min (l.map (·.bytes)).sum (2 ^ 64 - 1)
  directions : l.length < 2 ^ 64 →
    f.forwardPackets.toNat + f.reversePackets.toNat + l.countP (·.direction = .unknown) =
      f.packets.toNat
  lastSeen : IsGreatest (times l) f.lastSeenNs

theorem accounted_replay (h : l ≠ []) : Accounted (replay key now l) l := by
  have hmirrored := mirrored_replay key now h
  have hpackets := packets_replay key now l
  have hbytes := bytes_replay key now l
  have hlast := isGreatest_lastSeen key now h
  rw [← hmirrored.packets] at hpackets
  rw [← hmirrored.bytes] at hbytes
  rw [← hmirrored.lastSeen] at hlast
  have hdirections : l.length < 2 ^ 64 →
      (replay key now l).forwardPackets.toNat + (replay key now l).reversePackets.toNat +
        l.countP (·.direction = .unknown) = (replay key now l).packets.toNat := by
    intro hlt
    have hsum := sum_weight l
    rw [hpackets, forwardPackets_replay, reversePackets_replay]
    omega
  exact ⟨hmirrored, hpackets, hbytes, hdirections, hlast⟩

/-- The account with the least time for the first, and the same flow for every order of `l`. -/
structure Exact (key : FlowKey) (now : UInt64) (l : List PacketRecord) : Prop where
  accounted : Accounted (replay key now l) l
  firstSeen : IsLeast (times l) (replay key now l).firstSeenNs
  reordered : ∀ l', l.Perm l' → replay key now l = replay key now l'

/-- A zero and another time can be put in an order that leaves another first-seen time. -/
theorem firstSeen_reordered (h : ∃ p ∈ l, p.timestampNs ≠ 0) :
    ∃ l', l.Perm l' ∧ (replay key now l').counters.firstSeenNs ≠ 0 := by
  obtain ⟨p, hp, hne⟩ := h
  obtain ⟨before, behind, rfl⟩ := List.append_of_mem hp
  refine ⟨before ++ behind ++ [p], ?_, ?_⟩
  · rw [List.append_assoc]
    exact List.Perm.append_left _ (List.perm_append_singleton p behind).symm
  · rw [replay_concat]
    exact fun hzero => hne ((firstSeen_recordCall_eq_zero _ _).mp hzero)

/-- Everything but the first-seen time adds up.  That time is the least when no time is zero or the
last one is, and the whole account is exact when no time is zero or all are. -/
theorem accounting_exact_iff (key : FlowKey) (now : UInt64) (l : List PacketRecord) (h : l ≠ []) :
    Accounted (replay key now l) l ∧
      (IsLeast (times l) (replay key now l).firstSeenNs ↔
        (∀ p ∈ l, p.timestampNs ≠ 0) ∨ (l.getLast h).timestampNs = 0) ∧
      (Exact key now l ↔ (∀ p ∈ l, p.timestampNs ≠ 0) ∨ ∀ p ∈ l, p.timestampNs = 0) := by
  have haccounted := accounted_replay key now h
  have hfirst : IsLeast (times l) (replay key now l).firstSeenNs ↔
      (∀ p ∈ l, p.timestampNs ≠ 0) ∨ (l.getLast h).timestampNs = 0 := by
    rw [haccounted.mirrored.firstSeen]
    exact isLeast_firstSeen_iff key now h
  refine ⟨haccounted, hfirst, ?_⟩
  constructor
  · intro hexact
    by_cases hzeros : ∀ p ∈ l, p.timestampNs = 0
    · exact .inr hzeros
    · obtain hne | hlast := hfirst.mp hexact.firstSeen
      · exact .inl hne
      · have hother : ∃ p ∈ l, p.timestampNs ≠ 0 := by
          by_contra hno
          exact hzeros fun p hp => by_contra fun hne => hno ⟨p, hp, hne⟩
        obtain ⟨l', hperm, hfirst'⟩ := firstSeen_reordered key now hother
        rw [← hexact.reordered l' hperm] at hfirst'
        exact absurd ((firstSeen_replay_eq_zero key now h).mpr hlast) hfirst'
  · rintro (hne | hzeros)
    · exact ⟨haccounted, hfirst.mpr (.inl hne), fun l' hperm =>
        replay_perm key now hperm fun p hp q hq => .inl ⟨hne p hp, hne q hq⟩⟩
    · exact ⟨haccounted, hfirst.mpr (.inr (hzeros _ (List.getLast_mem h))), fun l' hperm =>
        replay_perm key now hperm fun p hp q hq => .inr ((hzeros p hp).trans (hzeros q hq).symm)⟩

def lanKey : FlowKey := ⟨.v4 ⟨192, 168, 1, 10⟩, .v4 ⟨8, 8, 8, 8⟩, 12345, 443, 6⟩

/-- A packet of a hundred bytes at time `t`. -/
def packetAt (t : UInt64) : PacketRecord := ⟨100, by decide, .forward, t⟩

theorem accounting_exact_iff_unordered : Exact lanKey 7 [packetAt 200, packetAt 100] := by
  have hne : ∀ p ∈ [packetAt 200, packetAt 100], p.timestampNs ≠ 0 := by
    intro p hp
    obtain rfl | hp := List.mem_cons.mp hp
    · decide
    · rw [List.mem_singleton.mp hp]
      decide
  exact (accounting_exact_iff lanKey 7 _ (List.cons_ne_nil _ _)).2.2.mpr (.inl hne)

/-- The second packet takes the place of the first. -/
theorem zero_time_displaced : ¬ Exact lanKey 7 [packetAt 0, packetAt 5] := by
  intro hexact
  have hle : (5 : UInt64) ≤ 0 := hexact.firstSeen.2 ⟨packetAt 0, List.mem_cons_self, rfl⟩
  exact absurd hle (by decide)

end Flow

end NetworkEngine
