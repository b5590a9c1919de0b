import NetworkEngine.Lib.Ranking
import NetworkEngine.Lib.Transition
import NetworkEngine.Network.Cidr

/-!
# Routing — the routing table

`gateway_capability::routing`.  The comparison of `best` puts a longer prefix after a shorter one
and, of two routes of one length, the lower metric after the higher; `max_by` takes the last.
-/

namespace NetworkEngine

open Rust Prefix Ranking Transition

/-! ## 1. Entries -/

/-- An entry with a prefix that `new` accepts.  The fields of the source are public: an entry that is
written out with a longer prefix is left out. -/
structure RoutingEntry where
  destination : IpAddr
  prefixLen : UInt8
  nextHop : Option IpAddr
  interfaceId : UInt32
  metric : UInt32
  enabled : Bool
  prefixLen_le : prefixLen ≤ destination.maxPrefix
  deriving DecidableEq, Repr

def ipv4Matches {ε : Type} (network address : Ipv4Addr) (prefixLen : UInt8) : Checked ε Bool :=
  matchesUnlessZero network.toU32 address.toU32 prefixLen

def ipv6Matches {ε : Type} (network address : Ipv6Addr) (prefixLen : UInt8) : Checked ε Bool :=
  matchesUnlessZero network.toU128 address.toU128 prefixLen

namespace RoutingEntry

def new (destination : IpAddr) (prefixLen : UInt8) (nextHop : Option IpAddr)
    (interfaceId metric : UInt32) : Option RoutingEntry :=
  if h : destination.maxPrefix < prefixLen then none
  else some ⟨destination, prefixLen, nextHop, interfaceId, metric, true, UInt8.not_lt.mp h⟩

def «matches» {ε : Type} (e : RoutingEntry) (address : IpAddr) : Checked ε Bool :=
  inFamily (fun network addr => ipv4Matches network addr e.prefixLen)
    (fun network addr => ipv6Matches network addr e.prefixLen) e.destination address

/-- The entry is enabled, and its network covers the address. -/
def Serves (e : RoutingEntry) (address : IpAddr) : Prop :=
  e.enabled = true ∧ e.destination.Covers e.prefixLen.toNat address

instance (e : RoutingEntry) (address : IpAddr) : Decidable (e.Serves address) :=
  inferInstanceAs (Decidable (_ ∧ _))

/-- The comparison of `best`. -/
def preference : RoutingEntry → RoutingEntry → Ordering :=
  compareLex (compareOn (·.prefixLen)) fun a b => compareOn (·.metric) b a

/-- What `preference` compares. -/
def rank (e : RoutingEntry) : UInt8 × UInt32 := (e.prefixLen, e.metric)

instance : Std.TransCmp preference := inferInstanceAs (Std.TransCmp (compareLex _ _))

theorem matches_eq {ε : Type} (e : RoutingEntry) (address : IpAddr) :
    (e.matches address : Checked ε Bool) =
      .ok (e.destination.Covers e.prefixLen.toNat address) :=
  inFamily_eq e.prefixLen_le (fun _ _ hle => matchesUnlessZero_eq _ _ hle)
    (fun _ _ hle => matchesUnlessZero_eq _ _ hle)

theorem rank_eq {a b : RoutingEntry} (h : preference a b = .eq) : a.rank = b.rank := by
  obtain ⟨hbits, hmetric⟩ := eq_of_lex h
  rw [rank, rank, hbits, hmetric]

end RoutingEntry

open RoutingEntry

/-! ## 2. The table -/

structure RoutingTable where
  entries : List RoutingEntry
  deriving DecidableEq, Repr

namespace RoutingTable

def new : RoutingTable := ⟨[]⟩

def add (entry : RoutingEntry) (t : RoutingTable) : RoutingTable := ⟨t.entries ++ [entry]⟩

/-- The key by which `remove` and `set_enabled` look for entries. -/
def Same (destination : IpAddr) (prefixLen : UInt8) (interfaceId : UInt32) (e : RoutingEntry) :
    Bool :=
  e.destination = destination ∧ e.prefixLen = prefixLen ∧ e.interfaceId = interfaceId

def remove (destination : IpAddr) (prefixLen : UInt8) (interfaceId : UInt32) (t : RoutingTable) :
    Bool × RoutingTable :=
  let entries := t.entries.filter (!Same destination prefixLen interfaceId ·)
  (entries.length ≠ t.entries.length, ⟨entries⟩)

def clear (_ : RoutingTable) : RoutingTable := ⟨[]⟩

/-- The first entry that is looked for changes. -/
def setEnabled (destination : IpAddr) (prefixLen : UInt8) (interfaceId : UInt32) (enabled : Bool)
    (t : RoutingTable) : Bool × RoutingTable :=
  match t.entries.findIdx? (Same destination prefixLen interfaceId) with
  | none => (false, t)
  | some i => (true, ⟨t.entries.modify i ({ · with enabled })⟩)

def best {ε : Type} (t : RoutingTable) (destination : IpAddr) :
    Checked ε (Option RoutingEntry) := do
  let found ← filterChecked
    (fun entry => if entry.enabled then entry.matches destination else pure false) t.entries
  return maxBy preference found

/-! ## 3. The best route -/

/-- The entries that serve the address, in the order of the table. -/
def serving (t : RoutingTable) (address : IpAddr) : List RoutingEntry :=
  t.entries.filter (·.Serves address)

variable {t t' : RoutingTable} {d : IpAddr} {e : RoutingEntry}

theorem mem_serving : e ∈ t.serving d ↔ e ∈ t.entries ∧ e.Serves d := by
  rw [serving, List.mem_filter, decide_eq_true_iff]

theorem best_eq {ε : Type} (t : RoutingTable) (d : IpAddr) :
    (t.best d : Checked ε (Option RoutingEntry)) =
      .ok (greatest preference (t.serving d)).getLast? := by
  rw [best, filterChecked_guarded fun e => e.matches_eq d]
  exact congrArg Except.ok (maxBy_eq_getLast? (t.serving d))

/-- The entry serves the address; no entry that does has a longer prefix, and none of the same
prefix length a lower metric. -/
def Best (t : RoutingTable) (d : IpAddr) (e : RoutingEntry) : Prop :=
  e ∈ t.entries ∧ e.Serves d ∧ ∀ e' ∈ t.entries, e'.Serves d →
    e'.prefixLen ≤ e.prefixLen ∧ (e'.prefixLen = e.prefixLen → e.metric ≤ e'.metric)

theorem mem_greatest_iff : e ∈ greatest preference (t.serving d) ↔ Best t d e := by
  unfold preference
  rw [mem_greatest_lex, mem_serving, and_assoc]
  refine and_congr_right fun _ => and_congr_right fun _ => forall_congr' fun e' => ?_
  rw [mem_serving, and_imp]

/-- The prefix length and the metric of the best route depend on what the table holds, not on the
order of its entries. -/
theorem best_rank_eq {ε : Type} (hsame : ∀ e, e ∈ t.entries ↔ e ∈ t'.entries) (d : IpAddr) :
    (Option.map rank <$> t.best d : Checked ε _) = Option.map rank <$> t'.best d := by
  have hserving (e : RoutingEntry) : e ∈ t.serving d ↔ e ∈ t'.serving d := by
    rw [mem_serving, mem_serving, hsame]
  rw [best_eq, best_eq]
  refine congrArg Except.ok ?_
  cases hlast : (greatest preference (t.serving d)).getLast? with
  | none =>
    rw [List.getLast?_eq_none_iff, greatest_eq_nil_iff] at hlast
    have hnil : t'.serving d = [] := by
      rw [List.eq_nil_iff_forall_not_mem]
      intro e he
      rw [← hserving, hlast] at he
      exact List.not_mem_nil he
    rw [hnil]
    rfl
  | some e =>
    cases hlast' : (greatest preference (t'.serving d)).getLast? with
    | none =>
      rw [List.getLast?_eq_none_iff, greatest_eq_nil_iff] at hlast'
      have hmem := (mem_greatest.mp (List.mem_of_getLast? hlast)).1
      rw [hserving, hlast'] at hmem
      exact absurd hmem List.not_mem_nil
    | some e' =>
      have hties := greatest_ties hserving (List.mem_of_getLast? hlast)
        (List.mem_of_getLast? hlast')
      exact congrArg some (rank_eq hties)

/-! ## 4. Runs -/

inductive Edit where
  | add (entry : RoutingEntry)
  | remove (destination : IpAddr) (prefixLen : UInt8) (interfaceId : UInt32)
  | setEnabled (destination : IpAddr) (prefixLen : UInt8) (interfaceId : UInt32) (enabled : Bool)
  | clear
  deriving DecidableEq, Repr

def step (t : RoutingTable) : Edit → RoutingTable
  | .add entry => t.add entry
  | .remove destination prefixLen interfaceId => (t.remove destination prefixLen interfaceId).2
  | .setEnabled destination prefixLen interfaceId enabled =>
    (t.setEnabled destination prefixLen interfaceId enabled).2
  | .clear => t.clear

theorem run_adds (t : RoutingTable) (entries : List RoutingEntry) :
    (run step t (entries.map .add)).entries = t.entries ++ entries := by
  induction entries generalizing t with
  | nil => exact (List.append_nil _).symm
  | cons e entries ih =>
    rw [List.map_cons, run_cons, ih]
    exact List.append_assoc _ [e] entries

/-- In every table that edits lead to, `best` finds nothing when nothing matches, and otherwise a
best route.  Tables that hold the same entries find routes of the same prefix length and metric, and
so do tables to which the same entries were added in different orders. -/
theorem best_route_run {ε : Type} (edits : List Edit) (d : IpAddr) :
    (∃ result, ((run step new edits).best d : Checked ε (Option RoutingEntry)) = .ok result ∧
      (result = none ↔ ∀ e ∈ (run step new edits).entries, ¬ e.Serves d) ∧
      ∀ e, result = some e → Best (run step new edits) d e) ∧
    (∀ others, (∀ e, e ∈ (run step new edits).entries ↔ e ∈ (run step new others).entries) →
      (Option.map rank <$> (run step new edits).best d : Checked ε _) =
        Option.map rank <$> (run step new others).best d) ∧
    ∀ added added' : List RoutingEntry, added.Perm added' →
      (Option.map rank <$> (run step new (edits ++ added.map .add)).best d : Checked ε _) =
        Option.map rank <$> (run step new (edits ++ added'.map .add)).best d := by
  refine ⟨⟨_, best_eq _ d, ?_, fun e he => mem_greatest_iff.mp (List.mem_of_getLast? he)⟩,
    fun others hsame => best_rank_eq hsame d, fun added added' hperm => ?_⟩
  · rw [List.getLast?_eq_none_iff, greatest_eq_nil_iff, serving, List.filter_eq_nil_iff]
    simp only [decide_eq_true_eq]
  · apply best_rank_eq
    intro e
    rw [run_append, run_append, run_adds, run_adds, List.mem_append, List.mem_append,
      hperm.mem_iff]

end RoutingTable

end NetworkEngine
