import Mathlib.Data.Finset.Sort
import Mathlib.Data.List.MinMax
import Mathlib.Data.String.Basic
import NetworkEngine.Lib.Checked
import NetworkEngine.Lib.Table
import NetworkEngine.Lib.Transition

/-!
# MetadataCache — a bounded map whose entries expire

`metadata_engine::cache`.  An entry lives for its number of seconds.  It leaves the map when it is
read too late, when room is made for a new key, or when it is removed; the clock is read once for
every call.
-/

namespace NetworkEngine

open Rust Transition

/-! ## 1. Entries -/

structure CacheEntry where
  value : String
  insertedAt : UInt64
  ttlSecs : UInt64
  deriving DecidableEq, Repr

def CacheEntry.isExpired (entry : CacheEntry) (now : UInt64) : Bool :=
  entry.ttlSecs ≤ saturatingSub64 now entry.insertedAt

/-- With a clock that does not go back, an entry that is not expired is younger than its limit. -/
theorem CacheEntry.lt_of_not_expired {entry : CacheEntry} {now : UInt64}
    (hclock : entry.insertedAt ≤ now) (h : entry.isExpired now = false) :
    now.toNat < entry.insertedAt.toNat + entry.ttlSecs.toNat := by
  rw [isExpired, decide_eq_false_iff_not, UInt64.le_iff_toNat_le, toNat_saturatingSub64] at h
  rw [UInt64.le_iff_toNat_le] at hclock
  omega

/-- An order in which `entries.iter()` visits every map. -/
structure Visit where
  list : Table String CacheEntry → List (String × CacheEntry)
  mem_list : ∀ entries key entry,
    (key, entry) ∈ list entries ↔ entries.lookup key = some entry

/-- From the greatest key to the least. -/
def Visit.sorted : Visit where
  list entries := (entries.keys.sort (· ≥ ·)).filterMap fun key => (entries.lookup key).map (key, ·)
  mem_list entries key entry := by
    rw [List.mem_filterMap]
    constructor
    · rintro ⟨key', -, hfound⟩
      obtain ⟨entry', hlookup, heq⟩ := Option.map_eq_some_iff.mp hfound
      obtain ⟨rfl, rfl⟩ := Prod.mk.inj heq
      exact hlookup
    · intro hlookup
      refine ⟨key, ?_, by rw [hlookup]; rfl⟩
      rw [Finset.mem_sort, Finmap.mem_keys]
      exact Finmap.mem_of_lookup_eq_some hlookup

/-! ## 2. The cache -/

structure MetadataCache where
  entries : Table String CacheEntry
  maxEntries : Nat

namespace MetadataCache

def new (maxEntries : Nat) : MetadataCache := ⟨∅, maxEntries⟩

def len (cache : MetadataCache) : Nat := cache.entries.keys.card

def get (cache : MetadataCache) (key : String) (now : UInt64) : Option String × MetadataCache :=
  match cache.entries.lookup key with
  | none => (none, cache)
  | some entry =>
    if entry.isExpired now then (none, { cache with entries := cache.entries.erase key })
    else (some entry.value, cache)

def removeExpired (entries : Table String CacheEntry) (now : UInt64) : Table String CacheEntry :=
  entries.discard (·.isExpired now)

/-- `entries.iter().min_by_key(..).map(..)`. -/
def oldestKey (visit : Visit) (entries : Table String CacheEntry) : Option String :=
  ((visit.list entries).argmin fun item => item.2.insertedAt.toNat).map Prod.fst

/-- `if entries.len() >= self.max_entries { .. }`. -/
def makeRoom (visit : Visit) (maxEntries : Nat) (entries : Table String CacheEntry) :
    Table String CacheEntry :=
  if maxEntries ≤ entries.keys.card then
    match oldestKey visit entries with
    | some keyToRemove => entries.erase keyToRemove
    | none => entries
  else entries

def insert (cache : MetadataCache) (visit : Visit) (key value : String) (ttlSecs now : UInt64) :
    MetadataCache :=
  if cache.maxEntries = 0 then cache
  else if key ∈ cache.entries then
    { cache with entries := cache.entries.insert key ⟨value, now, ttlSecs⟩ }
  else
    let entries := makeRoom visit cache.maxEntries (removeExpired cache.entries now)
    { cache with entries := entries.insert key ⟨value, now, ttlSecs⟩ }

def remove (cache : MetadataCache) (key : String) : Bool × MetadataCache :=
  (decide (key ∈ cache.entries), { cache with entries := cache.entries.erase key })

def clear (cache : MetadataCache) : MetadataCache := { cache with entries := ∅ }

inductive Op where
  | get (key : String)
  | insert (visit : Visit) (key value : String) (ttlSecs : UInt64)
  | remove (key : String)
  | clear

/-- A call and what `unix_seconds` reads in it. -/
structure Call where
  op : Op
  now : UInt64

def step (cache : MetadataCache) (call : Call) : MetadataCache :=
  match call.op with
  | .get key => (cache.get key call.now).2
  | .insert visit key value ttlSecs => cache.insert visit key value ttlSecs call.now
  | .remove key => (cache.remove key).2
  | .clear => cache.clear

/-! ## 3. One call -/

/-- No entry is older than the one under this key. -/
def Oldest (entries : Table String CacheEntry) (key : String) : Prop :=
  ∃ entry, entries.lookup key = some entry ∧
    ∀ key' entry', entries.lookup key' = some entry' → entry.insertedAt ≤ entry'.insertedAt

variable {cache : MetadataCache} {visit : Visit} {key key' value : String} {ttlSecs now : UInt64}
  {entry : CacheEntry} {entries : Table String CacheEntry} {call : Call} {maxEntries : Nat}

theorem lookup_removeExpired :
    (removeExpired entries now).lookup key = some entry ↔
      entries.lookup key = some entry ∧ entry.isExpired now = false :=
  Table.lookup_discard_eq_some

theorem mem_of_oldest (h : Oldest entries key) : key ∈ entries := by
  obtain ⟨entry, hlookup, -⟩ := h
  exact Finmap.mem_of_lookup_eq_some hlookup

theorem oldestKey_eq_some (h : oldestKey visit entries = some key) : Oldest entries key := by
  obtain ⟨item, hitem, rfl⟩ := Option.map_eq_some_iff.mp h
  refine ⟨item.2, (visit.mem_list _ _ _).mp (List.argmin_mem hitem), ?_⟩
  intro key' entry' hlookup
  rw [UInt64.le_iff_toNat_le]
  have hvisited := (visit.mem_list _ _ _).mpr hlookup
  exact List.le_of_mem_argmin (f := fun item : String × CacheEntry => item.2.insertedAt.toNat)
    hvisited hitem

/-- A map with an entry has an oldest one. -/
theorem exists_oldestKey (visit : Visit) (h : key ∈ entries) :
    ∃ victim, oldestKey visit entries = some victim := by
  obtain ⟨entry, hlookup⟩ := Finmap.mem_iff.mp h
  cases hargmin : (visit.list entries).argmin fun item => item.2.insertedAt.toNat with
  | none =>
    have hvisited := (visit.mem_list entries key entry).mpr hlookup
    rw [List.argmin_eq_none.mp hargmin] at hvisited
    cases hvisited
  | some item => exact ⟨item.1, by rw [oldestKey, hargmin]; rfl⟩

theorem makeRoom_of_lt (h : entries.keys.card < maxEntries) :
    makeRoom visit maxEntries entries = entries := if_neg (Nat.not_le_of_lt h)

/-- A full map loses one of its oldest entries. -/
theorem makeRoom_of_full (visit : Visit) (hpos : maxEntries ≠ 0)
    (h : maxEntries ≤ entries.keys.card) :
    ∃ victim, Oldest entries victim ∧ makeRoom visit maxEntries entries = entries.erase victim := by
  have hcard : 0 < entries.keys.card := Nat.lt_of_lt_of_le (Nat.pos_of_ne_zero hpos) h
  obtain ⟨key, hkey⟩ := Finset.card_pos.mp hcard
  obtain ⟨victim, hvictim⟩ := exists_oldestKey visit (Finmap.mem_keys.mp hkey)
  refine ⟨victim, oldestKey_eq_some hvictim, ?_⟩
  rw [makeRoom, if_pos h, hvictim]

theorem card_makeRoom_lt (visit : Visit) (hpos : maxEntries ≠ 0)
    (h : entries.keys.card ≤ maxEntries) :
    (makeRoom visit maxEntries entries).keys.card < maxEntries := by
  by_cases hfull : maxEntries ≤ entries.keys.card
  · obtain ⟨victim, holdest, heq⟩ := makeRoom_of_full visit hpos hfull
    have hcard := Table.card_erase_of_mem (mem_of_oldest holdest)
    rw [heq]
    omega
  · rw [makeRoom_of_lt (Nat.lt_of_not_le hfull)]
    exact Nat.lt_of_not_le hfull

/-- Making room changes no entry that stays. -/
theorem lookup_of_makeRoom
    (h : (makeRoom visit maxEntries entries).lookup key = some entry) :
    entries.lookup key = some entry := by
  unfold makeRoom at h
  split at h
  · split at h
    · rw [Table.lookup_erase] at h
      split at h
      · cases h
      · exact h
    · exact h
  · exact h

/-- The bound on the size, and the map of a cache without room. -/
structure Bounded (maxEntries : Nat) (cache : MetadataCache) : Prop where
  maxEntries_eq : cache.maxEntries = maxEntries
  card_le : cache.entries.keys.card ≤ maxEntries

theorem Bounded.new (maxEntries : Nat) : Bounded maxEntries (new maxEntries) where
  maxEntries_eq := rfl
  card_le := Nat.zero_le _

theorem Bounded.erase (h : Bounded maxEntries cache) (key : String) :
    Bounded maxEntries { cache with entries := cache.entries.erase key } where
  maxEntries_eq := h.maxEntries_eq
  card_le := Nat.le_trans (Table.card_erase_le _ key) h.card_le

theorem Bounded.insert (h : Bounded maxEntries cache) (visit : Visit) (key value : String)
    (ttlSecs now : UInt64) : Bounded maxEntries (cache.insert visit key value ttlSecs now) := by
  unfold MetadataCache.insert
  rw [h.maxEntries_eq]
  split_ifs with hzero hmem
  · exact h
  · exact {
      maxEntries_eq := rfl
      card_le := by
        rw [Table.card_insert_of_mem _ hmem]
        exact h.card_le }
  · have hkept : (removeExpired cache.entries now).keys.card ≤ maxEntries :=
      Nat.le_trans (Table.card_discard_le _ _) h.card_le
    have hroom := card_makeRoom_lt visit hzero hkept
    refine ⟨rfl, ?_⟩
    dsimp only
    rw [Table.keys_insert]
    exact Nat.le_trans (Finset.card_insert_le _ _) hroom

theorem Bounded.step (h : Bounded maxEntries cache) (call : Call) :
    Bounded maxEntries (cache.step call) := by
  obtain ⟨op, now⟩ := call
  cases op with
  | get key =>
    show Bounded maxEntries (cache.get key now).2
    unfold MetadataCache.get
    split
    · exact h
    · split
      · exact h.erase key
      · exact h
  | insert visit key value ttlSecs => exact h.insert visit key value ttlSecs now
  | remove key => exact h.erase key
  | clear => exact ⟨h.maxEntries_eq, Nat.zero_le _⟩

/-- Nothing is ever in a cache without room. -/
theorem Bounded.entries_eq (h : Bounded 0 cache) : cache.entries = ∅ := by
  have hkeys := Finset.card_eq_zero.mp (Nat.le_zero.mp h.card_le)
  apply Finmap.ext_lookup
  intro key
  rw [Finmap.lookup_empty, Finmap.lookup_eq_none, ← Finmap.mem_keys, hkeys]
  exact Finset.notMem_empty key

theorem insert_of_no_room (h : cache.maxEntries = 0) :
    cache.insert visit key value ttlSecs now = cache := if_pos h

/-- A key that is there has room. -/
theorem Bounded.insert_of_mem (h : Bounded maxEntries cache) (visit : Visit) (value : String)
    (ttlSecs now : UInt64) (hmem : key ∈ cache.entries) :
    (cache.insert visit key value ttlSecs now).entries =
      cache.entries.insert key ⟨value, now, ttlSecs⟩ := by
  have hpos : cache.maxEntries ≠ 0 := by
    intro hzero
    rw [h.maxEntries_eq] at hzero
    subst hzero
    rw [h.entries_eq] at hmem
    exact Finmap.notMem_empty hmem
  rw [MetadataCache.insert, if_neg hpos, if_pos hmem]

theorem Bounded.insert_of_notMem (h : Bounded maxEntries cache) (visit : Visit) (value : String)
    (ttlSecs now : UInt64) (hpos : maxEntries ≠ 0)
    (hnew : key ∉ cache.entries) :
    (cache.insert visit key value ttlSecs now).entries =
      (makeRoom visit maxEntries (removeExpired cache.entries now)).insert key
        ⟨value, now, ttlSecs⟩ := by
  have hroom : cache.maxEntries ≠ 0 := fun hzero => hpos (h.maxEntries_eq.symm.trans hzero)
  rw [MetadataCache.insert, if_neg hroom, if_neg hnew, h.maxEntries_eq]

/-! ## 4. Histories -/

/-- The entry under `key` does not outlive the call unchanged. -/
def Op.Replaces (key : String) : Op → Prop
  | .get _ => False
  | .insert _ key' _ _ => key' = key
  | .remove key' => key' = key
  | .clear => True

/-- The call puts the entry under the key. -/
def Call.Inserts (key : String) (entry : CacheEntry) (call : Call) : Prop :=
  ∃ visit, call = ⟨.insert visit key entry.value entry.ttlSecs, entry.insertedAt⟩

/-- What the cache holds after a call was put there by it or was there before it. -/
theorem lookup_step (h : Bounded maxEntries cache) (call : Call)
    (hfound : (cache.step call).entries.lookup key = some entry) :
    call.Inserts key entry ∨ ¬ call.op.Replaces key ∧ cache.entries.lookup key = some entry := by
  obtain ⟨op, now⟩ := call
  cases op with
  | get key' =>
    refine .inr ⟨not_false, ?_⟩
    change (cache.get key' now).2.entries.lookup key = some entry at hfound
    unfold MetadataCache.get at hfound
    split at hfound
    · exact hfound
    · split at hfound
      · rw [Table.lookup_erase] at hfound
        split at hfound
        · cases hfound
        · exact hfound
      · exact hfound
  | insert visit key' value ttlSecs =>
    change (cache.insert visit key' value ttlSecs now).entries.lookup key = some entry at hfound
    unfold MetadataCache.insert at hfound
    rw [h.maxEntries_eq] at hfound
    split_ifs at hfound with hzero hmem
    · subst hzero
      rw [h.entries_eq] at hfound
      cases hfound
    · rw [Table.lookup_insert] at hfound
      split_ifs at hfound with heq
      · cases hfound
        exact .inl ⟨visit, by rw [heq]⟩
      · exact .inr ⟨Ne.symm heq, hfound⟩
    · rw [Table.lookup_insert] at hfound
      split_ifs at hfound with heq
      · cases hfound
        exact .inl ⟨visit, by rw [heq]⟩
      · exact .inr ⟨Ne.symm heq, (lookup_removeExpired.mp (lookup_of_makeRoom hfound)).1⟩
  | remove key' =>
    change (cache.entries.erase key').lookup key = some entry at hfound
    rw [Table.lookup_erase] at hfound
    split_ifs at hfound with heq
    exact .inr ⟨Ne.symm heq, hfound⟩
  | clear => cases hfound

/-- `entry` comes from the latest insertion under `key`; since then it was neither removed nor
cleared, and it was in the cache all the time. -/
def FromLatestInsert (maxEntries : Nat) (calls : List Call) (key : String) (entry : CacheEntry) :
    Prop :=
  ∃ before call after, calls = before ++ call :: after ∧ call.Inserts key entry ∧
    (∀ later ∈ after, ¬ later.op.Replaces key) ∧
    ∀ mid rest, after = mid ++ rest →
      (run step (new maxEntries) (before ++ call :: mid)).entries.lookup key = some entry

theorem run_bounded (maxEntries : Nat) (calls : List Call) :
    Bounded maxEntries (run step (new maxEntries) calls) :=
  run_inv (fun _ call h => h.step call) (.new maxEntries) calls

theorem fromLatestInsert_of_lookup {calls : List Call}
    (hfound : (run step (new maxEntries) calls).entries.lookup key = some entry) :
    FromLatestInsert maxEntries calls key entry := by
  induction calls using List.reverseRecOn with
  | nil => cases hfound
  | append_singleton calls call ih =>
    have hlast := hfound
    rw [run_append] at hlast
    obtain hinserts | ⟨hkept, hold⟩ := lookup_step (run_bounded maxEntries calls) call hlast
    · refine ⟨calls, call, [], rfl, hinserts, nofun, ?_⟩
      intro mid rest hsplit
      rw [(List.append_eq_nil_iff.mp hsplit.symm).1]
      exact hfound
    · obtain ⟨before, insertion, after, rfl, hinserts, hafter, hthere⟩ := ih hold
      refine ⟨before, insertion, after ++ [call], List.append_assoc .., hinserts, ?_, ?_⟩
      · intro later hlater
        obtain hlater | hlater := List.mem_append.mp hlater
        · exact hafter later hlater
        · rw [List.mem_singleton.mp hlater]
          exact hkept
      · intro mid rest hsplit
        have hmid : mid <+: after ++ [call] := ⟨rest, hsplit.symm⟩
        obtain rfl | ⟨rest', hrest⟩ := List.prefix_concat_iff.mp hmid
        · have hcalls : before ++ insertion :: (after ++ [call]) =
              before ++ insertion :: after ++ [call] := by simp
          rw [hcalls]
          exact hfound
        · exact hthere mid rest' hrest.symm

def NonDecreasing (calls : List Call) : Prop :=
  calls.Pairwise fun call later => call.now ≤ later.now

/-- A call that inserts an entry was made at its time. -/
theorem FromLatestInsert.insertedAt_le {calls : List Call} {call : Call}
    (h : FromLatestInsert maxEntries calls key entry)
    (hclock : NonDecreasing (calls ++ [call])) : entry.insertedAt ≤ call.now := by
  obtain ⟨before, insertion, after, rfl, ⟨visit, rfl⟩, -⟩ := h
  obtain ⟨-, -, hlast⟩ := List.pairwise_append.mp hclock
  have hmem : (⟨.insert visit key entry.value entry.ttlSecs, entry.insertedAt⟩ : Call) ∈
      before ++ ⟨.insert visit key entry.value entry.ttlSecs, entry.insertedAt⟩ :: after :=
    List.mem_append_right before List.mem_cons_self
  exact hlast _ hmem call List.mem_cons_self

theorem get_eq_some (h : (cache.get key now).1 = some value) :
    ∃ entry, cache.entries.lookup key = some entry ∧ entry.value = value ∧
      entry.isExpired now = false := by
  unfold MetadataCache.get at h
  split at h
  · cases h
  · rename_i entry hlookup
    split at h
    · cases h
    · rename_i hfresh
      exact ⟨entry, hlookup, Option.some.inj h, Bool.not_eq_true _ ▸ hfresh⟩

/-- After any calls: the cache keeps its bound, and what it answers is the value of the latest
insertion, which is not too old.  An insertion does nothing in a cache without room; in any other it
removes the expired entries and, when that is not enough, one of the oldest of the others, but it
removes nothing when the key is there. -/
theorem bounded_ttl_map_run (maxEntries : Nat) (calls : List Call) :
    let cache := run step (new maxEntries) calls
    cache.len ≤ maxEntries ∧
      (∀ key value now, NonDecreasing (calls ++ [⟨.get key, now⟩]) →
        (cache.get key now).1 = some value →
        ∃ entry, FromLatestInsert maxEntries calls key entry ∧ entry.value = value ∧
          entry.insertedAt ≤ now ∧ now.toNat - entry.insertedAt.toNat < entry.ttlSecs.toNat) ∧
      ∀ visit key value ttlSecs now,
        let after := (cache.insert visit key value ttlSecs now).entries
        let kept := removeExpired cache.entries now
        (maxEntries = 0 → after = ∅ ∧ cache.entries = ∅) ∧
        (key ∈ cache.entries → after = cache.entries.insert key ⟨value, now, ttlSecs⟩ ∧
          after.keys = cache.entries.keys) ∧
        (maxEntries ≠ 0 → key ∉ cache.entries →
          (∀ key' entry, kept.lookup key' = some entry ↔
            cache.entries.lookup key' = some entry ∧ entry.isExpired now = false) ∧
          (kept.keys.card < maxEntries → after = kept.insert key ⟨value, now, ttlSecs⟩) ∧
          (maxEntries ≤ kept.keys.card → ∃ victim, Oldest kept victim ∧
            after = (kept.erase victim).insert key ⟨value, now, ttlSecs⟩)) := by
  intro cache
  have hbounded : Bounded maxEntries cache := run_bounded maxEntries calls
  refine ⟨hbounded.card_le, ?_, ?_⟩
  · intro key value now hclock hget
    obtain ⟨entry, hlookup, hvalue, hfresh⟩ := get_eq_some hget
    have hlatest := fromLatestInsert_of_lookup hlookup
    have hle : entry.insertedAt ≤ now := hlatest.insertedAt_le hclock
    have hage := entry.lt_of_not_expired hle hfresh
    have htoNat := UInt64.le_iff_toNat_le.mp hle
    exact ⟨entry, hlatest, hvalue, hle, by omega⟩
  · intro visit key value ttlSecs now
    refine ⟨?_, ?_, ?_⟩
    · intro hzero
      have hempty : cache.entries = ∅ := (hzero ▸ hbounded).entries_eq
      rw [insert_of_no_room (hbounded.maxEntries_eq.trans hzero)]
      exact ⟨hempty, hempty⟩
    · intro hmem
      have hafter := hbounded.insert_of_mem visit value ttlSecs now hmem
      refine ⟨hafter, ?_⟩
      rw [hafter, Table.keys_insert, Finset.insert_eq_of_mem (Finmap.mem_keys.mpr hmem)]
    · intro hpos hnew
      have hafter := hbounded.insert_of_notMem visit value ttlSecs now hpos hnew
      refine ⟨fun _ _ => lookup_removeExpired, ?_, ?_⟩
      · intro hspace
        rw [hafter, makeRoom_of_lt hspace]
      · intro hfull
        obtain ⟨victim, holdest, hroom⟩ := makeRoom_of_full visit hpos hfull
        exact ⟨victim, holdest, by rw [hafter, hroom]⟩

/-- A cache without room is full while it is empty: there is nothing that an insertion of a new key
could remove. -/
theorem empty_cache_full :
    let cache := new 0
    "host" ∉ cache.entries ∧
      cache.maxEntries ≤ (removeExpired cache.entries 0).keys.card ∧
      ¬ ∃ victim, victim ∈ cache.entries ∧
        victim ∉ (cache.insert .sorted "host" "192.0.2.1" 60 0).entries := by
  refine ⟨Finmap.notMem_empty, Nat.zero_le _, ?_⟩
  rintro ⟨victim, hmem, -⟩
  exact Finmap.notMem_empty hmem

end MetadataCache

end NetworkEngine
