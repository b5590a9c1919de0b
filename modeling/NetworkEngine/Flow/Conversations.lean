import NetworkEngine.Flow.FlowTable
import NetworkEngine.Lib.Transition

/-!
# Conversations — the flow table over whole runs

A key and its reverse name one conversation.  `Change` lists what a call can do to the table, and
every invariant below is a case analysis over it: no conversation is stored twice, and the running
totals keep in step with the map.
-/

namespace NetworkEngine

open Rust Transition

@[simp] theorem FlowKey.reverse_reverse (k : FlowKey) : k.reverse.reverse = k := rfl

namespace Flow

theorem recordPacket_key (bytes : Nat) (direction : FlowDirection) (timestampNs : Option UInt64)
    (now : UInt64) (f : Flow) : (f.recordPacket bytes direction timestampNs now).key = f.key := by
  unfold recordPacket
  cases direction <;> dsimp only <;> split <;> rfl

end Flow

namespace FlowTable

/-! ## 1. Calls -/

/-- One call on the table, with the clock readings it makes. -/
inductive Call where
  | insert (flow : Flow)
  | getOrCreate (key : FlowKey) (now : UInt64)
  | recordPacket (key : FlowKey) (bytes : Nat) (direction : FlowDirection)
      (timestampNs : Option UInt64) (clock : FlowClock)
  | update (key : FlowKey) (bytes : Nat) (direction : FlowDirection)
      (timestampNs : Option UInt64) (now : UInt64)
  | remove (key : FlowKey)
  | close (key : FlowKey)
  | expireIdle (now : UInt64)
  | expireIdleNow (now : UInt64)
  | clear
  deriving DecidableEq, Repr

def Call.isExpiry : Call → Bool
  | .expireIdle _ | .expireIdleNow _ => true
  | _ => false

/-- What a call returns: a flag, a flow, a number, or nothing but that it has gone well. -/
inductive Answer where
  | done
  | flag (b : Bool)
  | flow (found : Option Flow)
  | count (n : Nat)
  deriving DecidableEq, Repr

/-- `false` and `None`. -/
def Answer.refuses : Answer → Bool
  | .flag b => !b
  | .flow found => found.isNone
  | .done | .count _ => false

/-- Commits what a fallible call returns. -/
def commit {ρ : Type} (t : FlowTable) (answer : ρ × FlowTable → Answer) :
    EngineResult (ρ × FlowTable) → EngineResult Answer × FlowTable
  | .ok r => (.ok (answer r), r.2)
  | .error err => (.error err, t)

/-- The result of a call and the table it leaves. -/
def perform (t : FlowTable) : Call → EngineResult Answer × FlowTable
  | .insert flow => t.commit (fun r => .flag r.1) (t.insert flow)
  | .getOrCreate key now =>
    t.commit (fun r => .flow (r.2.flows.lookup r.1)) (t.getOrCreate key now)
  | .recordPacket key bytes direction timestampNs clock =>
    t.commit (fun _ => .done) (t.recordPacket key bytes direction timestampNs clock)
  | .update key bytes direction timestampNs now =>
    let r := t.update key bytes direction timestampNs now
    (.ok (.flag r.1), r.2)
  | .remove key =>
    let r := t.remove key
    (.ok (.flow r.1), r.2)
  | .close key =>
    let r := t.close key
    (.ok (.flag r.1), r.2)
  | .expireIdle now =>
    let r := t.expireIdle now
    (.ok (.count r.1), r.2)
  | .expireIdleNow now =>
    let r := t.expireIdleNow now
    (.ok (.count r.1), r.2)
  | .clear => (.ok (.count t.clear.1), t.clear.2)

def step (t : FlowTable) (call : Call) : FlowTable := (t.perform call).2

/-- The call returns an error, `false` or `None`. -/
def Refused (t : FlowTable) (call : Call) : Prop :=
  (∃ answer, (t.perform call).1 = .ok answer ∧ answer.refuses = true) ∨
    ∃ err, (t.perform call).1 = .error err

/-! ## 2. What a call can do -/

/-- A new flow under a key that is not taken in either direction. -/
def withFlow (t : FlowTable) (flow : Flow) : FlowTable :=
  { t with
    flows := t.flows.insert flow.key flow
    totalCreated := saturatingAdd64 t.totalCreated 1 }

/-- A change of the table; the flag marks an expiry. -/
inductive Change (t : FlowTable) : Bool → FlowTable → Prop where
  | same : Change t false t
  | updated {slot : FlowKey} {flow flow' : Flow} (hslot : t.flows.lookup slot = some flow)
      (hkey : flow'.key = flow.key) : Change t false { t with flows := t.flows.insert slot flow' }
  | created {flow : Flow} (hkey : flow.key ∉ t.flows) (hreverse : flow.key.reverse ∉ t.flows)
      (hroom : t.len < t.maxEntries) : Change t false (t.withFlow flow)
  | removed {slot : FlowKey} (hslot : slot ∈ t.flows) :
      Change t false { t with
        flows := t.flows.erase slot
        totalRemoved := saturatingAdd64 t.totalRemoved 1 }
  | expired {keys : Finset FlowKey} (hkeys : ∀ k ∈ keys, k ∈ t.flows) :
      Change t true (Table.forEach expireKey t keys)
  | cleared : Change t false t.clear.2

variable {t t' : FlowTable} {key slot : FlowKey} {call : Call}

theorem slot_mem (h : t.slot key = some slot) : slot ∈ t.flows := by
  unfold FlowTable.slot at h
  split at h
  · rename_i hin
    rw [← Option.some.inj h]
    exact hin
  · split at h
    · rename_i hin
      rw [← Option.some.inj h]
      exact hin
    · exact nomatch h

theorem change_modify {f : Flow → Flow} (hf : ∀ flow, (f flow).key = flow.key)
    (h : slot ∈ t.flows) : Change t false (t.modify slot f) := by
  rcases Finmap.mem_iff.mp h with ⟨flow, hflow⟩
  unfold modify
  rw [hflow]
  exact .updated hflow (hf flow)

theorem change_expireIdle (now : UInt64) (t : FlowTable) : Change t true (t.expireIdle now).2 := by
  apply Change.expired
  intro k hk
  rcases Table.mem_keysWhere.mp hk with ⟨flow, hflow, -⟩
  exact Finmap.mem_of_lookup_eq_some hflow

/-- The flow `getOrCreate` finds or makes, changed by `f`. -/
theorem change_getOrCreate {now : UInt64} {f : Flow → Flow} (hf : ∀ flow, (f flow).key = flow.key)
    (h : t.getOrCreate key now = .ok (slot, t')) : Change t false (t'.modify slot f) := by
  unfold getOrCreate at h
  split at h
  · rename_i hin
    obtain ⟨rfl, rfl⟩ := Prod.mk.inj (Except.ok.inj h)
    exact change_modify hf hin
  · rename_i hkey
    split at h
    · rename_i hin
      obtain ⟨rfl, rfl⟩ := Prod.mk.inj (Except.ok.inj h)
      exact change_modify hf hin
    · rename_i hreverse
      split at h
      · exact nomatch h
      · rename_i hroom
        obtain ⟨rfl, rfl⟩ := Prod.mk.inj (Except.ok.inj h)
        -- The new flow is stored and changed at once: the second insertion replaces the first.
        have hnew : (f (.new key now)).key = key := hf _
        have hsame : modify { t with
              flows := t.flows.insert key (.new key now)
              totalCreated := saturatingAdd64 t.totalCreated 1 } key f =
            t.withFlow (f (.new key now)) := by
          simp only [modify, withFlow, Finmap.lookup_insert, Finmap.insert_insert, hnew]
        rw [hsame]
        apply Change.created
        · rw [hnew]
          exact hkey
        · rw [hnew]
          exact hreverse
        · exact Nat.lt_of_not_le hroom

-- With no change to the flow, the lemma above is about `getOrCreate` itself.
theorem modify_id (t : FlowTable) (slot : FlowKey) : t.modify slot (fun flow => flow) = t := by
  unfold modify
  split
  · rename_i hflow
    rw [Table.insert_self hflow]
  · rfl

theorem change_insert {flow : Flow} {flag : Bool} (h : t.insert flow = .ok (flag, t')) :
    Change t false t' := by
  unfold insert at h
  split at h
  · rw [← (Prod.mk.inj (Except.ok.inj h)).2]
    exact .same
  · rename_i hfree
    split at h
    · exact nomatch h
    · rename_i hroom
      rw [← (Prod.mk.inj (Except.ok.inj h)).2]
      exact .created (fun hin => hfree (.inl hin)) (fun hin => hfree (.inr hin))
        (Nat.lt_of_not_le hroom)

theorem change_recordPacket {bytes : Nat} {direction : FlowDirection}
    {timestampNs : Option UInt64} {clock : FlowClock} {r : Unit × FlowTable}
    (h : t.recordPacket key bytes direction timestampNs clock = .ok r) : Change t false r.2 := by
  unfold recordPacket at h
  cases hcreate : t.getOrCreate key clock.created with
  | error err =>
    rw [hcreate] at h
    exact nomatch h
  | ok found =>
    rw [hcreate] at h
    rw [← Except.ok.inj h]
    exact change_getOrCreate (fun flow => flow.recordPacket_key _ _ _ _) hcreate

theorem change_remove (key : FlowKey) (t : FlowTable) : Change t false (t.remove key).2 := by
  unfold remove
  dsimp only
  split
  · rename_i hflow
    exact .removed (Finmap.mem_of_lookup_eq_some hflow)
  · exact .same

/-- Every call is one of the changes. -/
theorem step_change (t : FlowTable) (call : Call) : Change t call.isExpiry (t.step call) := by
  -- The only proof that looks into all nine calls; the invariants below look at `Change`.
  cases call with
  | insert flow =>
    show Change t false (t.commit _ (t.insert flow)).2
    cases hinsert : t.insert flow with
    | error err => exact .same
    | ok r => exact change_insert hinsert
  | getOrCreate key now =>
    show Change t false (t.commit _ (t.getOrCreate key now)).2
    cases hcreate : t.getOrCreate key now with
    | error err => exact .same
    | ok r =>
      have hchange := change_getOrCreate (f := fun flow => flow) (fun _ => rfl) hcreate
      rw [modify_id] at hchange
      exact hchange
  | recordPacket key bytes direction timestampNs clock =>
    show Change t false (t.commit _ (t.recordPacket key bytes direction timestampNs clock)).2
    cases hrecord : t.recordPacket key bytes direction timestampNs clock with
    | error err => exact .same
    | ok r => exact change_recordPacket hrecord
  | update key bytes direction timestampNs now =>
    show Change t false (t.update key bytes direction timestampNs now).2
    unfold update
    split
    · rename_i hslot
      exact change_modify (fun flow => flow.recordPacket_key _ _ _ _) (slot_mem hslot)
    · exact .same
  | remove key => exact change_remove key t
  | close key =>
    show Change t false (t.close key).2
    unfold close
    split
    · rename_i hslot
      exact change_modify (fun _ => rfl) (slot_mem hslot)
    · exact .same
  | expireIdle now => exact change_expireIdle now t
  | expireIdleNow now => exact change_expireIdle now t
  | clear => exact .cleared

theorem commit_of_refused {ρ : Type} {answer : ρ × FlowTable → Answer}
    {r : EngineResult (ρ × FlowTable)}
    (hrefuses : ∀ r', r = .ok r' → (answer r').refuses = true → r'.2 = t)
    (h : (∃ a, (t.commit answer r).1 = .ok a ∧ a.refuses = true) ∨
      ∃ err, (t.commit answer r).1 = .error err) : (t.commit answer r).2 = t := by
  cases r with
  | error err => rfl
  | ok r =>
    obtain ⟨a, ha, hrefused⟩ | ⟨err, herr⟩ := h
    · rw [← Except.ok.inj ha] at hrefused
      exact hrefuses r rfl hrefused
    · exact nomatch herr

theorem answer_of_refused {answer : Answer} (hperform : t.perform call = (.ok answer, t'))
    (h : t.Refused call) : answer.refuses = true := by
  unfold Refused at h
  rw [hperform] at h
  obtain ⟨answer', hanswer, hrefuses⟩ | ⟨err, herr⟩ := h
  · rw [Except.ok.inj hanswer]
    exact hrefuses
  · exact nomatch herr

/-- What `get_or_create` returns is there. -/
theorem mem_of_getOrCreate {now : UInt64} (h : t.getOrCreate key now = .ok (slot, t')) :
    slot ∈ t'.flows := by
  unfold getOrCreate at h
  split_ifs at h with hkey hreverse hfull
  · obtain ⟨rfl, rfl⟩ := Prod.mk.inj (Except.ok.inj h)
    exact hkey
  · obtain ⟨rfl, rfl⟩ := Prod.mk.inj (Except.ok.inj h)
    exact hreverse
  · obtain ⟨rfl, rfl⟩ := Prod.mk.inj (Except.ok.inj h)
    exact Finmap.mem_insert.mpr (.inl rfl)

/-- A refused call leaves the whole table as it was. -/
theorem step_of_refused (h : t.Refused call) : t.step call = t := by
  cases call with
  | insert flow =>
    refine commit_of_refused (fun r hinsert hrefuses => ?_) h
    unfold insert at hinsert
    split_ifs at hinsert
    · rw [← Except.ok.inj hinsert]
    · rw [← Except.ok.inj hinsert] at hrefuses
      cases hrefuses
  | getOrCreate key now =>
    refine commit_of_refused (fun r hcreate hrefuses => ?_) h
    -- There is a flow where the returned key points.
    obtain ⟨flow, hflow⟩ := Finmap.mem_iff.mp (mem_of_getOrCreate hcreate)
    simp only [hflow, Answer.refuses, Option.isNone_some] at hrefuses
    cases hrefuses
  | recordPacket key bytes direction timestampNs clock =>
    exact commit_of_refused (fun r _ hrefuses => nomatch hrefuses) h
  -- From here on the calls never return an error.
  | update key bytes direction timestampNs now =>
    have hflag : (Answer.flag (t.update key bytes direction timestampNs now).1).refuses = true :=
      answer_of_refused rfl h
    show (t.update key bytes direction timestampNs now).2 = t
    unfold update at hflag ⊢
    split at hflag
    · exact nomatch hflag
    · rfl
  | remove key =>
    have hflow : (Answer.flow (t.remove key).1).refuses = true := answer_of_refused rfl h
    show (t.remove key).2 = t
    unfold remove at hflow ⊢
    dsimp only at hflow ⊢
    split at hflow
    · exact nomatch hflow
    · rfl
  | close key =>
    have hflag : (Answer.flag (t.close key).1).refuses = true := answer_of_refused rfl h
    show (t.close key).2 = t
    unfold close at hflag ⊢
    split at hflag
    · exact nomatch hflag
    · rfl
  | expireIdle now => exact nomatch answer_of_refused rfl h
  | expireIdleNow now => exact nomatch answer_of_refused rfl h
  | clear => exact nomatch answer_of_refused rfl h

/-! ## 3. One entry for each conversation -/

structure Conversations (t : FlowTable) : Prop where
  len_le : t.len ≤ t.maxEntries
  own_key : ∀ k flow, t.flows.lookup k = some flow → flow.key = k
  one_way : ∀ k, k ∈ t.flows → k.reverse ∈ t.flows → k.reverse = k

/-- A table with some of the entries of another. -/
theorem Conversations.of_subset (h : t.Conversations) (hmax : t'.maxEntries = t.maxEntries)
    (hsub : ∀ k flow, t'.flows.lookup k = some flow → t.flows.lookup k = some flow) :
    t'.Conversations where
  len_le := by
    rw [hmax]
    apply Nat.le_trans _ h.len_le
    apply Finset.card_le_card
    intro k hk
    rcases Finmap.mem_iff.mp (Finmap.mem_keys.mp hk) with ⟨flow, hflow⟩
    exact Finmap.mem_keys.mpr (Finmap.mem_of_lookup_eq_some (hsub k flow hflow))
  own_key k flow hflow := h.own_key k flow (hsub k flow hflow)
  one_way k hk hreverse := by
    rcases Finmap.mem_iff.mp hk with ⟨flow, hflow⟩
    rcases Finmap.mem_iff.mp hreverse with ⟨flow', hflow'⟩
    exact h.one_way k (Finmap.mem_of_lookup_eq_some (hsub _ _ hflow))
      (Finmap.mem_of_lookup_eq_some (hsub _ _ hflow'))

theorem lookup_of_lookup_erase {k : FlowKey} {flow : Flow}
    (h : (t.flows.erase slot).lookup k = some flow) : t.flows.lookup k = some flow := by
  rw [Table.lookup_erase] at h
  split at h
  · exact nomatch h
  · exact h

theorem Conversations.expireKey (h : t.Conversations) (k : FlowKey) :
    (t.expireKey k).Conversations := by
  apply h.of_subset
  · unfold FlowTable.expireKey
    split <;> rfl
  · intro k' flow hflow
    rw [flows_expireKey] at hflow
    exact lookup_of_lookup_erase hflow

/-- A flow is replaced by one under the same key. -/
theorem Conversations.updated {slot : FlowKey} {flow flow' : Flow} (h : t.Conversations)
    (hslot : t.flows.lookup slot = some flow) (hkey : flow'.key = flow.key) :
    { t with flows := t.flows.insert slot flow' }.Conversations := by
  -- The set of keys is the same, so no stored key meets its own reverse anew.
  have hmem (k : FlowKey) : k ∈ t.flows.insert slot flow' ↔ k ∈ t.flows := by
    rw [Finmap.mem_insert]
    constructor
    · intro hk
      rcases hk with hk | hk
      · rw [hk]
        exact Finmap.mem_of_lookup_eq_some hslot
      · exact hk
    · exact .inr
  constructor
  · show (t.flows.insert slot flow').keys.card ≤ t.maxEntries
    rw [Table.card_insert_of_mem _ (Finmap.mem_of_lookup_eq_some hslot)]
    exact h.len_le
  · intro k g hg
    have hsplit : (t.flows.insert slot flow').lookup k = some g := hg
    rw [Table.lookup_insert] at hsplit
    split at hsplit
    · rename_i heq
      rw [← Option.some.inj hsplit, hkey, heq]
      exact h.own_key slot flow hslot
    · exact h.own_key k g hsplit
  · intro k hk hreverse
    exact h.one_way k ((hmem k).mp hk) ((hmem _).mp hreverse)

/-- A flow joins a table that holds neither direction of it. -/
theorem Conversations.created {flow : Flow} (h : t.Conversations) (hkey : flow.key ∉ t.flows)
    (hreverse : flow.key.reverse ∉ t.flows) (hroom : t.len < t.maxEntries) :
    (t.withFlow flow).Conversations := by
  constructor
  · show (t.flows.insert flow.key flow).keys.card ≤ t.maxEntries
    rw [Table.card_insert_of_notMem _ hkey]
    exact hroom
  · intro k g hg
    have hsplit : (t.flows.insert flow.key flow).lookup k = some g := hg
    rw [Table.lookup_insert] at hsplit
    split at hsplit
    · rename_i heq
      rw [← Option.some.inj hsplit, heq]
    · exact h.own_key k g hsplit
  · intro k hk hkr
    -- The new key meets no other key of the table: its reverse is not there.
    rcases Finmap.mem_insert.mp hk with rfl | hk
    · rcases Finmap.mem_insert.mp hkr with heq | hkr
      · exact heq
      · exact absurd hkr hreverse
    · rcases Finmap.mem_insert.mp hkr with heq | hkr
      · rw [← heq] at hreverse
        exact absurd hk hreverse
      · exact h.one_way k hk hkr

theorem Conversations.change {expiry : Bool} (h : t.Conversations)
    (hchange : Change t expiry t') : t'.Conversations := by
  cases hchange with
  | same => exact h
  | updated hslot hkey => exact h.updated hslot hkey
  | created hkey hreverse hroom => exact h.created hkey hreverse hroom
  | removed hslot => exact h.of_subset rfl (fun _ _ => lookup_of_lookup_erase)
  | expired => exact Table.forEach_inv Conversations (fun _ k ht => ht.expireKey k) _ h
  | cleared => exact h.of_subset rfl (fun _ _ hflow => nomatch hflow)

/-- Both directions of a conversation find the same flow. -/
theorem Conversations.get_reverse (h : t.Conversations) (key : FlowKey) :
    t.get key.reverse = t.get key := by
  unfold get
  rw [FlowKey.reverse_reverse]
  cases hkey : t.flows.lookup key with
  | none =>
    cases hreverse : t.flows.lookup key.reverse <;> rfl
  | some flow =>
    cases hreverse : t.flows.lookup key.reverse with
    | none => rfl
    | some flow' =>
      -- Both directions are stored: then the key is its own reverse and there is one entry.
      have hself := h.one_way key (Finmap.mem_of_lookup_eq_some hkey)
        (Finmap.mem_of_lookup_eq_some hreverse)
      rw [hself, hkey] at hreverse
      rw [Option.some.inj hreverse]

/-! ## 4. The running totals -/

theorem toNat_saturatingAdd64_of_lt {a b : UInt64} (h : a.toNat + b.toNat < 2 ^ 64) :
    (saturatingAdd64 a b).toNat = a.toNat + b.toNat := by
  rw [toNat_saturatingAdd64]
  omega

theorem toNat_saturatingAdd64_one {a : UInt64} (h : a.toNat + 1 < 2 ^ 64) :
    (saturatingAdd64 a 1).toNat = a.toNat + 1 :=
  toNat_saturatingAdd64_of_lt h

/-- What the totals make of `gained` new and `lost` removed entries, below saturation. -/
structure Accounts (t : FlowTable) (expiry : Bool) (t' : FlowTable) (gained lost : Nat) :
    Prop where
  len : t'.len + lost = t.len + gained
  -- No call both adds and removes, so the difference in size tells which it did.
  one_way : gained = 0 ∨ lost = 0
  created : t.totalCreated.toNat + gained < 2 ^ 64 →
    t'.totalCreated.toNat = t.totalCreated.toNat + gained
  removed : t.totalRemoved.toNat + lost < 2 ^ 64 →
    t'.totalRemoved.toNat = t.totalRemoved.toNat + lost
  expired : t.totalExpired.toNat + (if expiry then lost else 0) < 2 ^ 64 →
    t'.totalExpired.toNat = t.totalExpired.toNat + (if expiry then lost else 0)

theorem Accounts.same (h : t'.len = t.len) (hcreated : t'.totalCreated = t.totalCreated)
    (hremoved : t'.totalRemoved = t.totalRemoved) (hexpired : t'.totalExpired = t.totalExpired) :
    Accounts t false t' 0 0 where
  len := h
  one_way := .inl rfl
  created _ := congrArg UInt64.toNat hcreated
  removed _ := congrArg UInt64.toNat hremoved
  expired _ := congrArg UInt64.toNat hexpired

theorem accounts_expireKeys (order : List FlowKey) (hnodup : order.Nodup)
    (h : ∀ k ∈ order, k ∈ t.flows) :
    Accounts t true (order.foldl expireKey t) 0 order.length := by
  induction order generalizing t with
  | nil => exact ⟨rfl, .inl rfl, fun _ => rfl, fun _ => rfl, fun _ => rfl⟩
  | cons a order ih =>
    -- The keys are distinct, so the others are still stored when the first one is gone.
    have hcons := List.nodup_cons.mp hnodup
    have ha : a ∈ t.flows := h a List.mem_cons_self
    have hlen : (t.expireKey a).len + 1 = t.len := by
      unfold len
      rw [flows_expireKey]
      exact Table.card_erase_of_mem ha
    have hrest : ∀ k ∈ order, k ∈ (t.expireKey a).flows := by
      intro k hk
      rw [flows_expireKey, Finmap.mem_erase]
      refine ⟨?_, h k (List.mem_cons_of_mem _ hk)⟩
      intro heq
      exact hcons.1 (heq ▸ hk)
    have hrun := ih hcons.2 hrest
    have hstep := expireKey_of_mem ha
    have hcreated : (t.expireKey a).totalCreated = t.totalCreated := by rw [hstep]
    have hremoved : t.totalRemoved.toNat + 1 < 2 ^ 64 →
        (t.expireKey a).totalRemoved.toNat = t.totalRemoved.toNat + 1 := by
      intro hlt
      rw [hstep]
      exact toNat_saturatingAdd64_one hlt
    have hexpired : t.totalExpired.toNat + 1 < 2 ^ 64 →
        (t.expireKey a).totalExpired.toNat = t.totalExpired.toNat + 1 := by
      intro hlt
      rw [hstep]
      exact toNat_saturatingAdd64_one hlt
    rw [List.foldl_cons, List.length_cons]
    constructor
    · have := hrun.len
      omega
    · exact .inl rfl
    · rw [← hcreated]
      exact hrun.created
    · intro hlt
      -- Each bound is about the end of the loop, and the totals on the way are below it.
      have := hrun.removed (by rw [hremoved (by omega)]; omega)
      rw [this, hremoved (by omega)]
      omega
    · intro hlt
      simp only [if_true] at hlt ⊢
      have := hrun.expired (by rw [hexpired (by omega), if_pos rfl]; omega)
      rw [this, hexpired (by omega), if_pos rfl]
      omega

theorem accounts_change {expiry : Bool} (hchange : Change t expiry t') :
    ∃ gained lost, Accounts t expiry t' gained lost := by
  cases hchange with
  | same => exact ⟨0, 0, .same rfl rfl rfl rfl⟩
  | updated hslot =>
    refine ⟨0, 0, .same ?_ rfl rfl rfl⟩
    exact Table.card_insert_of_mem _ (Finmap.mem_of_lookup_eq_some hslot)
  | created hkey =>
    refine ⟨1, 0, ?_, .inr rfl, ?_, fun _ => rfl, fun _ => rfl⟩
    · exact Table.card_insert_of_notMem _ hkey
    · exact fun hlt => toNat_saturatingAdd64_one hlt
  | removed hslot =>
    refine ⟨0, 1, ?_, .inl rfl, fun _ => rfl, ?_, fun _ => rfl⟩
    · exact Table.card_erase_of_mem hslot
    · exact fun hlt => toNat_saturatingAdd64_one hlt
  | @expired keys hkeys =>
    rcases Table.forEach_eq expireKey t keys with ⟨order, hnodup, hmem, -, heq⟩
    rw [heq]
    exact ⟨0, order.length, accounts_expireKeys order hnodup (fun k hk => hkeys k ((hmem k).mp hk))⟩
  | cleared =>
    refine ⟨0, t.len, ?_, .inl rfl, fun _ => rfl, ?_, fun _ => rfl⟩
    · show (∅ : Table FlowKey Flow).keys.card + t.len = t.len + 0
      rw [Finmap.keys_empty, Finset.card_empty]
      omega
    · intro hlt
      -- `clear` adds the size as one `u64`; below saturation the cast loses nothing.
      have hlen : (UInt64.ofNat t.len).toNat = t.len := by
        rw [UInt64.toNat_ofNat']
        omega
      show (saturatingAdd64 t.totalRemoved (UInt64.ofNat t.len)).toNat = _
      rw [toNat_saturatingAdd64_of_lt (by omega), hlen]

/-- The entries a run has added, removed and expired. -/
structure Tally where
  created : Nat
  removed : Nat
  expired : Nat
  deriving DecidableEq, Repr

/-- A call only adds or only removes, so its difference in size is what it added or removed. -/
def Tally.count (tally : Tally) (t : FlowTable) (call : Call) : Tally where
  created := tally.created + ((t.step call).len - t.len)
  removed := tally.removed + (t.len - (t.step call).len)
  expired := tally.expired + if call.isExpiry then t.len - (t.step call).len else 0

/-- The tally of a run that starts with `tally`. -/
def tallyOf : Tally → FlowTable → List Call → Tally
  | tally, _, [] => tally
  | tally, t, call :: calls => tallyOf (tally.count t call) (t.step call) calls

/-- The totals are the tally until they saturate. -/
structure Books (t : FlowTable) (tally : Tally) : Prop where
  balance : t.len + tally.removed = tally.created
  expired_le : tally.expired ≤ tally.removed
  totals : tally.created < 2 ^ 64 → t.totalCreated.toNat = tally.created ∧
    t.totalRemoved.toNat = tally.removed ∧ t.totalExpired.toNat = tally.expired

theorem Books.count {tally : Tally} (h : t.Books tally) (call : Call) :
    (t.step call).Books (tally.count t call) := by
  rcases accounts_change (step_change t call) with ⟨gained, lost, hacc⟩
  have hlen := hacc.len
  have hone := hacc.one_way
  -- The tally reads differences of sizes; by `one_way` they are what was gained and lost.
  have hgained : (t.step call).len - t.len = gained := by omega
  have hlost : t.len - (t.step call).len = lost := by omega
  have hbalance := h.balance
  have hle := h.expired_le
  have hexpired : (if call.isExpiry then lost else 0) ≤ lost := by split <;> omega
  constructor
  · show _ + (tally.removed + _) = tally.created + _
    omega
  · show tally.expired + (if call.isExpiry then _ else 0) ≤ tally.removed + _
    rw [hlost]
    omega
  · show tally.created + _ < 2 ^ 64 → _ = tally.created + _ ∧ _ = tally.removed + _ ∧
      _ = tally.expired + (if call.isExpiry then _ else 0)
    rw [hgained, hlost]
    intro hlt
    rcases h.totals (by omega) with ⟨hc, hr, he⟩
    refine ⟨?_, ?_, ?_⟩
    · rw [hacc.created (by omega), hc]
    · rw [hacc.removed (by omega), hr]
    · rw [hacc.expired (by omega), he]

theorem Books.run {tally : Tally} (calls : List Call) (h : t.Books tally) :
    (Transition.run FlowTable.step t calls).Books (tallyOf tally t calls) := by
  induction calls generalizing t tally with
  | nil => exact h
  | cons call calls ih => exact ih (h.count call)

/-! ## 5. Whole runs -/

theorem Conversations.empty (maxEntries idleTimeout : Nat) :
    (FlowTable.empty maxEntries idleTimeout).Conversations where
  len_le := Nat.zero_le _
  own_key _ _ h := nomatch h
  one_way _ h := absurd h Finmap.notMem_empty

theorem Books.empty (maxEntries idleTimeout : Nat) :
    (FlowTable.empty maxEntries idleTimeout).Books ⟨0, 0, 0⟩ where
  balance := rfl
  expired_le := Nat.le_refl 0
  totals _ := ⟨rfl, rfl, rfl⟩

theorem maxEntries_change {expiry : Bool} (hchange : Change t expiry t') :
    t'.maxEntries = t.maxEntries := by
  cases hchange with
  | @expired keys hkeys =>
    apply Table.forEach_inv (fun u : FlowTable => u.maxEntries = t.maxEntries)
    · intro u k hu
      unfold expireKey
      split <;> exact hu
    · rfl
  | _ => rfl

theorem maxEntries_run (calls : List Call) (t : FlowTable) :
    (run step t calls).maxEntries = t.maxEntries := by
  induction calls generalizing t with
  | nil => rfl
  | cons call calls ih => exact (ih _).trans (maxEntries_change (step_change t call))

theorem conversations_run (maxEntries idleTimeout : Nat) (calls : List Call) :
    (run step (empty maxEntries idleTimeout) calls).Conversations :=
  run_inv (fun _ call ht => ht.change (step_change _ call)) (.empty _ _) calls

/-- The flow table over every run: one bounded entry for each conversation, found from both
directions, totals in step with the map, and refused calls without effect. -/
theorem flowTable_run (maxEntries idleTimeout : Nat) (calls : List Call) :
    let t := run step (empty maxEntries idleTimeout) calls
    let tally := tallyOf ⟨0, 0, 0⟩ (empty maxEntries idleTimeout) calls
    (∀ k, k ∈ t.flows → k.reverse ∈ t.flows → k.reverse = k) ∧
      (∀ k flow, t.flows.lookup k = some flow → flow.key = k) ∧
      t.len ≤ maxEntries ∧
      (tally.created < 2 ^ 64 →
        t.len = t.totalCreated.toNat - t.totalRemoved.toNat ∧
          t.totalRemoved ≤ t.totalCreated ∧ t.totalExpired ≤ t.totalRemoved) ∧
      (∀ k, t.get k = t.get k.reverse) ∧
      ∀ call, t.Refused call → t.step call = t := by
  have hconv := conversations_run maxEntries idleTimeout calls
  have hbooks := (Books.empty maxEntries idleTimeout).run calls
  have hmax := maxEntries_run calls (empty maxEntries idleTimeout)
  refine ⟨hconv.one_way, hconv.own_key, Nat.le_trans hconv.len_le (Nat.le_of_eq hmax), ?_, ?_, ?_⟩
  · intro hcreated
    rcases hbooks.totals hcreated with ⟨hc, hr, he⟩
    have hbalance := hbooks.balance
    have hle := hbooks.expired_le
    refine ⟨?_, ?_, ?_⟩
    · omega
    · apply UInt64.le_iff_toNat_le.mpr
      omega
    · apply UInt64.le_iff_toNat_le.mpr
      omega
  · exact fun k => (hconv.get_reverse k).symm
  · exact fun call hrefused => step_of_refused hrefused

end FlowTable

end NetworkEngine
