import NetworkEngine.Flow.Conversations
import NetworkEngine.Lib.Projection

/-!
# ConversationHistory — the flow table as the sum of its conversations

The flows of a table share its size and nothing else.  What a key finds follows from the calls on its
own conversation, on either direction of it, and from those on the whole table; a call on another
conversation matters only when the table is full and refuses one of these.
-/

namespace NetworkEngine

open Rust Transition

/-- Both keys name one conversation. -/
def FlowKey.Converses (key key' : FlowKey) : Prop := key = key' ∨ key = key'.reverse

instance (key key' : FlowKey) : Decidable (key.Converses key') :=
  inferInstanceAs (Decidable (_ ∨ _))

namespace FlowTable

/-! ## 1. One conversation -/

/-- What an answered call makes of the flow that `key` finds. -/
def follow (idleTimeout : Nat) (key : FlowKey) (found : Option Flow) :
    Call × EngineResult Answer → Option Flow
  | (.insert flow, .ok (.flag true)) => if key.Converses flow.key then some flow else found
  | (.getOrCreate key' now, .ok _) =>
    if key.Converses key' then some (found.getD (.new key' now)) else found
  | (.recordPacket key' bytes direction timestampNs clock, .ok _) =>
    if key.Converses key' then
      some ((found.getD (.new key' clock.created)).recordPacket bytes direction timestampNs
        clock.recorded)
    else found
  | (.update key' bytes direction timestampNs now, .ok _) =>
    if key.Converses key' then found.map (·.recordPacket bytes direction timestampNs now)
    else found
  | (.remove key', .ok _) => if key.Converses key' then none else found
  | (.close key', .ok _) => if key.Converses key' then found.map (·.close) else found
  | (.expireIdle now, .ok _) | (.expireIdleNow now, .ok _) =>
    found.filter fun flow => !flow.isIdle now idleTimeout
  | (.clear, .ok _) => none
  | _ => found

/-- The answer to a call, from what the keys find and under which keys flows are stored: how many
there are, and for an expiry how many of them are idle. -/
def respond (maxEntries idleTimeout : Nat) (keys : Finset FlowKey) (find : FlowKey → Option Flow) :
    Call → EngineResult Answer
  | .insert flow =>
    if (find flow.key).isSome then .ok (.flag false)
    else if maxEntries ≤ keys.card then .error .resourceExhausted else .ok (.flag true)
  | .getOrCreate key now =>
    if (find key).isNone ∧ maxEntries ≤ keys.card then .error .resourceExhausted
    else .ok (.flow (some ((find key).getD (.new key now))))
  | .recordPacket key _ _ _ _ =>
    if (find key).isNone ∧ maxEntries ≤ keys.card then .error .resourceExhausted else .ok .done
  | .update key _ _ _ _ | .close key => .ok (.flag (find key).isSome)
  | .remove key => .ok (.flow (find key))
  | .expireIdle now | .expireIdleNow now =>
    .ok (.count (keys.filter fun key => (find key).any (·.isIdle now idleTimeout)).card)
  | .clear => .ok (.count keys.card)

def answer (t : FlowTable) (call : Call) : EngineResult Answer := (t.perform call).1

def full (t : FlowTable) : Bool := t.maxEntries ≤ t.len

/-! ## 2. What a key finds -/

variable {t t' : FlowTable} {key key' slot : FlowKey} {flow : Flow} {now : UInt64}

theorem slot_cases (t : FlowTable) (key : FlowKey) :
    (key ∈ t.flows ∧ t.slot key = some key) ∨
      (key ∉ t.flows ∧ key.reverse ∈ t.flows ∧ t.slot key = some key.reverse) ∨
      (key ∉ t.flows ∧ key.reverse ∉ t.flows ∧ t.slot key = none) := by
  unfold FlowTable.slot
  by_cases hkey : key ∈ t.flows
  · exact .inl ⟨hkey, if_pos hkey⟩
  · by_cases hreverse : key.reverse ∈ t.flows
    · exact .inr (.inl ⟨hkey, hreverse, by rw [if_neg hkey, if_pos hreverse]⟩)
    · exact .inr (.inr ⟨hkey, hreverse, by rw [if_neg hkey, if_neg hreverse]⟩)

theorem get_eq_slot (t : FlowTable) (key : FlowKey) :
    t.get key = (t.slot key).bind t.flows.lookup := by
  unfold get
  rcases slot_cases t key with ⟨hkey, hslot⟩ | ⟨hkey, hreverse, hslot⟩ | ⟨hkey, hreverse, hslot⟩
  · obtain ⟨flow, hflow⟩ := Finmap.mem_iff.mp hkey
    rw [hslot, hflow]
    exact hflow.symm
  · rw [hslot, Finmap.lookup_eq_none.mpr hkey]
    rfl
  · rw [hslot, Finmap.lookup_eq_none.mpr hkey, Finmap.lookup_eq_none.mpr hreverse]
    rfl

/-- A conversation that is found has a slot. -/
theorem exists_slot (h : t.get key = some flow) :
    ∃ slot, t.slot key = some slot ∧ t.flows.lookup slot = some flow := by
  rw [get_eq_slot] at h
  exact Option.bind_eq_some_iff.mp h

theorem slot_eq_none_iff : t.slot key = none ↔ t.get key = none := by
  rw [get_eq_slot]
  constructor
  · intro h
    rw [h]
    rfl
  · intro h
    cases hslot : t.slot key with
    | none => rfl
    | some slot =>
      rw [hslot] at h
      exact absurd (slot_mem hslot) (Finmap.lookup_eq_none.mp h)

theorem found_of_slot (h : t.slot key = some slot) : ∃ flow, t.get key = some flow := by
  cases hget : t.get key with
  | some flow => exact ⟨flow, rfl⟩
  | none => exact nomatch h.symm.trans (slot_eq_none_iff.mpr hget)

theorem isSome_slot (t : FlowTable) (key : FlowKey) : (t.slot key).isSome = (t.get key).isSome := by
  cases hslot : t.slot key with
  | some slot =>
    obtain ⟨flow, hflow⟩ := found_of_slot hslot
    rw [hflow]
    rfl
  | none =>
    rw [slot_eq_none_iff.mp hslot]
    rfl

theorem slot_converses (h : t.slot key = some slot) (key' : FlowKey) :
    key'.Converses slot ↔ key'.Converses key := by
  rcases slot_cases t key with ⟨-, hslot⟩ | ⟨-, -, hslot⟩ | ⟨-, -, hslot⟩
  · rw [h] at hslot
    rw [Option.some.inj hslot]
  · rw [h] at hslot
    rw [Option.some.inj hslot]
    unfold FlowKey.Converses
    rw [FlowKey.reverse_reverse]
    exact Or.comm
  · rw [h] at hslot
    exact nomatch hslot

theorem Conversations.get_converses (h : t.Conversations) (hkey : key.Converses key') :
    t.get key = t.get key' := by
  rcases hkey with rfl | rfl
  · rfl
  · exact h.get_reverse key'

/-- A flow is put under a key whose reverse is not taken by another flow. -/
theorem get_stored (hfree : slot.reverse ∈ t.flows → slot.reverse = slot)
    (hflows : t'.flows = t.flows.insert slot flow) :
    t'.get key = if key.Converses slot then some flow else t.get key := by
  unfold get
  rw [hflows, Table.lookup_insert, Table.lookup_insert]
  by_cases hkey : key = slot
  · have hconv : key.Converses slot := .inl hkey
    rw [if_pos hkey, if_pos hconv]
    rfl
  · rw [if_neg hkey]
    by_cases hreverse : key.reverse = slot
    · have heq : key = slot.reverse := by rw [← hreverse, FlowKey.reverse_reverse]
      have hnone : t.flows.lookup key = none := by
        apply Finmap.lookup_eq_none.mpr
        intro hin
        rw [heq] at hin hkey
        exact hkey (hfree hin)
      have hconv : key.Converses slot := .inr heq
      rw [hnone, if_pos hreverse, if_pos hconv]
      rfl
    · have hconv : ¬ key.Converses slot := by
        rintro (heq | heq)
        · exact hkey heq
        · rw [heq, FlowKey.reverse_reverse] at hreverse
          exact hreverse rfl
      rw [if_neg hreverse, if_neg hconv]

theorem Conversations.get_erased (h : t.Conversations) (hslot : slot ∈ t.flows)
    (hflows : t'.flows = t.flows.erase slot) :
    t'.get key = if key.Converses slot then none else t.get key := by
  unfold get
  rw [hflows, Table.lookup_erase, Table.lookup_erase]
  -- Nothing else is stored under the reverse of the slot.
  have hreverse : slot.reverse ≠ slot → t.flows.lookup slot.reverse = none := by
    intro hne
    exact Finmap.lookup_eq_none.mpr fun hin => hne (h.one_way slot hslot hin)
  split_ifs with hkey hrev hconv hconv hrev hconv hconv
  · rfl
  · exact absurd (.inl hkey) hconv
  · rw [hkey] at hrev ⊢
    exact hreverse hrev
  · exact absurd (.inl hkey) hconv
  · have heq : key = slot.reverse := by rw [← hrev, FlowKey.reverse_reverse]
    rw [heq] at hkey ⊢
    rw [hreverse hkey]
    rfl
  · refine absurd (.inr ?_) hconv
    rw [← hrev, FlowKey.reverse_reverse]
  · rcases hconv with heq | heq
    · exact absurd heq hkey
    · rw [heq, FlowKey.reverse_reverse] at hrev
      exact absurd rfl hrev
  · rfl

theorem lookup_expireIdle_filter (now : UInt64) (t : FlowTable) (key : FlowKey) :
    (t.expireIdle now).2.flows.lookup key =
      (t.flows.lookup key).filter fun flow => !flow.isIdle now t.idleTimeout := by
  have hbody (t : FlowTable) (k k' : FlowKey) : (t.expireKey k).flows.lookup k' =
      if k' = k then none else t.flows.lookup k' := by
    rw [flows_expireKey, Table.lookup_erase]
  have hkept (flow : Flow) := Table.lookup_forEach_remove FlowTable.flows hbody
    (p := (·.isIdle now t.idleTimeout)) (d := t) (k := key) (v := flow)
  apply Option.ext
  intro flow
  rw [Option.filter_eq_some_iff, Bool.not_eq_true']
  exact hkept flow

/-- The two directions of a conversation are not stored side by side. -/
theorem Conversations.get_expireIdle (h : t.Conversations) (now : UInt64) (key : FlowKey) :
    (t.expireIdle now).2.get key =
      (t.get key).filter fun flow => !flow.isIdle now t.idleTimeout := by
  unfold get
  rw [lookup_expireIdle_filter, lookup_expireIdle_filter]
  cases hkey : t.flows.lookup key with
  | none => rfl
  | some flow =>
    cases hreverse : t.flows.lookup key.reverse with
    | none =>
      show ((some flow).filter _ <|> none) = (some flow).filter _
      cases (some flow).filter fun flow => !flow.isIdle now t.idleTimeout <;> rfl
    | some flow' =>
      have hself := h.one_way key (Finmap.mem_of_lookup_eq_some hkey)
        (Finmap.mem_of_lookup_eq_some hreverse)
      rw [hself, hkey] at hreverse
      rw [← Option.some.inj hreverse]
      show ((some flow).filter _ <|> (some flow).filter _) = (some flow).filter _
      cases (some flow).filter fun flow => !flow.isIdle now t.idleTimeout <;> rfl

/-! ## 3. One call -/

theorem getOrCreate_of_slot (h : t.slot key' = some slot) :
    t.getOrCreate key' now = .ok (slot, t) := by
  unfold getOrCreate
  rcases slot_cases t key' with ⟨hkey, hslot⟩ | ⟨hkey, hreverse, hslot⟩ | ⟨-, -, hslot⟩
  · rw [if_pos hkey, Option.some.inj (h.symm.trans hslot)]
  · rw [if_neg hkey, if_pos hreverse, Option.some.inj (h.symm.trans hslot)]
  · exact nomatch h.symm.trans hslot

theorem notMem_of_slot (h : t.slot key' = none) : key' ∉ t.flows ∧ key'.reverse ∉ t.flows := by
  rcases slot_cases t key' with ⟨-, hslot⟩ | ⟨-, -, hslot⟩ | ⟨hkey, hreverse, -⟩
  · exact nomatch h.symm.trans hslot
  · exact nomatch h.symm.trans hslot
  · exact ⟨hkey, hreverse⟩

theorem getOrCreate_of_none (h : t.slot key' = none) :
    t.getOrCreate key' now =
      if t.full then .error .resourceExhausted else .ok (key', t.withFlow (.new key' now)) := by
  obtain ⟨hkey, hreverse⟩ := notMem_of_slot h
  unfold getOrCreate full
  rw [if_neg hkey, if_neg hreverse]
  simp only [decide_eq_true_eq]
  rfl

/-- The flow of a conversation is changed in its slot. -/
theorem Conversations.get_modify (h : t.Conversations) (hslot : t.slot key' = some slot)
    (f : Flow → Flow) (key : FlowKey) :
    (t.modify slot f).get key = if key.Converses key' then (t.get key).map f else t.get key := by
  obtain ⟨flow, hflow⟩ := Finmap.mem_iff.mp (slot_mem hslot)
  have hmodify : (t.modify slot f).flows = t.flows.insert slot (f flow) := by
    unfold modify
    rw [hflow]
  rw [get_stored (h.one_way slot (slot_mem hslot)) hmodify]
  simp only [slot_converses hslot key]
  split
  · rename_i hconv
    have hfound : t.get key' = some flow := by
      rw [get_eq_slot, hslot]
      exact hflow
    rw [h.get_converses hconv, hfound]
    rfl
  · rfl

/-- Nothing is changed where nothing is found. -/
theorem Conversations.get_unfound (h : t.Conversations) (hslot : t.slot key' = none)
    (f : Option Flow → Option Flow) (hf : f none = none) :
    t.get key = if key.Converses key' then f (t.get key) else t.get key := by
  split
  · rename_i hconv
    rw [h.get_converses hconv, slot_eq_none_iff.mp hslot, hf]
  · rfl

theorem remove_of_slot (h : t.slot key' = some slot) :
    ∃ flow, t.flows.lookup slot = some flow ∧ t.remove key' = (some flow, { t with
      flows := t.flows.erase slot
      totalRemoved := saturatingAdd64 t.totalRemoved 1 }) := by
  obtain ⟨flow, hflow⟩ := Finmap.mem_iff.mp (slot_mem h)
  refine ⟨flow, hflow, ?_⟩
  unfold remove
  rcases slot_cases t key' with ⟨hkey, hslot⟩ | ⟨hkey, hreverse, hslot⟩ | ⟨-, -, hslot⟩
  · obtain rfl := Option.some.inj (h.symm.trans hslot)
    dsimp only
    rw [if_pos hkey, hflow]
  · obtain rfl := Option.some.inj (h.symm.trans hslot)
    dsimp only
    rw [if_neg hkey, hflow]
  · exact nomatch h.symm.trans hslot

theorem remove_of_none (h : t.slot key' = none) : t.remove key' = (none, t) := by
  obtain ⟨hkey, hreverse⟩ := notMem_of_slot h
  unfold remove
  dsimp only
  rw [if_neg hkey, Finmap.lookup_eq_none.mpr hreverse]

theorem get_withFlow (h : t.slot flow.key = none) :
    (t.withFlow flow).get key = if key.Converses flow.key then some flow else t.get key :=
  get_stored (fun hin => absurd hin (notMem_of_slot h).2) rfl

/-- What `get_or_create` leaves: the conversation has the slot, and a new flow if it had none. -/
theorem Conversations.getOrCreate (h : t.Conversations) (key : FlowKey)
    (hcreate : t.getOrCreate key' now = .ok (slot, t')) :
    t'.Conversations ∧ t'.slot key' = some slot ∧
      t'.get key =
        if key.Converses key' then some ((t.get key).getD (.new key' now)) else t.get key := by
  cases hslot : t.slot key' with
  | some slot' =>
    obtain ⟨rfl, rfl⟩ := Prod.mk.inj (Except.ok.inj ((getOrCreate_of_slot hslot).symm.trans hcreate))
    refine ⟨h, hslot, ?_⟩
    split
    · rename_i hconv
      obtain ⟨flow, hflow⟩ := found_of_slot hslot
      rw [h.get_converses hconv, hflow]
      rfl
    · rfl
  | none =>
    rw [getOrCreate_of_none hslot] at hcreate
    split at hcreate
    · exact nomatch hcreate
    · rename_i hroom
      obtain ⟨rfl, rfl⟩ := Prod.mk.inj (Except.ok.inj hcreate)
      obtain ⟨hkey, hreverse⟩ := notMem_of_slot hslot
      have hlt : t.len < t.maxEntries := by
        unfold full at hroom
        rw [decide_eq_true_eq] at hroom
        omega
      refine ⟨h.created hkey hreverse hlt, ?_, ?_⟩
      · have hin : key' ∈ (t.withFlow (.new key' now)).flows := Finmap.mem_insert.mpr (.inl rfl)
        exact if_pos hin
      · have hwith : (t.withFlow (.new key' now)).get key = _ := get_withFlow hslot
        rw [hwith]
        show (if key.Converses key' then _ else _) = _
        split
        · rename_i hconv
          rw [h.get_converses hconv, slot_eq_none_iff.mp hslot]
          rfl
        · rfl

/-- A call that creates what it does not find is refused by a full table. -/
theorem getOrCreate_eq (t : FlowTable) (key : FlowKey) (now : UInt64) :
    if (t.get key).isNone ∧ t.maxEntries ≤ t.len then
      t.getOrCreate key now = .error .resourceExhausted
    else
      ∃ slot t', t.getOrCreate key now = .ok (slot, t') ∧
        t'.flows.lookup slot = some ((t.get key).getD (.new key now)) := by
  cases hslot : t.slot key with
  | some slot =>
    obtain ⟨flow, hflow⟩ := found_of_slot hslot
    rw [if_neg (by simp [hflow])]
    refine ⟨slot, t, getOrCreate_of_slot hslot, ?_⟩
    rw [hflow, Option.getD_some, ← hflow, get_eq_slot, hslot]
    rfl
  | none =>
    have hget := slot_eq_none_iff.mp hslot
    rw [getOrCreate_of_none hslot, hget]
    by_cases hfull : t.maxEntries ≤ t.len
    · rw [if_pos ⟨rfl, hfull⟩, full, if_pos (decide_eq_true hfull)]
    · rw [if_neg fun h => hfull h.2, full, if_neg (by simpa using hfull)]
      exact ⟨key, _, rfl, Finmap.lookup_insert _⟩

theorem insert_answer (t : FlowTable) (flow : Flow) :
    t.answer (.insert flow) =
      if (t.get flow.key).isSome then .ok (.flag false)
      else if t.maxEntries ≤ t.len then .error .resourceExhausted else .ok (.flag true) := by
  show (t.commit _ (t.insert flow)).1 = _
  unfold insert
  rcases slot_cases t flow.key with ⟨hkey, hslot⟩ | ⟨-, hreverse, hslot⟩ | ⟨hkey, hreverse, hslot⟩
  · obtain ⟨found, hfound⟩ := found_of_slot hslot
    rw [if_pos (.inl hkey), hfound]
    rfl
  · obtain ⟨found, hfound⟩ := found_of_slot hslot
    rw [if_pos (.inr hreverse), hfound]
    rfl
  · rw [if_neg (not_or.mpr ⟨hkey, hreverse⟩), slot_eq_none_iff.mp hslot]
    show _ = if t.maxEntries ≤ t.len then _ else _
    split <;> rfl

/-- What is stored under a key is what the key finds. -/
theorem get_of_mem (h : key ∈ t.flows) : t.get key = t.flows.lookup key := by
  obtain ⟨flow, hflow⟩ := Finmap.mem_iff.mp h
  unfold get
  rw [hflow]
  rfl

theorem keysWhere_eq_filter (t : FlowTable) (p : Flow → Bool) :
    t.flows.keysWhere p = t.flows.keys.filter fun key => (t.get key).any p := by
  apply Finset.ext
  intro key
  rw [Table.mem_keysWhere, Finset.mem_filter, Finmap.mem_keys]
  constructor
  · rintro ⟨flow, hflow, hp⟩
    have hin := Finmap.mem_of_lookup_eq_some hflow
    rw [get_of_mem hin, hflow]
    exact ⟨hin, hp⟩
  · rintro ⟨hin, hp⟩
    rw [get_of_mem hin, Option.any_eq_true] at hp
    exact hp

/-- The table answers from what it finds and the keys it stores. -/
theorem answer_eq (t : FlowTable) (call : Call) :
    t.answer call = respond t.maxEntries t.idleTimeout t.flows.keys t.get call := by
  cases call with
  | insert flow => exact insert_answer t flow
  | getOrCreate key now =>
    have heq := getOrCreate_eq t key now
    show (t.commit _ (t.getOrCreate key now)).1 = _
    by_cases hfull : (t.get key).isNone = true ∧ t.maxEntries ≤ t.len
    · rw [if_pos hfull] at heq
      rw [heq]
      exact (if_pos hfull).symm
    · rw [if_neg hfull] at heq
      obtain ⟨slot, t', hcreate, hflow⟩ := heq
      rw [hcreate, respond, ← hflow]
      exact (if_neg hfull).symm
  | recordPacket key bytes direction timestampNs clock =>
    have heq := getOrCreate_eq t key clock.created
    show (t.commit _ (t.recordPacket key bytes direction timestampNs clock)).1 = _
    unfold recordPacket
    by_cases hfull : (t.get key).isNone = true ∧ t.maxEntries ≤ t.len
    · rw [if_pos hfull] at heq
      rw [heq]
      exact (if_pos hfull).symm
    · rw [if_neg hfull] at heq
      obtain ⟨slot, t', hcreate, -⟩ := heq
      rw [hcreate]
      exact (if_neg hfull).symm
  | update key bytes direction timestampNs now =>
    show .ok (.flag (t.update key bytes direction timestampNs now).1) =
      Except.ok (Answer.flag (t.get key).isSome)
    rw [← isSome_slot, update]
    cases t.slot key <;> rfl
  | remove key =>
    show .ok (.flow (t.remove key).1) = Except.ok (Answer.flow (t.get key))
    cases hslot : t.slot key with
    | some slot =>
      obtain ⟨flow, hflow, hremove⟩ := remove_of_slot hslot
      rw [hremove, get_eq_slot, hslot, Option.bind_some, hflow]
    | none => rw [remove_of_none hslot, slot_eq_none_iff.mp hslot]
  | close key =>
    show .ok (.flag (t.close key).1) = Except.ok (Answer.flag (t.get key).isSome)
    rw [← isSome_slot, close]
    cases t.slot key <;> rfl
  | expireIdle now | expireIdleNow now =>
    show Except.ok (Answer.count (t.flows.keysWhere _).card) = _
    rw [keysWhere_eq_filter]
    rfl
  | clear => rfl

/-- Every call leaves a conversation as the conversation follows it. -/
theorem Conversations.get_step (h : t.Conversations) (call : Call) (key : FlowKey) :
    (t.step call).get key = follow t.idleTimeout key (t.get key) (call, t.answer call) := by
  cases call with
  | insert flow =>
    show (t.commit _ (t.insert flow)).2.get key =
      follow t.idleTimeout key (t.get key)
        (.insert flow, (t.commit (fun r => .flag r.1) (t.insert flow)).1)
    unfold insert
    split
    · rfl
    · rename_i hnew
      split
      · rfl
      · have hslot : t.slot flow.key = none := by
          rcases slot_cases t flow.key with ⟨hkey, -⟩ | ⟨-, hreverse, -⟩ | ⟨-, -, hslot⟩
          · exact absurd (.inl hkey) hnew
          · exact absurd (.inr hreverse) hnew
          · exact hslot
        exact get_withFlow hslot
  | getOrCreate key' now =>
    show (t.commit _ (t.getOrCreate key' now)).2.get key =
      follow t.idleTimeout key (t.get key) (.getOrCreate key' now,
        (t.commit (fun r => .flow (r.2.flows.lookup r.1)) (t.getOrCreate key' now)).1)
    cases hcreate : t.getOrCreate key' now with
    | error err => rfl
    | ok r => exact (h.getOrCreate key hcreate).2.2
  | recordPacket key' bytes direction timestampNs clock =>
    show (t.commit _ (t.recordPacket key' bytes direction timestampNs clock)).2.get key =
      follow t.idleTimeout key (t.get key) (.recordPacket key' bytes direction timestampNs clock,
        (t.commit (fun _ => .done) (t.recordPacket key' bytes direction timestampNs clock)).1)
    unfold recordPacket
    cases hcreate : t.getOrCreate key' clock.created with
    | error err => rfl
    | ok r =>
      obtain ⟨hconv, hslot, hget⟩ := h.getOrCreate key hcreate
      have hmodify := hconv.get_modify hslot
        (·.recordPacket bytes direction timestampNs clock.recorded) key
      show (r.2.modify r.1 _).get key = if key.Converses key' then some _ else t.get key
      rw [hmodify, hget]
      split <;> rfl
  | update key' bytes direction timestampNs now =>
    show (t.update key' bytes direction timestampNs now).2.get key =
      if key.Converses key' then (t.get key).map _ else t.get key
    unfold update
    cases hslot : t.slot key' with
    | some slot => exact h.get_modify hslot _ key
    | none => exact h.get_unfound hslot _ rfl
  | remove key' =>
    show (t.remove key').2.get key = if key.Converses key' then none else t.get key
    cases hslot : t.slot key' with
    | some slot =>
      obtain ⟨flow, -, hremove⟩ := remove_of_slot hslot
      rw [hremove, h.get_erased (slot_mem hslot) rfl]
      simp only [slot_converses hslot key]
    | none =>
      rw [remove_of_none hslot]
      exact h.get_unfound hslot (fun _ => none) rfl
  | close key' =>
    show (t.close key').2.get key = if key.Converses key' then (t.get key).map _ else t.get key
    unfold close
    cases hslot : t.slot key' with
    | some slot => exact h.get_modify hslot _ key
    | none => exact h.get_unfound hslot _ rfl
  | expireIdle now => exact h.get_expireIdle now key
  | expireIdleNow now => exact h.get_expireIdle now key
  | clear => rfl

/-! ## 4. Whole runs -/

theorem idleTimeout_change {expiry : Bool} (hchange : Change t expiry t') :
    t'.idleTimeout = t.idleTimeout := by
  cases hchange with
  | @expired keys hkeys =>
    apply Table.forEach_inv (fun u : FlowTable => u.idleTimeout = t.idleTimeout)
    · intro u k hu
      unfold expireKey
      split <;> exact hu
    · rfl
  | _ => rfl

theorem idleTimeout_run (calls : List Call) (t : FlowTable) :
    (run step t calls).idleTimeout = t.idleTimeout := by
  induction calls generalizing t with
  | nil => rfl
  | cons call calls ih => exact (ih _).trans (idleTimeout_change (step_change t call))

/-- The keys of the table are those under which the conversations were first stored. -/
theorem Conversations.mem_keys_iff (h : t.Conversations) (key : FlowKey) :
    key ∈ t.flows.keys ↔ ∃ flow, t.get key = some flow ∧ flow.key = key := by
  rw [Finmap.mem_keys]
  constructor
  · intro hin
    obtain ⟨flow, hflow⟩ := Finmap.mem_iff.mp hin
    refine ⟨flow, ?_, h.own_key key flow hflow⟩
    unfold get
    rw [hflow]
    rfl
  · rintro ⟨flow, hget, hkey⟩
    obtain ⟨slot, -, hflow⟩ := exists_slot hget
    rw [h.own_key slot flow hflow] at hkey
    rw [← hkey]
    exact Finmap.mem_of_lookup_eq_some hflow

/-- The view of a run from one key. -/
theorem get_run (maxEntries idleTimeout : Nat) (calls : List Call) (key : FlowKey) :
    (run step (empty maxEntries idleTimeout) calls).get key =
      (exchanges step answer (empty maxEntries idleTimeout) calls).foldl
        (follow idleTimeout key) none := by
  have hinv (t : FlowTable) (call : Call) (h : t.Conversations ∧ t.idleTimeout = idleTimeout) :
      (t.step call).Conversations ∧ (t.step call).idleTimeout = idleTimeout :=
    ⟨h.1.change (step_change t call), (idleTimeout_change (step_change t call)).trans h.2⟩
  have hview (t : FlowTable) (call : Call) (h : t.Conversations ∧ t.idleTimeout = idleTimeout) :
      (t.step call).get key = follow idleTimeout key (t.get key) (call, t.answer call) := by
    rw [← h.2]
    exact h.1.get_step call key
  exact view_run (fun t => t.get key) hinv hview
    ⟨Conversations.empty maxEntries idleTimeout, rfl⟩ calls

/-- **A flow table is the sum of its conversations.**  What a key finds after a run is what its
conversation makes of the calls and their answers, one after the other; the answer to a call follows
from what the keys find and under which of them flows are stored; and these are the keys that find a
flow of that key. -/
theorem conversations_apart (maxEntries idleTimeout : Nat) (calls : List Call) :
    let t := run step (empty maxEntries idleTimeout) calls
    (∀ key, t.get key = (exchanges step answer (empty maxEntries idleTimeout) calls).foldl
      (follow idleTimeout key) none) ∧
    (∀ call, t.answer call = respond maxEntries idleTimeout t.flows.keys t.get call) ∧
    ∀ key, key ∈ t.flows.keys ↔ ∃ flow, t.get key = some flow ∧ flow.key = key := by
  intro t
  have hconv : t.Conversations := conversations_run maxEntries idleTimeout calls
  have hmax : t.maxEntries = maxEntries := maxEntries_run calls _
  have htimeout : t.idleTimeout = idleTimeout := idleTimeout_run calls _
  refine ⟨get_run maxEntries idleTimeout calls, fun call => ?_, hconv.mem_keys_iff⟩
  rw [answer_eq, hmax, htimeout]

end FlowTable

end NetworkEngine
