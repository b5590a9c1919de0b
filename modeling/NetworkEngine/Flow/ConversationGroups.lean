import NetworkEngine.Flow.ConversationHistory

/-!
# ConversationGroups — a table that never fills up

As long as there is room for every conversation that the packets belong to, no packet is refused, and
the table groups the packets: the flow of a key is made of the packets of its conversation, in the
order in which they came.
-/

namespace NetworkEngine

open Rust Transition

/-! ## 1. Conversations -/

/-- The directions of a conversation. -/
def FlowKey.conversation (key : FlowKey) : Finset FlowKey := {key, key.reverse}

theorem FlowKey.conversation_eq_iff {key key' : FlowKey} :
    key.conversation = key'.conversation ↔ key.Converses key' := by
  unfold conversation Converses
  constructor
  · intro h
    have hin : key ∈ ({key', key'.reverse} : Finset FlowKey) := by
      rw [← h]
      exact Finset.mem_insert_self _ _
    rw [Finset.mem_insert, Finset.mem_singleton] at hin
    exact hin
  · rintro (rfl | rfl)
    · rfl
    · rw [FlowKey.reverse_reverse]
      exact Finset.pair_comm _ _

/-- A packet as `record_packet` receives it. -/
structure FlowPacket where
  key : FlowKey
  bytes : Nat
  direction : FlowDirection
  timestampNs : Option UInt64
  clock : FlowClock
  deriving DecidableEq, Repr

namespace FlowPacket

def call (p : FlowPacket) : FlowTable.Call :=
  .recordPacket p.key p.bytes p.direction p.timestampNs p.clock

/-- The flow of the conversation with the packet; the first packet makes it. -/
def join (found : Option Flow) (p : FlowPacket) : Flow :=
  (found.getD (.new p.key p.clock.created)).recordPacket p.bytes p.direction p.timestampNs
    p.clock.recorded

/-- The flow that the packets of the conversation of `key` make, one after the other. -/
def group (key : FlowKey) (packets : List FlowPacket) : Option Flow :=
  (packets.filter fun p => key.Converses p.key).foldl (fun found p => some (join found p)) none

/-- The conversations that the packets belong to. -/
def conversations (packets : List FlowPacket) : Finset (Finset FlowKey) :=
  (packets.map fun p => p.key.conversation).toFinset

variable {key : FlowKey} {packets : List FlowPacket} {p : FlowPacket}

theorem group_concat :
    group key (packets ++ [p]) =
      if key.Converses p.key then some (join (group key packets) p) else group key packets := by
  unfold group
  rw [List.filter_append, List.foldl_append, List.filter_singleton]
  by_cases hconv : key.Converses p.key
  · rw [if_pos hconv, decide_eq_true hconv]
    rfl
  · rw [if_neg hconv, decide_eq_false hconv]
    rfl

/-- A flow has been made when a packet of its conversation has come. -/
theorem isSome_group_iff :
    (group key packets).isSome = true ↔ key.conversation ∈ conversations packets := by
  unfold conversations
  rw [List.mem_toFinset]
  induction packets using List.reverseRecOn with
  | nil => exact iff_of_false Bool.false_ne_true List.not_mem_nil
  | append_singleton packets p ih =>
    rw [group_concat, List.map_append, List.mem_append, ← ih, List.map_singleton,
      List.mem_singleton, FlowKey.conversation_eq_iff]
    by_cases hconv : key.Converses p.key
    · rw [if_pos hconv]
      exact iff_of_true rfl (.inr hconv)
    · rw [if_neg hconv, or_iff_left hconv]

end FlowPacket

namespace FlowTable

open FlowPacket

variable {t : FlowTable} {packets : List FlowPacket}

/-! ## 2. Room -/

/-- Each conversation takes one entry. -/
theorem Conversations.len_le_card (h : t.Conversations)
    (hget : ∀ key, t.get key = group key packets) : t.len ≤ (conversations packets).card := by
  apply Finset.card_le_card_of_injOn FlowKey.conversation
  · intro key hkey
    obtain ⟨flow, hflow, -⟩ := (h.mem_keys_iff key).mp hkey
    apply isSome_group_iff.mp
    rw [← hget, hflow]
    rfl
  · intro key hkey key' hkey' heq
    rcases FlowKey.conversation_eq_iff.mp heq with heq | heq
    · exact heq
    · rw [heq] at hkey ⊢
      exact h.one_way key' (Finmap.mem_keys.mp hkey') (Finmap.mem_keys.mp hkey)

/-- A packet whose conversation has no flow finds room for one. -/
theorem Conversations.admits (h : t.Conversations) (hget : ∀ key, t.get key = group key packets)
    {p : FlowPacket} (hroom : (conversations (packets ++ [p])).card ≤ t.maxEntries) :
    t.answer p.call = .ok .done := by
  rw [answer_eq]
  apply if_neg
  rintro ⟨hnone, hfull⟩
  have hnew : p.key.conversation ∉ conversations packets := by
    rw [← isSome_group_iff, ← hget, Option.isNone_iff_eq_none.mp hnone]
    exact Bool.false_ne_true
  have hcard : (conversations (packets ++ [p])).card = (conversations packets).card + 1 := by
    rw [← Finset.card_insert_of_notMem hnew]
    congr 1
    ext c
    simp [conversations]
  have hlen := h.len_le_card hget
  have hfull' : t.maxEntries ≤ t.len := hfull
  omega

/-- A table with room for all conversations groups the packets. -/
theorem get_grouped {maxEntries : Nat} (idleTimeout : Nat)
    (hroom : (conversations packets).card ≤ maxEntries) (key : FlowKey) :
    (run step (empty maxEntries idleTimeout) (packets.map FlowPacket.call)).get key =
      group key packets := by
  induction packets using List.reverseRecOn generalizing key with
  | nil => rfl
  | append_singleton packets p ih =>
    have hsub : conversations packets ⊆ conversations (packets ++ [p]) := by
      intro c hc
      unfold conversations at hc ⊢
      rw [List.mem_toFinset] at hc ⊢
      rw [List.map_append]
      exact List.mem_append_left _ hc
    have hbefore := ih ((Finset.card_le_card hsub).trans hroom)
    have hconv := conversations_run maxEntries idleTimeout (packets.map FlowPacket.call)
    have hmax : (run step (empty maxEntries idleTimeout)
        (packets.map FlowPacket.call)).maxEntries = maxEntries := maxEntries_run _ _
    rw [← hmax] at hroom
    rw [List.map_append, run_append, group_concat, ← hbefore]
    show (step _ p.call).get key = _
    rw [hconv.get_step, hconv.admits hbefore hroom]
    rfl

end FlowTable

end NetworkEngine
