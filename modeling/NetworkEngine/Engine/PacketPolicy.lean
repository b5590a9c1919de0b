import NetworkEngine.Flow.Processing
import NetworkEngine.Lib.Ranking

/-!
# PacketPolicy — the host's decision on a packet

The packet action policy of `network_core::policy` and its evaluation in `ffi::decision`: the first
rule that matches, in the order of priority and position, decides.
-/

namespace NetworkEngine

open Rust Ranking

/-! ## 1. Policies -/

inductive PacketActionPolicy where
  | pass
  | drop
  | inspect
  deriving DecidableEq, Repr

structure FilterRule where
  priority : UInt32
  matchDirection : Option Direction
  matchProtocol : Option NetworkCore.Protocol
  matchSrcIp : Option IpAddr
  matchDstIp : Option IpAddr
  matchSrcPort : Option UInt16
  matchDstPort : Option UInt16
  action : PacketActionPolicy
  deriving DecidableEq, Repr

structure PacketActionPolicyConfig where
  defaultAction : PacketActionPolicy
  rules : List FilterRule
  deriving DecidableEq, Repr

inductive PacketDecision where
  | pass
  | drop
  | inspect
  deriving DecidableEq, Repr

/-- The decision that carries an action out. -/
def PacketActionPolicy.decision : PacketActionPolicy → PacketDecision
  | pass => .pass
  | drop => .drop
  | inspect => .inspect

/-- The protocol that a rule is compared with. -/
def TransportProtocol.toProtocol : TransportProtocol → Option NetworkCore.Protocol
  | tcp => some .tcp
  | udp => some .udp
  | icmp => some .icmp
  | icmpv6 => some .icmpV6
  | unknown => none

/-- `if let Some(expected) = expected { if actual != Some(expected) { return false } }`. -/
def FilterRule.accepts {α : Type} [DecidableEq α] (expected actual : Option α) : Bool :=
  match expected with
  | none => true
  | some value => actual = some value

def ruleMatches (rule : FilterRule) (parsed : ParsedPacket) (direction : Direction) : Bool :=
  FilterRule.accepts rule.matchDirection (some direction) &&
    -- An unknown transport protocol matches no expectation.
    FilterRule.accepts rule.matchProtocol parsed.transport.toProtocol &&
    FilterRule.accepts rule.matchSrcIp parsed.sourceIp &&
    FilterRule.accepts rule.matchDstIp parsed.destinationIp &&
    FilterRule.accepts rule.matchSrcPort parsed.sourcePort &&
    FilterRule.accepts rule.matchDstPort parsed.destinationPort

theorem FilterRule.accepts_iff {α : Type} [DecidableEq α] {expected actual : Option α} :
    FilterRule.accepts expected actual = true ↔ ∀ value, expected = some value →
      actual = some value := by
  cases expected with
  | none => exact iff_of_true rfl nofun
  | some value =>
    constructor
    · rintro h _ ⟨⟩
      exact of_decide_eq_true h
    · exact fun h => decide_eq_true (h value rfl)

/-- A rule matches when the packet has all that the rule names: its direction, its protocol, its
addresses and its ports. -/
theorem ruleMatches_iff {rule : FilterRule} {parsed : ParsedPacket} {direction : Direction} :
    ruleMatches rule parsed direction = true ↔
      (∀ value, rule.matchDirection = some value → direction = value) ∧
      (∀ value, rule.matchProtocol = some value → parsed.transport.toProtocol = some value) ∧
      (∀ value, rule.matchSrcIp = some value → parsed.sourceIp = some value) ∧
      (∀ value, rule.matchDstIp = some value → parsed.destinationIp = some value) ∧
      (∀ value, rule.matchSrcPort = some value → parsed.sourcePort = some value) ∧
      ∀ value, rule.matchDstPort = some value → parsed.destinationPort = some value := by
  simp only [ruleMatches, Bool.and_eq_true, FilterRule.accepts_iff, and_assoc, Option.some_inj]

/-- The order of `(u32, usize)`. -/
abbrev byPriority : UInt32 × Nat → UInt32 × Nat → Ordering :=
  compareLex (compareOn (·.1)) (compareOn (·.2))

/-- The loop over the ordered rules. -/
def firstMatch {ε : Type} (parsed : ParsedPacket) (direction : Direction)
    (policy : PacketActionPolicyConfig) : List (UInt32 × Nat) → Checked ε PacketDecision
  | [] => pure policy.defaultAction.decision
  | (_, index) :: ordered =>
    match policy.rules[index]? with
    | none => .error .panic
    | some rule =>
      if ruleMatches rule parsed direction then pure rule.action.decision
      else firstMatch parsed direction policy ordered

def evaluatePacket {ε : Type} (parsed : ParsedPacket) (direction : Direction)
    (policy : PacketActionPolicyConfig) : Checked ε PacketDecision :=
  let ordered := policy.rules.zipIdx.map fun entry => (entry.1.priority, entry.2)
  -- `sort_unstable`: no two of the pairs are equal, so that there is one order.
  firstMatch parsed direction policy (sortBy byPriority ordered)

/-! ## 2. The deciding rule -/

/-- The rule `rule` at `i` is asked before the rule `other` at `j`. -/
def Precedes (rule : FilterRule) (i : Nat) (other : FilterRule) (j : Nat) : Prop :=
  rule.priority < other.priority ∨ rule.priority = other.priority ∧ i < j

/-- Of the rules that match, the one at `i` has the least priority and position. -/
structure Deciding (parsed : ParsedPacket) (direction : Direction) (rules : List FilterRule)
    (i : Nat) (rule : FilterRule) : Prop where
  position : rules[i]? = some rule
  «matches» : ruleMatches rule parsed direction = true
  least : ∀ (j : Nat) (other : FilterRule), rules[j]? = some other →
    ruleMatches other parsed direction = true → j ≠ i → Precedes rule i other j

variable {ε : Type} {parsed : ParsedPacket} {direction : Direction}
  {policy : PacketActionPolicyConfig} {rules rules' : List FilterRule} {rule : FilterRule}
  {ordered : List (UInt32 × Nat)} {i : Nat}

/-- The rule behind a pair of the order matches. -/
def pairMatches (parsed : ParsedPacket) (direction : Direction) (rules : List FilterRule)
    (pair : UInt32 × Nat) : Bool :=
  rules[pair.2]?.any (ruleMatches · parsed direction)

theorem mem_ordered {pair : UInt32 × Nat} :
    pair ∈ sortBy byPriority (rules.zipIdx.map fun entry => (entry.1.priority, entry.2)) ↔
      ∃ rule, rules[pair.2]? = some rule ∧ pair.1 = rule.priority := by
  rw [sortBy_perm.mem_iff, List.mem_map]
  constructor
  · rintro ⟨entry, hentry, rfl⟩
    exact ⟨entry.1, List.mk_mem_zipIdx_iff_getElem?.mp hentry, rfl⟩
  · rintro ⟨rule, hrule, hpriority⟩
    exact ⟨(rule, pair.2), List.mk_mem_zipIdx_iff_getElem?.mpr hrule,
      Prod.ext hpriority.symm rfl⟩

theorem firstMatch_default
    (h : ∀ pair ∈ ordered, ∃ rule, policy.rules[pair.2]? = some rule ∧
      ruleMatches rule parsed direction = false) :
    (firstMatch parsed direction policy ordered : Checked ε PacketDecision) =
      .ok policy.defaultAction.decision := by
  induction ordered with
  | nil => rfl
  | cons pair ordered ih =>
    obtain ⟨rule, hrule, hmiss⟩ := h pair List.mem_cons_self
    unfold firstMatch
    rw [hrule]
    dsimp only
    rw [hmiss, if_neg Bool.false_ne_true]
    exact ih fun other hother => h other (List.mem_cons_of_mem pair hother)

theorem firstMatch_found {pair : UInt32 × Nat}
    (hrules : ∀ pair ∈ ordered, ∃ rule, policy.rules[pair.2]? = some rule)
    (hfind : ordered.find? (pairMatches parsed direction policy.rules) = some pair)
    (hrule : policy.rules[pair.2]? = some rule) :
    (firstMatch parsed direction policy ordered : Checked ε PacketDecision) =
      .ok rule.action.decision := by
  induction ordered with
  | nil => cases hfind
  | cons head ordered ih =>
    obtain ⟨first, hfirst⟩ := hrules head List.mem_cons_self
    have hpair : pairMatches parsed direction policy.rules head =
        ruleMatches first parsed direction := by
      rw [pairMatches, hfirst]
      rfl
    unfold firstMatch
    rw [hfirst]
    dsimp only
    by_cases hmatch : ruleMatches first parsed direction = true
    · rw [List.find?_cons_of_pos (hpair.trans hmatch)] at hfind
      rw [Option.some.inj hfind, hrule] at hfirst
      rw [if_pos hmatch, Option.some.inj hfirst]
      rfl
    · rw [List.find?_cons_of_neg (hpair ▸ hmatch)] at hfind
      rw [if_neg hmatch]
      exact ih (fun other hother => hrules other (List.mem_cons_of_mem head hother)) hfind

theorem evaluatePacket_default
    (h : ∀ rule ∈ policy.rules, ruleMatches rule parsed direction = false) :
    (evaluatePacket parsed direction policy : Checked ε PacketDecision) =
      .ok policy.defaultAction.decision := by
  apply firstMatch_default
  intro pair hpair
  obtain ⟨rule, hrule, -⟩ := mem_ordered.mp hpair
  exact ⟨rule, hrule, h rule (List.mem_of_getElem? hrule)⟩

theorem pairMatches_of_position (h : rules[i]? = some rule) (priority : UInt32) :
    pairMatches parsed direction rules (priority, i) = ruleMatches rule parsed direction := by
  rw [pairMatches, h]
  rfl

theorem evaluatePacket_deciding (h : Deciding parsed direction policy.rules i rule) :
    (evaluatePacket parsed direction policy : Checked ε PacketDecision) =
      .ok rule.action.decision := by
  have hfound : (sortBy byPriority (policy.rules.zipIdx.map fun entry =>
      (entry.1.priority, entry.2))).find? (pairMatches parsed direction policy.rules) =
        some (rule.priority, i) := by
    apply sorted_sortBy.find?_eq_some (mem_ordered.mpr ⟨rule, h.position, rfl⟩)
    · rw [pairMatches_of_position h.position]
      exact h.matches
    · intro pair hpair hmatch
      obtain ⟨other, hother, hpriority⟩ := mem_ordered.mp hpair
      rw [pairMatches, hother] at hmatch
      rw [atMost_lex_up, hpriority]
      by_cases hself : pair.2 = i
      · rw [hself, h.position] at hother
        exact .inr ⟨by rw [Option.some.inj hother], hself.ge⟩
      · exact (h.least pair.2 other hother hmatch hself).imp_right (And.imp_right Nat.le_of_lt)
    · intro pair _ htie
      have hboth := compareLex_eq_eq.mp htie
      exact Prod.ext (Std.compare_eq_iff_eq.mp hboth.1) (Std.compare_eq_iff_eq.mp hboth.2)
  refine firstMatch_found (fun pair hpair => ?_) hfound h.position
  obtain ⟨other, hother, -⟩ := mem_ordered.mp hpair
  exact ⟨other, hother⟩

/-- When some rule matches, one of them decides. -/
theorem exists_deciding (h : ∃ rule ∈ rules, ruleMatches rule parsed direction = true) :
    ∃ i rule, Deciding parsed direction rules i rule := by
  let matching := (sortBy byPriority (rules.zipIdx.map fun entry =>
    (entry.1.priority, entry.2))).filter (pairMatches parsed direction rules)
  have hsorted : Sorted byPriority matching := sorted_sortBy.filter _
  have hmem (pair : UInt32 × Nat) : pair ∈ matching ↔ ∃ rule, rules[pair.2]? = some rule ∧
      pair.1 = rule.priority ∧ ruleMatches rule parsed direction = true := by
    rw [List.mem_filter, mem_ordered]
    constructor
    · rintro ⟨⟨rule, hrule, hpriority⟩, hmatch⟩
      rw [pairMatches, hrule] at hmatch
      exact ⟨rule, hrule, hpriority, hmatch⟩
    · rintro ⟨rule, hrule, hpriority, hmatch⟩
      refine ⟨⟨rule, hrule, hpriority⟩, ?_⟩
      rw [pairMatches, hrule]
      exact hmatch
  cases hhead : matching.head? with
  | none =>
    obtain ⟨rule, hrule, hmatch⟩ := h
    obtain ⟨i, hi⟩ := List.mem_iff_getElem?.mp hrule
    have hpair := (hmem (rule.priority, i)).mpr ⟨rule, hi, rfl, hmatch⟩
    rw [List.head?_eq_none_iff.mp hhead] at hpair
    cases hpair
  | some pair =>
    obtain ⟨rule, hrule, hpriority, hmatch⟩ := (hmem pair).mp (List.mem_of_mem_head? hhead)
    refine ⟨pair.2, rule, hrule, hmatch, fun j other hother hothers hne => ?_⟩
    have hle := hsorted.head_atMost hhead
      ((hmem (other.priority, j)).mpr ⟨other, hother, rfl, hothers⟩)
    rw [atMost_lex_up, hpriority] at hle
    exact hle.imp_right (And.imp_right fun hj => Nat.lt_of_le_of_ne hj hne.symm)

/-! ## 3. Other lists of rules -/

variable {before after : List FilterRule}

/-- The deciding rule between the rules before and after it. -/
theorem deciding_append : Deciding parsed direction (before ++ rule :: after) before.length rule ↔
    ruleMatches rule parsed direction = true ∧
      (∀ other ∈ before, ruleMatches other parsed direction = true →
        rule.priority < other.priority) ∧
      ∀ other ∈ after, ruleMatches other parsed direction = true →
        rule.priority ≤ other.priority := by
  constructor
  · intro h
    refine ⟨h.matches, fun other hother hmatch => ?_, fun other hother hmatch => ?_⟩
    · obtain ⟨j, hj⟩ := List.mem_iff_getElem?.mp hother
      have hlt : j < before.length := (List.getElem?_eq_some_iff.mp hj).1
      have hat : (before ++ rule :: after)[j]? = some other := by
        rw [List.getElem?_append_left hlt, hj]
      rcases h.least j other hat hmatch hlt.ne with hless | hsame
      · exact hless
      · exact absurd hsame.2 hlt.not_gt
    · obtain ⟨j, hj⟩ := List.mem_iff_getElem?.mp hother
      have hat : (before ++ rule :: after)[before.length + (j + 1)]? = some other := by
        rw [List.getElem?_append_right (Nat.le_add_right _ _), Nat.add_sub_cancel_left,
          List.getElem?_cons_succ, hj]
      rcases h.least _ other hat hmatch (by omega) with hless | hsame
      · exact UInt32.le_of_lt hless
      · exact UInt32.le_of_eq hsame.1
  · rintro ⟨hmatch, hbefore, hafter⟩
    refine ⟨by simp, hmatch, fun j other hother hothers hne => ?_⟩
    rcases Nat.lt_or_ge j before.length with hlt | hge
    · rw [List.getElem?_append_left hlt] at hother
      exact .inl (hbefore other (List.mem_of_getElem? hother) hothers)
    · have hgt : before.length < j := Nat.lt_of_le_of_ne hge hne.symm
      obtain ⟨k, rfl⟩ : ∃ k, j = before.length + (k + 1) := ⟨j - before.length - 1, by omega⟩
      rw [List.getElem?_append_right hge, Nat.add_sub_cancel_left, List.getElem?_cons_succ]
        at hother
      have hle := hafter other (List.mem_of_getElem? hother) hothers
      rcases UInt32.lt_or_eq_of_le hle with hless | hsame
      · exact .inl hless
      · exact .inr ⟨hsame, hgt⟩

/-- The rules at the positions that `keep` names. -/
def keeping (keep : Nat → Bool) (rules : List FilterRule) : List FilterRule :=
  (rules.zipIdx.filter fun entry => keep entry.2).map (·.1)

theorem mem_of_mem_kept {keep : Nat → Bool} {n : Nat}
    (h : rule ∈ ((rules.zipIdx n).filter fun entry => keep entry.2).map (·.1)) : rule ∈ rules := by
  obtain ⟨entry, hentry, rfl⟩ := List.mem_map.mp h
  exact List.fst_mem_of_mem_zipIdx (List.mem_of_mem_filter hentry)

/-- A rule that is kept stays between what is kept of the rules before and after it. -/
theorem keeping_append {keep : Nat → Bool} (h : keep before.length = true)
    (after : List FilterRule) :
    ∃ before' after', keeping keep (before ++ rule :: after) = before' ++ rule :: after' ∧
      (∀ other ∈ before', other ∈ before) ∧ ∀ other ∈ after', other ∈ after := by
  unfold keeping
  rw [List.zipIdx_append, List.filter_append, List.map_append, List.zipIdx_cons,
    List.filter_cons_of_pos (by rwa [Nat.zero_add]), List.map_cons]
  exact ⟨_, _, rfl, fun other => mem_of_mem_kept, fun other => mem_of_mem_kept⟩

/-- The list around the position of its deciding rule. -/
theorem Deciding.split (h : Deciding parsed direction rules i rule) :
    ∃ before after, rules = before ++ rule :: after ∧ before.length = i := by
  obtain ⟨hlt, hrule⟩ := List.getElem?_eq_some_iff.mp h.position
  refine ⟨rules.take i, rules.drop (i + 1), ?_, List.length_take_of_le hlt.le⟩
  rw [← hrule, List.cons_getElem_drop_succ, List.take_append_drop]

/-- The deciding rule goes on deciding as long as it is kept. -/
theorem Deciding.keeping {keep : Nat → Bool} (h : Deciding parsed direction rules i rule)
    (hkeep : keep i = true) : ∃ i', Deciding parsed direction (keeping keep rules) i' rule := by
  obtain ⟨before, after, rfl, rfl⟩ := h.split
  obtain ⟨hmatch, hbefore, hafter⟩ := deciding_append.mp h
  obtain ⟨before', after', heq, hbefore', hafter'⟩ := keeping_append hkeep after
  rw [heq]
  refine ⟨before'.length, deciding_append.mpr ⟨hmatch, ?_, ?_⟩⟩
  · exact fun other hother => hbefore other (hbefore' other hother)
  · exact fun other hother => hafter other (hafter' other hother)

/-- With different priorities the position does not matter. -/
theorem Deciding.perm (h : Deciding parsed direction rules i rule) (hperm : rules.Perm rules')
    (hpriorities : (rules.map (·.priority)).Nodup) :
    ∃ i', Deciding parsed direction rules' i' rule := by
  have hmem : rule ∈ rules' := hperm.mem_iff.mp (List.mem_of_getElem? h.position)
  obtain ⟨before, after, rfl⟩ := List.append_of_mem hmem
  have hdistinct : (rule :: (before ++ after)).map (·.priority) |>.Nodup :=
    ((hperm.trans List.perm_middle).map _).nodup_iff.mp hpriorities
  rw [List.map_cons, List.nodup_cons] at hdistinct
  have hless (other : FilterRule) (hother : other ∈ before ++ after)
      (hmatch : ruleMatches other parsed direction = true) : rule.priority < other.priority := by
    have hne : other.priority ≠ rule.priority := fun heq =>
      hdistinct.1 (heq ▸ List.mem_map_of_mem hother)
    have hrules : other ∈ rules := (hperm.trans List.perm_middle).mem_iff.mpr
      (List.mem_cons_of_mem rule hother)
    obtain ⟨j, hj⟩ := List.mem_iff_getElem?.mp hrules
    have hji : j ≠ i := by
      rintro rfl
      exact hne (congrArg (·.priority) (Option.some.inj (hj.symm.trans h.position)))
    rcases h.least j other hj hmatch hji with hlt | hsame
    · exact hlt
    · exact absurd hsame.1.symm hne
  refine ⟨before.length, deciding_append.mpr ⟨h.matches, fun other hother => ?_, ?_⟩⟩
  · exact hless other (List.mem_append_left after hother)
  · exact fun other hother hmatch =>
      UInt32.le_of_lt (hless other (List.mem_append_right before hother) hmatch)

/-- A position without the deciding rule: no rule that matches, or one that comes later. -/
def Idle (parsed : ParsedPacket) (direction : Direction) (rules : List FilterRule) (j : Nat) :
    Prop :=
  ∀ other, rules[j]? = some other → ruleMatches other parsed direction = false ∨
    ∃ i rule, Deciding parsed direction rules i rule ∧ Precedes rule i other j

theorem Deciding.not_idle (h : Deciding parsed direction rules i rule) :
    ¬ Idle parsed direction rules i := by
  intro hidle
  rcases hidle rule h.position with hmiss | ⟨j, other, hother, hprecedes⟩
  · rw [h.matches] at hmiss
    cases hmiss
  · -- Two rules cannot both precede each other.
    by_cases hij : i = j
    · subst hij
      obtain rfl := Option.some.inj (hother.position.symm.trans h.position)
      rcases hprecedes with hlt | hsame
      · exact UInt32.lt_irrefl _ hlt
      · exact Nat.lt_irrefl _ hsame.2
    · have hback := h.least j other hother.position hother.matches fun heq => hij heq.symm
      unfold Precedes at hprecedes hback
      rw [UInt32.lt_iff_toNat_lt, ← UInt32.toNat_inj] at hprecedes hback
      omega

/-- What the evaluation of a policy comes to. -/
structure FirstMatch (parsed : ParsedPacket) (direction : Direction)
    (policy : PacketActionPolicyConfig) : Prop where
  matched : (∃ rule ∈ policy.rules, ruleMatches rule parsed direction = true) →
    ∃ i rule, Deciding parsed direction policy.rules i rule ∧
      (evaluatePacket parsed direction policy : Checked EngineError PacketDecision) =
        .ok rule.action.decision
  unmatched : (¬ ∃ rule ∈ policy.rules, ruleMatches rule parsed direction = true) →
    (evaluatePacket parsed direction policy : Checked EngineError PacketDecision) =
      .ok policy.defaultAction.decision
  removal : ∀ keep : Nat → Bool,
    (∀ j, keep j = false → Idle parsed direction policy.rules j) →
    (evaluatePacket parsed direction { policy with rules := keeping keep policy.rules } :
      Checked EngineError PacketDecision) = evaluatePacket parsed direction policy
  permutation : ∀ rules', policy.rules.Perm rules' → (policy.rules.map (·.priority)).Nodup →
    (evaluatePacket parsed direction { policy with rules := rules' } :
      Checked EngineError PacketDecision) = evaluatePacket parsed direction policy

theorem evaluatePacket_unmatched
    (h : ¬ ∃ rule ∈ policy.rules, ruleMatches rule parsed direction = true) :
    (evaluatePacket parsed direction policy : Checked ε PacketDecision) =
      .ok policy.defaultAction.decision :=
  evaluatePacket_default fun rule hrule => by
    rw [← Bool.not_eq_true]
    exact fun hmatch => h ⟨rule, hrule, hmatch⟩

/-- Lists of rules with the same deciding rule, and the default that goes with both. -/
theorem evaluatePacket_congr
    (hsub : ∀ rule ∈ rules', rule ∈ policy.rules)
    (hdeciding : ∀ i rule, Deciding parsed direction policy.rules i rule →
      ∃ i', Deciding parsed direction rules' i' rule) :
    (evaluatePacket parsed direction { policy with rules := rules' } :
      Checked ε PacketDecision) = evaluatePacket parsed direction policy := by
  by_cases hmatched : ∃ rule ∈ policy.rules, ruleMatches rule parsed direction = true
  · obtain ⟨i, rule, hrule⟩ := exists_deciding hmatched
    obtain ⟨i', hrule'⟩ := hdeciding i rule hrule
    rw [evaluatePacket_deciding hrule]
    exact evaluatePacket_deciding hrule'
  · rw [evaluatePacket_unmatched hmatched]
    apply evaluatePacket_unmatched
    rintro ⟨rule, hrule, hmatch⟩
    exact hmatched ⟨rule, hsub rule hrule, hmatch⟩

/-- The least rule that matches decides, whatever the other rules are. -/
theorem evaluatePacket_firstMatch (parsed : ParsedPacket) (direction : Direction)
    (policy : PacketActionPolicyConfig) : FirstMatch parsed direction policy where
  matched := by
    intro hmatched
    obtain ⟨i, rule, hrule⟩ := exists_deciding hmatched
    exact ⟨i, rule, hrule, evaluatePacket_deciding hrule⟩
  unmatched := evaluatePacket_unmatched
  removal := by
    intro keep hidle
    apply evaluatePacket_congr (fun rule hrule => mem_of_mem_kept hrule)
    intro i rule hrule
    apply hrule.keeping
    rw [← Bool.not_eq_false]
    exact fun hremoved => hrule.not_idle (hidle i hremoved)
  permutation := by
    intro rules' hperm hpriorities
    apply evaluatePacket_congr (fun rule hrule => hperm.mem_iff.mpr hrule)
    exact fun i rule hrule => hrule.perm hperm hpriorities

end NetworkEngine
