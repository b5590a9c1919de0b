import Mathlib.Data.Int.CardIntervalMod
import NetworkEngine.Backend.Selection

/-!
# RoundRobin — the cursor shared by all selections

The manager's cursor only grows, and a selection takes it modulo the number of candidates.  Over any
window of selections in which the cursor does not wrap, every candidate has its turn as often as any
other, up to one.
-/

namespace NetworkEngine

namespace BackendManager

/-! ## 1. Selections one after the other -/

/-- `select_backend_for_requirements`, with the cursor of the manager as its state. -/
def selectNext (m : BackendManager) (policy : FailoverPolicy)
    (requirements : List CapabilityRequirement) (roundRobinCursor : UInt64) :
    Option String × UInt64 :=
  (m.selectBackendForRequirements policy roundRobinCursor.toNat requirements,
    -- `fetch_add`, which only the round robin comes to.
    if policy = .roundRobin ∧ m.findCapableRequirements requirements ≠ [] then
      roundRobinCursor + 1
    else roundRobinCursor)

/-- What `calls` selections in a row return. -/
def selectWindow (m : BackendManager) (policy : FailoverPolicy)
    (requirements : List CapabilityRequirement) : Nat → UInt64 → List (Option String)
  | 0, _ => []
  | calls + 1, cursor =>
    let (selected, cursor') := m.selectNext policy requirements cursor
    selected :: m.selectWindow policy requirements calls cursor'

variable {m : BackendManager} {requirements : List CapabilityRequirement} {name other : String}
  {candidates : List String} {cursor : UInt64} {calls : Nat}

/-! ## 2. Residues in a window -/

/-- The numbers from `start` on that leave the remainder `i` are as frequent as those from 0 on
that leave the remainder `i - start`. -/
theorem add_mod_eq_iff {n i : Nat} (hi : i < n) (start j : Nat) :
    (start + j) % n = i ↔ j ≡ i + (n - start % n) [MOD n] := by
  have hlt : start % n < n := Nat.mod_lt _ (by omega)
  have hback : start % n + (i + (n - start % n)) = i + n := by omega
  have hrem : i = (i + n) % n := by rw [Nat.add_mod_right, Nat.mod_eq_of_lt hi]
  rw [Nat.ModEq, ← Nat.mod_add_mod]
  constructor
  · intro h
    have hmod : start % n + j ≡ start % n + (i + (n - start % n)) [MOD n] := by
      rw [hback]
      exact h.trans hrem
    exact Nat.ModEq.add_left_cancel' _ hmod
  · intro h
    have hmod : start % n + j ≡ start % n + (i + (n - start % n)) [MOD n] :=
      Nat.ModEq.add_left _ h
    rw [hback] at hmod
    exact Eq.trans hmod hrem.symm

/-- How often a remainder occurs in a window. -/
def turns (n i start calls : Nat) : Nat := Nat.count (fun j => (start + j) % n = i) calls

/-- Every remainder occurs once for each full round, and some once more. -/
theorem turns_bounds {n i : Nat} (hi : i < n) (start calls : Nat) :
    calls / n ≤ turns n i start calls ∧ turns n i start calls ≤ calls / n + 1 ∧
      (calls = n → turns n i start calls = 1) := by
  have hpos : 0 < n := by omega
  have hcount : turns n i start calls =
      calls / n + if (i + (n - start % n)) % n < calls % n then 1 else 0 := by
    unfold turns
    simp only [add_mod_eq_iff hi start]
    exact Nat.count_modEq_card calls hpos _
  rw [hcount]
  refine ⟨Nat.le_add_right _ _, ?_, ?_⟩
  · split <;> omega
  · rintro rfl
    rw [Nat.div_self hpos, Nat.mod_self, if_neg (Nat.not_lt_zero _)]

/-! ## 3. Fairness -/

theorem findCapableRequirements_nodup (m : BackendManager)
    (requirements : List CapabilityRequirement) :
    (m.findCapableRequirements requirements).Nodup :=
  (Finset.sort_nodup _ _).filter _

/-- The candidate that a call of the round robin returns. -/
theorem selectNext_roundRobin (hcandidates : m.findCapableRequirements requirements = candidates)
    (hne : candidates ≠ []) (cursor : UInt64) :
    m.selectNext .roundRobin requirements cursor =
      (candidates[cursor.toNat % candidates.length]?, cursor + 1) := by
  unfold selectNext selectBackendForRequirements selectFromCandidates
  rw [hcandidates, if_neg (fun h => hne (List.isEmpty_iff.mp h)), if_pos ⟨rfl, hne⟩]

/-- While the cursor does not wrap, the window walks through the candidates. -/
theorem selectWindow_eq (hcandidates : m.findCapableRequirements requirements = candidates)
    (hne : candidates ≠ []) (hwrap : cursor.toNat + calls ≤ 2 ^ 64) :
    m.selectWindow .roundRobin requirements calls cursor =
      (List.range calls).map fun j => candidates[(cursor.toNat + j) % candidates.length]? := by
  induction calls generalizing cursor with
  | zero => rfl
  | succ calls ih =>
    unfold selectWindow
    rw [selectNext_roundRobin hcandidates hne, List.range_succ_eq_map, List.map_cons,
      List.map_map]
    dsimp only
    congr 1
    cases calls with
    | zero => rfl
    | succ calls =>
      have hnext : (cursor + 1).toNat = cursor.toNat + 1 := Rust.toNat_succ (by omega)
      rw [ih (by omega), hnext]
      apply List.map_congr_left
      intro j _
      rw [Function.comp_apply, Nat.succ_eq_add_one, Nat.add_right_comm, Nat.add_assoc]

/-- A candidate is returned once for each cursor value at its position. -/
theorem count_selectWindow (hcandidates : m.findCapableRequirements requirements = candidates)
    {i : Nat} (hi : i < candidates.length) (hwrap : cursor.toNat + calls ≤ 2 ^ 64) :
    (m.selectWindow .roundRobin requirements calls cursor).count (some candidates[i]) =
      turns candidates.length i cursor.toNat calls := by
  have hnodup : candidates.Nodup := hcandidates ▸ m.findCapableRequirements_nodup requirements
  rw [selectWindow_eq hcandidates (List.ne_nil_of_length_pos (by omega)) hwrap, List.count,
    List.countP_map]
  apply List.countP_congr
  intro j _
  have hlt : (cursor.toNat + j) % candidates.length < candidates.length :=
    Nat.mod_lt _ (by omega)
  rw [Function.comp_apply, List.getElem?_eq_getElem hlt, beq_iff_eq, decide_eq_true_iff,
    Option.some.injEq]
  exact hnodup.getElem_inj_iff

/-- The round robin is fair. -/
theorem roundRobin_fair (m : BackendManager) (requirements : List CapabilityRequirement)
    (cursor : UInt64) (calls : Nat) (hwrap : cursor.toNat + calls ≤ 2 ^ 64) :
    (∀ name ∈ m.findCapableRequirements requirements,
      ∀ other ∈ m.findCapableRequirements requirements,
        (m.selectWindow .roundRobin requirements calls cursor).count (some name) ≤
          (m.selectWindow .roundRobin requirements calls cursor).count (some other) + 1) ∧
      (calls = (m.findCapableRequirements requirements).length →
        ∀ name ∈ m.findCapableRequirements requirements,
          (m.selectWindow .roundRobin requirements calls cursor).count (some name) = 1) := by
  constructor
  · intro name hname other hother
    obtain ⟨i, hi, rfl⟩ := List.mem_iff_getElem.mp hname
    obtain ⟨j, hj, rfl⟩ := List.mem_iff_getElem.mp hother
    rw [count_selectWindow rfl hi hwrap, count_selectWindow rfl hj hwrap]
    have hbounds := turns_bounds hi cursor.toNat calls
    have hbounds' := turns_bounds hj cursor.toNat calls
    omega
  · intro hcalls name hname
    obtain ⟨i, hi, rfl⟩ := List.mem_iff_getElem.mp hname
    rw [count_selectWindow rfl hi hwrap]
    exact (turns_bounds hi cursor.toNat calls).2.2 hcalls

/-- Npcap and WinDivert in use. -/
def capturing : BackendManager :=
  ⟨((∅ : Table String ManagedBackend).insert "npcap"
      ⟨⟨BackendKind.npcap.descriptor, .running, 0, none⟩, .withDefaults⟩).insert "windivert"
      ⟨⟨BackendKind.winDivert.descriptor, .running, 0, none⟩, .withDefaults⟩⟩

theorem mem_capturing {name : String} :
    name ∈ capturing.findCapableRequirements [.mandatory .capture] ↔
      name ∈ ["windivert", "npcap"] := by
  rw [findCapableRequirements, mem_namesWhere, List.mem_cons, List.mem_singleton]
  unfold capturing
  simp only [Table.lookup_insert]
  by_cases hwinDivert : name = "windivert"
  · rw [if_pos hwinDivert]
    exact iff_of_true ⟨_, rfl, by decide⟩ (.inl hwinDivert)
  · rw [if_neg hwinDivert]
    by_cases hnpcap : name = "npcap"
    · rw [if_pos hnpcap]
      exact iff_of_true ⟨_, rfl, by decide⟩ (.inr hnpcap)
    · rw [if_neg hnpcap]
      refine iff_of_false ?_ (fun h => h.elim hwinDivert hnpcap)
      rintro ⟨b, hb, -⟩
      cases hb

/-- The last two cursor values before the cursor wraps. -/
theorem roundRobin_fair_two :
    (capturing.selectWindow .roundRobin [.mandatory .capture] 2 (.ofNat (2 ^ 64 - 2))).count
      (some "npcap") = 1 := by
  have hlength : (capturing.findCapableRequirements [.mandatory .capture]).length = 2 := by
    have hperm := (List.perm_ext_iff_of_nodup (findCapableRequirements_nodup _ _)
      (by decide)).mpr fun _ => mem_capturing
    exact hperm.length_eq
  exact (roundRobin_fair capturing [.mandatory .capture] (.ofNat (2 ^ 64 - 2)) 2
    (by decide)).2 hlength.symm "npcap" (mem_capturing.mpr (by decide))

end BackendManager

end NetworkEngine
