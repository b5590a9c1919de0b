import NetworkEngine.Backend.WfpFilters

/-!
# WfpEvaluate — the answer of the filter table

`WfpFilterTable::evaluate` takes the first filter that matches, whatever its action.  The table is
sorted after every run, so that this is the filter of the greatest weight; an action that is not
terminal is the answer even where a terminal one follows.
-/

namespace NetworkEngine

open Rust Transition Ranking

/-! ## 1. Evaluation -/

def WfpAction.isTerminal : WfpAction → Bool
  | permit | block => true
  | «continue» => false

namespace WfpFilter

def «matches» (f : WfpFilter) (p : List UInt8) : Bool :=
  f.enabled && f.conditions.all (·.matchesBytes p)

def evaluate (f : WfpFilter) (p : List UInt8) : Option WfpAction :=
  if f.matches p then some f.action else none

/-- The filter without the id that the kernel gave it. -/
def asGiven (f : WfpFilter) : WfpFilter := { f with kernelFilterId := 0 }

end WfpFilter

namespace WfpFilters

def FilterTable.evaluate (t : FilterTable) (p : List UInt8) : Option WfpAction :=
  t.filters.findSome? (·.evaluate p)

/-- `f` has the greater weight, or the same weight and the lesser id. -/
def Outranks (f g : WfpFilter) : Prop := g.weight < f.weight ∨ g.weight = f.weight ∧ f.id < g.id

instance (f g : WfpFilter) : Decidable (Outranks f g) := inferInstanceAs (Decidable (_ ∨ _))

/-- What the filters ask for: the terminal action of the greatest weight, and `continue` only where
no terminal action is asked for. -/
structure FollowsWeight (filters : List WfpFilter) (p : List UInt8) (result : Option WfpAction) :
    Prop where
  none_iff : result = none ↔ ∀ f ∈ filters, f.matches p = false
  terminal : ∀ f ∈ filters, f.matches p = true → f.action.isTerminal = true →
    (∀ g ∈ filters, g.matches p = true → g.action.isTerminal = true → g = f ∨ Outranks f g) →
      result = some f.action
  «continue» : result = some .continue → ∀ f ∈ filters, f.matches p = true → f.action = .continue

/-- A `continue` that matches stands behind a terminal action that matches, if there is one. -/
def Unshadowed (filters : List WfpFilter) (p : List UInt8) : Prop :=
  ∀ f ∈ filters, f.matches p = true → f.action = .continue →
    (∃ t ∈ filters, t.matches p = true ∧ t.action.isTerminal = true) →
      ∃ t ∈ filters, t.matches p = true ∧ t.action.isTerminal = true ∧ Outranks t f

instance (filters : List WfpFilter) (p : List UInt8) : Decidable (Unshadowed filters p) :=
  inferInstanceAs (Decidable (∀ f ∈ filters, _))

/-- The two tables have been given the same filters. -/
def SameFilters (t t' : FilterTable) : Prop :=
  ∀ f, f ∈ t.filters.map (·.asGiven) ↔ f ∈ t'.filters.map (·.asGiven)

/-! ## 2. The order of the table -/

variable {t t' : FilterTable} {w : World} {f g : WfpFilter} {p : List UInt8}
  {filters : List WfpFilter}

instance : Std.TransCmp byWeight :=
  inferInstanceAs (Std.TransCmp (compareLex
    (fun left right : WfpFilter => compareOn (·.weight) right left) (compareOn (·.id))))

theorem atMost_byWeight : AtMost byWeight f g ↔
    g.weight < f.weight ∨ g.weight = f.weight ∧ f.id ≤ g.id := by
  unfold AtMost byWeight
  rw [Ordering.isLE_then_iff_or, Std.compare_eq_lt, Std.compare_eq_iff_eq, Std.isLE_compare]

theorem outranks_asymm (h : Outranks f g) : ¬ Outranks g f := by
  unfold Outranks at h ⊢
  rw [UInt64.lt_iff_toNat_lt, UInt64.lt_iff_toNat_lt, ← UInt64.toNat_inj] at h ⊢
  omega

/-- The filters stand in the order of `insert`, each under an id of its own. -/
structure Ranked (filters : List WfpFilter) : Prop where
  sorted : Sorted byWeight filters
  ids : (filters.map (·.id)).Nodup

theorem Ranked.sublist (h : Ranked filters) {rest : List WfpFilter} (hsub : rest.Sublist filters) :
    Ranked rest :=
  ⟨h.sorted.sublist hsub, h.ids.sublist (hsub.map _)⟩

theorem ranked_nil : Ranked [] := ⟨List.Pairwise.nil, List.nodup_nil⟩

theorem Ranked.insert (h : Ranked filters) (hid : ∀ g ∈ filters, g.id ≠ f.id) :
    Ranked (sortBy byWeight (filters ++ [f])) := by
  refine ⟨sorted_sortBy, ?_⟩
  rw [(sortBy_perm.map _).nodup_iff, List.map_append, List.nodup_append]
  refine ⟨h.ids, List.nodup_singleton _, ?_⟩
  intro id hold id' hnew heq
  obtain ⟨g, hg, rfl⟩ := List.mem_map.mp hold
  rw [List.map_singleton, List.mem_singleton] at hnew
  exact hid g hg (heq.trans hnew)

theorem Ranked.step (h : Ranked w.table.filters) (turn : Turn) :
    Ranked (w.step turn).table.filters := by
  cases turn with
  | initializeTable n =>
    have hsame : (w.step (.initializeTable n)).table.filters = w.table.filters := by
      show (exec (initializeTable n) w).2.table.filters = w.table.filters
      rw [initializeTable, exec_atomically]
      dsimp only
      split_ifs
      · rfl
      · cases n.opened with
        | error status => rfl
        | ok handle => cases n.addSublayer <;> rfl
    rwa [hsame]
  | insert filter added =>
    show Ranked (exec (WfpFilters.insert filter added) w).2.table.filters
    rw [WfpFilters.insert, exec_atomically]
    cases hprepare : prepare w.table filter with
    | error e => exact h
    | ok native =>
      cases added with
      | error status => exact h
      | ok kernelId => exact h.insert (prepare_ok hprepare).1
  | remove id deletions =>
    show Ranked (remove deletions id w).2.table.filters
    rw [remove_filters]
    exact h.sublist List.eraseP_sublist
  | clear deletions =>
    show Ranked (clear deletions w).table.filters
    rw [clear_filters]
    exact ranked_nil
  | shutdown deletions status =>
    show Ranked (exec (shutdown deletions status) w).2.table.filters
    rw [shutdown_snd]
    show Ranked (clear deletions w).table.filters
    rw [clear_filters]
    exact ranked_nil

theorem ranked_run (turns : List Turn) : Ranked (run World.step .new turns).table.filters := by
  have hstep (w : World) (turn : Turn) (h : Ranked w.table.filters) :
      Ranked (w.step turn).table.filters := h.step turn
  exact run_inv hstep ranked_nil turns

/-! ## 3. The first filter that matches -/

theorem evaluate_eq (t : FilterTable) (p : List UInt8) :
    t.evaluate p = (t.filters.find? (·.matches p)).map (·.action) := by
  unfold FilterTable.evaluate
  induction t.filters with
  | nil => rfl
  | cons f filters ih =>
    rw [List.findSome?_cons, List.find?_cons, WfpFilter.evaluate]
    cases f.matches p with
    | false => exact ih
    | true => rfl

/-- The first filter with a property outranks the others that have it. -/
theorem Ranked.first (h : Ranked filters) {q : WfpFilter → Bool} (hfind : filters.find? q = some f)
    (hg : g ∈ filters) (hq : q g = true) : g = f ∨ Outranks f g := by
  have hhead : (filters.filter q).head? = some f := by rw [List.head?_filter, hfind]
  have hle := (h.sorted.filter q).head_atMost hhead (List.mem_filter.mpr ⟨hg, hq⟩)
  rcases atMost_byWeight.mp hle with hweight | ⟨hweight, hid⟩
  · exact .inr (.inl hweight)
  · rcases UInt64.lt_or_eq_of_le hid with hless | hsame
    · exact .inr (.inr ⟨hweight, hless⟩)
    · left
      exact List.inj_on_of_nodup_map h.ids hg (List.mem_of_find?_eq_some hfind) hsame.symm

theorem evaluate_eq_none_iff : t.evaluate p = none ↔ ∀ f ∈ t.filters, f.matches p = false := by
  rw [evaluate_eq, Option.map_eq_none_iff, List.find?_eq_none]
  exact forall₂_congr fun f _ => by rw [Bool.not_eq_true]

theorem isTerminal_eq_false {action : WfpAction} :
    action.isTerminal = false ↔ action = .continue := by
  cases action <;> decide

/-- Of the filters with a property one outranks the others. -/
theorem Ranked.exists_first (h : Ranked filters) {q : WfpFilter → Bool}
    (hex : ∃ f ∈ filters, q f = true) :
    ∃ f ∈ filters, q f = true ∧ ∀ g ∈ filters, q g = true → g = f ∨ Outranks f g := by
  obtain ⟨f, hfind⟩ := Option.isSome_iff_exists.mp (List.find?_isSome.mpr hex)
  exact ⟨f, List.mem_of_find?_eq_some hfind, List.find?_some hfind,
    fun g hg hq => h.first hfind hg hq⟩

/-- The first filter that matches is terminal, where any of those that match is. -/
theorem Unshadowed.first_terminal (h : Unshadowed filters p) (hranked : Ranked filters)
    (hfind : filters.find? (·.matches p) = some f)
    (hex : ∃ t ∈ filters, t.matches p = true ∧ t.action.isTerminal = true) :
    f.action.isTerminal = true := by
  by_contra hcontinue
  rw [Bool.not_eq_true, isTerminal_eq_false] at hcontinue
  have hmatch := List.find?_some (p := fun f : WfpFilter => f.matches p) hfind
  obtain ⟨t, ht, htmatch, hterminal, houtranks⟩ :=
    h f (List.mem_of_find?_eq_some hfind) hmatch hcontinue hex
  rcases hranked.first hfind ht htmatch with heq | hbefore
  · rw [heq, hcontinue] at hterminal
    cases hterminal
  · exact outranks_asymm houtranks hbefore

/-- The table answers by weight exactly when no `continue` comes before all terminal actions. -/
theorem followsWeight_iff (h : Ranked t.filters) :
    FollowsWeight t.filters p (t.evaluate p) ↔ Unshadowed t.filters p := by
  constructor
  · intro hfollows f hf hmatch hcontinue hex
    obtain ⟨s, hs, hmatches, hterminal⟩ := hex
    obtain ⟨best, hbest, hq, hleast⟩ := h.exists_first
      (q := fun f => f.matches p && f.action.isTerminal)
      ⟨s, hs, Bool.and_eq_true_iff.mpr ⟨hmatches, hterminal⟩⟩
    have hbestq := Bool.and_eq_true_iff.mp hq
    have hresult := hfollows.terminal best hbest hbestq.1 hbestq.2 fun g hg hgm hgt =>
      hleast g hg (Bool.and_eq_true_iff.mpr ⟨hgm, hgt⟩)
    -- The first filter that matches has given this answer, and it stands before `f`.
    rw [evaluate_eq] at hresult
    obtain ⟨first, hfind, haction⟩ := Option.map_eq_some_iff.mp hresult
    have hfirst := List.find?_some (p := fun f : WfpFilter => f.matches p) hfind
    have hfirstTerminal : first.action.isTerminal = true := haction ▸ hbestq.2
    refine ⟨first, List.mem_of_find?_eq_some hfind, hfirst, hfirstTerminal, ?_⟩
    rcases h.first hfind hf hmatch with heq | hbefore
    · rw [← heq, hcontinue] at hfirstTerminal
      cases hfirstTerminal
    · exact hbefore
  · intro hunshadowed
    constructor
    case none_iff => exact evaluate_eq_none_iff
    case terminal =>
      intro f hf hmatch hterminal hbest
      obtain ⟨first, hfind⟩ : ∃ first, t.filters.find? (·.matches p) = some first :=
        Option.isSome_iff_exists.mp (List.find?_isSome.mpr ⟨f, hf, hmatch⟩)
      have hfirst := hunshadowed.first_terminal h hfind ⟨f, hf, hmatch, hterminal⟩
      rw [evaluate_eq, hfind]
      rcases h.first hfind hf hmatch with heq | hbefore
      · rw [heq]
        rfl
      · rcases hbest first (List.mem_of_find?_eq_some hfind)
          (List.find?_some (p := fun f : WfpFilter => f.matches p) hfind) hfirst with heq | hback
        · rw [heq]
          rfl
        · exact absurd hback (outranks_asymm hbefore)
    case «continue» =>
      intro hresult f hf hmatch
      rw [evaluate_eq] at hresult
      obtain ⟨first, hfind, haction⟩ := Option.map_eq_some_iff.mp hresult
      rw [← isTerminal_eq_false, ← Bool.not_eq_true]
      intro hterminal
      have hfirst := hunshadowed.first_terminal h hfind ⟨f, hf, hmatch, hterminal⟩
      rw [haction] at hfirst
      cases hfirst

/-! ## 4. The order of the calls -/

theorem evaluate_asGiven (t : FilterTable) (p : List UInt8) :
    t.evaluate p = (t.filters.map (·.asGiven)).findSome? (·.evaluate p) := by
  rw [List.findSome?_map]
  rfl

/-- Ranked tables with the same filters give the same answers. -/
theorem SameFilters.evaluate_eq (h : SameFilters t t') (hranked : Ranked t.filters)
    (hranked' : Ranked t'.filters) (p : List UInt8) : t.evaluate p = t'.evaluate p := by
  have hids (filters : List WfpFilter) :
      (filters.map (·.asGiven)).map (·.id) = filters.map (·.id) := by
    rw [List.map_map]
    rfl
  have hnodup {filters : List WfpFilter} (hr : Ranked filters) :
      (filters.map (·.asGiven)).Nodup := .of_map (·.id) (by rw [hids]; exact hr.ids)
  have hsorted {filters : List WfpFilter} (hr : Ranked filters) :
      Sorted byWeight (filters.map (·.asGiven)) := List.pairwise_map.mpr hr.sorted
  have hperm : (t.filters.map (·.asGiven)).Perm (t'.filters.map (·.asGiven)) :=
    (List.perm_ext_iff_of_nodup (hnodup hranked) (hnodup hranked')).mpr h
  have heq : t.filters.map (·.asGiven) = t'.filters.map (·.asGiven) := by
    apply (hsorted hranked).eq_of_perm (hsorted hranked') _ hperm
    intro f hf g hg htie
    have hid : f.id = g.id :=
      Std.compare_eq_iff_eq.mp (Ordering.then_eq_eq.mp htie).2
    refine List.inj_on_of_nodup_map ?_ hf hg hid
    rw [hids]
    exact hranked.ids
  rw [evaluate_asGiven, evaluate_asGiven, heq]

/-- After any run the table answers by weight exactly when no `continue` that matches comes before
all terminal actions that match; what it answers depends on its filters alone. -/
theorem evaluate_run_iff (turns : List Turn) (p : List UInt8) :
    (FollowsWeight (run World.step .new turns).table.filters p
        ((run World.step .new turns).table.evaluate p) ∧
      ∀ turns', SameFilters (run World.step .new turns).table (run World.step .new turns').table →
        (run World.step .new turns).table.evaluate p =
          (run World.step .new turns').table.evaluate p) ↔
      Unshadowed (run World.step .new turns).table.filters p := by
  rw [followsWeight_iff (ranked_run turns)]
  apply and_iff_left
  exact fun turns' hsame => hsame.evaluate_eq (ranked_run turns) (ranked_run turns') p

/-- A filter that lets the next one decide, and one that blocks. -/
def continueThenBlock : List Turn :=
  [.initializeTable ⟨.ok 7, .ok (), true⟩,
    .insert ⟨1, "watch", "outbound_transport_v4", .continue, [], true, 10, 0⟩ (.ok 66),
    .insert ⟨2, "telnet", "outbound_transport_v4", .block, [], true, 5, 0⟩ (.ok 67)]

/-- The blocking filter matches, and the answer is `continue`. -/
theorem continue_hides_block :
    (run World.step .new continueThenBlock).table.evaluate [0, 23] = some .continue ∧
      ¬ FollowsWeight (run World.step .new continueThenBlock).table.filters [0, 23]
        ((run World.step .new continueThenBlock).table.evaluate [0, 23]) := by
  have hresult :
      (run World.step .new continueThenBlock).table.evaluate [0, 23] = some .continue := by decide
  refine ⟨hresult, fun h => ?_⟩
  have hblock := h.continue hresult
    ⟨2, "telnet", "outbound_transport_v4", .block, [], true, 5, 67⟩ (by decide) (by decide)
  cases hblock

end WfpFilters

end NetworkEngine
