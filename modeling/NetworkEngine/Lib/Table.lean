import Mathlib.Data.Finmap

/-!
# Table — finite maps

`HashMap<K, V>` without its order: Mathlib's `Finmap` at a constant family, with the two lookup
rules that split on the key.  A loop over a map visits the keys in an order the program does not
know, so `forEach` takes a body for which the order does not matter.
-/

abbrev Table (K V : Type) := Finmap (fun _ : K => V)

namespace Table

variable {K V δ : Type}

/-! ## 1. Loops -/

/-- `for k in keys { body(k) }`. -/
def forEach (body : δ → K → δ) [RightCommutative body] (d : δ) (keys : Finset K) : δ :=
  keys.val.foldl body d

/-- Some order visits every key once. -/
theorem forEach_eq (body : δ → K → δ) [RightCommutative body] (d : δ) (keys : Finset K) :
    ∃ order : List K, order.Nodup ∧ (∀ k, k ∈ order ↔ k ∈ keys) ∧ order.length = keys.card ∧
      forEach body d keys = order.foldl body d := by
  rcases Quot.exists_rep keys.val with ⟨order, horder⟩
  have hval : keys.val = (order : Multiset K) := horder.symm
  refine ⟨order, ?_, ?_, ?_, ?_⟩
  · rw [← Multiset.coe_nodup, ← hval]
    exact keys.nodup
  · intro k
    rw [← Multiset.mem_coe, ← hval, Finset.mem_val]
  · rw [← Multiset.coe_card, ← hval, Finset.card_val]
  · rw [forEach, hval, Multiset.coe_foldl]

/-- The invariant rule of the loop. -/
theorem forEach_inv {body : δ → K → δ} [RightCommutative body] (Inv : δ → Prop)
    (hbody : ∀ d k, Inv d → Inv (body d k)) {d : δ} (keys : Finset K) (h : Inv d) :
    Inv (forEach body d keys) := by
  rcases forEach_eq body d keys with ⟨order, -, -, -, heq⟩
  rw [heq]
  clear heq
  induction order generalizing d with
  | nil => exact h
  | cons k order ih => exact ih (hbody d k h)

variable [DecidableEq K]

/-! ## 2. Lookups and sizes -/

theorem lookup_insert (m : Table K V) (k k' : K) (v : V) :
    (m.insert k v).lookup k' = if k' = k then some v else m.lookup k' := by
  split
  · rename_i h
    subst h
    exact Finmap.lookup_insert m
  · exact Finmap.lookup_insert_of_ne m ‹_›

theorem lookup_erase (m : Table K V) (k k' : K) :
    (m.erase k).lookup k' = if k' = k then none else m.lookup k' := by
  split
  · rename_i h
    subst h
    exact Finmap.lookup_erase k' m
  · exact Finmap.lookup_erase_ne ‹_›

theorem erase_comm (m : Table K V) (k k' : K) : (m.erase k).erase k' = (m.erase k').erase k :=
  Finmap.erase_erase

/-- Taking an entry out and putting it back changes nothing. -/
theorem insert_erase {m : Table K V} {k : K} {v : V} (h : m.lookup k = some v) :
    (m.erase k).insert k v = m := by
  apply Finmap.ext_lookup
  intro k'
  rw [lookup_insert, lookup_erase]
  split
  · rename_i heq
    rw [heq, h]
  · rfl

/-- Writing an entry back changes nothing. -/
theorem insert_self {m : Table K V} {k : K} {v : V} (h : m.lookup k = some v) :
    m.insert k v = m := by
  apply Finmap.ext_lookup
  intro k'
  rw [lookup_insert]
  split
  · rename_i heq
    rw [heq, h]
  · rfl

theorem keys_insert (m : Table K V) (k : K) (v : V) :
    (m.insert k v).keys = Insert.insert k m.keys := by
  ext k'
  rw [Finmap.mem_keys, Finmap.mem_insert, Finset.mem_insert, Finmap.mem_keys]

theorem card_insert_of_mem {m : Table K V} {k : K} (v : V) (h : k ∈ m) :
    (m.insert k v).keys.card = m.keys.card := by
  rw [keys_insert, Finset.insert_eq_of_mem (Finmap.mem_keys.mpr h)]

theorem card_insert_of_notMem {m : Table K V} {k : K} (v : V) (h : k ∉ m) :
    (m.insert k v).keys.card = m.keys.card + 1 := by
  rw [keys_insert, Finset.card_insert_of_notMem (fun hk => h (Finmap.mem_keys.mp hk))]

theorem card_erase_of_mem {m : Table K V} {k : K} (h : k ∈ m) :
    (m.erase k).keys.card + 1 = m.keys.card := by
  rw [Finmap.keys_erase]
  exact Finset.card_erase_add_one (Finmap.mem_keys.mpr h)

theorem card_erase_le (m : Table K V) (k : K) : (m.erase k).keys.card ≤ m.keys.card := by
  rw [Finmap.keys_erase]
  exact Finset.card_erase_le

/-! ## 3. Removal in a loop -/

/-- The keys whose entry satisfies `p`. -/
def keysWhere (p : V → Bool) (m : Table K V) : Finset K :=
  m.keys.filter fun k => (m.lookup k).any p

theorem mem_keysWhere {p : V → Bool} {m : Table K V} {k : K} :
    k ∈ m.keysWhere p ↔ ∃ v, m.lookup k = some v ∧ p v = true := by
  rw [keysWhere, Finset.mem_filter, Finmap.mem_keys, Option.any_eq_true]
  constructor
  · exact fun h => h.2
  · intro h
    have hk : k ∈ m := Finmap.mem_iff.mpr ⟨h.choose, h.choose_spec.1⟩
    exact ⟨hk, h⟩

-- The induction is over any list of keys: the order of a visit is arbitrary.
theorem lookup_foldl_remove {entries : δ → Table K V} {body : δ → K → δ}
    (hbody : ∀ d k k', (entries (body d k)).lookup k' =
      if k' = k then none else (entries d).lookup k') (order : List K) (d : δ) (k : K) :
    (entries (order.foldl body d)).lookup k =
      if k ∈ order then none else (entries d).lookup k := by
  induction order generalizing d with
  | nil => simp
  | cons a order ih =>
    rw [List.foldl_cons, ih, hbody]
    by_cases hk : k = a
    · simp [hk]
    · simp [hk]

/-- A loop that removes the keys of the entries that satisfy `p` keeps exactly the others. -/
theorem lookup_forEach_remove (entries : δ → Table K V) {body : δ → K → δ}
    [RightCommutative body] (hbody : ∀ d k k', (entries (body d k)).lookup k' =
      if k' = k then none else (entries d).lookup k') {p : V → Bool} {d : δ} {k : K} {v : V} :
    (entries (forEach body d ((entries d).keysWhere p))).lookup k = some v ↔
      (entries d).lookup k = some v ∧ p v = false := by
  rcases forEach_eq body d ((entries d).keysWhere p) with ⟨order, -, hmem, -, heq⟩
  have hiff : k ∈ order ↔ ∃ v, (entries d).lookup k = some v ∧ p v = true :=
    (hmem k).trans mem_keysWhere
  rw [heq, lookup_foldl_remove hbody]
  constructor
  · intro hfound
    split at hfound
    · exact nomatch hfound
    · rename_i hkept
      refine ⟨hfound, ?_⟩
      by_contra htrue
      exact hkept (hiff.mpr ⟨v, hfound, Bool.of_not_eq_false htrue⟩)
  · intro hfound
    have hkept : k ∉ order := by
      intro hin
      rcases hiff.mp hin with ⟨w, hw, htrue⟩
      rw [← Option.some.inj (hfound.1.symm.trans hw), hfound.2] at htrue
      exact Bool.noConfusion htrue
    rw [if_neg hkept]
    exact hfound.1

def eraseKey (m : Table K V) (k : K) : Table K V := m.erase k

instance : RightCommutative (eraseKey : Table K V → K → Table K V) where
  right_comm m k k' := erase_comm m k k'

/-- Removes the entries that satisfy `p`, one key after the other. -/
def discard (p : V → Bool) (m : Table K V) : Table K V :=
  forEach eraseKey m (m.keysWhere p)

theorem lookup_discard_eq_some {p : V → Bool} {m : Table K V} {k : K} {v : V} :
    (m.discard p).lookup k = some v ↔ m.lookup k = some v ∧ p v = false := by
  have hbody (m : Table K V) (k k' : K) :
      (eraseKey m k).lookup k' = if k' = k then none else m.lookup k' := lookup_erase m k k'
  exact lookup_forEach_remove (fun m => m) hbody

theorem card_discard_le (p : V → Bool) (m : Table K V) :
    (m.discard p).keys.card ≤ m.keys.card := by
  apply Finset.card_le_card
  intro k hk
  rcases Finmap.mem_iff.mp (Finmap.mem_keys.mp hk) with ⟨v, hv⟩
  exact Finmap.mem_keys.mpr (Finmap.mem_iff.mpr ⟨v, (lookup_discard_eq_some.mp hv).1⟩)

/-! ## 4. Secondary indexes -/

section Index

variable {T : Type} {field : V → T} {index : Table T K} {m : Table K V}

/-- `index` finds the key of an entry by its `field`, and finds nothing else. -/
def IsIndex [DecidableEq T] (field : V → T) (index : Table T K) (m : Table K V) : Prop :=
  ∀ t k, index.lookup t = some k ↔ ∃ v, m.lookup k = some v ∧ field v = t

variable [DecidableEq T] {k k' : K} {v v' : V}

theorem isIndex_empty : IsIndex field (∅ : Table T K) (∅ : Table K V) := by
  intro t k
  rw [Finmap.lookup_empty, Finmap.lookup_empty]
  constructor
  · exact fun h => nomatch h
  · exact fun h => nomatch h.choose_spec.1

theorem IsIndex.lookup_field (h : IsIndex field index m) (hv : m.lookup k = some v) :
    index.lookup (field v) = some k :=
  (h _ _).mpr ⟨v, hv, rfl⟩

/-- Entries with equal fields are one entry. -/
theorem IsIndex.key_unique (h : IsIndex field index m) (hv : m.lookup k = some v)
    (hv' : m.lookup k' = some v') (hfield : field v = field v') : k = k' := by
  have hk := h.lookup_field hv
  rw [hfield, h.lookup_field hv'] at hk
  exact (Option.some.inj hk).symm

/-- A new entry whose field is not taken. -/
theorem IsIndex.insert (h : IsIndex field index m) (hk : k ∉ m) (hfield : field v ∉ index) :
    IsIndex field (index.insert (field v) k) (m.insert k v) := by
  intro t k'
  rw [Table.lookup_insert, Table.lookup_insert]
  by_cases ht : t = field v
  · rw [if_pos ht]
    constructor
    · intro heq
      rw [if_pos (Option.some.inj heq).symm]
      exact ⟨v, rfl, ht.symm⟩
    · intro hentry
      by_cases hk' : k' = k
      · rw [hk']
      · rw [if_neg hk'] at hentry
        have htaken := (h t k').mpr hentry
        rw [ht] at htaken
        exact absurd (Finmap.mem_of_lookup_eq_some htaken) hfield
  · rw [if_neg ht, h t k']
    by_cases hk' : k' = k
    · have hnone : m.lookup k' = none := by
        rw [hk']
        exact Finmap.lookup_eq_none.mpr hk
      rw [if_pos hk', hnone]
      constructor
      · exact fun hentry => nomatch hentry.choose_spec.1
      · intro hentry
        rcases hentry with ⟨w, hw, hwt⟩
        rw [← Option.some.inj hw] at hwt
        exact absurd hwt.symm ht
    · rw [if_neg hk']

/-- An entry leaves both. -/
theorem IsIndex.erase (h : IsIndex field index m) (hv : m.lookup k = some v) :
    IsIndex field (index.erase (field v)) (m.erase k) := by
  intro t k'
  rw [Table.lookup_erase, Table.lookup_erase]
  by_cases hk' : k' = k
  · rw [if_pos hk', hk']
    constructor
    · intro hfound
      split at hfound
      · exact nomatch hfound
      · rename_i ht
        rcases (h t k).mp hfound with ⟨w, hw, hwt⟩
        rw [← Option.some.inj (hv.symm.trans hw)] at hwt
        exact absurd hwt.symm ht
    · exact fun hentry => nomatch hentry.choose_spec.1
  · rw [if_neg hk']
    by_cases ht : t = field v
    · rw [if_pos ht]
      constructor
      · exact fun hfound => nomatch hfound
      · intro hentry
        rcases hentry with ⟨w, hw, hwt⟩
        exact absurd (h.key_unique hw hv (hwt.trans ht)) hk'
    · rw [if_neg ht]
      exact h t k'

/-- A change of an entry that keeps its field. -/
theorem IsIndex.modify (h : IsIndex field index m) (hv : m.lookup k = some v)
    (hfield : field v' = field v) : IsIndex field index (m.insert k v') := by
  intro t k'
  rw [h t k', Table.lookup_insert]
  by_cases hk' : k' = k
  · rw [if_pos hk', hk', hv]
    constructor
    · intro hentry
      rcases hentry with ⟨w, hw, hwt⟩
      rw [← Option.some.inj hw] at hwt
      exact ⟨v', rfl, hfield.trans hwt⟩
    · intro hentry
      rcases hentry with ⟨w, hw, hwt⟩
      rw [← Option.some.inj hw] at hwt
      exact ⟨v, rfl, hfield.symm.trans hwt⟩
  · rw [if_neg hk']

end Index

end Table
