import Mathlib.Algebra.BigOperators.Group.Finset.Piecewise
import Mathlib.Algebra.Ring.Nat
import Mathlib.Data.List.Destutter
import NetworkEngine.Lib.Transition

/-!
# Histogram — counting values between bounds

`network_core::metrics::Histogram`.  The bounds are sorted when the histogram is made; a value is
counted under the first bound that it does not exceed, or behind the last one.  All counters wrap.
-/

namespace NetworkEngine

open Transition

/-! ## 1. Bounds -/

/-- `buckets.sort_unstable(); buckets.dedup();`. -/
def sortBounds (bounds : List UInt64) : List UInt64 :=
  (bounds.mergeSort fun a b => decide (a ≤ b)).destutter (· ≠ ·)

section Bounds

variable {α : Type} [DecidableEq α] {a b : α} {l : List α}

theorem mem_destutter'_ne : b ∈ l.destutter' (· ≠ ·) a ↔ b = a ∨ b ∈ l := by
  induction l generalizing a with
  | nil => rw [List.destutter'_nil, List.mem_singleton, or_iff_left List.not_mem_nil]
  | cons c l ih =>
    rw [List.destutter'_cons]
    split_ifs with hne
    · rw [List.mem_cons, ih, List.mem_cons]
    · rw [ih, List.mem_cons, not_not.mp hne, or_self_left]

theorem mem_destutter_ne : b ∈ l.destutter (· ≠ ·) ↔ b ∈ l := by
  cases l with
  | nil => rfl
  | cons a l => rw [List.destutter_cons', mem_destutter'_ne, List.mem_cons]

end Bounds

theorem mem_sortBounds {b : UInt64} {bounds : List UInt64} :
    b ∈ sortBounds bounds ↔ b ∈ bounds := by
  rw [sortBounds, mem_destutter_ne, List.mem_mergeSort]

/-- In a sorted list the equal elements are next to each other. -/
theorem pairwise_destutter' {a : UInt64} {l : List UInt64} (h : (a :: l).Pairwise (· ≤ ·)) :
    (l.destutter' (· ≠ ·) a).Pairwise (· < ·) := by
  induction l generalizing a with
  | nil => exact List.pairwise_singleton _ a
  | cons b l ih =>
    obtain ⟨ha, hl⟩ := List.pairwise_cons.mp h
    rw [List.destutter'_cons]
    split_ifs with hne
    · have hab : a < b := UInt64.lt_of_le_of_ne (ha b List.mem_cons_self) hne
      refine List.pairwise_cons.mpr ⟨?_, ih hl⟩
      intro c hc
      obtain rfl | hc := mem_destutter'_ne.mp hc
      · exact hab
      · exact UInt64.lt_of_lt_of_le hab ((List.pairwise_cons.mp hl).1 c hc)
    · exact ih (h.sublist ((List.sublist_cons_self b l).cons_cons a))

theorem pairwise_sortBounds (bounds : List UInt64) : (sortBounds bounds).Pairwise (· < ·) := by
  have hsorted : (bounds.mergeSort fun a b => decide (a ≤ b)).Pairwise (· ≤ ·) := by
    have htrans (a b c : UInt64) (hab : decide (a ≤ b) = true) (hbc : decide (b ≤ c) = true) :
        decide (a ≤ c) = true :=
      decide_eq_true (UInt64.le_trans (of_decide_eq_true hab) (of_decide_eq_true hbc))
    have htotal (a b : UInt64) : (decide (a ≤ b) || decide (b ≤ a)) = true := by
      rw [Bool.or_eq_true, decide_eq_true_iff, decide_eq_true_iff]
      exact UInt64.le_total a b
    exact (List.pairwise_mergeSort htrans htotal bounds).imp of_decide_eq_true
  unfold sortBounds
  cases hmerged : bounds.mergeSort fun a b => decide (a ≤ b) with
  | nil => exact List.Pairwise.nil
  | cons a l =>
    rw [hmerged] at hsorted
    exact pairwise_destutter' hsorted

/-! ## 2. The histogram -/

/-- One counter more than there are bounds. -/
structure Histogram where
  buckets : List UInt64
  counts : List UInt64
  sum : UInt64
  count : UInt64
  increasing : buckets.Pairwise (· < ·)
  length_eq : counts.length = buckets.length + 1
  deriving DecidableEq

namespace Histogram

def new (bounds : List UInt64) : Histogram where
  buckets := sortBounds bounds
  counts := .replicate ((sortBounds bounds).length + 1) 0
  sum := 0
  count := 0
  increasing := pairwise_sortBounds bounds
  length_eq := List.length_replicate

/-- `buckets.iter().position(..).unwrap_or(buckets.len())`. -/
def bucketIndex (buckets : List UInt64) (value : UInt64) : Nat :=
  buckets.findIdx fun bucket => value ≤ bucket

def observe (h : Histogram) (value : UInt64) : Histogram :=
  { h with
    sum := h.sum + value
    count := h.count + 1
    counts := h.counts.modify (bucketIndex h.buckets value) (· + 1)
    length_eq := by
      rw [List.length_modify]
      exact h.length_eq }

def bucketCount (h : Histogram) (index : Nat) : Option UInt64 := h.counts[index]?

def reset (h : Histogram) : Histogram :=
  { h with
    sum := 0
    count := 0
    counts := h.counts.map fun _ => 0
    length_eq := by
      rw [List.length_map]
      exact h.length_eq }

/-! ## 3. Where a value is counted -/

/-- The value exceeds the bound before the bucket and does not exceed the one of the bucket. -/
def Falls (buckets : List UInt64) (index : Nat) (value : UInt64) : Prop :=
  (0 < index → ∀ bound ∈ buckets[index - 1]?, bound < value) ∧
    ∀ bound ∈ buckets[index]?, value ≤ bound

variable {buckets observed : List UInt64} {index : Nat} {value : UInt64}

theorem bucketIndex_le_length : bucketIndex buckets value ≤ buckets.length :=
  List.findIdx_le_length

theorem falls_bucketIndex : Falls buckets (bucketIndex buckets value) value := by
  constructor
  · intro hpos bound hbound
    have hbefore : bucketIndex buckets value - 1 < bucketIndex buckets value := by omega
    obtain ⟨hlt, rfl⟩ := List.getElem?_eq_some_iff.mp hbound
    have hexceeds := List.not_of_lt_findIdx hbefore
    exact UInt64.not_le.mp (of_decide_eq_false hexceeds)
  · intro bound hbound
    obtain ⟨hlt, rfl⟩ := List.getElem?_eq_some_iff.mp hbound
    have hfound := List.findIdx_getElem (w := hlt)
    exact of_decide_eq_true hfound

/-- A value in two buckets would lie above a bound and below an earlier one. -/
theorem Falls.not_lt {other : Nat} (hincreasing : buckets.Pairwise (· < ·))
    (h : Falls buckets index value) (hother : Falls buckets other value)
    (hlength : other ≤ buckets.length) : ¬ index < other := by
  intro hlt
  have hbound : index < buckets.length := by omega
  have hbefore : other - 1 < buckets.length := by omega
  have hle : value ≤ buckets[index] := h.2 _ (List.getElem?_eq_getElem hbound)
  have hexceeds : buckets[other - 1] < value :=
    hother.1 (by omega) _ (List.getElem?_eq_getElem hbefore)
  have hmono : buckets[index] ≤ buckets[other - 1] := by
    by_cases heq : index = other - 1
    · subst heq
      exact UInt64.le_refl _
    · have hsmaller : index < other - 1 := by omega
      exact UInt64.le_of_lt (List.pairwise_iff_getElem.mp hincreasing _ _ hbound hbefore hsmaller)
  exact UInt64.lt_irrefl _ (UInt64.lt_of_le_of_lt (UInt64.le_trans hle hmono) hexceeds)

/-- Between increasing bounds there is one place for a value. -/
theorem falls_iff (hincreasing : buckets.Pairwise (· < ·)) (hindex : index ≤ buckets.length) :
    Falls buckets index value ↔ bucketIndex buckets value = index := by
  constructor
  · intro h
    have hfalls : Falls buckets (bucketIndex buckets value) value := falls_bucketIndex
    apply Nat.le_antisymm
    · exact Nat.le_of_not_lt (h.not_lt hincreasing hfalls bucketIndex_le_length)
    · exact Nat.le_of_not_lt (hfalls.not_lt hincreasing h hindex)
  · rintro rfl
    exact falls_bucketIndex

instance (buckets : List UInt64) (index : Nat) : DecidablePred (Falls buckets index) :=
  fun _ => inferInstanceAs (Decidable (_ ∧ _))

/-- How many of the values fall into a bucket. -/
def tally (buckets observed : List UInt64) (index : Nat) : Nat :=
  observed.countP fun value => decide (Falls buckets index value)

/-- With fewer than 2^64 values no counter has wrapped. -/
theorem toNat_tally (hlength : observed.length < 2 ^ 64) (index : Nat) :
    (UInt64.ofNat (tally buckets observed index)).toNat = tally buckets observed index :=
  UInt64.toNat_ofNat_of_lt (Nat.lt_of_le_of_lt List.countP_le_length hlength)

theorem tally_concat (hincreasing : buckets.Pairwise (· < ·)) (hindex : index ≤ buckets.length) :
    tally buckets (observed ++ [value]) index =
      tally buckets observed index + if bucketIndex buckets value = index then 1 else 0 := by
  rw [tally, List.countP_append, List.countP_singleton]
  congr 1
  simp only [decide_eq_true_iff, falls_iff hincreasing hindex]

/-- Every value falls into one of the buckets. -/
theorem sum_tally (hincreasing : buckets.Pairwise (· < ·)) (observed : List UInt64) :
    ∑ index ∈ Finset.range (buckets.length + 1), tally buckets observed index =
      observed.length := by
  induction observed using List.reverseRecOn with
  | nil => exact Finset.sum_eq_zero fun _ _ => rfl
  | append_singleton observed value ih =>
    have hstep (index : Nat) (hindex : index ∈ Finset.range (buckets.length + 1)) :
        tally buckets (observed ++ [value]) index =
          tally buckets observed index + if bucketIndex buckets value = index then 1 else 0 :=
      tally_concat hincreasing (Nat.le_of_lt_succ (Finset.mem_range.mp hindex))
    have hplace : bucketIndex buckets value ∈ Finset.range (buckets.length + 1) :=
      Finset.mem_range.mpr (Nat.lt_succ_of_le bucketIndex_le_length)
    rw [Finset.sum_congr rfl hstep, Finset.sum_add_distrib, ih, Finset.sum_ite_eq, if_pos hplace,
      List.length_append, List.length_singleton]

/-! ## 4. Sequences of calls -/

inductive Call where
  | observe (value : UInt64)
  | reset
  deriving DecidableEq, Repr

/-- A histogram with the values since its creation or its last reset. -/
structure Use where
  histogram : Histogram
  observed : List UInt64

def start (bounds : List UInt64) : Use := ⟨new bounds, []⟩

def Use.step (s : Use) : Call → Use
  | .observe value => ⟨s.histogram.observe value, s.observed ++ [value]⟩
  | .reset => ⟨s.histogram.reset, []⟩

/-- The sum of the values, without an overflow. -/
def total (observed : List UInt64) : Nat := (observed.map UInt64.toNat).sum

/-- The counters are what they should be, up to overflows. -/
structure Counted (bounds : List UInt64) (s : Use) : Prop where
  buckets_eq : s.histogram.buckets = sortBounds bounds
  counts_eq : s.histogram.counts = (List.range (s.histogram.buckets.length + 1)).map fun index =>
    UInt64.ofNat (tally s.histogram.buckets s.observed index)
  sum_eq : s.histogram.sum = UInt64.ofNat (total s.observed)
  count_eq : s.histogram.count = UInt64.ofNat s.observed.length

namespace Counted

variable {bounds : List UInt64} {s : Use}

theorem of_zero {h : Histogram} (hbuckets : h.buckets = sortBounds bounds)
    (hcounts : ∀ count ∈ h.counts, count = 0) (hsum : h.sum = 0) (hcount : h.count = 0) :
    Counted bounds ⟨h, []⟩ where
  buckets_eq := hbuckets
  counts_eq := by
    show h.counts = (List.range (h.buckets.length + 1)).map fun _ => 0
    rw [List.eq_replicate_of_mem hcounts, List.map_const', List.length_range, h.length_eq]
  sum_eq := hsum
  count_eq := hcount

theorem start (bounds : List UInt64) : Counted bounds (start bounds) :=
  of_zero rfl (fun _ hcount => List.eq_of_mem_replicate hcount) rfl rfl

theorem reset (h : Counted bounds s) : Counted bounds (s.step .reset) := by
  have hcounts : ∀ count ∈ s.histogram.reset.counts, count = 0 := by
    intro count hcount
    obtain ⟨_, -, rfl⟩ := List.mem_map.mp hcount
    rfl
  exact of_zero h.buckets_eq hcounts rfl rfl

theorem observe (h : Counted bounds s) (value : UInt64) :
    Counted bounds (s.step (.observe value)) where
  buckets_eq := h.buckets_eq
  counts_eq := by
    show s.histogram.counts.modify (bucketIndex s.histogram.buckets value) (· + 1) =
      (List.range (s.histogram.buckets.length + 1)).map fun index =>
        UInt64.ofNat (tally s.histogram.buckets (s.observed ++ [value]) index)
    apply List.ext_getElem?
    intro index
    rw [h.counts_eq, List.getElem?_modify, List.getElem?_map, List.getElem?_map]
    by_cases hindex : index < s.histogram.buckets.length + 1
    · rw [List.getElem?_range hindex, Option.map_some, Option.map_some,
        tally_concat s.histogram.increasing (Nat.le_of_lt_succ hindex)]
      split_ifs
      · rw [UInt64.ofNat_add]
        rfl
      · rfl
    · rw [List.getElem?_eq_none (by simpa using hindex)]
      rfl
  sum_eq := by
    show s.histogram.sum + value = UInt64.ofNat (total (s.observed ++ [value]))
    rw [total, List.map_append, List.sum_append, List.map_singleton, List.sum_singleton,
      UInt64.ofNat_add, UInt64.ofNat_toNat, h.sum_eq]
    rfl
  count_eq := by
    show s.histogram.count + 1 = UInt64.ofNat (s.observed ++ [value]).length
    rw [List.length_append, List.length_singleton, UInt64.ofNat_add, h.count_eq]
    rfl

theorem step (h : Counted bounds s) (call : Call) : Counted bounds (s.step call) := by
  cases call with
  | observe value => exact h.observe value
  | reset => exact h.reset

theorem bucketCount (h : Counted bounds s) {index : Nat}
    (hindex : index ≤ s.histogram.buckets.length) :
    s.histogram.bucketCount index =
      some (.ofNat (tally s.histogram.buckets s.observed index)) := by
  rw [Histogram.bucketCount, h.counts_eq, List.getElem?_map,
    List.getElem?_range (Nat.lt_succ_of_le hindex)]
  rfl

theorem sum_counts (h : Counted bounds s) (hlength : s.observed.length < 2 ^ 64) :
    (s.histogram.counts.map UInt64.toNat).sum = s.observed.length := by
  have hexact (index : Nat) :
      (UInt64.ofNat (tally s.histogram.buckets s.observed index)).toNat =
        tally s.histogram.buckets s.observed index := toNat_tally hlength index
  rw [h.counts_eq, List.map_map]
  have hmap := List.map_congr_left (l := List.range (s.histogram.buckets.length + 1))
    fun index _ => hexact index
  exact (congrArg List.sum hmap).trans (sum_tally s.histogram.increasing s.observed)

end Counted

/-- After any calls the bounds are strictly increasing and are the ones the histogram was made
with.  Up to overflows a bucket counts the values since the last reset that fall into it, and the
other two counters have their number and their sum; with fewer than 2^64 values, or a sum below
2^64, nothing has overflowed. -/
theorem partition_run (bounds : List UInt64) (calls : List Call) :
    let s := run Use.step (start bounds) calls
    let h := s.histogram
    (h.buckets.Pairwise (· < ·) ∧ ∀ bound, bound ∈ h.buckets ↔ bound ∈ bounds) ∧
      (∀ index ≤ h.buckets.length,
        h.bucketCount index = some (.ofNat (s.observed.countP fun v => Falls h.buckets index v))) ∧
      (s.observed.length < 2 ^ 64 →
        (∀ index count, h.bucketCount index = some count →
          count.toNat = s.observed.countP fun v => Falls h.buckets index v) ∧
        (h.counts.map UInt64.toNat).sum = h.count.toNat ∧ h.count.toNat = s.observed.length) ∧
      h.sum = .ofNat (s.observed.map UInt64.toNat).sum ∧
      ((s.observed.map UInt64.toNat).sum < 2 ^ 64 →
        h.sum.toNat = (s.observed.map UInt64.toNat).sum) := by
  intro s h
  have hcounted : Counted bounds s := run_inv (fun _ call h => h.step call) (.start bounds) calls
  refine ⟨⟨h.increasing, ?_⟩, fun _ => hcounted.bucketCount, ?_, hcounted.sum_eq, ?_⟩
  · intro bound
    rw [hcounted.buckets_eq]
    exact mem_sortBounds
  · intro hlength
    have hcount : h.count.toNat = s.observed.length := by
      rw [hcounted.count_eq]
      exact UInt64.toNat_ofNat_of_lt hlength
    refine ⟨?_, (hcounted.sum_counts hlength).trans hcount.symm, hcount⟩
    intro index count hfound
    obtain ⟨hindex, -⟩ := List.getElem?_eq_some_iff.mp hfound
    rw [h.length_eq] at hindex
    rw [hcounted.bucketCount (Nat.le_of_lt_succ hindex)] at hfound
    rw [← Option.some.inj hfound]
    exact toNat_tally hlength index
  · intro htotal
    rw [hcounted.sum_eq]
    exact UInt64.toNat_ofNat_of_lt htotal

end Histogram

end NetworkEngine
