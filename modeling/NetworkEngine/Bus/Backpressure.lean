import NetworkEngine.Lib.Checked

/-!
# Backpressure — what a queue does with new input

`packet_bus::backpressure`: the occupancy of a queue as a percentage of its capacity, held against
two watermarks.  The product of occupancy and 100 saturates, so that the percentage of a very large
queue comes out too small.
-/

namespace NetworkEngine

open Rust

/-! ## 1. Configurations and decisions -/

inductive BackpressureLevel where
  | normal
  | elevated
  | critical
  deriving DecidableEq, Repr

inductive BackpressureAction where
  | accept
  | throttle
  | reject
  deriving DecidableEq, Repr

structure BackpressureConfig where
  elevatedWatermarkPercent : UInt8
  criticalWatermarkPercent : UInt8
  deriving DecidableEq, Repr

namespace BackpressureConfig

def default : BackpressureConfig := ⟨75, 95⟩

def validate (c : BackpressureConfig) : Bool :=
  0 < c.elevatedWatermarkPercent && c.elevatedWatermarkPercent < 100 &&
    0 < c.criticalWatermarkPercent && c.criticalWatermarkPercent ≤ 100 &&
    c.elevatedWatermarkPercent < c.criticalWatermarkPercent

end BackpressureConfig

structure BackpressureDecision where
  level : BackpressureLevel
  action : BackpressureAction
  occupancy : Nat
  capacity : Nat
  deriving DecidableEq, Repr

namespace BackpressureDecision

def acceptsInput (d : BackpressureDecision) : Bool := d.action = .accept ∨ d.action = .throttle

def rejectsInput (d : BackpressureDecision) : Bool := d.action = .reject

end BackpressureDecision

/-- The configuration of a controller has passed its check. -/
structure BackpressureController where
  config : BackpressureConfig
  valid : config.validate = true

namespace BackpressureController

/-! ## 2. The controller -/

/-- A configuration that is not valid is replaced by the default. -/
def new (config : BackpressureConfig) : BackpressureController :=
  if h : config.validate = true then ⟨config, h⟩ else ⟨.default, by decide⟩

/-- `occupancy.saturating_mul(100).checked_div(capacity).unwrap_or(100)`. -/
def percent (occupancy capacity : Nat) : Nat :=
  if capacity = 0 then 100 else saturatingMul occupancy 100 / capacity

def evaluate (c : BackpressureController) (occupancy capacity : Nat) : BackpressureDecision :=
  if capacity = 0 then ⟨.critical, .reject, occupancy, capacity⟩
  else
    let occupancy := min occupancy capacity
    let percent := percent occupancy capacity
    if c.config.criticalWatermarkPercent.toNat ≤ percent then
      ⟨.critical, .reject, occupancy, capacity⟩
    else if c.config.elevatedWatermarkPercent.toNat ≤ percent then
      ⟨.elevated, .throttle, occupancy, capacity⟩
    else ⟨.normal, .accept, occupancy, capacity⟩

def shouldAccept (c : BackpressureController) (occupancy capacity : Nat) : Bool :=
  (c.evaluate occupancy capacity).acceptsInput

/-! ## 3. The two percentages -/

/-- The percentage in unbounded integers. -/
def exactPercent (occupancy capacity : Nat) : Nat := 100 * min occupancy capacity / capacity

variable {c : BackpressureController} {occupancy capacity watermark : Nat}

theorem le_exactPercent (hpos : 0 < capacity) :
    watermark ≤ exactPercent occupancy capacity ↔
      watermark * capacity ≤ 100 * min occupancy capacity :=
  Nat.le_div_iff_mul_le hpos

/-- The saturated percentage reaches what the exact one reaches, as long as the watermark's share of
the capacity is below the point of saturation. -/
theorem le_percent (hpos : 0 < capacity) :
    watermark ≤ percent (min occupancy capacity) capacity ↔
      watermark ≤ exactPercent occupancy capacity ∧ watermark * capacity < usizeSize := by
  rw [le_exactPercent hpos, percent, if_neg (Nat.ne_of_gt hpos), Nat.le_div_iff_mul_le hpos,
    saturatingMul, usizeSize]
  omega

theorem percent_mono {larger : Nat} (hle : occupancy ≤ larger) :
    percent (min occupancy capacity) capacity ≤ percent (min larger capacity) capacity := by
  unfold percent
  split
  · exact Nat.le_refl _
  · apply Nat.div_le_div_right
    unfold saturatingMul
    omega

/-! ## 4. The decision by the exact percentage -/

/-- The order of the actions. -/
def severity : BackpressureAction → Nat
  | .accept => 0
  | .throttle => 1
  | .reject => 2

theorem config_lt (c : BackpressureController) :
    0 < c.config.elevatedWatermarkPercent.toNat ∧
      c.config.elevatedWatermarkPercent.toNat < c.config.criticalWatermarkPercent.toNat ∧
      c.config.criticalWatermarkPercent.toNat ≤ 100 := by
  have hvalid := c.valid
  simp only [BackpressureConfig.validate, Bool.and_eq_true, decide_eq_true_eq] at hvalid
  obtain ⟨⟨⟨⟨hpos, -⟩, -⟩, hle⟩, hlt⟩ := hvalid
  exact ⟨hpos, hlt, hle⟩

theorem action_evaluate (hpos : 0 < capacity) :
    (c.evaluate occupancy capacity).action =
      if c.config.criticalWatermarkPercent.toNat ≤ percent (min occupancy capacity) capacity then
        .reject
      else if
        c.config.elevatedWatermarkPercent.toNat ≤ percent (min occupancy capacity) capacity then
        .throttle
      else .accept := by
  rw [evaluate, if_neg (Nat.ne_of_gt hpos)]
  dsimp only
  split_ifs <;> rfl

/-- The severity never decreases when the occupancy grows, saturated or not. -/
theorem severity_mono (hpos : 0 < capacity) {larger : Nat} (hle : occupancy ≤ larger) :
    severity (c.evaluate occupancy capacity).action ≤
      severity (c.evaluate larger capacity).action := by
  have hpercent : percent (min occupancy capacity) capacity ≤
      percent (min larger capacity) capacity := percent_mono hle
  have hlt := c.config_lt.2.1
  rw [action_evaluate hpos, action_evaluate hpos]
  split_ifs <;> simp only [severity] <;> omega

/-- What a decision is meant to be: the watermarks that the exact percentage reaches decide, a full
queue is rejected, and the severity grows with the occupancy. -/
structure Exact (c : BackpressureController) (occupancy capacity : Nat) : Prop where
  reject : (c.evaluate occupancy capacity).action = .reject ↔
    c.config.criticalWatermarkPercent.toNat ≤ exactPercent occupancy capacity
  throttle : (c.evaluate occupancy capacity).action = .throttle ↔
    c.config.elevatedWatermarkPercent.toNat ≤ exactPercent occupancy capacity ∧
      exactPercent occupancy capacity < c.config.criticalWatermarkPercent.toNat
  accept : (c.evaluate occupancy capacity).action = .accept ↔
    exactPercent occupancy capacity < c.config.elevatedWatermarkPercent.toNat
  full : capacity ≤ occupancy → (c.evaluate occupancy capacity).action = .reject
  mono : ∀ larger, occupancy ≤ larger →
    severity (c.evaluate occupancy capacity).action ≤ severity (c.evaluate larger capacity).action

/-- A decision by the exact percentage is exact. -/
theorem exact_of_action (hpos : 0 < capacity)
    (haction : (c.evaluate occupancy capacity).action =
      if c.config.criticalWatermarkPercent.toNat ≤ exactPercent occupancy capacity then .reject
      else if c.config.elevatedWatermarkPercent.toNat ≤ exactPercent occupancy capacity then
        .throttle
      else .accept) : c.Exact occupancy capacity where
  reject := by
    rw [haction]
    split_ifs with hreject hthrottle
    · exact iff_of_true rfl hreject
    · exact iff_of_false nofun hreject
    · exact iff_of_false nofun hreject
  throttle := by
    rw [haction]
    split_ifs with hreject hthrottle
    · exact iff_of_false nofun fun h => absurd hreject (Nat.not_le.mpr h.2)
    · exact iff_of_true rfl ⟨hthrottle, Nat.lt_of_not_le hreject⟩
    · exact iff_of_false nofun fun h => hthrottle h.1
  accept := by
    have hlt := c.config_lt.2.1
    rw [haction]
    split_ifs with hreject hthrottle
    · exact iff_of_false nofun (by omega)
    · exact iff_of_false nofun (by omega)
    · exact iff_of_true rfl (Nat.lt_of_not_le hthrottle)
  full hfull := by
    have hexact : exactPercent occupancy capacity = 100 := by
      rw [exactPercent, Nat.min_eq_right hfull, Nat.mul_div_cancel _ hpos]
    rw [haction, hexact, if_pos c.config_lt.2.2]
  mono _ hle := severity_mono hpos hle

/-- The share of the capacity that belongs to a watermark does not overflow, if the occupancy has
that share. -/
def Fits (watermark : UInt8) (occupancy capacity : Nat) : Prop :=
  watermark.toNat * capacity ≤ 100 * min occupancy capacity →
    watermark.toNat * capacity < usizeSize

/-- The decision is the exact one unless a watermark that is reached lies beyond the point of
saturation. -/
theorem evaluate_exact_iff (c : BackpressureController) (occupancy capacity : Nat)
    (hpos : 0 < capacity) :
    c.Exact occupancy capacity ↔
      Fits c.config.elevatedWatermarkPercent occupancy capacity ∧
        Fits c.config.criticalWatermarkPercent occupancy capacity := by
  have haction : (c.evaluate occupancy capacity).action = _ := action_evaluate hpos
  simp only [le_percent hpos] at haction
  unfold Fits
  rw [← le_exactPercent hpos, ← le_exactPercent hpos]
  constructor
  · intro h
    have hcritical : c.config.criticalWatermarkPercent.toNat ≤ exactPercent occupancy capacity →
        c.config.criticalWatermarkPercent.toNat * capacity < usizeSize := by
      intro hreached
      rw [h.reject.mpr hreached] at haction
      split_ifs at haction with hreject
      exact hreject.2
    refine ⟨fun hreached => ?_, hcritical⟩
    by_cases hboth : c.config.criticalWatermarkPercent.toNat ≤ exactPercent occupancy capacity
    · -- The smaller watermark has the smaller share.
      have hshare := Nat.mul_le_mul_right capacity (Nat.le_of_lt c.config_lt.2.1)
      exact Nat.lt_of_le_of_lt hshare (hcritical hboth)
    · rw [h.throttle.mpr ⟨hreached, Nat.lt_of_not_le hboth⟩] at haction
      split_ifs at haction with hreject hthrottle
      exact hthrottle.2
  · rintro ⟨helevated, hcritical⟩
    simp only [and_iff_left_of_imp helevated, and_iff_left_of_imp hcritical] at haction
    exact exact_of_action hpos haction

/-- A queue of a thousand with 950 of them occupied. -/
theorem evaluate_exact_iff_thousand : (new .default).Exact 950 1000 :=
  (evaluate_exact_iff (new .default) 950 1000 (by decide)).mpr
    ⟨fun _ => by decide, fun _ => by decide⟩

/-- A queue of the greatest capacity is full, and accepts. -/
theorem full_queue_accepts :
    ((new .default).evaluate (2 ^ 64 - 1) (2 ^ 64 - 1)).action = .accept ∧
      ¬ (new .default).Exact (2 ^ 64 - 1) (2 ^ 64 - 1) := by
  have haccept : ((new .default).evaluate (2 ^ 64 - 1) (2 ^ 64 - 1)).action = .accept := by
    decide
  refine ⟨haccept, fun h => ?_⟩
  have hreject := h.full (Nat.le_refl _)
  rw [haccept] at hreject
  cases hreject

end BackpressureController

end NetworkEngine
