import Mathlib.Data.List.Basic

/-!
# ReprC — the layout of `repr(C)` structs

A `repr(C)` struct places its fields in the order of their declaration, each at the next multiple of
its alignment, and is padded to a multiple of the largest alignment.  A struct is read out of memory
field by field; a read past the end of the memory is `none`.
-/

namespace ReprC

/-! ## 1. Types and structs -/

structure Ty where
  size : Nat
  align : Nat
  align_pos : 0 < align

def u8 : Ty := ⟨1, 1, by decide⟩

def u16 : Ty := ⟨2, 2, by decide⟩

def u32 : Ty := ⟨4, 4, by decide⟩

def u64 : Ty := ⟨8, 8, by decide⟩

/-- An array has the alignment of its elements. -/
def Ty.array (t : Ty) (n : Nat) : Ty := ⟨t.size * n, t.align, t.align_pos⟩

def alignUp (n a : Nat) : Nat := (n + a - 1) / a * a

theorem le_alignUp (n : Nat) {a : Nat} (ha : 0 < a) : n ≤ alignUp n a := by
  have hdiv := Nat.div_add_mod (n + a - 1) a
  have hmod := Nat.mod_lt (n + a - 1) ha
  rw [Nat.mul_comm] at hdiv
  unfold alignUp
  omega

/-- The fields of a struct in the order of their declaration. -/
structure Struct (F : Type) where
  order : List F
  ty : F → Ty

namespace Struct

variable {F : Type}

/-- Where the fields of the list end when they start at `pos`. -/
def endFrom (ty : F → Ty) : Nat → List F → Nat
  | pos, [] => pos
  | pos, g :: rest => endFrom ty (alignUp pos (ty g).align + (ty g).size) rest

def align (s : Struct F) : Nat := s.order.foldl (fun a f => max a (s.ty f).align) 1

def size (s : Struct F) : Nat := alignUp (endFrom s.ty 0 s.order) s.align

theorem le_endFrom (ty : F → Ty) (fields : List F) (pos : Nat) : pos ≤ endFrom ty pos fields := by
  induction fields generalizing pos with
  | nil => exact Nat.le_refl _
  | cons g rest ih =>
    have hstart := le_alignUp pos (ty g).align_pos
    have hrest := ih (alignUp pos (ty g).align + (ty g).size)
    simp only [endFrom]
    omega

theorem align_pos (s : Struct F) : 0 < s.align := by
  have hfold (fields : List F) (a : Nat) (ha : 0 < a) :
      0 < fields.foldl (fun a f => max a (s.ty f).align) a := by
    induction fields generalizing a with
    | nil => exact ha
    | cons g rest ih =>
      apply ih
      exact Nat.lt_of_lt_of_le ha (Nat.le_max_left _ _)
  exact hfold s.order 1 Nat.one_pos

/-- A struct as the type of a field. -/
def toTy (s : Struct F) : Ty := ⟨s.size, s.align, s.align_pos⟩

variable [DecidableEq F]

/-- Where `f` stands when the fields of the list start at `pos`. -/
def offsetFrom (ty : F → Ty) (f : F) : Nat → List F → Nat
  | pos, [] => pos
  | pos, g :: rest =>
    let start := alignUp pos (ty g).align
    if f = g then start else offsetFrom ty f (start + (ty g).size) rest

def offset (s : Struct F) (f : F) : Nat := offsetFrom s.ty f 0 s.order

theorem offsetFrom_add_size_le (ty : F → Ty) {f : F} (fields : List F) (pos : Nat)
    (h : f ∈ fields) : offsetFrom ty f pos fields + (ty f).size ≤ endFrom ty pos fields := by
  induction fields generalizing pos with
  | nil => exact absurd h List.not_mem_nil
  | cons g rest ih =>
    simp only [offsetFrom, endFrom]
    by_cases heq : f = g
    · rw [if_pos heq, heq]
      exact le_endFrom ty rest _
    · rw [if_neg heq]
      exact ih _ ((List.mem_cons.mp h).resolve_left heq)

/-- Every field lies inside the struct. -/
theorem offset_add_size_le (s : Struct F) {f : F} (h : f ∈ s.order) :
    s.offset f + (s.ty f).size ≤ s.size := by
  have hend := offsetFrom_add_size_le s.ty s.order 0 h
  have hsize := le_alignUp (endFrom s.ty 0 s.order) s.align_pos
  exact Nat.le_trans hend hsize

end Struct

/-! ## 2. Reading memory -/

section Memory

variable {memory memory' : List UInt8} {base base' pos len size : Nat}

/-- The `len` bytes from `pos` on, when the memory has them. -/
def readBytes (memory : List UInt8) (pos len : Nat) : Option (List UInt8) :=
  if pos + len ≤ memory.length then some ((memory.drop pos).take len) else none

/-- A field of the struct that stands at `base`. -/
def Struct.read {F : Type} [DecidableEq F] (s : Struct F) (memory : List UInt8) (base : Nat)
    (f : F) : Option (List UInt8) :=
  readBytes memory (base + s.offset f) (s.ty f).size

theorem readBytes_eq_some (h : pos + len ≤ memory.length) :
    readBytes memory pos len = some ((memory.drop pos).take len) := if_pos h

theorem readBytes_eq_none (h : memory.length < pos + len) : readBytes memory pos len = none :=
  if_neg (Nat.not_le.mpr h)

/-- A field of a struct that lies in the memory as a whole. -/
theorem Struct.read_eq_some {F : Type} [DecidableEq F] {s : Struct F} {f : F}
    (h : base + s.size ≤ memory.length) (hf : f ∈ s.order) :
    s.read memory base f =
      some ((memory.drop (base + s.offset f)).take (s.ty f).size) := by
  have hin := s.offset_add_size_le hf
  exact readBytes_eq_some (by omega)

theorem readBytes_append_left {front rest : List UInt8} (h : pos + len ≤ front.length) :
    readBytes (front ++ rest) pos len = readBytes front pos len := by
  have hall : pos + len ≤ (front ++ rest).length := by
    rw [List.length_append]
    omega
  rw [readBytes_eq_some h, readBytes_eq_some hall, List.drop_append_of_le_length (by omega),
    List.take_append_of_le_length]
  rw [List.length_drop]
  omega

theorem readBytes_append_right {front rest : List UInt8} :
    readBytes (front ++ rest) (front.length + pos) len = readBytes rest pos len := by
  have hiff : front.length + pos + len ≤ (front ++ rest).length ↔ pos + len ≤ rest.length := by
    rw [List.length_append]
    omega
  simp only [readBytes, hiff, List.drop_length_add_append]

/-- The same bytes stand at `base` in the one memory and at `base'` in the other. -/
def SameBytes (size : Nat) (memory : List UInt8) (base : Nat) (memory' : List UInt8)
    (base' : Nat) : Prop :=
  ∀ pos len, pos + len ≤ size →
    readBytes memory (base + pos) len = readBytes memory' (base' + pos) len

theorem SameBytes.mono {size' : Nat} (h : SameBytes size memory base memory' base') {start : Nat}
    (hle : start + size' ≤ size) :
    SameBytes size' memory (base + start) memory' (base' + start) := by
  intro pos len hin
  rw [Nat.add_assoc, Nat.add_assoc]
  apply h
  omega

theorem Struct.read_congr {F : Type} [DecidableEq F] {s : Struct F} {f : F}
    (h : SameBytes s.size memory base memory' base') (hf : f ∈ s.order) :
    s.read memory base f = s.read memory' base' f :=
  h _ _ (s.offset_add_size_le hf)

/-- A block of a memory that is a header and then blocks of one size. -/
theorem sameBytes_block {header : List UInt8} {blocks : List (List UInt8)}
    (hsize : ∀ block ∈ blocks, block.length = size) {i : Nat} (hi : i < blocks.length) :
    SameBytes size (header ++ blocks.flatten) (header.length + size * i) blocks[i] 0 := by
  intro pos len hin
  rw [Nat.add_assoc, readBytes_append_right, Nat.zero_add]
  induction blocks generalizing i with
  | nil => exact absurd hi (Nat.not_lt_zero i)
  | cons block rest ih =>
    have hblock := hsize block List.mem_cons_self
    rw [List.flatten_cons]
    match i, hi with
    | 0, _ =>
      rw [Nat.mul_zero, Nat.zero_add]
      exact readBytes_append_left (by omega)
    | i + 1, hi =>
      have hstart : size * (i + 1) + pos = block.length + (size * i + pos) := by
        rw [hblock, Nat.mul_succ]
        omega
      rw [hstart, readBytes_append_right]
      exact ih (fun b hb => hsize b (List.mem_cons_of_mem _ hb)) (Nat.lt_of_succ_lt_succ hi)

end Memory

/-! ## 3. Arrays of structs -/

section Rows

variable {α : Type} {stride : Nat} {view : Nat → Option α}

/-- The `count` rows that stand `stride` bytes apart from `base` on. -/
def rowsFrom (view : Nat → Option α) (stride : Nat) : Nat → Nat → Option (List α)
  | 0, _ => some []
  | count + 1, base => do
    let row ← view base
    let rest ← rowsFrom view stride count (base + stride)
    return row :: rest

theorem rowsFrom_eq_some_iff {count base : Nat} {rows : List α} :
    rowsFrom view stride count base = some rows ↔
      rows.length = count ∧
        ∀ i, ∀ hi : i < rows.length, view (base + stride * i) = some rows[i] := by
  induction count generalizing base rows with
  | zero =>
    rw [rowsFrom, Option.some.injEq, List.length_eq_zero_iff]
    constructor
    · intro h
      subst h
      exact ⟨rfl, fun i hi => absurd hi (Nat.not_lt_zero i)⟩
    · intro h
      exact h.1.symm
  | succ count ih =>
    simp only [rowsFrom, Option.bind_eq_bind, Option.bind_eq_some_iff, Option.pure_def,
      Option.some.injEq]
    constructor
    · intro h
      obtain ⟨row, hrow, rest, hrest, rfl⟩ := h
      have htail := ih.mp hrest
      refine ⟨congrArg (· + 1) htail.1, fun i hi => ?_⟩
      cases i with
      | zero => exact hrow
      | succ i =>
        have hi' : i < rest.length := Nat.lt_of_succ_lt_succ hi
        rw [Nat.mul_succ, Nat.add_comm _ stride, ← Nat.add_assoc]
        exact htail.2 i hi'
    · intro h
      obtain ⟨hlen, hview⟩ := h
      cases rows with
      | nil => exact absurd hlen (Nat.succ_ne_zero count).symm
      | cons row rest =>
        refine ⟨row, hview 0 (Nat.succ_pos _), rest, ih.mpr ⟨Nat.succ.inj hlen, ?_⟩, rfl⟩
        intro i hi
        have hrow := hview (i + 1) (Nat.succ_lt_succ hi)
        rw [Nat.mul_succ, Nat.add_comm _ stride, ← Nat.add_assoc] at hrow
        exact hrow

end Rows

end ReprC
