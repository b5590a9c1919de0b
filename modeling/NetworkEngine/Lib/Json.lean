import Mathlib.Data.List.Basic
import Mathlib.Data.Nat.Basic

/-!
# Json — texts and the values they stand for

A reader of the grammar of RFC 8259, and a writer that puts every string between quotes as it is.
What that writer writes is read back exactly when no string of the value needs an escape: a quote,
a backslash and a control character each spoil the text or change what is read.
-/

/-- Numbers are `mantissa * 10 ^ exponent`; the members of an object stay in their order. -/
inductive Json where
  | null
  | bool (b : Bool)
  | number (mantissa exponent : Int)
  | string (chars : List Char)
  | array (items : List Json)
  | object (members : List (List Char × Json))

namespace Json

/-! ## 1. Reading -/

def isSpace (c : Char) : Bool := c = ' ' ∨ c = '\t' ∨ c = '\n' ∨ c = '\r'

def skipSpace (text : List Char) : List Char := text.dropWhile isSpace

/-! ### Strings -/

def hexDigit (c : Char) : Option Nat :=
  if '0' ≤ c ∧ c ≤ '9' then some (c.toNat - 48)
  else if 'a' ≤ c ∧ c ≤ 'f' then some (c.toNat - 87)
  else if 'A' ≤ c ∧ c ≤ 'F' then some (c.toNat - 55)
  else none

def hexUnit (a b c d : Char) : Option Nat := do
  return (((← hexDigit a) * 16 + (← hexDigit b)) * 16 + (← hexDigit c)) * 16 + (← hexDigit d)

/-- The escapes of one character. -/
def escape : Char → Option Nat
  | '"' => some 34
  | '\\' => some 92
  | '/' => some 47
  | 'b' => some 8
  | 'f' => some 12
  | 'n' => some 10
  | 'r' => some 13
  | 't' => some 9
  | _ => none

/-- The characters up to the closing quote, as code points and as the surrogates that escapes may
stand for. -/
def units : List Char → Option (List Nat × List Char)
  | [] => none
  | '"' :: rest => some ([], rest)
  | '\\' :: 'u' :: a :: b :: c :: d :: rest => do
    let unit ← hexUnit a b c d
    let (us, rest) ← units rest
    return (unit :: us, rest)
  | '\\' :: e :: rest => do
    let unit ← escape e
    let (us, rest) ← units rest
    return (unit :: us, rest)
  | c :: rest =>
    -- A control character stands in a string as an escape only.
    if c.toNat < 32 then none
    else do
      let (us, rest) ← units rest
      return (c.toNat :: us, rest)

def isHigh (unit : Nat) : Bool := 0xD800 ≤ unit ∧ unit < 0xDC00

def isLow (unit : Nat) : Bool := 0xDC00 ≤ unit ∧ unit < 0xE000

/-- Surrogates in pairs are one character; a single one is none. -/
def characters : List Nat → Option (List Char)
  | [] => some []
  | unit :: rest =>
    if isHigh unit then
      match rest with
      | [] => none
      | low :: rest =>
        if isLow low then
          (Char.ofNat (0x10000 + (unit - 0xD800) * 0x400 + (low - 0xDC00)) :: ·) <$> characters rest
        else none
    else if isLow unit then none
    else (Char.ofNat unit :: ·) <$> characters rest

def readString (text : List Char) : Option (List Char × List Char) := do
  let (us, rest) ← units text
  let cs ← characters us
  return (cs, rest)

/-! ### Numbers -/

/-- One digit or more. -/
def run (text : List Char) : Option (List Char × List Char) :=
  let ds := text.takeWhile Char.isDigit
  if ds = [] then none else some (ds, text.dropWhile Char.isDigit)

def sign : List Char → Bool × List Char
  | '-' :: rest => (true, rest)
  | text => (false, text)

def signed (negative : Bool) (ds : List Char) : Int :=
  if negative then -(Nat.ofDigitChars 10 ds 0 : Int) else Nat.ofDigitChars 10 ds 0

/-- No zero leads other digits. -/
def whole (text : List Char) : Option (List Char × List Char) := do
  let (ds, rest) ← run text
  if ds.head? = some '0' ∧ 1 < ds.length then none else return (ds, rest)

def fraction : List Char → Option (List Char × List Char)
  | '.' :: rest => run rest
  | text => some ([], text)

def exponentSign : List Char → Bool × List Char
  | '+' :: rest => (false, rest)
  | text => sign text

def exponent : List Char → Option (Int × List Char)
  | [] => some (0, [])
  | c :: rest =>
    if c = 'e' ∨ c = 'E' then do
      let (ds, after) ← run (exponentSign rest).2
      return (signed (exponentSign rest).1 ds, after)
    else some (0, c :: rest)

def readNumber (text : List Char) : Option (Json × List Char) := do
  let (ds, rest) ← whole (sign text).2
  let (fs, rest) ← fraction rest
  let (e, rest) ← exponent rest
  return (number (signed (sign text).1 (ds ++ fs)) (e - fs.length), rest)

/-! ### Values -/

/-- What `item` reads, one or more times with commas between, and the closing character. -/
def separated {α : Type} (close : Char) (item : List Char → Option (α × List Char)) :
    Nat → List Char → Option (List α × List Char)
  | 0, _ => none
  | fuel + 1, text => do
    let (a, rest) ← item text
    match skipSpace rest with
    | [] => none
    | c :: rest =>
      if c = close then return ([a], rest)
      else if c = ',' then do
        let (as, rest) ← separated close item fuel rest
        return (a :: as, rest)
      else none

def member (read : List Char → Option (Json × List Char)) (text : List Char) :
    Option ((List Char × Json) × List Char) :=
  match skipSpace text with
  | [] => none
  | quote :: rest =>
    if quote = '"' then do
      let (key, rest) ← readString rest
      match skipSpace rest with
      | [] => none
      | colon :: rest =>
        if colon = ':' then (read rest).map fun p => ((key, p.1), p.2) else none
    else none

/-- The rest of a word after its first letter. -/
def word (letters : List Char) (v : Json) (text : List Char) : Option (Json × List Char) :=
  if letters.isPrefixOf text then some (v, text.drop letters.length) else none

/-- A value at the front of a text, and what follows it. -/
def value : Nat → List Char → Option (Json × List Char)
  | 0, _ => none
  | fuel + 1, text =>
    match skipSpace text with
    | [] => none
    | c :: rest =>
      if c = '"' then (readString rest).map fun p => (string p.1, p.2)
      else if c = '[' then
        if (skipSpace rest).head? = some ']' then some (array [], (skipSpace rest).tail)
        else (separated ']' (value fuel) fuel rest).map fun p => (array p.1, p.2)
      else if c = '{' then
        if (skipSpace rest).head? = some '}' then some (object [], (skipSpace rest).tail)
        else (separated '}' (member (value fuel)) fuel rest).map fun p => (object p.1, p.2)
      else if c = 'n' then word ['u', 'l', 'l'] null rest
      else if c = 't' then word ['r', 'u', 'e'] (bool true) rest
      else if c = 'f' then word ['a', 'l', 's', 'e'] (bool false) rest
      else readNumber (c :: rest)

def decode (fuel : Nat) (text : List Char) : Option Json := do
  let (v, rest) ← value fuel text
  if skipSpace rest = [] then return v else none

/-- The text is valid and stands for `v`: what a reader with enough fuel finds. -/
def Decodes (text : List Char) (v : Json) : Prop :=
  ∃ enough, ∀ fuel, enough ≤ fuel → decode fuel text = some v

/-! ## 2. Writing without escapes -/

def decimal : Int → List Char
  | .ofNat n => Nat.toDigits 10 n
  | .negSucc n => '-' :: Nat.toDigits 10 (n + 1)

def quoted (chars : List Char) : List Char := '"' :: (chars ++ ['"'])

def verbatim : Json → List Char
  | null => ['n', 'u', 'l', 'l']
  | bool true => ['t', 'r', 'u', 'e']
  | bool false => ['f', 'a', 'l', 's', 'e']
  | number mantissa exponent =>
    decimal mantissa ++ if exponent = 0 then [] else 'e' :: decimal exponent
  | string chars => quoted chars
  | array items => '[' :: ([','].intercalate (items.map verbatim) ++ [']'])
  | object members =>
    '{' :: ([','].intercalate (members.map fun m => quoted m.1 ++ ':' :: verbatim m.2) ++ ['}'])
decreasing_by
  · rename_i h
    have hmem := List.sizeOf_lt_of_mem h
    simp only [array.sizeOf_spec]
    omega
  · rename_i h
    have hmem := List.sizeOf_lt_of_mem h
    obtain ⟨k, v⟩ := m
    simp only [object.sizeOf_spec, Prod.mk.sizeOf_spec] at *
    omega

/-- No character of the text needs an escape. -/
def Plain (chars : List Char) : Prop := ∀ c ∈ chars, c ≠ '"' ∧ c ≠ '\\' ∧ 32 ≤ c.toNat

instance (chars : List Char) : Decidable (Plain chars) :=
  decidable_of_iff (chars.all fun c => c ≠ '"' ∧ c ≠ '\\' ∧ 32 ≤ c.toNat)
    (List.all_eq_true.trans (forall₂_congr fun _ _ => decide_eq_true_iff))

/-- No string of the value needs an escape. -/
def AllPlain : Json → Prop
  | null | bool _ | number _ _ => True
  | string chars => Plain chars
  | array items => ∀ v ∈ items, AllPlain v
  | object members => ∀ m ∈ members, Plain m.1 ∧ AllPlain m.2
decreasing_by
  · rename_i h
    have hmem := List.sizeOf_lt_of_mem h
    simp only [array.sizeOf_spec]
    omega
  · rename_i h
    have hmem := List.sizeOf_lt_of_mem h
    obtain ⟨k, v⟩ := m
    simp only [object.sizeOf_spec, Prod.mk.sizeOf_spec] at *
    omega

/-! ## 3. Strings -/

variable {n : List Char} {us : List Nat} {cs tail rest : List Char}

theorem hexDigit_quote : hexDigit '"' = none := by decide

/-- Four digits of an escape, of which none is a quote. -/
theorem hexUnit_eq_some {a b c d : Char} {unit : Nat} (h : hexUnit a b c d = some unit) :
    a ≠ '"' ∧ b ≠ '"' ∧ c ≠ '"' ∧ d ≠ '"' := by
  have hne (e : Char) (v : Nat) (hv : hexDigit e = some v) : e ≠ '"' := by
    rintro rfl
    rw [hexDigit_quote] at hv
    cases hv
  simp only [hexUnit, Option.bind_eq_bind, Option.bind_eq_some_iff] at h
  obtain ⟨va, ha, vb, hb, vc, hc, vd, hd, -⟩ := h
  exact ⟨hne a va ha, hne b vb hb, hne c vc hc, hne d vd hd⟩

theorem units_plain (c : Char) (rest : List Char) (hquote : c ≠ '"') (hslash : c ≠ '\\') :
    units (c :: rest) = if c.toNat < 32 then none else do
      let (us, rest) ← units rest
      return (c.toNat :: us, rest) := by
  rw [units]
  · exact hquote
  · intros
    contradiction
  · intros
    contradiction

theorem units_escape (e : Char) (rest : List Char) (hu : e ≠ 'u') :
    units ('\\' :: e :: rest) = do
      let unit ← escape e
      let (us, rest) ← units rest
      return (unit :: us, rest) := by
  rw [units]
  intros
  contradiction

/-- The escape of a code unit, when there is one. -/
theorem of_units_u {text : List Char} (h : units ('\\' :: 'u' :: text) = some (us, rest)) :
    ∃ a b c d text' unit us', text = a :: b :: c :: d :: text' ∧ hexUnit a b c d = some unit ∧
      units text' = some (us', rest) ∧ us = unit :: us' := by
  rcases text with _ | ⟨a, _ | ⟨b, _ | ⟨c, _ | ⟨d, text'⟩⟩⟩⟩
  -- With fewer than four characters left, this is `'u'` as an escape, which there is none of.
  · simp [units, escape] at h
  · simp [units, escape] at h
  · simp [units, escape] at h
  · simp [units, escape] at h
  · simp only [units, Option.bind_eq_bind, Option.bind_eq_some_iff] at h
    obtain ⟨unit, hunit, ⟨us', rest'⟩, hus, hpair⟩ := h
    obtain ⟨rfl, rfl⟩ := Prod.mk.inj (Option.some.inj hpair)
    exact ⟨a, b, c, d, text', unit, us', rfl, hunit, hus, rfl⟩

/-- What is not the closing quote is in the string. -/
theorem of_append_quote {a : Char} {text : List Char} (h : n ++ '"' :: tail = a :: text)
    (ha : a ≠ '"') : ∃ n', n = a :: n' ∧ n' ++ '"' :: tail = text := by
  cases n with
  | nil => exact absurd (List.cons.inj h).1.symm ha
  | cons c n => exact ⟨n, by rw [(List.cons.inj h).1], (List.cons.inj h).2⟩

theorem units_verbatim (h : Plain n) :
    units (n ++ '"' :: tail) = some (n.map Char.toNat, tail) := by
  induction n with
  | nil => rfl
  | cons c n ih =>
    have hc := h c List.mem_cons_self
    have hn : Plain n := fun d hd => h d (List.mem_cons_of_mem _ hd)
    rw [List.cons_append, units_plain c _ hc.1 hc.2.1, if_neg (Nat.not_lt.mpr hc.2.2), ih hn]
    rfl

/-- How a text between quotes is read: as it is, or it comes out shorter, or with more quotes, when
a backslash at its end makes a character of the closing quote. -/
def Reading (n tail : List Char) (us : List Nat) (rest : List Char) : Prop :=
  (Plain n ∧ us = n.map Char.toNat ∧ rest = tail) ∨ us.length < n.length ∨
    n.count '"' < us.count 34

/-- An escape is longer than what it stands for. -/
theorem Reading.behind (h : Reading n tail us rest) (front : List Char) {unit : Nat}
    (hlength : 2 ≤ front.length) (hcount : front.count '"' ≤ [unit].count 34) :
    Reading (front ++ n) tail (unit :: us) rest := by
  rw [Reading, List.length_append, List.count_append, List.length_cons, ← List.singleton_append,
    List.count_append]
  rcases h with ⟨-, rfl, -⟩ | hshort | hmore
  · rw [List.length_map]
    omega
  · omega
  · omega

theorem Reading.unicode (h : Reading n tail us rest) {a b c d : Char} {unit : Nat}
    (hunit : hexUnit a b c d = some unit) :
    Reading ('\\' :: 'u' :: a :: b :: c :: d :: n) tail (unit :: us) rest := by
  obtain ⟨ha, hb, hc, hd⟩ := hexUnit_eq_some hunit
  have hnone : '"' ∉ ['\\', 'u', a, b, c, d] := by
    simp only [List.mem_cons, List.not_mem_nil, or_false, not_or]
    exact ⟨by decide, by decide, ha.symm, hb.symm, hc.symm, hd.symm⟩
  apply h.behind ['\\', 'u', a, b, c, d] (Nat.le_add_left _ _)
  rw [List.count_eq_zero_of_not_mem hnone]
  exact Nat.zero_le _

theorem Reading.escaped (h : Reading n tail us rest) {e : Char} {unit : Nat}
    (hunit : escape e = some unit) : Reading ('\\' :: e :: n) tail (unit :: us) rest := by
  apply h.behind ['\\', e] (Nat.le_refl _)
  by_cases hquote : e = '"'
  · -- The quote that is escaped is one unit as well.
    subst hquote
    obtain rfl := Option.some.inj hunit
    decide
  · have hnone : '"' ∉ ['\\', e] := by
      simp only [List.mem_cons, List.not_mem_nil, or_false, not_or]
      exact ⟨by decide, Ne.symm hquote⟩
    rw [List.count_eq_zero_of_not_mem hnone]
    exact Nat.zero_le _

theorem Reading.plain (h : Reading n tail us rest) {c : Char} (hquote : c ≠ '"')
    (hslash : c ≠ '\\') (hcontrol : 32 ≤ c.toNat) :
    Reading (c :: n) tail (c.toNat :: us) rest := by
  rcases h with ⟨hplain, heq, hrest⟩ | hshort | hmore
  · have hc : Plain (c :: n) := List.forall_mem_cons.mpr ⟨⟨hquote, hslash, hcontrol⟩, hplain⟩
    exact .inl ⟨hc, congrArg (c.toNat :: ·) heq, hrest⟩
  · exact .inr (.inl (Nat.succ_lt_succ hshort))
  · refine .inr (.inr ?_)
    rw [List.count_cons_of_ne hquote]
    exact Nat.lt_of_lt_of_le hmore List.count_le_count_cons

theorem units_quote (text : List Char) : units ('"' :: text) = some ([], text) := rfl

theorem reading_units (h : units (n ++ '"' :: tail) = some (us, rest)) :
    Reading n tail us rest := by
  induction hlength : n.length using Nat.strong_induction_on generalizing n us with
  | h length ih =>
    cases n with
    | nil =>
      rw [List.nil_append, units_quote] at h
      obtain ⟨rfl, rfl⟩ := Prod.mk.inj (Option.some.inj h)
      exact .inl ⟨List.forall_mem_nil _, rfl, rfl⟩
    | cons c n =>
      rw [List.cons_append] at h
      rw [List.length_cons] at hlength
      by_cases hquote : c = '"'
      · rw [hquote, units_quote] at h
        obtain ⟨rfl, rfl⟩ := Prod.mk.inj (Option.some.inj h)
        exact .inr (.inl (Nat.succ_pos _))
      by_cases hslash : c = '\\'
      · subst hslash
        cases n with
        | nil =>
          -- The backslash takes the closing quote with it.
          rw [List.nil_append, units_escape _ _ (by decide)] at h
          simp only [escape, Option.bind_eq_bind, Option.bind_some, Option.bind_eq_some_iff] at h
          obtain ⟨⟨us', rest'⟩, -, hpair⟩ := h
          obtain ⟨rfl, rfl⟩ := Prod.mk.inj (Option.some.inj hpair)
          refine .inr (.inr ?_)
          rw [List.count_cons_self]
          exact Nat.succ_pos _
        | cons e n =>
          rw [List.cons_append] at h
          rw [List.length_cons] at hlength
          by_cases hu : e = 'u'
          · subst hu
            obtain ⟨a, b, c, d, text, unit, us', htext, hunit, hus, rfl⟩ := of_units_u h
            obtain ⟨ha, hb, hc, hd⟩ := hexUnit_eq_some hunit
            obtain ⟨n₁, rfl, hn₁⟩ := of_append_quote htext ha
            obtain ⟨n₂, rfl, hn₂⟩ := of_append_quote hn₁ hb
            obtain ⟨n₃, rfl, hn₃⟩ := of_append_quote hn₂ hc
            obtain ⟨n₄, rfl, rfl⟩ := of_append_quote hn₃ hd
            simp only [List.length_cons] at hlength
            exact (ih n₄.length (by omega) hus rfl).unicode hunit
          · rw [units_escape e _ hu] at h
            simp only [Option.bind_eq_bind, Option.bind_eq_some_iff] at h
            obtain ⟨unit, hunit, ⟨us', rest'⟩, hus, hpair⟩ := h
            obtain ⟨rfl, rfl⟩ := Prod.mk.inj (Option.some.inj hpair)
            exact (ih n.length (by omega) hus rfl).escaped hunit
      · rw [units_plain c _ hquote hslash] at h
        split_ifs at h with hcontrol
        simp only [Option.bind_eq_bind, Option.bind_eq_some_iff] at h
        obtain ⟨⟨us', rest'⟩, hus, hpair⟩ := h
        obtain ⟨rfl, rfl⟩ := Prod.mk.inj (Option.some.inj hpair)
        exact (ih n.length (by omega) hus rfl).plain hquote hslash (Nat.le_of_not_lt hcontrol)

/-- No character is a surrogate. -/
theorem not_surrogate (c : Char) : isHigh c.toNat = false ∧ isLow c.toNat = false := by
  have hvalid : c.toNat < 0xD800 ∨ 0xDFFF < c.toNat ∧ c.toNat < 0x110000 := c.valid
  constructor
  · rw [isHigh, decide_eq_false_iff_not]
    omega
  · rw [isLow, decide_eq_false_iff_not]
    omega

theorem characters_map (n : List Char) : characters (n.map Char.toNat) = some n := by
  induction n with
  | nil => rfl
  | cons c n ih =>
    rw [List.map_cons, characters.eq_def]
    dsimp only
    rw [(not_surrogate c).1, (not_surrogate c).2, ih, Char.ofNat_toNat]
    rfl

/-- A character is of one unit or two, and a quote of one. -/
theorem of_characters (h : characters us = some cs) :
    cs.length ≤ us.length ∧ us.count 34 ≤ cs.count '"' := by
  fun_induction characters us generalizing cs with
  | case1 =>
    obtain rfl := Option.some.inj h
    exact ⟨Nat.le_refl _, Nat.le_refl _⟩
  | case2 unit hhigh => cases h
  | case3 unit hhigh low rest hlow ih =>
    obtain ⟨cs', hcs', rfl⟩ := Option.map_eq_some_iff.mp h
    have hih := ih hcs'
    have hunit : unit ≠ 34 := by
      rintro rfl
      cases hhigh
    have hlow34 : low ≠ 34 := by
      rintro rfl
      cases hlow
    rw [List.length_cons, List.length_cons, List.length_cons, List.count_cons_of_ne hunit,
      List.count_cons_of_ne hlow34]
    exact ⟨by omega, Nat.le_trans hih.2 List.count_le_count_cons⟩
  | case4 unit hhigh low rest hlow => cases h
  | case5 unit rest hhigh hlow => cases h
  | case6 unit rest hhigh hlow ih =>
    obtain ⟨cs', hcs', rfl⟩ := Option.map_eq_some_iff.mp h
    have hih := ih hcs'
    rw [List.length_cons, List.length_cons]
    refine ⟨Nat.succ_le_succ hih.1, ?_⟩
    by_cases hquote : unit = 34
    · subst hquote
      rw [List.count_cons_self, show Char.ofNat 34 = '"' from rfl, List.count_cons_self]
      exact Nat.succ_le_succ hih.2
    · rw [List.count_cons_of_ne hquote]
      exact Nat.le_trans hih.2 List.count_le_count_cons

theorem readString_verbatim (h : Plain n) : readString (n ++ '"' :: tail) = some (n, tail) := by
  rw [readString, units_verbatim h]
  show (characters (n.map Char.toNat)).bind _ = _
  rw [characters_map]
  rfl

/-- A text between quotes that is read as itself needs no escape. -/
theorem plain_of_readString (h : readString (n ++ '"' :: tail) = some (n, rest)) :
    Plain n ∧ rest = tail := by
  simp only [readString, Option.bind_eq_bind, Option.bind_eq_some_iff] at h
  obtain ⟨⟨us, rest'⟩, hus, cs, hcs, hpair⟩ := h
  obtain ⟨rfl, rfl⟩ := Prod.mk.inj (Option.some.inj hpair)
  have hcharacters : cs.length ≤ us.length ∧ us.count 34 ≤ cs.count '"' := of_characters hcs
  rcases reading_units hus with ⟨hplain, -, hrest⟩ | hshort | hmore
  · exact ⟨hplain, hrest⟩
  · omega
  · omega

/-! ## 4. Numbers -/

/-- What may follow a value: the end of the text, a comma or a closing bracket. -/
def Ends : List Char → Prop
  | [] => True
  | c :: _ => c = ',' ∨ c = ']' ∨ c = '}'

theorem run_append {ds : List Char} (hds : ds ≠ []) (hall : ∀ c ∈ ds, c.isDigit = true)
    (htail : ∀ c ∈ tail.head?, c.isDigit = false) : run (ds ++ tail) = some (ds, tail) := by
  have htake : (ds ++ tail).takeWhile Char.isDigit = ds := by
    rw [List.takeWhile_append_of_pos hall]
    cases tail with
    | nil => exact List.append_nil ds
    | cons c tail =>
      rw [List.takeWhile_cons_of_neg (by rw [htail c rfl]; exact Bool.false_ne_true)]
      exact List.append_nil ds
  have hdrop : (ds ++ tail).dropWhile Char.isDigit = tail := by
    rw [List.dropWhile_append_of_pos hall]
    cases tail with
    | nil => rfl
    | cons c tail =>
      exact List.dropWhile_cons_of_neg (by rw [htail c rfl]; exact Bool.false_ne_true)
  rw [run, htake, hdrop, if_neg hds]

theorem isDigit_of_mem {m : Nat} : ∀ c ∈ Nat.toDigits 10 m, c.isDigit = true :=
  fun _ hc => Nat.isDigit_of_mem_toDigits (by decide) (by decide) hc

/-- Only the numeral of zero begins with a zero. -/
theorem eq_zero_of_head {m : Nat} (h : (Nat.toDigits 10 m).head? = some '0') : m = 0 := by
  induction m using Nat.strong_induction_on with
  | h m ih =>
    by_cases hsmall : m < 10
    · rw [Nat.toDigits_of_lt_base hsmall] at h
      exact (by decide : ∀ m < 10, [m.digitChar].head? = some '0' → m = 0) m hsmall h
    · rw [Nat.toDigits_of_base_le (by decide) (Nat.le_of_not_lt hsmall),
        List.head?_append_of_ne_nil _ Nat.toDigits_ne_nil] at h
      have hzero := ih (m / 10) (Nat.div_lt_self (by omega) (by decide)) h
      omega

theorem whole_toDigits (m : Nat) (htail : ∀ c ∈ tail.head?, c.isDigit = false) :
    whole (Nat.toDigits 10 m ++ tail) = some (Nat.toDigits 10 m, tail) := by
  have hsingle : ¬ ((Nat.toDigits 10 m).head? = some '0' ∧ 1 < (Nat.toDigits 10 m).length) := by
    rintro ⟨hhead, hlong⟩
    rw [eq_zero_of_head hhead, Nat.toDigits_zero] at hlong
    exact absurd hlong (by decide)
  rw [whole, run_append Nat.toDigits_ne_nil isDigit_of_mem htail]
  exact if_neg hsingle

theorem toDigits_cons (m : Nat) : ∃ c ds, Nat.toDigits 10 m = c :: ds ∧ c.isDigit = true := by
  cases hds : Nat.toDigits 10 m with
  | nil => exact absurd hds Nat.toDigits_ne_nil
  | cons c ds => exact ⟨c, ds, rfl, isDigit_of_mem c (by rw [hds]; exact List.mem_cons_self)⟩

/-- An integer's numeral is its sign and the digits of its absolute value. -/
theorem sign_decimal (i : Int) (tail : List Char) :
    ∃ negative m, sign (decimal i ++ tail) = (negative, Nat.toDigits 10 m ++ tail) ∧
      exponentSign (decimal i ++ tail) = (negative, Nat.toDigits 10 m ++ tail) ∧
      signed negative (Nat.toDigits 10 m) = i := by
  cases i with
  | ofNat m =>
    refine ⟨false, m, ?_, ?_, ?_⟩
    · obtain ⟨c, ds, hds, hc⟩ := toDigits_cons m
      rw [decimal, hds, List.cons_append, sign]
      rintro rest heq
      obtain rfl := (List.cons.inj heq).1
      cases hc
    · obtain ⟨c, ds, hds, hc⟩ := toDigits_cons m
      rw [decimal, hds, List.cons_append, exponentSign, sign]
      · rintro rest heq
        obtain rfl := (List.cons.inj heq).1
        cases hc
      · rintro rest heq
        obtain rfl := (List.cons.inj heq).1
        cases hc
    · rw [signed, if_neg Bool.false_ne_true, Nat.ofDigitChars_ten_toDigits]
      rfl
  | negSucc m =>
    refine ⟨true, m + 1, rfl, rfl, ?_⟩
    rw [signed, if_pos rfl, Nat.ofDigitChars_ten_toDigits]
    rfl

theorem Ends.not_digit (h : Ends tail) : ∀ c ∈ tail.head?, c.isDigit = false := by
  intro c hc
  cases tail with
  | nil => cases hc
  | cons d tail =>
    obtain rfl := Option.some.inj hc
    rcases h with rfl | rfl | rfl <;> decide

theorem readNumber_verbatim (mantissa e : Int) (h : Ends tail) :
    readNumber (verbatim (number mantissa e) ++ tail) = some (number mantissa e, tail) := by
  rw [verbatim, List.append_assoc]
  obtain ⟨negative, m, hsign, -, hmantissa⟩ := sign_decimal mantissa
    ((if e = 0 then [] else 'e' :: decimal e) ++ tail)
  rw [readNumber, hsign]
  dsimp only
  by_cases he : e = 0
  · rw [if_pos he, List.nil_append, whole_toDigits m h.not_digit]
    have hfraction : fraction tail = some ([], tail) := by
      rw [fraction]
      rintro rest rfl
      rcases h with h | h | h <;> cases h
    have hexponent : exponent tail = some (0, tail) := by
      cases tail with
      | nil => rfl
      | cons c tail =>
        rw [exponent, if_neg]
        rcases h with rfl | rfl | rfl <;> decide
    simp only [Option.bind_eq_bind, Option.bind_some, hfraction, hexponent, List.append_nil,
      hmantissa, he]
    rfl
  · rw [if_neg he, List.cons_append]
    obtain ⟨negative', m', -, hsign', hvalue⟩ := sign_decimal e tail
    have hexponent : exponent ('e' :: (decimal e ++ tail)) = some (e, tail) := by
      rw [exponent, if_pos (.inl rfl), hsign', run_append Nat.toDigits_ne_nil isDigit_of_mem
        h.not_digit]
      show some (signed negative' (Nat.toDigits 10 m'), tail) = _
      rw [hvalue]
    rw [whole_toDigits m (by rintro c hc; obtain rfl := Option.some.inj hc; decide)]
    have hfraction :
        fraction ('e' :: (decimal e ++ tail)) = some ([], 'e' :: (decimal e ++ tail)) := by
      rw [fraction]
      exact fun rest heq => absurd (List.cons.inj heq).1 (by decide)
    simp only [Option.bind_eq_bind, Option.bind_some, hfraction, hexponent, List.append_nil,
      hmantissa]
    show some (number mantissa (e - 0), tail) = _
    rw [Int.sub_zero]

/-! ## 5. Items between commas -/

section Separated

variable {α : Type} {item : List Char → Option (α × List Char)} {print : α → List Char}
  {close : Char} {items : List α} {fuel : Nat}

/-- `item` reads what `print` makes of `a`, whatever comes after it. -/
def Reads (item : List Char → Option (α × List Char)) (print : α → List Char) (a : α) : Prop :=
  ∀ tail, Ends tail → item (print a ++ tail) = some (a, tail)

/-- Where `item` reads `a`, it reads nothing else, and `Good a` holds. -/
def Exact (item : List Char → Option (α × List Char)) (print : α → List Char) (Good : α → Prop)
    (a : α) : Prop :=
  ∀ tail rest, Ends tail → item (print a ++ tail) = some (a, rest) → Good a ∧ rest = tail

theorem skipSpace_cons {c : Char} {text : List Char} (h : isSpace c = false) :
    skipSpace (c :: text) = c :: text :=
  List.dropWhile_cons_of_neg (by rw [h]; exact Bool.false_ne_true)

theorem not_space_of_close (hclose : close = ']' ∨ close = '}') : isSpace close = false := by
  rcases hclose with rfl | rfl <;> decide

theorem separated_last (hclose : close = ']' ∨ close = '}') {a : α} {text rest : List Char}
    (h : item text = some (a, close :: rest)) :
    separated close item (fuel + 1) text = some ([a], rest) := by
  simp only [separated, h, Option.bind_eq_bind, Option.bind_some,
    skipSpace_cons (not_space_of_close hclose)]
  exact if_pos trivial

theorem separated_more (hclose : close = ']' ∨ close = '}') {a : α} {text rest : List Char}
    (h : item text = some (a, ',' :: rest)) :
    separated close item (fuel + 1) text =
      (separated close item fuel rest).map fun p => (a :: p.1, p.2) := by
  have hcomma : ',' ≠ close := by
    rcases hclose with rfl | rfl <;> decide
  simp only [separated, h, Option.bind_eq_bind, Option.bind_some,
    skipSpace_cons (show isSpace ',' = false by decide), if_neg hcomma, if_pos]
  cases separated close item fuel rest <;> rfl

/-- The first item is what `item` reads. -/
theorem of_separated {a : α} {text rest : List Char}
    (h : separated close item (fuel + 1) text = some (a :: items, rest)) :
    ∃ after, item text = some (a, after) := by
  simp only [separated, Option.bind_eq_bind, Option.bind_eq_some_iff] at h
  obtain ⟨⟨a', after⟩, hitem, h⟩ := h
  refine ⟨after, ?_⟩
  cases hafter : skipSpace after with
  | nil =>
    rw [hafter] at h
    cases h
  | cons c after' =>
    simp only [hafter] at h
    split_ifs at h
    · rw [hitem, (List.cons.inj (Prod.mk.inj (Option.some.inj h)).1).1]
    · obtain ⟨⟨as, rest'⟩, -, hpair⟩ := Option.bind_eq_some_iff.mp h
      rw [hitem, (List.cons.inj (Prod.mk.inj (Option.some.inj hpair)).1).1]

theorem intercalate_more (a b : α) (items : List α) (tail : List Char) :
    [','].intercalate ((a :: b :: items).map print) ++ tail =
      print a ++ ',' :: ([','].intercalate ((b :: items).map print) ++ tail) := by
  rw [List.map_cons, List.map_cons, List.intercalate_cons_cons, List.append_assoc,
    List.append_assoc]
  rfl

theorem separated_reads (hclose : close = ']' ∨ close = '}') (hne : items ≠ [])
    (hfuel : items.length ≤ fuel) (h : ∀ a ∈ items, Reads item print a) (tail : List Char) :
    separated close item fuel ([','].intercalate (items.map print) ++ close :: tail) =
      some (items, tail) := by
  induction items generalizing fuel with
  | nil => exact absurd rfl hne
  | cons a items ih =>
    obtain ⟨fuel, rfl⟩ := Nat.exists_eq_add_of_le' (Nat.le_trans (Nat.succ_pos _) hfuel)
    have ha := h a List.mem_cons_self
    cases items with
    | nil =>
      rw [List.map_singleton, List.intercalate_singleton]
      exact separated_last hclose (ha (close :: tail) (Or.inr hclose))
    | cons b items =>
      have hrest := ih (List.cons_ne_nil _ _) (Nat.le_of_succ_le_succ hfuel)
        fun c hc => h c (List.mem_cons_of_mem _ hc)
      rw [intercalate_more]
      show separated close item (fuel + 1) _ = _
      rw [separated_more hclose (ha (',' :: _) (Or.inl rfl)), hrest]
      rfl

theorem separated_exact {Good : α → Prop} (hclose : close = ']' ∨ close = '}') (hne : items ≠ [])
    (h : ∀ a ∈ items, Exact item print Good a) {tail rest : List Char}
    (hread : separated close item fuel ([','].intercalate (items.map print) ++ close :: tail) =
      some (items, rest)) : (∀ a ∈ items, Good a) ∧ rest = tail := by
  induction items generalizing fuel with
  | nil => exact absurd rfl hne
  | cons a items ih =>
    have ha := h a List.mem_cons_self
    cases fuel with
    | zero => cases hread
    | succ fuel =>
      cases items with
      | nil =>
        rw [List.map_singleton, List.intercalate_singleton] at hread
        obtain ⟨after, hitem⟩ := of_separated hread
        obtain ⟨hgood, rfl⟩ := ha (close :: tail) _ (Or.inr hclose) hitem
        rw [separated_last hclose hitem] at hread
        exact ⟨List.forall_mem_singleton.mpr hgood, (Prod.mk.inj (Option.some.inj hread)).2.symm⟩
      | cons b items =>
        rw [intercalate_more] at hread
        obtain ⟨after, hitem⟩ := of_separated hread
        obtain ⟨hgood, rfl⟩ := ha (',' :: _) _ (Or.inl rfl) hitem
        rw [separated_more hclose hitem] at hread
        obtain ⟨⟨as, rest'⟩, hrest, hpair⟩ := Option.map_eq_some_iff.mp hread
        obtain ⟨rfl, rfl⟩ : as = b :: items ∧ rest' = rest :=
          ⟨(List.cons.inj (Prod.mk.inj hpair).1).2, (Prod.mk.inj hpair).2⟩
        have hmore := ih (List.cons_ne_nil _ _) (fun c hc => h c (List.mem_cons_of_mem _ hc)) hrest
        exact ⟨List.forall_mem_cons.mpr ⟨hgood, hmore.1⟩, hmore.2⟩

end Separated

/-! ## 6. Values -/

variable {fuel : Nat}

theorem number_cons (mantissa e : Int) :
    ∃ c text, verbatim (number mantissa e) = c :: text ∧ (c = '-' ∨ c.isDigit = true) := by
  cases mantissa with
  | ofNat m =>
    obtain ⟨c, ds, hds, hc⟩ := toDigits_cons m
    exact ⟨c, _, by rw [verbatim, decimal, hds, List.cons_append], .inr hc⟩
  | negSucc m => exact ⟨'-', _, by rw [verbatim, decimal, List.cons_append], .inl rfl⟩

/-- No value begins with a space, or with the bracket that closes an array. -/
theorem verbatim_cons (v : Json) :
    ∃ c text, verbatim v = c :: text ∧ isSpace c = false ∧ c ≠ ']' := by
  cases v with
  | null => exact ⟨_, _, verbatim.eq_1, by decide, by decide⟩
  | bool b => cases b with
    | true => exact ⟨_, _, verbatim.eq_2, by decide, by decide⟩
    | false => exact ⟨_, _, verbatim.eq_3, by decide, by decide⟩
  | number mantissa e =>
    obtain ⟨c, text, htext, hc⟩ := number_cons mantissa e
    refine ⟨c, text, htext, ?_, ?_⟩
    · cases hspace : isSpace c with
      | false => rfl
      | true =>
        simp only [isSpace, decide_eq_true_eq] at hspace
        rcases hspace with rfl | rfl | rfl | rfl <;> rcases hc with hc | hc <;> cases hc
    · rintro rfl
      rcases hc with hc | hc <;> cases hc
  | string chars => exact ⟨_, _, by rw [verbatim, quoted], by decide, by decide⟩
  | array items => exact ⟨_, _, by rw [verbatim], by decide, by decide⟩
  | object members => exact ⟨_, _, by rw [verbatim], by decide, by decide⟩

theorem value_word {v : Json} (hword : v = null ∨ ∃ b, v = bool b) (tail : List Char) :
    value (fuel + 1) (verbatim v ++ tail) = some (v, tail) := by
  rcases hword with rfl | ⟨_ | _, rfl⟩
  · rw [verbatim, List.cons_append, value, skipSpace_cons (by decide)]
    simp [word]
  · rw [verbatim, List.cons_append, value, skipSpace_cons (by decide)]
    simp [word]
  · rw [verbatim, List.cons_append, value, skipSpace_cons (by decide)]
    simp [word]

theorem value_string (rest : List Char) :
    value (fuel + 1) ('"' :: rest) = (readString rest).map fun p => (string p.1, p.2) := by
  rw [value, skipSpace_cons (by decide)]
  exact if_pos rfl

theorem value_number (mantissa e : Int) (tail : List Char) :
    value (fuel + 1) (verbatim (number mantissa e) ++ tail) =
      readNumber (verbatim (number mantissa e) ++ tail) := by
  obtain ⟨c, text, htext, hspace, -⟩ := verbatim_cons (number mantissa e)
  obtain ⟨c', text', htext', hc⟩ := number_cons mantissa e
  obtain rfl : c = c' := (List.cons.inj (htext.symm.trans htext')).1
  have hne (d : Char) (hminus : d ≠ '-') (hd : d.isDigit = false) : c ≠ d := by
    rintro rfl
    rcases hc with hc | hc
    · exact hminus hc
    · rw [hc] at hd
      cases hd
  rw [htext, List.cons_append, value, skipSpace_cons hspace]
  dsimp only
  rw [if_neg (hne _ (by decide) (by decide)), if_neg (hne _ (by decide) (by decide)),
    if_neg (hne _ (by decide) (by decide)), if_neg (hne _ (by decide) (by decide)),
    if_neg (hne _ (by decide) (by decide)), if_neg (hne _ (by decide) (by decide))]

theorem value_array (v : Json) (rest : List Char) :
    value (fuel + 1) ('[' :: (verbatim v ++ rest)) =
      (separated ']' (value fuel) fuel (verbatim v ++ rest)).map fun p => (array p.1, p.2) := by
  obtain ⟨c, text, htext, hspace, hclose⟩ := verbatim_cons v
  rw [htext, List.cons_append, value, skipSpace_cons (by decide)]
  dsimp only
  rw [if_neg (by decide), if_pos rfl, skipSpace_cons hspace, if_neg]
  rw [List.head?_cons, Option.some.injEq]
  exact hclose

theorem value_object (rest : List Char) :
    value (fuel + 1) ('{' :: '"' :: rest) =
      (separated '}' (member (value fuel)) fuel ('"' :: rest)).map fun p => (object p.1, p.2) := by
  rw [value, skipSpace_cons (by decide)]
  dsimp only
  rw [if_neg (by decide), if_neg (by decide), if_pos rfl, skipSpace_cons (by decide),
    if_neg (by rw [List.head?_cons]; decide)]

/-- A member of an object. -/
def verbatimMember (m : List Char × Json) : List Char := quoted m.1 ++ ':' :: verbatim m.2

theorem verbatim_object (members : List (List Char × Json)) :
    verbatim (object members) =
      '{' :: ([','].intercalate (members.map verbatimMember) ++ ['}']) := by
  rw [verbatim]
  rfl

theorem quoted_append (chars tail : List Char) :
    quoted chars ++ tail = '"' :: (chars ++ '"' :: tail) := by
  rw [quoted, List.cons_append, List.append_assoc]
  rfl

theorem member_eq (read : List Char → Option (Json × List Char)) (m : List Char × Json)
    (tail : List Char) :
    member read (verbatimMember m ++ tail) =
      (readString (m.1 ++ '"' :: ':' :: (verbatim m.2 ++ tail))).bind fun p =>
        match skipSpace p.2 with
        | [] => none
        | colon :: rest =>
          if colon = ':' then (read rest).map fun q => ((p.1, q.1), q.2) else none := by
  rw [verbatimMember, List.append_assoc, quoted_append, member, skipSpace_cons (by decide)]
  exact if_pos rfl

theorem member_reads {read : List Char → Option (Json × List Char)} {m : List Char × Json}
    (hkey : Plain m.1) (hread : Reads read verbatim m.2) :
    Reads (member read) verbatimMember m := by
  intro tail htail
  rw [member_eq, readString_verbatim hkey, Option.bind_some, skipSpace_cons (by decide)]
  dsimp only
  rw [if_pos rfl, hread tail htail]
  rfl

theorem member_exact {read : List Char → Option (Json × List Char)} {m : List Char × Json}
    (hread : Exact read verbatim AllPlain m.2) :
    Exact (member read) verbatimMember (fun m => Plain m.1 ∧ AllPlain m.2) m := by
  intro tail rest htail h
  rw [member_eq] at h
  obtain ⟨⟨key, after⟩, hkey, h⟩ := Option.bind_eq_some_iff.mp h
  cases hafter : skipSpace after with
  | nil =>
    rw [hafter] at h
    cases h
  | cons colon after' =>
    simp only [hafter] at h
    split_ifs at h with hcolon
    obtain ⟨⟨v, rest'⟩, hv, hpair⟩ := Option.map_eq_some_iff.mp h
    obtain ⟨rfl, rfl⟩ : (key, v) = m ∧ rest' = rest := Prod.mk.inj hpair
    obtain ⟨hplain, rfl⟩ := plain_of_readString hkey
    rw [skipSpace_cons (by decide)] at hafter
    rw [← (List.cons.inj hafter).2] at hv
    obtain ⟨hall, hrest⟩ := hread tail rest' htail hv
    exact ⟨⟨hplain, hall⟩, hrest⟩

/-! ### Every value -/

theorem length_le_sizeOf {α : Type} [SizeOf α] (l : List α) : l.length ≤ sizeOf l := by
  induction l with
  | nil => exact Nat.zero_le _
  | cons a l ih =>
    rw [List.length_cons, List.cons.sizeOf_spec]
    omega

theorem value_quoted (chars tail : List Char) :
    value (fuel + 1) (verbatim (string chars) ++ tail) =
      (readString (chars ++ '"' :: tail)).map fun p => (string p.1, p.2) := by
  rw [verbatim, quoted_append, value_string]

theorem array_append (items : List Json) (tail : List Char) :
    verbatim (array items) ++ tail =
      '[' :: ([','].intercalate (items.map verbatim) ++ ']' :: tail) := by
  rw [verbatim, List.cons_append, List.append_assoc]
  rfl

theorem object_append (members : List (List Char × Json)) (tail : List Char) :
    verbatim (object members) ++ tail =
      '{' :: ([','].intercalate (members.map verbatimMember) ++ '}' :: tail) := by
  rw [verbatim_object, List.cons_append, List.append_assoc]
  rfl

theorem value_nil (tail : List Char) :
    value (fuel + 1) (verbatim (array []) ++ tail) = some (array [], tail) ∧
      value (fuel + 1) (verbatim (object []) ++ tail) = some (object [], tail) := by
  constructor
  · rw [array_append, value, skipSpace_cons (by decide)]
    rfl
  · rw [object_append, value, skipSpace_cons (by decide)]
    rfl

theorem value_items (v : Json) (items : List Json) (tail : List Char) :
    value (fuel + 1) (verbatim (array (v :: items)) ++ tail) =
      (separated ']' (value fuel) fuel
        ([','].intercalate ((v :: items).map verbatim) ++ ']' :: tail)).map
          fun p => (array p.1, p.2) := by
  obtain ⟨rest, hrest⟩ : ∃ rest, [','].intercalate ((v :: items).map verbatim) ++ ']' :: tail =
      verbatim v ++ rest := by
    cases items with
    | nil => exact ⟨_, by rw [List.map_singleton, List.intercalate_singleton]⟩
    | cons w items => exact ⟨_, intercalate_more v w items _⟩
  rw [array_append, hrest, value_array]

theorem value_members (m : List Char × Json) (members : List (List Char × Json))
    (tail : List Char) :
    value (fuel + 1) (verbatim (object (m :: members)) ++ tail) =
      (separated '}' (member (value fuel)) fuel
        ([','].intercalate ((m :: members).map verbatimMember) ++ '}' :: tail)).map
          fun p => (object p.1, p.2) := by
  obtain ⟨rest, hrest⟩ : ∃ rest,
      [','].intercalate ((m :: members).map verbatimMember) ++ '}' :: tail = '"' :: rest := by
    have hfirst (after : List Char) : ∃ rest, verbatimMember m ++ after = '"' :: rest :=
      ⟨_, by rw [verbatimMember, List.append_assoc, quoted_append]⟩
    cases members with
    | nil =>
      rw [List.map_singleton, List.intercalate_singleton]
      exact hfirst _
    | cons m' members =>
      rw [intercalate_more]
      exact hfirst _
  rw [object_append, hrest, value_object]

theorem sizeOf_pos (v : Json) : 0 < sizeOf v := by
  cases v <;> simp only [null.sizeOf_spec, bool.sizeOf_spec, number.sizeOf_spec,
    string.sizeOf_spec, array.sizeOf_spec, object.sizeOf_spec] <;> omega

theorem reads_of_succ {v : Json}
    (h : ∀ fuel, sizeOf v ≤ fuel + 1 → Reads (value (fuel + 1)) verbatim v)
    (hfuel : sizeOf v ≤ fuel) : Reads (value fuel) verbatim v := by
  cases fuel with
  | zero => exact absurd v.sizeOf_pos (Nat.not_lt.mpr hfuel)
  | succ fuel => exact h fuel hfuel

/-- What is written without escapes is read back, when none is needed. -/
theorem value_reads (v : Json) (hplain : AllPlain v) :
    ∀ fuel, sizeOf v ≤ fuel + 1 → Reads (value (fuel + 1)) verbatim v := by
  intro fuel hfuel tail htail
  induction v using verbatim.induct generalizing fuel tail with
  | case1 => exact value_word (.inl rfl) tail
  | case2 => exact value_word (.inr ⟨true, rfl⟩) tail
  | case3 => exact value_word (.inr ⟨false, rfl⟩) tail
  | case4 mantissa e =>
    rw [value_number]
    exact readNumber_verbatim mantissa e htail
  | case5 chars =>
    rw [AllPlain] at hplain
    rw [value_quoted, readString_verbatim hplain]
    rfl
  | case6 items ih =>
    rw [AllPlain] at hplain
    rw [array.sizeOf_spec] at hfuel
    have hlength := length_le_sizeOf items
    have hreads : ∀ v ∈ items, Reads (value fuel) verbatim v := by
      intro v hv
      have hsize := List.sizeOf_lt_of_mem hv
      exact reads_of_succ (fun fuel hfuel tail => ih v hv (hplain v hv) fuel hfuel tail) (by omega)
    cases items with
    | nil => exact (value_nil tail).1
    | cons v items =>
      rw [value_items, separated_reads (.inl rfl) (List.cons_ne_nil _ _) (by omega) hreads]
      rfl
  | case7 members ih =>
    rw [AllPlain] at hplain
    rw [object.sizeOf_spec] at hfuel
    have hlength := length_le_sizeOf members
    have hreads : ∀ m ∈ members, Reads (member (value fuel)) verbatimMember m := by
      intro m hm
      have hsize := List.sizeOf_lt_of_mem hm
      have hpair : sizeOf m = 1 + sizeOf m.1 + sizeOf m.2 := Prod.mk.sizeOf_spec m.1 m.2
      apply member_reads (hplain m hm).1
      exact reads_of_succ (fun fuel hfuel tail => ih m hm (hplain m hm).2 fuel hfuel tail)
        (by omega)
    cases members with
    | nil => exact (value_nil tail).2
    | cons m members =>
      rw [value_members, separated_reads (.inr rfl) (List.cons_ne_nil _ _) (by omega) hreads]
      rfl

/-- Without fuel nothing is read. -/
theorem exact_of_succ {v : Json} (h : ∀ fuel, Exact (value (fuel + 1)) verbatim AllPlain v) :
    Exact (value fuel) verbatim AllPlain v := by
  cases fuel with
  | zero =>
    intro tail rest _ hvalue
    cases hvalue
  | succ fuel => exact h fuel

theorem value_word_exact {v : Json} (hword : v = null ∨ ∃ b, v = bool b) :
    Exact (value (fuel + 1)) verbatim AllPlain v := by
  intro tail rest _ h
  rw [value_word hword] at h
  refine ⟨?_, (Prod.mk.inj (Option.some.inj h)).2.symm⟩
  rcases hword with rfl | ⟨b, rfl⟩
  · rw [AllPlain]
    exact trivial
  · rw [AllPlain]
    exact trivial

theorem string_exact (chars : List Char) :
    Exact (value (fuel + 1)) verbatim AllPlain (string chars) := by
  intro tail rest _ h
  rw [value_quoted] at h
  obtain ⟨⟨cs, rest'⟩, hcs, hpair⟩ := Option.map_eq_some_iff.mp h
  obtain ⟨hv, rfl⟩ := Prod.mk.inj hpair
  obtain rfl := string.inj hv
  rw [AllPlain]
  exact plain_of_readString hcs

theorem array_exact {items : List Json}
    (hitems : ∀ v ∈ items, Exact (value fuel) verbatim AllPlain v) :
    Exact (value (fuel + 1)) verbatim AllPlain (array items) := by
  intro tail rest htail h
  rw [AllPlain]
  cases items with
  | nil =>
    rw [(value_nil tail).1] at h
    exact ⟨List.forall_mem_nil _, (Prod.mk.inj (Option.some.inj h)).2.symm⟩
  | cons v items =>
    rw [value_items] at h
    obtain ⟨⟨items', rest'⟩, hread, hpair⟩ := Option.map_eq_some_iff.mp h
    obtain ⟨hv, rfl⟩ := Prod.mk.inj hpair
    obtain rfl : items' = v :: items := array.inj hv
    exact separated_exact (.inl rfl) (List.cons_ne_nil _ _) hitems hread

theorem object_exact {members : List (List Char × Json)}
    (hmembers : ∀ m ∈ members, Exact (value fuel) verbatim AllPlain m.2) :
    Exact (value (fuel + 1)) verbatim AllPlain (object members) := by
  intro tail rest htail h
  rw [AllPlain]
  cases members with
  | nil =>
    rw [(value_nil tail).2] at h
    exact ⟨List.forall_mem_nil _, (Prod.mk.inj (Option.some.inj h)).2.symm⟩
  | cons m members =>
    rw [value_members] at h
    obtain ⟨⟨members', rest'⟩, hread, hpair⟩ := Option.map_eq_some_iff.mp h
    obtain ⟨hv, rfl⟩ := Prod.mk.inj hpair
    obtain rfl : members' = m :: members := object.inj hv
    exact separated_exact (.inr rfl) (List.cons_ne_nil _ _)
      (fun w hw => member_exact (hmembers w hw)) hread

/-- A value that is read as itself needs no escape. -/
theorem value_exact (v : Json) : Exact (value fuel) verbatim AllPlain v := by
  induction v using verbatim.induct generalizing fuel with
  | case1 => exact exact_of_succ fun _ => value_word_exact (.inl rfl)
  | case2 => exact exact_of_succ fun _ => value_word_exact (.inr ⟨true, rfl⟩)
  | case3 => exact exact_of_succ fun _ => value_word_exact (.inr ⟨false, rfl⟩)
  | case4 mantissa e =>
    apply exact_of_succ
    intro fuel tail rest htail h
    rw [value_number, readNumber_verbatim mantissa e htail] at h
    rw [AllPlain]
    exact ⟨trivial, (Prod.mk.inj (Option.some.inj h)).2.symm⟩
  | case5 chars => exact exact_of_succ fun _ => string_exact chars
  | case6 items ih => exact exact_of_succ fun _ => array_exact fun v hv => ih v hv
  | case7 members ih => exact exact_of_succ fun _ => object_exact fun m hm => ih m hm

/-- A text written without escapes stands for the value it was written from exactly when no string
of the value needs an escape. -/
theorem decodes_verbatim_iff (v : Json) : Decodes (verbatim v) v ↔ AllPlain v := by
  constructor
  · rintro ⟨fuel, hdecodes⟩
    have h := hdecodes fuel (Nat.le_refl _)
    simp only [decode, Option.bind_eq_bind, Option.bind_eq_some_iff] at h
    obtain ⟨⟨v', rest⟩, hv, h⟩ := h
    split_ifs at h
    obtain rfl := Option.some.inj h
    rw [← List.append_nil (verbatim v')] at hv
    exact (value_exact v' [] rest trivial hv).1
  · intro hplain
    refine ⟨sizeOf v, fun fuel hfuel => ?_⟩
    have hread := reads_of_succ (value_reads v hplain) hfuel [] trivial
    rw [List.append_nil] at hread
    rw [decode, hread]
    rfl

end Json
