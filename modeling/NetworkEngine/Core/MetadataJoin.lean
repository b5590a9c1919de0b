import Mathlib
import NetworkEngine.Core.Metadata
import NetworkEngine.Lib.Fields

/-!
# MetadataJoin — merging annotations

`PacketMetadata::merge`.  The annotations of an observation are a map from keys and values to sets
of places, each set written as one string with commas; an addition is the join with a single entry
and a merge is the join of two maps.
-/

namespace NetworkEngine

/-! ## 1. Trimming and lower case -/

theorem isWhitespace_of_letter {c : Char} (hlow : 65 ≤ c.toNat) (hhigh : c.toNat ≤ 122) :
    isWhitespace c = false := by
  unfold isWhitespace
  simp only [Bool.or_eq_false_iff, Bool.and_eq_false_iff, decide_eq_false_iff_not,
    beq_eq_false_iff_ne]
  omega

theorem isWhitespace_toLower (c : Char) : isWhitespace c.toLower = isWhitespace c := by
  by_cases hupper : c.isUpper = true
  · have hrange : 65 ≤ c.toNat ∧ c.toNat ≤ 90 := by
      simpa [Char.isUpper, UInt32.le_iff_toNat_le] using hupper
    have hvalid : (c.toNat + 32).isValidChar := .inl (by omega)
    have htoNat : c.toLower.toNat = c.toNat + 32 := by
      rw [Char.toLower_eq_of_isUpper hupper, Char.toNat_ofNat, if_pos hvalid]
    rw [isWhitespace_of_letter (by omega) (by omega), isWhitespace_of_letter (by omega) (by omega)]
  · rw [Char.toLower_eq_of_not_isUpper hupper]

section Trim

variable {α : Type} (p : α → Bool) (l : List α)

/-- `dropWhile` on both sides. -/
def trimList : List α := (l.dropWhile p).rdropWhile p

theorem trimList_trimList : trimList p (trimList p l) = trimList p l := by
  have hfront : (trimList p l).dropWhile p = trimList p l := by
    cases htrim : trimList p l with
    | nil => rfl
    | cons a rest =>
      obtain ⟨after, hafter⟩ : a :: rest <+: l.dropWhile p := htrim ▸ List.rdropWhile_prefix p _
      have ha := List.head?_dropWhile_not p l
      rw [← hafter] at ha
      exact List.dropWhile_cons_of_neg (Bool.not_eq_true _ ▸ ha)
  rw [trimList, hfront]
  exact List.rdropWhile_idempotent p (l.dropWhile p)

theorem trimList_sublist : (trimList p l).Sublist l :=
  (List.rdropWhile_prefix p _).sublist.trans (List.dropWhile_sublist p)

theorem trimList_map {β : Type} (f : β → α) (l : List β) :
    trimList p (l.map f) = (trimList (fun b => p (f b)) l).map f := by
  simp only [trimList, List.rdropWhile, List.dropWhile_map, ← List.map_reverse]
  rfl

end Trim

theorem trim_eq (value : String) : trim value = .ofList (trimList isWhitespace value.toList) := rfl

theorem toList_trim (value : String) :
    (trim value).toList = trimList isWhitespace value.toList := by
  rw [trim_eq, String.toList_ofList]

theorem trim_trim (value : String) : trim (trim value) = trim value := by
  rw [trim_eq (trim value), toList_trim, trimList_trimList, trim_eq]

theorem toList_toAsciiLowercase (value : String) :
    (toAsciiLowercase value).toList = value.toList.map Char.toLower := String.toList_map

theorem trim_toAsciiLowercase (value : String) :
    trim (toAsciiLowercase value) = toAsciiLowercase (trim value) := by
  apply String.toList_inj.mp
  rw [toList_trim, toList_toAsciiLowercase, toList_toAsciiLowercase, toList_trim, trimList_map]
  simp only [isWhitespace_toLower]

theorem toAsciiLowercase_toAsciiLowercase (value : String) :
    toAsciiLowercase (toAsciiLowercase value) = toAsciiLowercase value := by
  apply String.toList_inj.mp
  rw [toList_toAsciiLowercase, toList_toAsciiLowercase, List.map_map]
  exact List.map_congr_left fun c _ => c.toLower_toLower_eq_toLower

/-! ## 2. Places -/

/-- A place in a list of places. -/
structure Token (part : String) : Prop where
  nonempty : part ≠ ""
  trimmed : trim part = part
  noComma : ',' ∉ part.toList

/-- A string that lists distinct places, or none. -/
def Listed (provenance : String) : Prop :=
  provenance = "" ∨ (splitComma provenance).Nodup ∧ ∀ part ∈ splitComma provenance, Token part

variable {existing part provenance : String}

theorem isEmpty_eq_false (value : String) : (!value.isEmpty) = true ↔ value ≠ "" := by
  simp

theorem noComma_of_mem_splitComma (h : part ∈ splitComma provenance) : ',' ∉ part.toList := by
  obtain ⟨chars, hchars, rfl⟩ := List.mem_map.mp h
  rw [String.toList_ofList]
  exact Fields.notMem_of_mem_splitOn hchars

/-- What the code takes out of a string are places. -/
theorem token_of_mem_parts (h : part ∈ provenanceParts provenance) : Token part := by
  obtain ⟨hmem, hnonempty⟩ := List.mem_filter.mp h
  obtain ⟨piece, hpiece, rfl⟩ := List.mem_map.mp hmem
  exact {
    nonempty := (isEmpty_eq_false _).mp hnonempty
    trimmed := trim_trim piece
    noComma := fun hcomma => noComma_of_mem_splitComma hpiece (by
      rw [toList_trim] at hcomma
      exact (trimList_sublist _ _).mem hcomma) }

theorem provenanceParts_empty : provenanceParts "" = [] := by
  decide

theorem splitComma_of_noComma (h : ',' ∉ part.toList) : splitComma part = [part] := by
  rw [splitComma, List.splitOn_eq_singleton h, List.map_singleton, String.ofList_toList]

theorem splitComma_append (h : ',' ∉ part.toList) :
    splitComma (existing ++ "," ++ part) = splitComma existing ++ [part] := by
  have htoList : (existing ++ "," ++ part).toList = existing.toList ++ ',' :: part.toList := by
    rw [String.toList_append, String.toList_append, List.append_assoc]
    rfl
  rw [splitComma, htoList, List.splitOn_append_cons_self, List.splitOn_eq_singleton h,
    List.map_append, List.map_singleton, String.ofList_toList]
  rfl

theorem Listed.parts (h : Listed existing) (hne : existing ≠ "") :
    provenanceParts existing = splitComma existing := by
  obtain ⟨-, hall⟩ := h.resolve_left hne
  have hmap : (splitComma existing).map trim = splitComma existing := by
    have hcongr := List.map_congr_left fun part hpart => (hall part hpart).trimmed
    rwa [List.map_id'] at hcongr
  rw [provenanceParts, hmap, List.filter_eq_self]
  exact fun part hpart => (isEmpty_eq_false part).mpr (hall part hpart).nonempty

/-- One round of both loops: a place that is not listed is put at the end. -/
theorem Listed.push (h : Listed existing) (hpart : Token part) :
    Listed (pushProvenance existing part) ∧
      provenanceParts (pushProvenance existing part) =
        if part ∈ provenanceParts existing then provenanceParts existing
        else provenanceParts existing ++ [part] := by
  unfold pushProvenance
  by_cases hempty : existing = ""
  · subst hempty
    have hnew : part ∉ splitComma "" := by
      rw [splitComma_of_noComma (by decide), List.mem_singleton]
      exact hpart.nonempty
    rw [if_neg hnew, if_pos (by decide), provenanceParts_empty, if_neg List.not_mem_nil,
      List.nil_append]
    have hlisted : Listed part := by
      refine .inr ?_
      rw [splitComma_of_noComma hpart.noComma]
      exact ⟨List.nodup_singleton part, fun p hp => List.mem_singleton.mp hp ▸ hpart⟩
    exact ⟨hlisted, by rw [hlisted.parts hpart.nonempty, splitComma_of_noComma hpart.noComma]⟩
  · rw [h.parts hempty]
    by_cases hmem : part ∈ splitComma existing
    · rw [if_pos hmem, if_pos hmem]
      exact ⟨h, h.parts hempty⟩
    · have hne : ¬ existing.isEmpty = true := by simpa using hempty
      rw [if_neg hmem, if_neg hne, if_neg hmem]
      obtain ⟨hnodup, hall⟩ := h.resolve_left hempty
      have hlisted : Listed (existing ++ "," ++ part) := by
        refine .inr ?_
        rw [splitComma_append hpart.noComma]
        refine ⟨List.nodup_append_comm.mp (List.nodup_cons.mpr ⟨hmem, hnodup⟩), ?_⟩
        intro p hp
        obtain hp | hp := List.mem_append.mp hp
        · exact hall p hp
        · exact List.mem_singleton.mp hp ▸ hpart
      have hlonger : existing ++ "," ++ part ≠ "" := by
        intro heq
        have hlength := congrArg (fun value => value.toList.length) heq
        simp at hlength
      exact ⟨hlisted, by rw [hlisted.parts hlonger, splitComma_append hpart.noComma]⟩

/-- The places that a string lists. -/
def tokens (provenance : String) : Finset String := (provenanceParts provenance).toFinset

theorem Listed.pushAll (h : Listed existing) (parts : List String)
    (hparts : ∀ part ∈ parts, Token part) :
    Listed (parts.foldl pushProvenance existing) ∧
      tokens (parts.foldl pushProvenance existing) = tokens existing ∪ parts.toFinset := by
  induction parts generalizing existing with
  | nil => exact ⟨h, by rw [List.toFinset_nil, Finset.union_empty]; rfl⟩
  | cons part parts ih =>
    obtain ⟨hpart, hparts⟩ := List.forall_mem_cons.mp hparts
    obtain ⟨hlisted, hpush⟩ := h.push hpart
    obtain ⟨hend, htokens⟩ := ih hlisted hparts
    refine ⟨hend, ?_⟩
    have hone : tokens (pushProvenance existing part) = insert part (tokens existing) := by
      rw [tokens, hpush, tokens]
      split_ifs with hmem
      · exact (Finset.insert_eq_of_mem (List.mem_toFinset.mpr hmem)).symm
      · rw [List.toFinset_append, Finset.insert_eq, Finset.union_comm]
        rfl
    rw [List.foldl_cons, htokens, hone, List.toFinset_cons, Finset.insert_union,
      Finset.union_insert]

theorem listed_normalizeProvenance (value : String) :
    Listed (normalizeProvenance value) ∧ tokens (normalizeProvenance value) = tokens value := by
  have h : Listed "" := .inl rfl
  obtain ⟨hlisted, htokens⟩ := h.pushAll (provenanceParts value) fun _ => token_of_mem_parts
  refine ⟨hlisted, htokens.trans ?_⟩
  rw [tokens, provenanceParts_empty, List.toFinset_nil, Finset.empty_union]
  rfl

/-- Splitting at the commas is enough to find the places again. -/
theorem Listed.mem_splitComma (h : Listed existing) (hpart : part ∈ tokens existing) :
    part ∈ splitComma existing := by
  have hparts := List.mem_toFinset.mp hpart
  by_cases hempty : existing = ""
  · rw [hempty, provenanceParts_empty] at hparts
    cases hparts
  · rwa [h.parts hempty] at hparts

theorem Listed.merge (h : Listed existing) (incoming : String) :
    Listed (mergeProvenance existing incoming) ∧
      tokens (mergeProvenance existing incoming) = tokens existing ∪ tokens incoming :=
  h.pushAll (provenanceParts incoming) fun _ => token_of_mem_parts

/-! ## 3. The view -/

/-- A map from a key and a value to the places they came from, `⊥` where there is no entry. -/
abbrev TokenMap := String × String → WithBot (Finset String)

/-- The map with one entry. -/
def TokenMap.single (pair : String × String) (places : Finset String) : TokenMap :=
  Function.update ⊥ pair ↑places

namespace MetadataAnnotation

/-- What `add` makes of a key, a value and a list of places. -/
structure Normal (a : MetadataAnnotation) : Prop where
  key_trimmed : trim a.key = a.key
  key_lower : toAsciiLowercase a.key = a.key
  key_nonempty : a.key ≠ ""
  value_trimmed : trim a.value = a.value
  value_nonempty : a.value ≠ ""
  listed : Listed a.provenance

def viewOf (annotations : List MetadataAnnotation) : TokenMap := fun pair =>
  match annotations.find? fun a => a.pair = pair with
  | some a => ↑(tokens a.provenance)
  | none => ⊥

variable {a : MetadataAnnotation} {annotations : List MetadataAnnotation}
  {pair : String × String}

theorem viewOf_cons (a : MetadataAnnotation) (annotations : List MetadataAnnotation)
    (pair : String × String) :
    viewOf (a :: annotations) pair =
      if a.pair = pair then ↑(tokens a.provenance) else viewOf annotations pair := by
  unfold viewOf
  rw [List.find?_cons]
  by_cases h : a.pair = pair
  · rw [if_pos h, decide_eq_true h]
  · rw [if_neg h, decide_eq_false h]

theorem viewOf_eq_bot (h : pair ∉ annotations.map MetadataAnnotation.pair) :
    viewOf annotations pair = ⊥ := by
  induction annotations with
  | nil => rfl
  | cons a annotations ih =>
    rw [List.map_cons, List.mem_cons, not_or] at h
    rw [viewOf_cons, if_neg (Ne.symm h.1), ih h.2]

theorem sup_single (view : TokenMap) (pair pair' : String × String) (places : Finset String) :
    (view ⊔ .single pair places) pair' =
      if pair = pair' then view pair' ⊔ ↑places else view pair' := by
  rw [Pi.sup_apply, TokenMap.single]
  split_ifs with h
  · rw [h, Function.update_self]
  · rw [Function.update_of_ne (Ne.symm h)]
    exact sup_bot_eq _

/-- The first annotation comes before the others as their join does. -/
theorem viewOf_cons_eq_sup (h : a.pair ∉ annotations.map MetadataAnnotation.pair) :
    viewOf (a :: annotations) = viewOf annotations ⊔ .single a.pair (tokens a.provenance) := by
  funext pair
  rw [viewOf_cons, sup_single]
  split_ifs with heq
  · rw [← heq, viewOf_eq_bot h, bot_sup_eq]
  · rfl

theorem viewOf_concat (h : a.pair ∉ annotations.map MetadataAnnotation.pair) :
    viewOf (annotations ++ [a]) = viewOf annotations ⊔ .single a.pair (tokens a.provenance) := by
  induction annotations with
  | nil => exact viewOf_cons_eq_sup List.not_mem_nil
  | cons b annotations ih =>
    rw [List.map_cons, List.mem_cons, not_or] at h
    funext pair
    rw [List.cons_append, viewOf_cons, ih h.2, sup_single, sup_single, viewOf_cons]
    split_ifs with hb ha
    · exact absurd (ha.trans hb.symm) h.1
    · rfl
    · rfl
    · rfl

/-- Merging into the annotation of a pair is the join with an entry for that pair. -/
theorem viewOf_mergeFirst (hpair : pair ∈ annotations.map MetadataAnnotation.pair)
    (hlisted : ∀ a ∈ annotations, Listed a.provenance) (provenance : String) :
    viewOf (mergeFirst pair provenance annotations) =
      viewOf annotations ⊔ .single pair (tokens provenance) := by
  induction annotations with
  | nil => cases hpair
  | cons a annotations ih =>
    obtain ⟨ha, hlisted⟩ := List.forall_mem_cons.mp hlisted
    rw [mergeFirst]
    funext pair'
    rw [sup_single]
    by_cases heq : a.pair = pair
    · rw [if_pos heq, viewOf_cons, viewOf_cons]
      show (if a.pair = pair' then _ else _) = _
      rw [heq, (ha.merge provenance).2]
      split_ifs with hpair'
      · rfl
      · rfl
    · have hrest : pair ∈ annotations.map MetadataAnnotation.pair :=
        (List.mem_cons.mp hpair).resolve_left (Ne.symm heq)
      rw [if_neg heq, viewOf_cons, ih hrest hlisted, sup_single, viewOf_cons]
      split_ifs with ha' hpair'
      · exact absurd (ha'.trans hpair'.symm) heq
      · rfl
      · rfl
      · rfl

theorem exists_of_le_viewOf {places : Finset String}
    (h : (places : WithBot (Finset String)) ≤ viewOf annotations pair) :
    ∃ a ∈ annotations, a.pair = pair ∧ places ⊆ tokens a.provenance := by
  induction annotations with
  | nil => exact absurd (le_bot_iff.mp h) (WithBot.coe_ne_bot)
  | cons a annotations ih =>
    rw [viewOf_cons] at h
    split_ifs at h with heq
    · exact ⟨a, List.mem_cons_self, heq, WithBot.coe_le_coe.mp h⟩
    · obtain ⟨a', hmem, hpair, hsubset⟩ := ih h
      exact ⟨a', List.mem_cons_of_mem a hmem, hpair, hsubset⟩

end MetadataAnnotation

open MetadataAnnotation

namespace PacketMetadata

/-! ## 4. Additions and merges -/

def merge (m other : PacketMetadata) : PacketMetadata :=
  other.annotations.foldl (fun m a => m.add a.key a.value a.provenance) m

def view (m : PacketMetadata) : TokenMap := viewOf m.annotations

def Normalized (m : PacketMetadata) : Prop := ∀ a ∈ m.annotations, a.Normal

/-- What an addition stands for. -/
def entry (key value provenance : String) : TokenMap :=
  if Skipped key value then ⊥
  else .single (normalizeKey key, normalizeValue value) (tokens provenance)

variable {m other third : PacketMetadata}

theorem normalized_default : Normalized default := nofun

theorem normal_new {key value : String} (hkept : ¬ Skipped key value) (provenance : String) :
    ( MetadataAnnotation.mk (normalizeKey key) (normalizeValue value)
      (normalizeProvenance provenance)).Normal := by
  obtain ⟨hkey, hvalue⟩ := not_or.mp hkept
  exact {
    key_trimmed := by
      show trim (toAsciiLowercase (trim key)) = toAsciiLowercase (trim key)
      rw [trim_toAsciiLowercase, trim_trim]
    key_lower := toAsciiLowercase_toAsciiLowercase _
    key_nonempty := by simpa using hkey
    value_trimmed := trim_trim value
    value_nonempty := by simpa using hvalue
    listed := (listed_normalizeProvenance provenance).1 }

theorem normal_mergeFirst {pair : String × String} {annotations : List MetadataAnnotation}
    (h : ∀ a ∈ annotations, a.Normal) (provenance : String) :
    ∀ a ∈ mergeFirst pair provenance annotations, a.Normal := by
  induction annotations with
  | nil => exact h
  | cons a annotations ih =>
    obtain ⟨ha, hrest⟩ := List.forall_mem_cons.mp h
    rw [mergeFirst]
    split_ifs with heq
    · have hmerged : ({ a with provenance := mergeProvenance a.provenance provenance } :
          MetadataAnnotation).Normal := { ha with listed := (ha.listed.merge provenance).1 }
      exact List.forall_mem_cons.mpr ⟨hmerged, hrest⟩
    · exact List.forall_mem_cons.mpr ⟨ha, ih hrest⟩

theorem Normalized.add (h : Normalized m) (key value provenance : String) :
    Normalized (m.add key value provenance) := by
  unfold PacketMetadata.add
  dsimp only
  split_ifs with hskipped hfound
  · exact h
  · exact normal_mergeFirst h provenance
  · intro a ha
    obtain ha | ha := List.mem_append.mp ha
    · exact h a ha
    · rw [List.mem_singleton.mp ha]
      exact normal_new hskipped provenance

/-- An addition is the join with what it stands for. -/
theorem view_add (h : Normalized m) (key value provenance : String) :
    (m.add key value provenance).view = m.view ⊔ entry key value provenance := by
  unfold PacketMetadata.add entry view
  dsimp only
  split_ifs with hskipped hfound
  · exact (sup_bot_eq _).symm
  · exact viewOf_mergeFirst hfound (fun a ha => (h a ha).listed) provenance
  · have hconcat := viewOf_concat
      (a := ⟨normalizeKey key, normalizeValue value, normalizeProvenance provenance⟩) hfound
    rw [(listed_normalizeProvenance provenance).2] at hconcat
    exact hconcat

/-- An annotation stands for itself: nothing in it is normalized once more. -/
theorem entry_of_normal {a : MetadataAnnotation} (h : a.Normal) :
    entry a.key a.value a.provenance = .single a.pair (tokens a.provenance) := by
  have hkey : normalizeKey a.key = a.key := by rw [normalizeKey, h.key_trimmed, h.key_lower]
  have hvalue : normalizeValue a.value = a.value := h.value_trimmed
  have hkept : ¬ Skipped a.key a.value := by
    rw [Skipped, hkey, hvalue, not_or]
    exact ⟨by simpa using h.key_nonempty, by simpa using h.value_nonempty⟩
  rw [entry, if_neg hkept, hkey, hvalue]
  rfl

theorem addAll {annotations : List MetadataAnnotation} (h : Normalized m)
    (hannotations : ∀ a ∈ annotations, a.Normal)
    (hdistinct : (annotations.map pair).Nodup) :
    Normalized (annotations.foldl (fun m a => m.add a.key a.value a.provenance) m) ∧
      (annotations.foldl (fun m a => m.add a.key a.value a.provenance) m).view =
        m.view ⊔ viewOf annotations := by
  induction annotations generalizing m with
  | nil => exact ⟨h, (sup_bot_eq _).symm⟩
  | cons a annotations ih =>
    obtain ⟨ha, hannotations⟩ := List.forall_mem_cons.mp hannotations
    rw [List.map_cons, List.nodup_cons] at hdistinct
    obtain ⟨hend, hview⟩ := ih (h.add a.key a.value a.provenance) hannotations hdistinct.2
    refine ⟨hend, ?_⟩
    rw [List.foldl_cons, hview, view_add h, entry_of_normal ha, viewOf_cons_eq_sup hdistinct.1,
      sup_assoc, sup_comm (TokenMap.single _ _)]

theorem Normalized.merge (h : Normalized m) (hother : Normalized other) :
    Normalized (m.merge other) := (addAll h hother other.distinct).1

/-- A merge is the join of the two maps. -/
theorem view_merge (h : Normalized m) (hother : Normalized other) :
    (m.merge other).view = m.view ⊔ other.view := (addAll h hother other.distinct).2

/-! ## 5. Everything that is built by additions and merges -/

/-- How a value was made. -/
inductive Built where
  | default
  | add (m : Built) (key value provenance : String)
  | merge (m other : Built)

namespace Built

def eval : Built → PacketMetadata
  | default => .default
  | add m key value provenance => m.eval.add key value provenance
  | merge m other => m.eval.merge other.eval

/-- The arguments of all additions, in no particular order. -/
def additions : Built → List (String × String × String)
  | default => []
  | add m key value provenance => (key, value, provenance) :: m.additions
  | merge m other => m.additions ++ other.additions

theorem normalized_eval (b : Built) : Normalized b.eval := by
  induction b with
  | default => exact normalized_default
  | add m key value provenance ih => exact ih.add key value provenance
  | merge m other ih ihother => exact ih.merge ihother

/-- The join of what the additions stand for. -/
def joined (additions : List (String × String × String)) : TokenMap :=
  additions.toFinset.sup fun a => entry a.1 a.2.1 a.2.2

theorem entry_le_joined {additions : List (String × String × String)}
    {key value provenance : String} (h : (key, value, provenance) ∈ additions) :
    entry key value provenance ≤ joined additions := by
  have hmem := List.mem_toFinset.mpr h
  have hle := Finset.le_sup (f := fun a : String × String × String => entry a.1 a.2.1 a.2.2) hmem
  unfold joined
  exact hle

theorem view_eval (b : Built) : b.eval.view = joined b.additions := by
  induction b with
  | default => rfl
  | add m key value provenance ih =>
    show (m.eval.add key value provenance).view = joined ((key, value, provenance) :: m.additions)
    rw [view_add m.normalized_eval, ih, joined, joined, List.toFinset_cons, Finset.sup_insert,
      sup_comm]
  | merge m other ih ihother =>
    show (m.eval.merge other.eval).view = joined (m.additions ++ other.additions)
    rw [view_merge m.normalized_eval other.normalized_eval, ih, ihother, joined, joined, joined,
      List.toFinset_append, Finset.sup_union]

/-- A place that was added with a pair is listed with that pair. -/
theorem place_kept (b : Built) {key value provenance : String}
    (hadded : (key, value, provenance) ∈ b.additions) (hkept : ¬ Skipped key value) {place : String}
    (hplace : place ∈ provenanceParts provenance) :
    ∃ a ∈ b.eval.annotations,
      a.pair = (normalizeKey key, normalizeValue value) ∧ place ∈ splitComma a.provenance := by
  have hentry : entry key value provenance ≤ b.eval.view := by
    rw [view_eval]
    exact entry_le_joined hadded
  have hplaces := hentry (normalizeKey key, normalizeValue value)
  rw [entry, if_neg hkept, TokenMap.single, Function.update_self] at hplaces
  obtain ⟨a, hmem, hpair, hsubset⟩ := exists_of_le_viewOf hplaces
  exact ⟨a, hmem, hpair,
    (b.normalized_eval a hmem).listed.mem_splitComma (hsubset (List.mem_toFinset.mpr hplace))⟩

end Built

/-- Whatever additions and merges made of the empty metadata, the pairs are distinct, everything is
normalized, and an addition and a merge are joins; so only the set of additions counts, and no place
is lost. -/
theorem merging_is_a_join (b c d : Built) :
    ((b.eval.annotations.map pair).Nodup ∧ b.eval.Normalized) ∧
      ((∀ key value provenance, (b.eval.add key value provenance).view =
          b.eval.view ⊔ entry key value provenance) ∧
        (b.eval.merge c.eval).view = b.eval.view ⊔ c.eval.view) ∧
      ((b.eval.merge b.eval).view = b.eval.view ∧
        (b.eval.merge c.eval).view = (c.eval.merge b.eval).view ∧
        ((b.eval.merge c.eval).merge d.eval).view = (b.eval.merge (c.eval.merge d.eval)).view) ∧
      ((∀ a, a ∈ b.additions ↔ a ∈ c.additions) → b.eval.view = c.eval.view) ∧
      ∀ key value provenance, (key, value, provenance) ∈ b.additions → ¬ Skipped key value →
        ∀ place ∈ provenanceParts provenance, ∃ a ∈ b.eval.annotations,
          a.pair = (normalizeKey key, normalizeValue value) ∧ place ∈ splitComma a.provenance := by
  have hb := b.normalized_eval
  have hc := c.normalized_eval
  have hd := d.normalized_eval
  refine ⟨⟨b.eval.distinct, hb⟩, ⟨view_add hb, view_merge hb hc⟩, ⟨?_, ?_, ?_⟩, ?_, ?_⟩
  · rw [view_merge hb hb, sup_idem]
  · rw [view_merge hb hc, view_merge hc hb, sup_comm]
  · rw [view_merge (hb.merge hc) hd, view_merge hb hc, view_merge hb (hc.merge hd),
      view_merge hc hd, sup_assoc]
  · intro hsame
    have hadditions : b.additions.toFinset = c.additions.toFinset := by
      ext a
      rw [List.mem_toFinset, List.mem_toFinset]
      exact hsame a
    rw [b.view_eval, c.view_eval, Built.joined, Built.joined, hadditions]
  · intro key value provenance hadded hkept place hplace
    exact b.place_kept hadded hkept hplace

end PacketMetadata

end NetworkEngine
