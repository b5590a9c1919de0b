import NetworkEngine.Core.Observation
import NetworkEngine.Lib.Table

/-!
# Metadata — the annotations of an observation

`network_core::metadata`.  An annotation is a value under a key with the places it came from; the
same value under the same key is kept once.  The store has the annotations of every observation
under its id, and nothing but a shutdown takes an id out again.
-/

namespace NetworkEngine

/-! ## 1. Text -/

/-- `char::is_whitespace`. -/
def isWhitespace (c : Char) : Bool :=
  let n := c.toNat
  (9 ≤ n && n ≤ 13) || n == 0x20 || n == 0x85 || n == 0xA0 || n == 0x1680 ||
    (0x2000 ≤ n && n ≤ 0x200A) || n == 0x2028 || n == 0x2029 || n == 0x202F || n == 0x205F ||
    n == 0x3000

/-- `str::trim`. -/
def trim (value : String) : String :=
  .ofList ((value.toList.dropWhile isWhitespace).reverse.dropWhile isWhitespace).reverse

/-- `str::to_ascii_lowercase`. -/
def toAsciiLowercase (value : String) : String := value.map Char.toLower

/-- `value.split(',')`. -/
def splitComma (value : String) : List String := (value.toList.splitOn ',').map .ofList

/-- `value.split(',').map(str::trim).filter(|part| !part.is_empty())`. -/
def provenanceParts (value : String) : List String :=
  ((splitComma value).map trim).filter (!·.isEmpty)

def normalizeKey (value : String) : String := toAsciiLowercase (trim value)

def normalizeValue (value : String) : String := trim value

/-- The body of both loops below. -/
def pushProvenance (existing part : String) : String :=
  if part ∈ splitComma existing then existing
  else if existing.isEmpty then part
  else existing ++ "," ++ part

def normalizeProvenance (value : String) : String := (provenanceParts value).foldl pushProvenance ""

def mergeProvenance (existing incoming : String) : String :=
  (provenanceParts incoming).foldl pushProvenance existing

/-! ## 2. One observation -/

structure MetadataAnnotation where
  key : String
  value : String
  provenance : String
  deriving DecidableEq, Repr

namespace MetadataAnnotation

def pair (a : MetadataAnnotation) : String × String := (a.key, a.value)

/-- `iter_mut().find(..)` and `merge_provenance` on what it finds. -/
def mergeFirst (pair : String × String) (provenance : String) :
    List MetadataAnnotation → List MetadataAnnotation
  | [] => []
  | a :: rest =>
    if a.pair = pair then { a with provenance := mergeProvenance a.provenance provenance } :: rest
    else a :: mergeFirst pair provenance rest

theorem map_pair_mergeFirst (pair : String × String) (provenance : String)
    (annotations : List MetadataAnnotation) :
    (mergeFirst pair provenance annotations).map MetadataAnnotation.pair =
      annotations.map MetadataAnnotation.pair := by
  induction annotations with
  | nil => rfl
  | cons a rest ih =>
    rw [mergeFirst]
    split
    · rfl
    · rw [List.map_cons, List.map_cons, ih]

end MetadataAnnotation

open MetadataAnnotation

/-- No pair of a key and a value is there twice. -/
structure PacketMetadata where
  annotations : List MetadataAnnotation
  distinct : (annotations.map pair).Nodup
  deriving DecidableEq

/-- `if key.is_empty() || value.is_empty() { return; }`. -/
def Skipped (key value : String) : Prop :=
  (normalizeKey key).isEmpty = true ∨ (normalizeValue value).isEmpty = true

instance (key value : String) : Decidable (Skipped key value) :=
  inferInstanceAs (Decidable (_ ∨ _))

namespace PacketMetadata

def default : PacketMetadata := ⟨[], List.nodup_nil⟩

def add (m : PacketMetadata) (key value provenance : String) : PacketMetadata :=
  let pair := (normalizeKey key, normalizeValue value)
  if Skipped key value then m
  else if hfound : pair ∈ m.annotations.map MetadataAnnotation.pair then
    ⟨mergeFirst pair provenance m.annotations, by
      rw [map_pair_mergeFirst]
      exact m.distinct⟩
  else
    -- Another value under the key stays beside this one.
    ⟨m.annotations ++ [⟨pair.1, pair.2, normalizeProvenance provenance⟩], by
      rw [List.map_append, List.map_singleton, List.nodup_append_comm]
      exact List.nodup_cons.mpr ⟨hfound, m.distinct⟩⟩

/-- After an addition that is not skipped the pair is there, and so is every pair of before. -/
theorem mem_pairs_add (m : PacketMetadata) {key value : String} (hkept : ¬ Skipped key value)
    (provenance : String) (p : String × String) :
    p ∈ (m.add key value provenance).annotations.map pair ↔
      p = (normalizeKey key, normalizeValue value) ∨ p ∈ m.annotations.map pair := by
  simp only [add, if_neg hkept]
  split
  · rename_i hfound
    rw [map_pair_mergeFirst]
    exact (or_iff_right_of_imp fun heq => heq ▸ hfound).symm
  · rw [List.map_append, List.mem_append, List.map_singleton, List.mem_singleton, or_comm]
    rfl

theorem add_skipped (m : PacketMetadata) {key value : String} (hskipped : Skipped key value)
    (provenance : String) : m.add key value provenance = m := if_pos hskipped

end PacketMetadata

/-! ## 3. The store -/

structure MetadataStore where
  observations : Table ObservationId PacketMetadata

namespace MetadataStore

def new : MetadataStore := ⟨∅⟩

/-- `entry(id).or_default().add(..)`. -/
def add (store : MetadataStore) (id : ObservationId) (key value provenance : String) :
    MetadataStore :=
  let metadata := (store.observations.lookup id).getD .default
  ⟨store.observations.insert id (metadata.add key value provenance)⟩

/-- The pairs stored under an id. -/
def pairs (store : MetadataStore) (id : ObservationId) : List (String × String) :=
  ((store.observations.lookup id).getD .default).annotations.map pair

theorem pairs_new (id : ObservationId) : new.pairs id = [] := by
  rw [pairs, new, Finmap.lookup_empty]
  rfl

theorem pairs_add_other (store : MetadataStore) {id id' : ObservationId} (hne : id' ≠ id)
    (key value provenance : String) :
    (store.add id key value provenance).pairs id' = store.pairs id' := by
  rw [pairs, pairs, add, Table.lookup_insert, if_neg hne]

theorem pairs_add_skipped (store : MetadataStore) (id : ObservationId) {key value : String}
    (hskipped : Skipped key value) (provenance : String) :
    (store.add id key value provenance).pairs id = store.pairs id := by
  rw [pairs, pairs, add, Table.lookup_insert, if_pos rfl, Option.getD_some,
    PacketMetadata.add_skipped _ hskipped]

theorem mem_pairs_add (store : MetadataStore) (id : ObservationId) {key value : String}
    (hkept : ¬ Skipped key value) (provenance : String) (p : String × String) :
    p ∈ (store.add id key value provenance).pairs id ↔
      p = (normalizeKey key, normalizeValue value) ∨ p ∈ store.pairs id := by
  rw [pairs, add, Table.lookup_insert, if_pos rfl, Option.getD_some]
  exact PacketMetadata.mem_pairs_add _ hkept provenance p

end MetadataStore

end NetworkEngine
