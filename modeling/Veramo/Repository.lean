import Veramo.DataStore
import Veramo.Json

/-!
This module contains the TypeORM repositories behind the `save` and `get` methods of `DataStore`
for verifiable credentials and presentations. A repository holds rows with a unique primary key;
`findOneBy` looks a key up, and `save` inserts an entity or overwrites the row with its primary
key. Read through `findOneBy`, a repository is a map from primary keys to rows, and `save` is
that map's update (`findOneBy_save`).

The four methods differ only in their table and the text of their `not_found` error, so they are
one pair of definitions, `saveEntity` and `getEntity`, applied to each method's own values.
`createCredentialEntity` and `createPresentationEntity`, which build the entity and compute its
`hash`, are outside src/: the entity is an argument here, with the columns the methods read.
-/

namespace Veramo

namespace DataStore

/-- A TypeORM repository of entities `α` whose primary key is `key`. -/
structure Repository (α : Type) (key : α → String) where
  rows : List α
  nodup : (rows.map key).Nodup

namespace Repository

variable {α : Type} {key : α → String}

/-- `findOneBy({ key })`. -/
def findOneBy (r : Repository α key) (k : String) : Option α := r.rows.find? (key · == k)

/-- `save(entity)`: the entity, in place of any row with its primary key. -/
def save (r : Repository α key) (entity : α) : Repository α key where
  rows := r.rows.filter (key · != key entity) ++ [entity]
  nodup := by
    rw [List.map_append, List.nodup_append]
    refine ⟨nodup_map_filter _ _ r.nodup, List.nodup_singleton _, fun k hk hk' => ?_⟩
    obtain ⟨x, hx, rfl⟩ := List.mem_map.mp hk
    rw [List.map_singleton, List.mem_singleton] at hk'
    simp [(List.mem_filter.mp hx).2, hk'] at hx

variable {r : Repository α key} {k : String}

theorem findOneBy_eq_some {e : α} (h : r.findOneBy k = some e) : e ∈ r.rows ∧ key e = k :=
  ⟨List.mem_of_find?_eq_some h, by simpa using List.find?_some h⟩

theorem findOneBy_eq_none : r.findOneBy k = none ↔ ∀ e ∈ r.rows, key e ≠ k := by
  simp [findOneBy]

theorem findOneBy_of_mem {e : α} (he : e ∈ r.rows) (hk : key e = k) : r.findOneBy k = some e := by
  cases h : r.findOneBy k with
  | none => exact absurd hk (findOneBy_eq_none.mp h e he)
  | some e' =>
    obtain ⟨he', hk'⟩ := findOneBy_eq_some h
    rw [List.inj_on_of_nodup_map r.nodup he' he (hk'.trans hk.symm)]

theorem findOneBy_save (r : Repository α key) (entity : α) (k : String) :
    (r.save entity).findOneBy k = if key entity = k then some entity else r.findOneBy k := by
  split_ifs with hk
  · exact findOneBy_of_mem (List.mem_append_right _ (List.mem_singleton_self _)) hk
  cases h : r.findOneBy k with
  | some e =>
    obtain ⟨he, rfl⟩ := findOneBy_eq_some h
    exact findOneBy_of_mem
      (List.mem_append_left _ (List.mem_filter.mpr ⟨he, by simpa using Ne.symm hk⟩)) rfl
  | none =>
    refine findOneBy_eq_none.mpr fun e he hek => ?_
    rcases List.mem_append.mp he with he | he
    · exact findOneBy_eq_none.mp h e (List.mem_filter.mp he).1 hek
    · exact hk (List.mem_singleton.mp he ▸ hek)

/-- `save`s of `entities`, one after another. -/
def saveAll (r : Repository α key) (entities : List α) : Repository α key :=
  entities.foldl save r

theorem findOneBy_saveAll (r : Repository α key) (entities : List α) (k : String) :
    (r.saveAll entities).findOneBy k =
      (entities.reverse.find? (key · == k)).or (r.findOneBy k) := by
  induction entities generalizing r with
  | nil => rfl
  | cons e es ih =>
    rw [saveAll, List.foldl_cons, ← saveAll, ih, findOneBy_save, List.reverse_cons,
      List.find?_append, Option.or_assoc]
    by_cases hk : key e = k <;> simp [hk]

end Repository

/--
A row of the `credential` or the `presentation` table, with the columns that `save` and `get`
read: its primary key `hash`, and the credential or presentation as it was saved.
-/
structure Entity where
  hash : String
  raw : Json

/-- The `save` half of the methods: `save(entity)`, returning the saved entity's `hash`. -/
def saveEntity (table : Repository Entity (·.hash)) (entity : Entity) :
    String × Repository Entity (·.hash) :=
  (entity.hash, table.save entity)

/-- The `get` half of the methods: the saved `raw` of the row with the hash, or `notFound`. -/
def getEntity (notFound : String) (table : Repository Entity (·.hash)) (hash : String) :
    Except String Json :=
  match table.findOneBy hash with
  | some entity => .ok entity.raw
  | none => .error notFound

def dataStoreSaveVerifiableCredential (credentials : Repository Entity (·.hash))
    (verifiableCredential : Entity) : String × Repository Entity (·.hash) :=
  saveEntity credentials verifiableCredential

def dataStoreGetVerifiableCredential (credentials : Repository Entity (·.hash)) (hash : String) :
    Except String Json :=
  getEntity "not_found: Verifiable credential not found" credentials hash

def dataStoreSaveVerifiablePresentation (presentations : Repository Entity (·.hash))
    (verifiablePresentation : Entity) : String × Repository Entity (·.hash) :=
  saveEntity presentations verifiablePresentation

def dataStoreGetVerifiablePresentation (presentations : Repository Entity (·.hash))
    (hash : String) : Except String Json :=
  getEntity "not_found: Verifiable presentation not found" presentations hash

/--
After any sequence of saves, `get` of a hash returns what was saved last under that hash, and
what it returned before if nothing was: the `not_found` error exactly when no row ever had it.
-/
theorem getEntity_saveAll (notFound : String) (table : Repository Entity (·.hash))
    (entities : List Entity) (hash : String) :
    getEntity notFound (entities.foldl (fun table entity => (saveEntity table entity).2) table)
        hash =
      match entities.reverse.find? (·.hash == hash) with
      | some entity => .ok entity.raw
      | none => getEntity notFound table hash := by
  have h := Repository.findOneBy_saveAll table entities hash
  rw [Repository.saveAll] at h
  unfold getEntity saveEntity
  rw [h]
  cases entities.reverse.find? (·.hash == hash) <;> rfl

end DataStore

end Veramo
