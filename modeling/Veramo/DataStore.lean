import Mathlib.Data.List.Nodup

/-!
This module contains the credential and claim tables of the TypeORM `DataStore` and its
`dataStoreDeleteVerifiableCredential`. A credential's primary key is its `hash`; its `id` is the
credential's own, optional, identifier. A claim refers to its credential by the credential's
`hash`, while the deletion looks the claims up by the credential's `id`.
-/

namespace Veramo

namespace DataStore

/-- A row of the `credential` table, with the columns the deletion reads. -/
structure CredentialRow where
  hash : String
  id : Option String
  deriving DecidableEq, Repr

/-- A row of the `claim` table: its primary key, and the `hash` of its credential. -/
structure ClaimRow where
  hash : String
  credential : String
  deriving DecidableEq, Repr

/-- The two tables, each with its primary key unique. -/
structure Database where
  credentials : List CredentialRow
  claims : List ClaimRow
  credentials_nodup : (credentials.map (·.hash)).Nodup
  claims_nodup : (claims.map (·.hash)).Nodup

/-- The credential that `findOneBy({ hash })` returns. -/
def findCredential (db : Database) (hash : String) : Option CredentialRow :=
  db.credentials.find? (·.hash == hash)

/--
The claims that `find({ where: { credential: { id } } })` returns: the claims joined to a
credential whose `id` is `id`. Which credentials a `where` on a missing `id` selects is TypeORM's
business, outside src/: `nullWhere` says it.
-/
def findClaims (nullWhere : CredentialRow → Bool) (db : Database) (id : Option String) :
    List ClaimRow :=
  db.claims.filter fun claim => (findCredential db claim.credential).any fun credential =>
    match id with
    | some id => credential.id == some id
    | none => nullWhere credential

theorem nodup_map_filter {α : Type} (f : α → String) (p : α → Bool) {l : List α}
    (h : (l.map f).Nodup) : ((l.filter p).map f).Nodup :=
  h.sublist ((List.filter_sublist l).map f)

/-- `getRepository(Claim).remove(claims)`: the rows with these primary keys are deleted. -/
def removeClaims (db : Database) (claims : List ClaimRow) : Database :=
  { db with
    claims := db.claims.filter (fun claim => !claims.any (·.hash == claim.hash))
    claims_nodup := nodup_map_filter _ _ db.claims_nodup }

/-- `getRepository(Credential).remove(credentialEntity)`. -/
def removeCredential (db : Database) (credentialEntity : CredentialRow) : Database :=
  { db with
    credentials := db.credentials.filter (·.hash != credentialEntity.hash)
    credentials_nodup := nodup_map_filter _ _ db.credentials_nodup }

section

variable (nullWhere : CredentialRow → Bool)

def dataStoreDeleteVerifiableCredential (db : Database) (hash : String) : Bool × Database :=
  match findCredential db hash with
  | none => (false, db)
  | some credentialEntity =>
    let claims := findClaims nullWhere db credentialEntity.id
    (true, removeCredential (removeClaims db claims) credentialEntity)

variable {nullWhere} {db : Database} {hash : String}

theorem findCredential_eq_some {c : CredentialRow} (h : findCredential db hash = some c) :
    c ∈ db.credentials ∧ c.hash = hash :=
  ⟨List.mem_of_find?_eq_some h, by simpa using List.find?_some h⟩

theorem findCredential_eq_none :
    findCredential db hash = none ↔ ∀ c ∈ db.credentials, c.hash ≠ hash := by
  simp [findCredential]

theorem findCredential_of_mem {c : CredentialRow} (hc : c ∈ db.credentials) :
    findCredential db c.hash = some c := by
  cases h : findCredential db c.hash with
  | none =>
    simp only [findCredential, List.find?_eq_none, beq_iff_eq] at h
    exact absurd rfl (h c hc)
  | some c' =>
    obtain ⟨hc', heq⟩ := findCredential_eq_some h
    rw [List.inj_on_of_nodup_map db.credentials_nodup hc' hc heq]

theorem dataStoreDeleteVerifiableCredential_fst :
    (dataStoreDeleteVerifiableCredential nullWhere db hash).1 = true ↔
      ∃ c ∈ db.credentials, c.hash = hash := by
  unfold dataStoreDeleteVerifiableCredential
  cases h : findCredential db hash with
  | none =>
    simp only [findCredential, List.find?_eq_none, beq_iff_eq] at h
    simpa using h
  | some c => exact iff_of_true rfl ⟨c, findCredential_eq_some h⟩

theorem dataStoreDeleteVerifiableCredential_credentials :
    (dataStoreDeleteVerifiableCredential nullWhere db hash).2.credentials =
      db.credentials.filter (·.hash != hash) := by
  unfold dataStoreDeleteVerifiableCredential
  cases h : findCredential db hash with
  | none =>
    simp only [findCredential, List.find?_eq_none, beq_iff_eq] at h
    exact (List.filter_eq_self.mpr fun c hc => by simpa using h c hc).symm
  | some c => simp [removeCredential, removeClaims, (findCredential_eq_some h).2]

theorem dataStoreDeleteVerifiableCredential_claims_of_unique_id {c : CredentialRow} {v : String}
    (hc : c ∈ db.credentials) (hid : c.id = some v)
    (huniq : ∀ c' ∈ db.credentials, c'.id = some v → c'.hash = c.hash) :
    (dataStoreDeleteVerifiableCredential nullWhere db c.hash).2.claims =
      db.claims.filter (·.credential != c.hash) := by
  have key : ∀ x ∈ db.claims,
      (findClaims nullWhere db (some v)).any (·.hash == x.hash) = true ↔ x.credential = c.hash := by
    intro x hx
    simp only [List.any_eq_true, beq_iff_eq, findClaims, List.mem_filter]
    constructor
    · rintro ⟨y, ⟨hy, hmatch⟩, hyx⟩
      obtain rfl := List.inj_on_of_nodup_map db.claims_nodup hy hx hyx
      cases hf : findCredential db y.credential with
      | none => simp [hf] at hmatch
      | some c' =>
        simp only [hf, Option.any_some, beq_iff_eq] at hmatch
        obtain ⟨hc', hh⟩ := findCredential_eq_some hf
        rw [← hh, huniq c' hc' hmatch]
    · intro hxc
      refine ⟨x, ⟨hx, ?_⟩, rfl⟩
      simp [hxc, findCredential_of_mem hc, hid]
  unfold dataStoreDeleteVerifiableCredential
  rw [findCredential_of_mem hc]
  show db.claims.filter
    (fun claim => !(findClaims nullWhere db c.id).any (·.hash == claim.hash)) = _
  rw [hid]
  refine List.filter_congr fun x hx => ?_
  rw [Bool.eq_iff_iff, Bool.not_eq_true', ← Bool.not_eq_true, key x hx]
  simp

/-- Two credentials that share their `id`, each with one claim. -/
def sharedId : Database where
  credentials := [⟨"hash-1", some "urn:vc:1"⟩, ⟨"hash-2", some "urn:vc:1"⟩]
  claims := [⟨"claim-1", "hash-1"⟩, ⟨"claim-2", "hash-2"⟩]
  credentials_nodup := by decide
  claims_nodup := by decide

/--
Deleting the first of two credentials that share their `id` deletes the claim of the second,
which stays in the table without it.
-/
theorem delete_removes_claims_of_shared_id :
    (dataStoreDeleteVerifiableCredential nullWhere sharedId "hash-1").1 = true ∧
    (dataStoreDeleteVerifiableCredential nullWhere sharedId "hash-1").2.credentials =
      [⟨"hash-2", some "urn:vc:1"⟩] ∧
    (dataStoreDeleteVerifiableCredential nullWhere sharedId "hash-1").2.claims = [] :=
  ⟨rfl, rfl, rfl⟩

end

/-- A row of the `message` table, by its primary key. -/
structure MessageRow where
  id : String
  deriving DecidableEq, Repr

/-- The message that `findOne({ where: { id } })` returns. -/
def findMessage (messages : List MessageRow) (id : String) : Option MessageRow :=
  messages.find? (·.id == id)

/--
`getRepository(Message).remove(messageEntity)`: the row with its primary key is deleted. The rows
joining it to its `credentials` and `presentations`, which `relations` loads, are left out.
-/
def removeMessage (messages : List MessageRow) (messageEntity : MessageRow) : List MessageRow :=
  messages.filter (·.id != messageEntity.id)

def dataStoreDeleteMessage (messages : List MessageRow) (id : String) : Bool × List MessageRow :=
  match findMessage messages id with
  | none => (false, messages)
  | some messageEntity => (true, removeMessage messages messageEntity)

section

variable {messages : List MessageRow} {id : String}

theorem findMessage_eq_some {m : MessageRow} (h : findMessage messages id = some m) :
    m ∈ messages ∧ m.id = id :=
  ⟨List.mem_of_find?_eq_some h, by simpa using List.find?_some h⟩

theorem findMessage_eq_none : findMessage messages id = none ↔ ∀ m ∈ messages, m.id ≠ id := by
  simp [findMessage]

theorem mem_removeMessage {m messageEntity : MessageRow} :
    m ∈ removeMessage messages messageEntity ↔ m ∈ messages ∧ m.id ≠ messageEntity.id := by
  simp [removeMessage]

theorem dataStoreDeleteMessage_spec :
    ((dataStoreDeleteMessage messages id).1 = true ↔ ∃ m ∈ messages, m.id = id) ∧
      (dataStoreDeleteMessage messages id).2 = messages.filter (·.id != id) := by
  unfold dataStoreDeleteMessage
  cases h : findMessage messages id with
  | none =>
    have hnone := findMessage_eq_none.mp h
    refine ⟨by simpa using hnone, (List.filter_eq_self.mpr fun m hm => ?_).symm⟩
    simpa using hnone m hm
  | some m =>
    obtain ⟨hm, rfl⟩ := findMessage_eq_some h
    exact ⟨iff_of_true rfl ⟨m, hm, rfl⟩, rfl⟩

end

end DataStore

end Veramo
