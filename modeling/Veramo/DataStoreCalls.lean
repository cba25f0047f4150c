import Veramo.DataStore

/-!
This module contains the deletions of the TypeORM `DataStore` one repository call at a time.
`dataStoreDeleteMessage` makes two calls, `findOne` and `remove`;
`dataStoreDeleteVerifiableCredential` makes four, `findOneBy`, the `find` of the claims and two
`remove`s. No transaction spans the calls of one deletion. Each call on its own is atomic (TypeORM
runs a `remove` in a transaction of its own), so a call that fails changes nothing, and a `remove`
of a row that is already gone deletes nothing and is no error.

Between two of its calls, another deletion can make its own: two deletions in flight interleave
their repository calls in any order (`interleave`).
-/

namespace Veramo

namespace DataStore

/-! ## Two deletions in flight -/

/-- Two deletions in flight on one database: where each of them stands, and the database. -/
structure Pair (P σ : Type) where
  first : P
  second : P
  db : σ

section Interleaving

-- `call p db` is the next repository call of a deletion that stands at `p`.
variable {P σ : Type} (call : P → σ → P × σ)

/-- The next repository call is the first deletion's (`true`) or the second's (`false`). -/
def Pair.step (s : Pair P σ) : Bool → Pair P σ
  | true => ⟨(call s.first s.db).1, s.second, (call s.first s.db).2⟩
  | false => ⟨s.first, (call s.second s.db).1, (call s.second s.db).2⟩

end Interleaving

/-! ## `dataStoreDeleteMessage` -/

/-- Where a `dataStoreDeleteMessage` call stands: its next repository call, or its result. -/
inductive DeleteMessage where
  | findOne
  | remove (messageEntity : MessageRow)
  | returned (result : Bool)
  deriving DecidableEq, Repr

namespace DeleteMessage

variable (id : String)

/-- The next repository call of `dataStoreDeleteMessage({ id })`. -/
def call : DeleteMessage → List MessageRow → DeleteMessage × List MessageRow
  | findOne, messages =>
    match findMessage messages id with
    | none => (returned false, messages)
    | some messageEntity => (remove messageEntity, messages)
  | remove messageEntity, messages => (returned true, removeMessage messages messageEntity)
  | returned result, messages => (returned result, messages)

theorem call_call_findOne (messages : List MessageRow) :
    call id (call id findOne messages).1 (call id findOne messages).2 =
      (returned (dataStoreDeleteMessage messages id).1,
        (dataStoreDeleteMessage messages id).2) := by
  cases h : findMessage messages id <;> simp only [call, dataStoreDeleteMessage, h]

/--
What a deletion has seen of the table: one that is about to remove a row found the row with the
id, and once it has returned no row has the id.
-/
def Sound (messages : List MessageRow) : DeleteMessage → Prop
  | findOne => True
  | remove messageEntity => messageEntity.id = id
  | returned _ => ∀ m ∈ messages, m.id ≠ id

theorem Sound.mono {messages messages' : List MessageRow} (hsub : messages' ⊆ messages) :
    ∀ {p : DeleteMessage}, Sound id messages p → Sound id messages' p
  | findOne, h | remove _, h => h
  | returned _, h => fun m hm => h m (hsub hm)

/--
Two deletions of the message with the id: each is sound, and the message is still in the table
unless one of them has returned `true`.
-/
def Holds (p q : DeleteMessage) (messages : List MessageRow) : Prop :=
  ((∃ m ∈ messages, m.id = id) ∨ p = returned true ∨ q = returned true) ∧
    Sound id messages p ∧ Sound id messages q

theorem Holds.symm {p q : DeleteMessage} {messages : List MessageRow} (h : Holds id p q messages) :
    Holds id q p messages := by
  obtain ⟨hin | hp | hq, hsp, hsq⟩ := h
  exacts [⟨.inl hin, hsq, hsp⟩, ⟨.inr (.inr hp), hsq, hsp⟩, ⟨.inr (.inl hq), hsq, hsp⟩]

theorem Holds.call {p q : DeleteMessage} {messages : List MessageRow}
    (h : Holds id p q messages) :
    Holds id (call id p messages).1 q (call id p messages).2 := by
  obtain ⟨hglobal, hsp, hsq⟩ := h
  cases p with
  | findOne =>
    have hglobal' : (∃ m ∈ messages, m.id = id) ∨ q = returned true := by
      rcases hglobal with h | h | h
      exacts [.inl h, absurd h (by simp), .inr h]
    cases hf : findMessage messages id with
    | none =>
      simp only [DeleteMessage.call, hf]
      refine ⟨hglobal'.imp_right .inr, findMessage_eq_none.mp hf, hsq⟩
    | some m =>
      simp only [DeleteMessage.call, hf]
      exact ⟨hglobal'.imp_right .inr, (findMessage_eq_some hf).2, hsq⟩
  | remove m =>
    have hsub : removeMessage messages m ⊆ messages := fun _ hm => (mem_removeMessage.mp hm).1
    refine ⟨.inr (.inl rfl), fun m' hm' => ?_, hsq.mono id hsub⟩
    exact hsp ▸ (mem_removeMessage.mp hm').2
  | returned r => exact ⟨hglobal, hsp, hsq⟩

end DeleteMessage

/-! ## `dataStoreDeleteVerifiableCredential` -/

/-- The repository calls of `dataStoreDeleteVerifiableCredential`, each of which can fail. -/
inductive Call where
  | findOneBy
  | find
  | removeClaims
  | removeCredential
  deriving DecidableEq, Repr

/--
Where a `dataStoreDeleteVerifiableCredential` call stands: the repository call it makes next,
with what it has read so far, or how it ended.
-/
inductive DeleteCredential where
  | findOneBy
  | find (credentialEntity : CredentialRow)
  | removeClaims (credentialEntity : CredentialRow) (claims : List ClaimRow)
  | removeCredential (credentialEntity : CredentialRow)
  | returned (result : Bool)
  | threw
  deriving DecidableEq, Repr

/-- A credential with one claim. -/
def oneCredential : Database where
  credentials := [⟨"hash-1", some "urn:vc:1"⟩]
  claims := [⟨"claim-1", "hash-1"⟩]
  credentials_nodup := by decide
  claims_nodup := by decide

namespace DeleteCredential

variable (nullWhere : CredentialRow → Bool) (hash : String) (fails : Call → Bool)

/-- The next repository call of `dataStoreDeleteVerifiableCredential({ hash })`. -/
def call : DeleteCredential → Database → DeleteCredential × Database
  | findOneBy, db =>
    if fails .findOneBy then (threw, db) else
    match findCredential db hash with
    | none => (returned false, db)
    | some credentialEntity => (find credentialEntity, db)
  | find credentialEntity, db =>
    if fails .find then (threw, db) else
    (removeClaims credentialEntity (findClaims nullWhere db credentialEntity.id), db)
  | removeClaims credentialEntity claims, db =>
    if fails .removeClaims then (threw, db) else
    (removeCredential credentialEntity, DataStore.removeClaims db claims)
  | removeCredential credentialEntity, db =>
    if fails .removeCredential then (threw, db) else
    (returned true, DataStore.removeCredential db credentialEntity)
  | returned result, db => (returned result, db)
  | threw, db => (threw, db)

/-- The deletion alone on the database, from its first repository call to its end. -/
def alone (db : Database) : DeleteCredential × Database :=
  (fun s => call nullWhere hash fails s.1 s.2)^[4] (findOneBy, db)

/-- With no call failing, the deletion returns what `dataStoreDeleteVerifiableCredential` does. -/
theorem alone_of_no_failure (db : Database) :
    alone nullWhere hash (fun _ => false) db =
      (returned (dataStoreDeleteVerifiableCredential nullWhere db hash).1,
        (dataStoreDeleteVerifiableCredential nullWhere db hash).2) := by
  cases h : findCredential db hash <;>
    simp only [alone, Function.iterate_succ, Function.comp, Function.iterate_zero, id, call, h,
      dataStoreDeleteVerifiableCredential, Bool.false_eq_true, ↓reduceIte]

/--
A deletion that throws leaves the database as it was, unless the call that failed is the last,
the credential's removal: then the claims are gone and the credential is still there.
-/
theorem alone_threw_cases {db : Database} (h : (alone nullWhere hash fails db).1 = threw) :
    (alone nullWhere hash fails db).2 = db ∨
      ∃ c, findCredential db hash = some c ∧ fails .removeCredential = true ∧
        (alone nullWhere hash fails db).2 =
          DataStore.removeClaims db (findClaims nullWhere db c.id) := by
  revert h
  simp only [alone, Function.iterate_succ, Function.comp_apply, Function.iterate_zero, id_eq]
  -- split on the calls in the order the deletion makes them, each failure ending it
  cases h₁ : fails .findOneBy
  case true => simp [call, h₁]
  cases hf : findCredential db hash with
  | none => simp [call, h₁, hf]
  | some c =>
    cases h₂ : fails .find
    case true => simp [call, h₁, hf, h₂]
    cases h₃ : fails .removeClaims
    case true => simp [call, h₁, hf, h₂, h₃]
    cases h₄ : fails .removeCredential <;> simp [call, h₁, hf, h₂, h₃, h₄]

theorem alone_threw_cases_oneCredential :
    (alone (fun _ => false) "hash-1" (· == .removeCredential) oneCredential).1 = threw ∧
    ((alone (fun _ => false) "hash-1" (· == .removeCredential) oneCredential).2 = oneCredential ∨
      ∃ c, findCredential oneCredential "hash-1" = some c ∧
        (Call.removeCredential == Call.removeCredential) = true ∧
        (alone (fun _ => false) "hash-1" (· == .removeCredential) oneCredential).2 =
          DataStore.removeClaims oneCredential (findClaims (fun _ => false) oneCredential c.id)) :=
  ⟨rfl, alone_threw_cases _ _ _ rfl⟩

/--
The removal of the credential fails after the removal of its claim: the deletion throws, and the
claim is gone while the credential is still in the table.
-/
theorem credential_removal_failure_keeps_credential :
    (alone (fun _ => false) "hash-1" (· == .removeCredential) oneCredential).1 = threw ∧
    (alone (fun _ => false) "hash-1" (· == .removeCredential) oneCredential).2.credentials =
      oneCredential.credentials ∧
    (alone (fun _ => false) "hash-1" (· == .removeCredential) oneCredential).2.claims = [] ∧
    oneCredential.claims ≠ [] :=
  ⟨rfl, rfl, rfl, nofun⟩

/-! Two deletions of one credential, with no call failing. -/

/--
What a deletion has seen of the credentials: one that has looked the credential up holds the row
with the hash, and once it has returned no credential has the hash.
-/
def Sound (db : Database) : DeleteCredential → Prop
  | findOneBy | threw => True
  | find c | removeClaims c _ | removeCredential c => c.hash = hash
  | returned _ => ∀ c ∈ db.credentials, c.hash ≠ hash

theorem Sound.mono {db db' : Database} (hsub : db'.credentials ⊆ db.credentials) :
    ∀ {p : DeleteCredential}, Sound hash db p → Sound hash db' p
  | findOneBy, h | threw, h | find _, h | removeClaims _ _, h | removeCredential _, h => h
  | returned _, h => fun c hc => h c (hsub hc)

/--
Two deletions of the credential with the hash: each is sound, and the credential is still in the
table unless one of them has returned `true`.
-/
def Holds (p q : DeleteCredential) (db : Database) : Prop :=
  ((∃ c ∈ db.credentials, c.hash = hash) ∨ p = returned true ∨ q = returned true) ∧
    Sound hash db p ∧ Sound hash db q

theorem Holds.symm {p q : DeleteCredential} {db : Database} (h : Holds hash p q db) :
    Holds hash q p db := by
  obtain ⟨hin | hp | hq, hsp, hsq⟩ := h
  exacts [⟨.inl hin, hsq, hsp⟩, ⟨.inr (.inr hp), hsq, hsp⟩, ⟨.inr (.inl hq), hsq, hsp⟩]

theorem Holds.call {p q : DeleteCredential} {db : Database} (h : Holds hash p q db) :
    Holds hash (call nullWhere hash (fun _ => false) p db).1 q
      (call nullWhere hash (fun _ => false) p db).2 := by
  obtain ⟨hglobal, hsp, hsq⟩ := h
  -- a call before the credential's removal keeps the credentials and returns nothing true
  have keep : ∀ p', p ≠ returned true →
      (∃ c ∈ db.credentials, c.hash = hash) ∨ p' = returned true ∨ q = returned true := by
    rintro p' hp
    rcases hglobal with h | h | h
    exacts [.inl h, absurd h hp, .inr (.inr h)]
  cases p with
  | findOneBy =>
    cases hf : findCredential db hash with
    | none =>
      simp only [DeleteCredential.call, hf, Bool.false_eq_true, ↓reduceIte]
      exact ⟨keep _ nofun, findCredential_eq_none.mp hf, hsq⟩
    | some c =>
      simp only [DeleteCredential.call, hf, Bool.false_eq_true, ↓reduceIte]
      exact ⟨keep _ nofun, (findCredential_eq_some hf).2, hsq⟩
  | find c => exact ⟨keep _ nofun, hsp, hsq⟩
  | removeClaims c claims => exact ⟨keep _ nofun, hsp, hsq⟩
  | removeCredential c =>
    have hsub : (DataStore.removeCredential db c).credentials ⊆ db.credentials :=
      List.filter_subset' _
    refine ⟨.inr (.inl rfl), fun c' hc' => ?_, hsq.mono hash hsub⟩
    simp only [DeleteCredential.call, Bool.false_eq_true, ↓reduceIte, DataStore.removeCredential,
      List.mem_filter, bne_iff_ne] at hc'
    exact hsp ▸ hc'.2
  | returned r => exact ⟨hglobal, hsp, hsq⟩
  | threw => exact ⟨hglobal, hsp, hsq⟩

end DeleteCredential

end DataStore

end Veramo
