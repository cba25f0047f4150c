import Veramo.Message

/-!
This module contains the agent a message handler runs against, and the monad `HandleM` that
handler code runs in. The agent holds the store port (messages, the recipient-did registry,
mediation policies and mediation statuses) and the DID manager's identifiers; handlers reach them,
and the packing gateway, through calls on `context.agent`.

`DataStore.dataStoreSaveMessage` and `dataStoreGetMessage` are in src/. The DID manager, the
registry operations and the packing gateway are not: their calls are modelled from the spec's
interface section. Every call may fail; the environment's `fails` says which do, so that a
theorem over all environments covers every point of failure.

A handler mutates the message it is handed (`addMetaData`) and keeps it when it later throws, so
the in-flight message is part of the state, next to the agent.
-/

namespace Veramo

/-- `MediationPolicy`. -/
inductive MediationPolicy where
  | allow
  | deny
  deriving DecidableEq, Repr

/-- `MediationStatus`. -/
inductive MediationStatus where
  | granted
  | denied
  deriving DecidableEq, Repr

/-- A service entry of a DID document (`IService`). -/
structure Service where
  id : String
  type : String
  serviceEndpoint : Json

/-- The object `JSON.stringify(service)` writes. -/
def Service.toJson (s : Service) : Json :=
  .obj [("id", .str s.id), ("type", .str s.type), ("serviceEndpoint", s.serviceEndpoint)]

/-- `IIdentifier`, with the members the handlers read. -/
structure Identifier where
  did : String
  services : List Service

/--
A registry operation of the store port: `dataStoreAddRecipientDid` or
`dataStoreRemoveRecipientDid` on the pair `(did, recipientDid)`.
-/
inductive RecipientDidOp where
  | add (did recipientDid : String)
  | remove (did recipientDid : String)
  deriving DecidableEq, Repr

/-- The registry is the set of `(did, recipient_did)` pairs. -/
abbrev Registry := String × String → Bool

namespace RecipientDidOp

/-- The pair an operation is about. -/
def pair : RecipientDidOp → String × String
  | add d r | remove d r => (d, r)

/--
Modelled from the spec: `addRecipientDid(did, recipient_did) -> bool(inserted)` and
`removeRecipientDid(did, recipient_did) -> bool(deleted)`, each atomic at the store. The result
is whether the registry changed, and the registry after.
-/
def apply : RecipientDidOp → Registry → Bool × Registry
  | add d r, reg => (!reg (d, r), Function.update reg (d, r) true)
  | remove d r, reg => (reg (d, r), Function.update reg (d, r) false)

theorem apply_snd (op : RecipientDidOp) (R : Registry) :
    (op.apply R).2 = Function.update R op.pair (op matches .add _ _) := by
  cases op <;> rfl

end RecipientDidOp

/-- A call a handler makes to a collaborator through `context.agent`. -/
inductive Call where
  | packDIDCommMessage (message : DIDCommMessage)
  | dataStoreSaveMessage (message : Message)
  | dataStoreGetMessage (id : String)
  | didManagerGet (did : String)
  | didManagerAddService (did : String) (service : Service)
  | didManagerRemoveService (did id : String)
  | recipientDid (op : RecipientDidOp)

/--
What the agent's surroundings decide: which calls fail, the opaque output of packing, the value
of `DIDCommMessageMediaType.ENCRYPTED` (declared outside src/), the `v4()` identifiers in the
order they are drawn, and the clock.
-/
structure Env where
  fails : Call → Bool
  packed : DIDCommMessage → String
  encrypted : String
  v4 : Nat → String
  now : String

/-- The persisted state of the store port. -/
structure StorePort where
  messages : String → Option Message
  recipientDids : Registry
  mediationPolicies : String → Option MediationPolicy
  mediations : String → Option MediationStatus

/--
The agent: its environment, store, the services of each identifier its DID manager holds, the
mediation manager's `isMediateDefaultGrantAll` setting, how many `v4()` identifiers it has drawn,
and the registry operations it has issued that have not completed yet.
-/
structure Agent where
  env : Env
  store : StorePort
  identifiers : String → Option (List Service)
  isMediateDefaultGrantAll : Bool
  uuids : Nat
  pending : List RecipientDidOp

/-- An environment in which no call fails. -/
def Env.reliable : Env where
  fails _ := false
  packed m := "packed " ++ m.id
  encrypted := "application/didcomm-encrypted+json"
  v4 n := "uuid-" ++ toString n
  now := "2024-01-01T00:00:00.000Z"

/--
A fresh agent: an empty store, a DID manager holding `dids` with no services, the mediation
manager's default `isMediateDefaultGrantAll = true`, and nothing in flight.
-/
def Agent.init (env : Env) (dids : List String) : Agent where
  env := env
  store :=
    { messages := fun _ => none, recipientDids := fun _ => false,
      mediationPolicies := fun _ => none, mediations := fun _ => none }
  identifiers did := if did ∈ dids then some [] else none
  isMediateDefaultGrantAll := true
  uuids := 0
  pending := []

/-- What handler code runs against: the agent and the in-flight message. -/
structure Handling where
  agent : Agent
  message : Message

/-- Handler code: it may throw, and the state it reached stays when it does. -/
abbrev HandleM := EStateM String Handling

namespace HandleM

variable {α β : Type} (s : Handling)

@[simp] theorem pure_apply (a : α) : (pure a : HandleM α) s = .ok a s := rfl

@[simp] theorem bind_apply (x : HandleM α) (f : α → HandleM β) :
    (x >>= f) s = match x s with
      | .ok a s' => f a s'
      | .error e s' => .error e s' := by
  show EStateM.bind x f s = _
  cases hx : x s <;> simp only [EStateM.bind, hx]

@[simp] theorem throw_apply (e : String) : (throw e : HandleM α) s = .error e s := rfl

@[simp] theorem get_apply : (get : HandleM Handling) s = .ok s s := rfl

@[simp] theorem modify_apply (f : Handling → Handling) :
    (modify f : HandleM Unit) s = .ok () (f s) := rfl

@[simp] theorem tryCatch_apply (x : HandleM α) (h : String → HandleM α) :
    tryCatch x h s = match x s with
      | .ok a s' => .ok a s'
      | .error e s' => h e s' := by
  show EStateM.tryCatch x h s = _
  cases hx : x s with
  | ok => simp only [EStateM.tryCatch, hx]
  | error => simp only [EStateM.tryCatch, hx]; rfl

/-- The state handler code ends in, whether it returned or threw. -/
def final : EStateM.Result String Handling α → Handling
  | .ok _ s => s
  | .error _ s => s

@[simp] theorem final_ok (a : α) : final (.ok a s) = s := rfl

@[simp] theorem final_error (e : String) :
    final (.error e s : EStateM.Result String Handling α) = s := rfl

end HandleM

section Calls

open HandleM

variable (s : Handling)

/-- The in-flight message. -/
def getMessage : HandleM Message := fun s => .ok s.message s

/-- `message.addMetaData(meta)` on the in-flight message. -/
def addMetaData (meta : MetaData) : HandleM Unit :=
  fun s => .ok () { s with message := s.message.addMetaData meta }

/-- `v4()`: the next identifier of the environment. -/
def v4 : HandleM String :=
  fun s => .ok (s.agent.env.v4 s.agent.uuids) { s with agent.uuids := s.agent.uuids + 1 }

/-- `new Date().toISOString()`. -/
def now : HandleM String := fun s => .ok s.agent.env.now s

/-- A call to a collaborator that the environment makes fail throws a server error. -/
def fault (c : Call) : HandleM Unit :=
  fun s => if s.agent.env.fails c then .error "server_error" s else .ok () s

/-- Modelled from the spec: `pack(message, mode) -> bytes`, opaque. -/
def packDIDCommMessage (message : DIDCommMessage) : HandleM String := do
  fault (.packDIDCommMessage message)
  return (← get).agent.env.packed message

/-- `dataStoreSaveMessage`: the repository's `save`, keyed by the message's `id`. -/
def dataStoreSaveMessage (message : Message) : HandleM String := do
  fault (.dataStoreSaveMessage message)
  modify fun s =>
    { s with agent.store.messages := Function.update s.agent.store.messages message.id message }
  return message.id

/-- `dataStoreGetMessage`: the stored message with this `id`, or `not_found`. -/
def dataStoreGetMessage (id : String) : HandleM Message := do
  fault (.dataStoreGetMessage id)
  match (← get).agent.store.messages id with
  | some m => return m
  | none => throw "not_found: Message not found"

/-- Modelled from the spec: `getDidDocument(did)`; `not_found` for a DID it does not hold. -/
def didManagerGet (did : String) : HandleM Identifier := do
  fault (.didManagerGet did)
  match (← get).agent.identifiers did with
  | some services => return { did, services }
  | none => throw "not_found: Identifier not found"

/-- Modelled from the spec: `addService(did, service)`, an upsert on the service's `id`. -/
def didManagerAddService (did : String) (service : Service) : HandleM Unit := do
  fault (.didManagerAddService did service)
  match (← get).agent.identifiers did with
  | some services =>
    let services := services.filter (·.id != service.id) ++ [service]
    modify fun s => { s with agent.identifiers := Function.update s.agent.identifiers did services }
  | none => throw "not_found: Identifier not found"

/-- Modelled from the spec: `removeService(did, serviceId)`. -/
def didManagerRemoveService (did id : String) : HandleM Unit := do
  fault (.didManagerRemoveService did id)
  match (← get).agent.identifiers did with
  | some services =>
    let services := services.filter (·.id != id)
    modify fun s => { s with agent.identifiers := Function.update s.agent.identifiers did services }
  | none => throw "not_found: Identifier not found"

/--
Registry calls made inside promises that nobody awaits: the calls are issued in order and
complete later, each on its own.
-/
def issue (ops : List RecipientDidOp) : HandleM Unit :=
  fun s => .ok () { s with agent.pending := s.agent.pending ++ ops }

@[simp] theorem getMessage_apply : getMessage s = .ok s.message s := rfl

@[simp] theorem addMetaData_apply (meta : MetaData) :
    addMetaData meta s = .ok () { s with message := s.message.addMetaData meta } := rfl

@[simp] theorem v4_apply :
    v4 s = .ok (s.agent.env.v4 s.agent.uuids) { s with agent.uuids := s.agent.uuids + 1 } := rfl

@[simp] theorem now_apply : now s = .ok s.agent.env.now s := rfl

@[simp] theorem issue_apply (ops : List RecipientDidOp) :
    issue ops s = .ok () { s with agent.pending := s.agent.pending ++ ops } := rfl

@[simp] theorem fault_apply (c : Call) :
    fault c s = if s.agent.env.fails c then .error "server_error" s else .ok () s := rfl

@[simp] theorem packDIDCommMessage_apply (message : DIDCommMessage) :
    packDIDCommMessage message s =
      if s.agent.env.fails (.packDIDCommMessage message) then .error "server_error" s
      else .ok (s.agent.env.packed message) s := by
  cases h : s.agent.env.fails (.packDIDCommMessage message) <;>
    simp only [packDIDCommMessage, bind_apply, fault_apply, h, get_apply, pure_apply,
      Bool.false_eq_true, ↓reduceIte]

@[simp] theorem dataStoreSaveMessage_apply (message : Message) :
    dataStoreSaveMessage message s =
      if s.agent.env.fails (.dataStoreSaveMessage message) then .error "server_error" s
      else .ok message.id { s with
        agent.store.messages := Function.update s.agent.store.messages message.id message } := by
  cases h : s.agent.env.fails (.dataStoreSaveMessage message) <;>
    simp only [dataStoreSaveMessage, bind_apply, fault_apply, h, get_apply, pure_apply,
      modify_apply, Bool.false_eq_true, ↓reduceIte]

@[simp] theorem dataStoreGetMessage_apply (id : String) :
    dataStoreGetMessage id s =
      if s.agent.env.fails (.dataStoreGetMessage id) then .error "server_error" s
      else match s.agent.store.messages id with
        | some m => .ok m s
        | none => .error "not_found: Message not found" s := by
  cases h : s.agent.env.fails (.dataStoreGetMessage id) <;>
    cases hv : s.agent.store.messages id <;>
    simp only [dataStoreGetMessage, bind_apply, fault_apply, h, hv, get_apply, pure_apply,
      throw_apply, Bool.false_eq_true, ↓reduceIte]

@[simp] theorem didManagerGet_apply (did : String) :
    didManagerGet did s =
      if s.agent.env.fails (.didManagerGet did) then .error "server_error" s
      else match s.agent.identifiers did with
        | some services => .ok { did, services } s
        | none => .error "not_found: Identifier not found" s := by
  cases h : s.agent.env.fails (.didManagerGet did) <;>
    cases hv : s.agent.identifiers did <;>
    simp only [didManagerGet, bind_apply, fault_apply, h, hv, get_apply, pure_apply, throw_apply,
      Bool.false_eq_true, ↓reduceIte]

@[simp] theorem didManagerAddService_apply (did : String) (service : Service) :
    didManagerAddService did service s =
      if s.agent.env.fails (.didManagerAddService did service) then .error "server_error" s
      else match s.agent.identifiers did with
        | some services => .ok () { s with
            agent.identifiers := Function.update s.agent.identifiers did
              (services.filter (·.id != service.id) ++ [service]) }
        | none => .error "not_found: Identifier not found" s := by
  cases h : s.agent.env.fails (.didManagerAddService did service) <;>
    cases hv : s.agent.identifiers did <;>
    simp only [didManagerAddService, bind_apply, fault_apply, h, hv, get_apply, modify_apply,
      throw_apply, Bool.false_eq_true, ↓reduceIte]

@[simp] theorem didManagerRemoveService_apply (did id : String) :
    didManagerRemoveService did id s =
      if s.agent.env.fails (.didManagerRemoveService did id) then .error "server_error" s
      else match s.agent.identifiers did with
        | some services => .ok () { s with
            agent.identifiers := Function.update s.agent.identifiers did
              (services.filter (·.id != id)) }
        | none => .error "not_found: Identifier not found" s := by
  cases h : s.agent.env.fails (.didManagerRemoveService did id) <;>
    cases hv : s.agent.identifiers did <;>
    simp only [didManagerRemoveService, bind_apply, fault_apply, h, hv, get_apply, modify_apply,
      throw_apply, Bool.false_eq_true, ↓reduceIte]

end Calls

section Within

open HandleM

variable {α β : Type} {R : Handling → Handling → Prop}

/--
Every run of `x`, whether it returns or throws, ends in a state that `R` relates to the state it
started in. With `R` reflexive and transitive this composes along `do` blocks.
-/
def Within (R : Handling → Handling → Prop) (x : HandleM α) : Prop := ∀ s, R s (final (x s))

/-- Handler code that leaves the state as it found it. -/
def Reads (x : HandleM α) : Prop := ∀ s, final (x s) = s

theorem within_of_reads [IsRefl Handling R] {x : HandleM α} (h : Reads x) : Within R x := by
  intro s
  rw [h s]
  exact refl s

theorem within_bind [IsTrans Handling R] {x : HandleM α} {f : α → HandleM β}
    (hx : Within R x) (hf : ∀ a, Within R (f a)) : Within R (x >>= f) := by
  intro s
  have hs := hx s
  rw [HandleM.bind_apply]
  cases h : x s with
  | ok a s' => rw [h] at hs; exact IsTrans.trans _ _ _ hs (hf a s')
  | error e s' => rw [h] at hs; exact hs

theorem reads_bind {x : HandleM α} {f : α → HandleM β} (hx : Reads x) (hf : ∀ a, Reads (f a)) :
    Reads (x >>= f) := by
  intro s
  have hs := hx s
  rw [HandleM.bind_apply]
  cases h : x s with
  | ok a s' => rw [h] at hs; rw [hf a s', ← hs]; rfl
  | error e s' => rw [h] at hs; exact hs

theorem reads_pure (a : α) : Reads (pure a : HandleM α) := fun _ => rfl

theorem reads_throw (e : String) : Reads (throw e : HandleM α) := fun _ => rfl

theorem reads_getMessage : Reads getMessage := fun _ => rfl

theorem reads_now : Reads now := fun _ => rfl

theorem reads_get : Reads (get : HandleM Handling) := fun _ => rfl

theorem reads_fault (c : Call) : Reads (fault c) := by
  intro s
  simp only [fault]
  split <;> rfl

theorem reads_packDIDCommMessage (message : DIDCommMessage) :
    Reads (packDIDCommMessage message) :=
  reads_bind (reads_fault _) fun _ => reads_bind (fun _ => rfl) fun _ => reads_pure _

theorem reads_dataStoreGetMessage (id : String) : Reads (dataStoreGetMessage id) := by
  refine reads_bind (reads_fault _) fun _ => reads_bind (fun _ => rfl) fun _ => ?_
  split
  · exact reads_pure _
  · exact reads_throw _

theorem reads_didManagerGet (did : String) : Reads (didManagerGet did) := by
  refine reads_bind (reads_fault _) fun _ => reads_bind (fun _ => rfl) fun _ => ?_
  split
  · exact reads_pure _
  · exact reads_throw _

/-- What the handling of a message leaves alone: the registry and the registry calls in flight. -/
structure Keeps (s s' : Handling) : Prop where
  recipientDids : s'.agent.store.recipientDids = s.agent.store.recipientDids
  pending : s'.agent.pending = s.agent.pending

instance : IsRefl Handling Keeps := ⟨fun _ => ⟨rfl, rfl⟩⟩

instance : IsTrans Handling Keeps :=
  ⟨fun _ _ _ h₁ h₂ => ⟨h₂.1.trans h₁.1, h₂.2.trans h₁.2⟩⟩

theorem keeps_v4 : Within Keeps v4 := fun _ => ⟨rfl, rfl⟩

theorem keeps_addMetaData (meta : MetaData) : Within Keeps (addMetaData meta) :=
  fun _ => ⟨rfl, rfl⟩

theorem keeps_dataStoreSaveMessage (message : Message) :
    Within Keeps (dataStoreSaveMessage message) :=
  within_bind (within_of_reads (reads_fault _)) fun _ =>
    within_bind (fun _ => ⟨rfl, rfl⟩) fun _ => within_of_reads (reads_pure _)

theorem keeps_didManagerAddService (did : String) (service : Service) :
    Within Keeps (didManagerAddService did service) := by
  refine within_bind (within_of_reads (reads_fault _)) fun _ =>
    within_bind (within_of_reads fun _ => rfl) fun _ => ?_
  split
  · exact fun _ => ⟨rfl, rfl⟩
  · exact within_of_reads (reads_throw _)

theorem keeps_didManagerRemoveService (did id : String) :
    Within Keeps (didManagerRemoveService did id) := by
  refine within_bind (within_of_reads (reads_fault _)) fun _ =>
    within_bind (within_of_reads fun _ => rfl) fun _ => ?_
  split
  · exact fun _ => ⟨rfl, rfl⟩
  · exact within_of_reads (reads_throw _)

end Within

end Veramo
