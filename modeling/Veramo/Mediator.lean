import Veramo.Chain

/-!
This module contains `CoordinateMediationMediatorMessageHandler`, the handler of the mediator
role: `handleMediateRequest`, `handleRecipientUpdate`, and `handle`, which dispatches on the
message type, swallows what the two throw and then passes the message on. `handleRecipientUpdate`
destructures `message.body`, which the `Message` it is handed does not have, so it throws on its
first line and every recipient-update is passed on.
-/

namespace Veramo

namespace CoordinateMediationMediatorMessageHandler

/-- The `IMessage` that `handleMediateRequest` saves for its response. -/
def storedResponse (response : DIDCommMessage) : Message :=
  { type := response.type, sender := response.sender, «to» := response.«to», id := response.id,
    threadId := response.thid, data := response.body, createdAt := response.createdTime }

@[simp] theorem storedResponse_id (response : DIDCommMessage) :
    (storedResponse response).id = response.id := rfl

/-- The `ReturnRouteResponse` entry that carries the packed response back to the requester. -/
def returnRouteResponse (response : DIDCommMessage) (packed encrypted : String) : MetaData :=
  { type := "ReturnRouteResponse"
    value := (Json.obj [("id", .str response.id), ("message", .str packed),
      ("contentType", .str encrypted)]).stringify }

def handleMediateRequest : HandleM Unit := do
  let message ← getMessage
  let some sender := truthy message.sender
    | throw "invalid_argument: MediateRequest received without `from` set"
  let some «to» := truthy message.«to»
    | throw "invalid_argument: MediateRequest received without `to` set"
  -- Grant requests to all recipients
  let response := createMediateGrantMessage sender «to» message.id (← v4) (← now)
  let packedResponse ← packDIDCommMessage response
  addMetaData (returnRouteResponse response packedResponse (← get).agent.env.encrypted)
  let _ ← dataStoreSaveMessage (storedResponse response)

/--
The registry call that `updater[update.action](didDoc, update)` makes. `updater` has the methods
`add` and `remove`; for any other action the lookup is not a function, and the promise rejects
before a call is made.
-/
def updaterCall (did : String) (update : Update) : Option RecipientDidOp :=
  if update.action = "add" then some (.add did update.recipientDid)
  else if update.action = "remove" then some (.remove did update.recipientDid)
  else none

/--
`handleRecipientUpdate`. Its first line destructures `body: { updates = [] }` from the message, and
a `Message` has no `body`, so it throws a `TypeError` there, on every message. Past that line the
promises of `updates.map` would never be awaited: the registry calls would be issued and the
message returned before any of them completes.
-/
def handleRecipientUpdate : HandleM Unit := do
  let message ← getMessage
  let some body := message.body
    | throw "TypeError: Cannot read properties of undefined (reading 'updates')"
  let updates := body.updates.getD []
  let some recipientDid := truthy message.sender
    | throw "invalid_argument: MediateRecipientUpdate received without `from` set"
  let some _ := truthy message.«to»
    | throw "invalid_argument: MediateRecipientUpdate received without `to` set"
  if updates.isEmpty then
    throw "invalid_argument: MediateRecipientUpdate received without `updates` set"
  let didDoc ← didManagerGet recipientDid
  issue (updates.filterMap (updaterCall didDoc.did))

def handle : Handler := fun next => do
  let message ← getMessage
  let handled ← tryCatch
    (if message.type = CoordinateMediation.mediateRequest.uri then do
      handleMediateRequest
      pure true
    else if message.type = CoordinateMediation.recipientUpdate.uri then do
      handleRecipientUpdate
      pure true
    else pure false)
    (fun _ => pure false)
  if handled then pure () else next

open HandleM

variable (s : Handling) {d t : String}

/-- The grant that `handleMediateRequest` builds on the state `s` for a request from `d` to `t`. -/
def grant (d t : String) : DIDCommMessage :=
  createMediateGrantMessage d t s.message.id (s.agent.env.v4 s.agent.uuids) s.agent.env.now

/-- The `ReturnRouteResponse` entry that `handleMediateRequest` attaches on the state `s`. -/
def grantMetaData (d t : String) : MetaData :=
  returnRouteResponse (grant s d t) (s.agent.env.packed (grant s d t)) s.agent.env.encrypted

theorem handleMediateRequest_no_from (h : truthy s.message.sender = none) :
    handleMediateRequest s =
      .error "invalid_argument: MediateRequest received without `from` set" s := by
  simp only [handleMediateRequest, bind_apply, getMessage_apply, h, throw_apply]

theorem handleMediateRequest_no_to (hd : truthy s.message.sender = some d)
    (h : truthy s.message.«to» = none) :
    handleMediateRequest s =
      .error "invalid_argument: MediateRequest received without `to` set" s := by
  simp only [handleMediateRequest, bind_apply, getMessage_apply, hd, h, throw_apply]

theorem handleMediateRequest_pack_fails (hd : truthy s.message.sender = some d)
    (ht : truthy s.message.«to» = some t)
    (hp : s.agent.env.fails (.packDIDCommMessage (grant s d t)) = true) :
    handleMediateRequest s = .error "server_error" { s with agent.uuids := s.agent.uuids + 1 } := by
  simp only [grant] at hp
  simp only [handleMediateRequest, bind_apply, getMessage_apply, hd, ht, v4_apply, now_apply,
    packDIDCommMessage_apply, hp, ↓reduceIte]

theorem handleMediateRequest_save_fails (hd : truthy s.message.sender = some d)
    (ht : truthy s.message.«to» = some t)
    (hp : s.agent.env.fails (.packDIDCommMessage (grant s d t)) = false)
    (hsv : s.agent.env.fails (.dataStoreSaveMessage (storedResponse (grant s d t))) = true) :
    handleMediateRequest s = .error "server_error"
      { agent := { s.agent with uuids := s.agent.uuids + 1 },
        message := s.message.addMetaData (grantMetaData s d t) } := by
  simp only [grant] at hp hsv
  simp only [handleMediateRequest, grantMetaData, grant, bind_apply, getMessage_apply, hd, ht,
    v4_apply, now_apply, packDIDCommMessage_apply, hp, get_apply, addMetaData_apply,
    dataStoreSaveMessage_apply, hsv, Bool.false_eq_true, ↓reduceIte, pure_apply, storedResponse_id]

theorem handleMediateRequest_ok (hd : truthy s.message.sender = some d)
    (ht : truthy s.message.«to» = some t)
    (hp : s.agent.env.fails (.packDIDCommMessage (grant s d t)) = false)
    (hsv : s.agent.env.fails (.dataStoreSaveMessage (storedResponse (grant s d t))) = false) :
    handleMediateRequest s = .ok ()
      { agent := { s.agent with
          uuids := s.agent.uuids + 1
          store.messages := Function.update s.agent.store.messages (grant s d t).id
            (storedResponse (grant s d t)) },
        message := s.message.addMetaData (grantMetaData s d t) } := by
  simp only [grant] at hp hsv
  simp only [handleMediateRequest, grantMetaData, grant, bind_apply, getMessage_apply, hd, ht,
    v4_apply, now_apply, packDIDCommMessage_apply, hp, get_apply, addMetaData_apply,
    dataStoreSaveMessage_apply, hsv, Bool.false_eq_true, ↓reduceIte, pure_apply, storedResponse_id]

theorem handleRecipientUpdate_throws :
    handleRecipientUpdate s =
      .error "TypeError: Cannot read properties of undefined (reading 'updates')" s := rfl

theorem reads_handleRecipientUpdate : Reads handleRecipientUpdate := fun s => by
  rw [handleRecipientUpdate_throws, final_error]

theorem handle_passesOn {type : String} (h1 : type ≠ CoordinateMediation.mediateRequest.uri)
    (h2 : type ≠ CoordinateMediation.recipientUpdate.uri) : PassesOn handle type := by
  intro next s hs
  simp [handle, hs, h1, h2]

theorem handle_of_mediateRequest (next : HandleM Unit)
    (hs : s.message.type = CoordinateMediation.mediateRequest.uri) :
    handle next s = match handleMediateRequest s with
      | .ok _ s' => .ok () s'
      | .error _ s' => next s' := by
  simp only [handle, bind_apply, getMessage_apply, hs, if_true, tryCatch_apply]
  cases handleMediateRequest s <;> rfl

theorem handle_of_recipientUpdate (next : HandleM Unit)
    (hs : s.message.type = CoordinateMediation.recipientUpdate.uri) :
    handle next s = match handleRecipientUpdate s with
      | .ok _ s' => .ok () s'
      | .error _ s' => next s' := by
  simp only [handle, bind_apply, getMessage_apply, hs, CoordinateMediation.uri_inj,
    reduceCtorEq, if_false, if_true, tryCatch_apply]
  cases handleRecipientUpdate s <;> rfl

/-- The state after `handleMediateRequest` succeeds for a request from `d` to `t`. -/
def granted (d t : String) : Handling :=
  { agent := { s.agent with
      uuids := s.agent.uuids + 1
      store.messages := Function.update s.agent.store.messages (grant s d t).id
        (storedResponse (grant s d t)) },
    message := s.message.addMetaData (grantMetaData s d t) }

theorem handle_mediateRequest_ok (next : HandleM Unit)
    (hs : s.message.type = CoordinateMediation.mediateRequest.uri)
    (hd : truthy s.message.sender = some d) (ht : truthy s.message.«to» = some t)
    (hp : s.agent.env.fails (.packDIDCommMessage (grant s d t)) = false)
    (hsv : s.agent.env.fails (.dataStoreSaveMessage (storedResponse (grant s d t))) = false) :
    handle next s = .ok () (granted s d t) := by
  rw [handle_of_mediateRequest s next hs, handleMediateRequest_ok s hd ht hp hsv]
  rfl

theorem handle_passesOn_recipientUpdate :
    PassesOn handle CoordinateMediation.recipientUpdate.uri := fun next s hs => by
  rw [handle_of_recipientUpdate s next hs, handleRecipientUpdate_throws]

theorem handle_passesOn_of_ne {type : String} (h : type ≠ CoordinateMediation.mediateRequest.uri) :
    PassesOn handle type := by
  by_cases hu : type = CoordinateMediation.recipientUpdate.uri
  · exact hu ▸ handle_passesOn_recipientUpdate
  · exact handle_passesOn h hu

theorem keeps_handleMediateRequest : Within Keeps handleMediateRequest := by
  unfold handleMediateRequest
  refine within_bind (within_of_reads reads_getMessage) fun message => ?_
  repeat' split
  all_goals first
    | exact within_of_reads (reads_throw _)
    | refine within_bind keeps_v4 fun _ => within_bind (within_of_reads reads_now) fun _ => ?_
      refine within_bind (within_of_reads (reads_packDIDCommMessage _)) fun _ => ?_
      refine within_bind (within_of_reads reads_get) fun _ => ?_
      refine within_bind (keeps_addMetaData _) fun _ => ?_
      exact within_bind (keeps_dataStoreSaveMessage _) fun _ => within_of_reads (reads_pure _)

end CoordinateMediationMediatorMessageHandler

end Veramo
