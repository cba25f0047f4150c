import Veramo.Chain

/-!
This module contains `CoordinateMediationRecipientMessageHandler`, the handler of the recipient
role. On a mediate-grant that answers a message in the store it adds the mediator's service to
the recipient's DID document; on a mediate-deny it removes a service that points at the
mediator. It swallows what it throws.
-/

namespace Veramo

namespace CoordinateMediationRecipientMessageHandler

/-- The service a grant adds, with the grant's first routing DID as its endpoint. -/
def mediatorService (routingDid : String) : Service :=
  { id := "didcomm-mediator", type := "DIDCommMessaging",
    serviceEndpoint := .arr [.obj [("uri", .str routingDid)]] }

/-- The `try` block of the `MEDIATE_GRANT` branch of `handle`. -/
def handleMediateGrant : HandleM Unit := do
  let message ← getMessage
  let some sender := truthy message.sender
    | throw "invalid_argument: MediateGrant received without `from` set"
  let some «to» := truthy message.«to»
    | throw "invalid_argument: MediateGrant received without `to` set"
  let some threadId := truthy message.threadId
    | throw "invalid_argument: MediateGrant received without `thid` set"
  let some data := message.data
    | throw "TypeError: cannot read routing_did of a null body"
  let some (routingDid :: _) := data.routingDid
    | throw "invalid_argument: MediateGrant received with invalid routing_did"
  -- If mediate request was previously sent, add service to DID document
  let prevRequestMsg ← dataStoreGetMessage threadId
  if prevRequestMsg.sender = some «to» ∧ prevRequestMsg.«to» = some sender then
    let service := mediatorService routingDid
    didManagerAddService «to» service
    addMetaData { type := "DIDCommMessagingServiceAdded", value := service.toJson.stringify }

/--
The predicate of `did.services.find` in the `MEDIATE_DENY` branch: the endpoint is the sender,
or an array that includes it.
-/
def referencesSender (sender : String) (s : Service) : Bool :=
  s.serviceEndpoint.isStr sender || s.serviceEndpoint.includesStr sender

/-- The `try` block of the `MEDIATE_DENY` branch of `handle`. -/
def handleMediateDeny : HandleM Unit := do
  let message ← getMessage
  let some sender := truthy message.sender
    | throw "invalid_argument: MediateGrant received without `from` set"
  let some «to» := truthy message.«to»
    | throw "invalid_argument: MediateGrant received without `to` set"
  -- Delete service if it exists
  let did ← didManagerGet «to»
  match did.services.find? (referencesSender sender) with
  | some existingService => didManagerRemoveService «to» existingService.id
  | none => pure ()

def handle : Handler := fun next => do
  let message ← getMessage
  if message.type = CoordinateMediation.mediateGrant.uri then
    tryCatch handleMediateGrant (fun _ => pure ())
  else
    if message.type = CoordinateMediation.mediateDeny.uri then
      tryCatch handleMediateDeny (fun _ => pure ())
    next

open HandleM

variable (s : Handling)

theorem handle_passesOn {type : String} (h1 : type ≠ CoordinateMediation.mediateGrant.uri)
    (h2 : type ≠ CoordinateMediation.mediateDeny.uri) : PassesOn handle type := by
  intro next s hs
  simp [handle, hs, h1, h2]

theorem handle_of_mediateGrant (next : HandleM Unit)
    (hs : s.message.type = CoordinateMediation.mediateGrant.uri) :
    handle next s = .ok () (final (handleMediateGrant s)) := by
  simp only [handle, bind_apply, getMessage_apply, hs, if_true, tryCatch_apply]
  cases handleMediateGrant s <;> rfl

theorem handle_of_mediateDeny (next : HandleM Unit)
    (hs : s.message.type = CoordinateMediation.mediateDeny.uri) :
    handle next s = next (final (handleMediateDeny s)) := by
  simp only [handle, bind_apply, getMessage_apply, hs, CoordinateMediation.uri_inj,
    reduceCtorEq, if_false, if_true, tryCatch_apply]
  cases handleMediateDeny s <;> rfl

/-- The services of a DID document after `didManagerAddService` upserts `service`. -/
def withService (services : List Service) (service : Service) : List Service :=
  services.filter (·.id != service.id) ++ [service]

theorem mem_withService (services : List Service) (service : Service) :
    service ∈ withService services service :=
  List.mem_append_right _ (List.mem_singleton_self _)

theorem eq_of_mem_withService {services : List Service} {service x : Service}
    (hx : x ∈ withService services service) (h : x.id = service.id) : x = service := by
  rcases List.mem_append.mp hx with hx | hx
  · simp [(List.mem_filter.mp hx).2, h] at hx
  · exact List.mem_singleton.mp hx

theorem handleMediateGrant_adds {d t th r : String} {rs : List String} {body : Body}
    {p : Message} {services : List Service}
    (hd : truthy s.message.sender = some d) (ht : truthy s.message.«to» = some t)
    (hth : truthy s.message.threadId = some th) (hb : s.message.data = some body)
    (hr : body.routingDid = some (r :: rs))
    (hget : s.agent.env.fails (.dataStoreGetMessage th) = false)
    (hp : s.agent.store.messages th = some p) (hmatch : p.sender = some t ∧ p.«to» = some d)
    (hadd : s.agent.env.fails (.didManagerAddService t (mediatorService r)) = false)
    (hid : s.agent.identifiers t = some services) :
    handleMediateGrant s = .ok ()
      ⟨{ s.agent with
          identifiers := Function.update s.agent.identifiers t
            (some (withService services (mediatorService r))) },
        s.message.addMetaData
          ⟨"DIDCommMessagingServiceAdded", some (mediatorService r).toJson.stringify⟩⟩ := by
  simp only [handleMediateGrant, bind_apply, getMessage_apply, hd, ht, hth, hb, hr,
    dataStoreGetMessage_apply, hget, hp, hmatch, and_self, didManagerAddService_apply, hadd, hid,
    withService, addMetaData_apply, Bool.false_eq_true, ↓reduceIte]

@[simp] theorem referencesSender_mediatorService (sender r : String) :
    referencesSender sender (mediatorService r) = false := by
  simp [referencesSender, mediatorService, Json.isStr, Json.includesStr]

theorem handleMediateDeny_removes {sender t : String} {services : List Service} {e : Service}
    (hd : truthy s.message.sender = some sender) (ht : truthy s.message.«to» = some t)
    (hget : s.agent.env.fails (.didManagerGet t) = false)
    (hid : s.agent.identifiers t = some services)
    (hfind : services.find? (referencesSender sender) = some e)
    (hrm : s.agent.env.fails (.didManagerRemoveService t e.id) = false) :
    handleMediateDeny s = .ok () { s with
      agent.identifiers :=
        Function.update s.agent.identifiers t (some (services.filter (·.id != e.id))) } := by
  simp only [handleMediateDeny, bind_apply, getMessage_apply, hd, ht, didManagerGet_apply, hget,
    hid, hfind, didManagerRemoveService_apply, hrm, Bool.false_eq_true, ↓reduceIte]

theorem handleMediateGrant_cases :
    final (handleMediateGrant s) = s ∨
    ∃ t body r rs services, truthy s.message.«to» = some t ∧ s.message.data = some body ∧
      body.routingDid = some (r :: rs) ∧ s.agent.identifiers t = some services ∧
      final (handleMediateGrant s) =
        ⟨{ s.agent with
            identifiers := Function.update s.agent.identifiers t
              (some (withService services (mediatorService r))) },
          s.message.addMetaData
            ⟨"DIDCommMessagingServiceAdded", some (mediatorService r).toJson.stringify⟩⟩ := by
  -- unfold the head once; each guard then only picks a branch, and a failed one leaves `s`
  rw [handleMediateGrant, bind_apply, getMessage_apply]
  dsimp only
  rcases truthy s.message.sender with _ | d; · exact .inl rfl
  rcases truthy s.message.«to» with _ | t; · exact .inl rfl
  rcases truthy s.message.threadId with _ | th; · exact .inl rfl
  rcases s.message.data with _ | body; · exact .inl rfl
  dsimp only
  rcases hr : body.routingDid with _ | _ | ⟨r, rs⟩ <;> try exact .inl rfl
  dsimp only
  rw [bind_apply, dataStoreGetMessage_apply]
  cases s.agent.env.fails (.dataStoreGetMessage th)
  rotate_left; · exact .inl rfl
  rcases s.agent.store.messages th with _ | p; · exact .inl rfl
  rw [if_neg Bool.false_ne_true]
  dsimp only
  by_cases hmatch : p.sender = some t ∧ p.«to» = some d
  rotate_left; · rw [if_neg hmatch]; exact .inl rfl
  rw [if_pos hmatch, bind_apply, didManagerAddService_apply]
  cases s.agent.env.fails (.didManagerAddService t (mediatorService r))
  rotate_left; · exact .inl rfl
  rcases hid : s.agent.identifiers t with _ | services; · exact .inl rfl
  exact .inr ⟨t, body, r, rs, services, rfl, rfl, hr, hid, rfl⟩

theorem handleMediateDeny_final_cases :
    final (handleMediateDeny s) = s ∨
    ∃ sender t services e, truthy s.message.sender = some sender ∧
      truthy s.message.«to» = some t ∧ s.agent.identifiers t = some services ∧
      services.find? (referencesSender sender) = some e ∧
      final (handleMediateDeny s) = { s with
        agent.identifiers :=
          Function.update s.agent.identifiers t (some (services.filter (·.id != e.id))) } := by
  -- each guard splits off a case that leaves the state, which `rotate_left` sets aside
  rcases hd : truthy s.message.sender with _ | sender
  rotate_left; rcases ht : truthy s.message.«to» with _ | t
  rotate_left; cases hget : s.agent.env.fails (.didManagerGet t)
  rcases hid : s.agent.identifiers t with _ | services
  rotate_left; rcases hfind : services.find? (referencesSender sender) with _ | e
  rotate_left; cases hrm : s.agent.env.fails (.didManagerRemoveService t e.id)
  · exact .inr ⟨sender, t, services, e, rfl, rfl, hid, hfind,
      by rw [handleMediateDeny_removes s hd ht hget hid hfind hrm, final_ok]⟩
  all_goals
    left
    simp only [handleMediateDeny, bind_apply, getMessage_apply, throw_apply, pure_apply,
      didManagerGet_apply, didManagerRemoveService_apply, final_ok, final_error,
      Bool.false_eq_true, ↓reduceIte, *]

theorem handleMediateDeny_identifiers {t : String} {services : List Service}
    (hid : s.agent.identifiers t = some services) :
    (final (handleMediateDeny s)).agent.identifiers t = some services ∨
    ∃ sender e, e ∈ services ∧ referencesSender sender e = true ∧
      (final (handleMediateDeny s)).agent.identifiers t =
        some (services.filter (·.id != e.id)) := by
  rcases handleMediateDeny_final_cases s with h | ⟨sender, t', services₀, e, -, -, hid', hfind, h⟩
  · exact .inl (by rw [h, hid])
  rw [h]
  by_cases htt : t = t'
  · subst htt
    rw [hid] at hid'
    cases hid'
    exact .inr ⟨sender, e, List.mem_of_find?_eq_some hfind, List.find?_some hfind,
      Function.update_same _ _ _⟩
  · exact .inl (by simp [htt, hid])

theorem handleMediateDeny_keeps {t : String} {sv : Service} {services : List Service}
    (hid : s.agent.identifiers t = some services) (hsv : sv ∈ services)
    (huniq : ∀ x ∈ services, x.id = sv.id → x = sv)
    (hnot : ∀ sender, referencesSender sender sv = false) :
    ∃ services', (final (handleMediateDeny s)).agent.identifiers t = some services' ∧
      sv ∈ services' := by
  rcases handleMediateDeny_identifiers s hid with h | ⟨sender, e, he, hmatch, h⟩
  · exact ⟨services, h, hsv⟩
  have hne : e.id ≠ sv.id := fun heq => by
    rw [huniq e he heq, hnot] at hmatch
    exact Bool.false_ne_true hmatch
  exact ⟨_, h, List.mem_filter.mpr ⟨hsv, by simpa using hne.symm⟩⟩

theorem handleMediateDeny_keeps_unreferenced {t : String} {services : List Service}
    (hid : s.agent.identifiers t = some services)
    (hnot : ∀ x ∈ services, ∀ sender, referencesSender sender x = false) :
    (final (handleMediateDeny s)).agent.identifiers t = some services := by
  rcases handleMediateDeny_identifiers s hid with h | ⟨sender, e, he, hmatch, -⟩
  · exact h
  · rw [hnot e he sender] at hmatch
    exact absurd hmatch Bool.false_ne_true

theorem keeps_handleMediateGrant : Within Keeps handleMediateGrant := by
  unfold handleMediateGrant
  refine within_bind (within_of_reads reads_getMessage) fun message => ?_
  repeat' split
  all_goals first
    | exact within_of_reads (reads_throw _)
    | refine within_bind (within_of_reads (reads_dataStoreGetMessage _)) fun _ => ?_
      split
      · exact within_bind (keeps_didManagerAddService _ _) fun _ => keeps_addMetaData _
      · exact within_of_reads (reads_pure _)

theorem keeps_handleMediateDeny : Within Keeps handleMediateDeny := by
  unfold handleMediateDeny
  refine within_bind (within_of_reads reads_getMessage) fun message => ?_
  repeat' split
  all_goals first
    | exact within_of_reads (reads_throw _)
    | refine within_bind (within_of_reads (reads_didManagerGet _)) fun _ => ?_
      split
      · exact keeps_didManagerRemoveService _ _
      · exact within_of_reads (reads_pure _)

end CoordinateMediationRecipientMessageHandler

end Veramo
