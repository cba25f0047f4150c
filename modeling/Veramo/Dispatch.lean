import Veramo.Registry

/-!
This module contains what the handler chain does with each coordinate-mediation message: which
handler takes it, whether a later handler sees it, and what a failing collaborator call leaves
behind. A recipient-update is taken by no handler: its handler throws on its first line, and the
message goes on to the end of the chain.
-/

namespace Veramo

open HandleM CoordinateMediationMediatorMessageHandler

/--
The mediator handler passes on every type but mediate-request, recipient-update included, and the
recipient handler every type but mediate-grant and mediate-deny. A mediate-request whose handling
throws is handed to the next handler in the state it threw in; one with `from` and `to` whose
response is packed and persisted is taken once, wherever the handler stands after handlers that
pass the type on, and the chain returns there. Every mediate-grant is taken the same way, and a
mediate-deny is handed on once it has been handled.
-/
theorem coordinateMediation_dispatch :
    (∀ type, type ≠ CoordinateMediation.mediateRequest.uri →
      PassesOn CoordinateMediationMediatorMessageHandler.handle type) ∧
    (∀ type, type ≠ CoordinateMediation.mediateGrant.uri →
      type ≠ CoordinateMediation.mediateDeny.uri →
        PassesOn CoordinateMediationRecipientMessageHandler.handle type) ∧
    (∀ (next : HandleM Unit) (s s' : Handling) (e : String),
      s.message.type = CoordinateMediation.mediateRequest.uri →
      handleMediateRequest s = .error e s' →
        CoordinateMediationMediatorMessageHandler.handle next s = next s') ∧
    (∀ (pre post : List Handler) (last : HandleM Unit) (s : Handling) (d t : String),
      (∀ h ∈ pre, PassesOn h CoordinateMediation.mediateRequest.uri) →
      s.message.type = CoordinateMediation.mediateRequest.uri →
      truthy s.message.sender = some d → truthy s.message.«to» = some t →
      s.agent.env.fails (.packDIDCommMessage (grant s d t)) = false →
      s.agent.env.fails (.dataStoreSaveMessage (storedResponse (grant s d t))) = false →
      runChain last (pre ++ CoordinateMediationMediatorMessageHandler.handle :: post) s =
        .ok () (granted s d t)) ∧
    (∀ (pre post : List Handler) (last : HandleM Unit) (s : Handling),
      (∀ h ∈ pre, PassesOn h CoordinateMediation.mediateGrant.uri) →
      s.message.type = CoordinateMediation.mediateGrant.uri →
      runChain last (pre ++ CoordinateMediationRecipientMessageHandler.handle :: post) s =
        .ok () (final (CoordinateMediationRecipientMessageHandler.handleMediateGrant s))) ∧
    (∀ (next : HandleM Unit) (s : Handling),
      s.message.type = CoordinateMediation.mediateDeny.uri →
      CoordinateMediationRecipientMessageHandler.handle next s =
        next (final (CoordinateMediationRecipientMessageHandler.handleMediateDeny s))) := by
  refine ⟨fun _ => handle_passesOn_of_ne,
    fun _ => CoordinateMediationRecipientMessageHandler.handle_passesOn,
    fun next s s' e hs he => ?thrown, ?request, ?grant,
    fun next s hs => CoordinateMediationRecipientMessageHandler.handle_of_mediateDeny s next hs⟩
  case thrown => rw [handle_of_mediateRequest s next hs, he]
  case request =>
    intro pre post last s d t hpre hs hd ht hp hsv
    rw [runChain_append_cons_of_passesOn hpre s hs, handle_mediateRequest_ok s _ hs hd ht hp hsv]
  case grant =>
    intro pre post last s hpre hs
    rw [runChain_append_cons_of_passesOn hpre s hs,
      CoordinateMediationRecipientMessageHandler.handle_of_mediateGrant s _ hs]

/--
A recipient-update from `alice`, whose DID the agent holds and whose mediation is granted, with
`from`, `to` and an update, goes past both handlers to the end of the chain as it was.
-/
theorem recipientUpdate_reaches_end_of_chain :
    ((Agent.init .reliable ["did:ex:alice"]).saveMediation "did:ex:alice" .granted).store.mediations
      "did:ex:alice" = some .granted ∧
    runChain unsupportedMessageType mediationHandlers
        ⟨(Agent.init .reliable ["did:ex:alice"]).saveMediation "did:ex:alice" .granted,
          aliceAddsBob⟩ =
      .error "unsupported_message_type"
        ⟨(Agent.init .reliable ["did:ex:alice"]).saveMediation "did:ex:alice" .granted,
          aliceAddsBob⟩ :=
  ⟨rfl, runChain_recipientUpdate mediationChain_mediationHandlers _ _ rfl⟩

/-! ### Failing collaborator calls of a mediate-request -/

/-- A mediate-request from `alice` to the mediator. -/
def aliceRequests : Message :=
  (createMediateRequestMessage "did:ex:alice" "did:ex:mediator" "request-1"
    "2024-01-01T00:00:00.000Z").toMessage

/-- The reliable environment, except that packing fails. -/
def Env.packingFails : Env :=
  { Env.reliable with
    fails := fun c => (match c with | .packDIDCommMessage _ => true | _ => false) }

/-- The reliable environment, except that saving a message fails. -/
def Env.savingFails : Env :=
  { Env.reliable with
    fails := fun c => (match c with | .dataStoreSaveMessage _ => true | _ => false) }

/--
When a collaborator call of `handleMediateRequest` fails, `handle` swallows the error and hands the
message to the rest of the chain: as it was when packing fails, and carrying the
`ReturnRouteResponse` entry when persisting the response fails. The store is left as it was.
-/
theorem handle_mediateRequest_failure (next : HandleM Unit) (s : Handling) {d t : String}
    (hs : s.message.type = CoordinateMediation.mediateRequest.uri)
    (hd : truthy s.message.sender = some d) (ht : truthy s.message.«to» = some t) :
    (s.agent.env.fails (.packDIDCommMessage (grant s d t)) = true →
      handle next s = next { s with agent.uuids := s.agent.uuids + 1 }) ∧
    (s.agent.env.fails (.packDIDCommMessage (grant s d t)) = false →
      s.agent.env.fails (.dataStoreSaveMessage (storedResponse (grant s d t))) = true →
      handle next s = next
        ⟨{ s.agent with uuids := s.agent.uuids + 1 },
          s.message.addMetaData (grantMetaData s d t)⟩) := by
  rw [handle_of_mediateRequest s next hs]
  exact ⟨fun hp => by rw [handleMediateRequest_pack_fails s hd ht hp],
    fun hp hsv => by rw [handleMediateRequest_save_fails s hd ht hp hsv]⟩

theorem handle_mediateRequest_failure_aliceRequests :
    handle unsupportedMessageType ⟨Agent.init .packingFails ["did:ex:mediator"], aliceRequests⟩ =
      unsupportedMessageType
        ⟨{ Agent.init .packingFails ["did:ex:mediator"] with uuids := 1 }, aliceRequests⟩ :=
  (handle_mediateRequest_failure unsupportedMessageType
    ⟨Agent.init .packingFails ["did:ex:mediator"], aliceRequests⟩ rfl rfl rfl).1 rfl

/--
When persisting the grant fails, the request goes down the chain with the `ReturnRouteResponse`
entry attached.
-/
theorem mediateRequest_save_failure_keeps_response :
    (final (runChain unsupportedMessageType mediationHandlers
      ⟨Agent.init .savingFails ["did:ex:mediator"], aliceRequests⟩)).message.hasMetaData
      "ReturnRouteResponse" = true := by
  decide

/-! ### The mediator's responses -/

theorem step_receive_mediateRequest {chain : List Handler} (hchain : MediationChain chain)
    (hmed : CoordinateMediationMediatorMessageHandler.handle ∈ chain) (a : Agent) (m : Message)
    {d t : String} (hs : m.type = CoordinateMediation.mediateRequest.uri)
    (hd : truthy m.sender = some d) (ht : truthy m.«to» = some t)
    (hp : a.env.fails (.packDIDCommMessage (grant ⟨a, m⟩ d t)) = false)
    (hsv : a.env.fails (.dataStoreSaveMessage (storedResponse (grant ⟨a, m⟩ d t))) = false) :
    step chain a (.receive m) = (granted ⟨a, m⟩ d t).agent := by
  obtain ⟨rest, h⟩ := runChain_eq_mediator_handle hchain hmed unsupportedMessageType ⟨a, m⟩
    (by rw [hs]; simp) (by rw [hs]; simp)
  simp only [step, h, handle_mediateRequest_ok ⟨a, m⟩ rest hs hd ht hp hsv, final_ok]

/-- Under a `DENY` policy and no default grant, a request from `alice` is granted all the same. -/
theorem mediateRequest_granted_under_deny_policy :
    (run mediationHandlers (Agent.init .reliable ["did:ex:mediator"])
      [.setMediateDefaultGrantAll false, .saveMediationPolicy "did:ex:alice" .deny,
        .receive aliceRequests]).store.messages "uuid-0" =
      some (storedResponse (createMediateGrantMessage "did:ex:alice" "did:ex:mediator"
        "request-1" "uuid-0" "2024-01-01T00:00:00.000Z")) ∧
    (run mediationHandlers (Agent.init .reliable ["did:ex:mediator"])
      [.setMediateDefaultGrantAll false, .saveMediationPolicy "did:ex:alice" .deny,
        .receive aliceRequests]).store.mediations "did:ex:alice" = none := by
  decide

/--
A recipient-update from a DID the mediator manages, with `return_route` set to `all`, comes back
with no `ReturnRouteResponse` entry, and no response is stored.
-/
theorem recipientUpdate_returns_no_response :
    aliceAddsBob.returnRoute = some "all" ∧
    (final (runChain unsupportedMessageType mediationHandlers
      ⟨Agent.init .reliable ["did:ex:alice"], aliceAddsBob⟩)).message.hasMetaData
      "ReturnRouteResponse" = false ∧
    (final (runChain unsupportedMessageType mediationHandlers
      ⟨Agent.init .reliable ["did:ex:alice"], aliceAddsBob⟩)).agent.store.messages =
      (Agent.init .reliable ["did:ex:alice"]).store.messages := by
  rw [runChain_recipientUpdate mediationChain_mediationHandlers _ _ rfl]
  exact ⟨rfl, rfl, rfl⟩

end Veramo
