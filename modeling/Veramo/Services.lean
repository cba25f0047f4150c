import Veramo.Dispatch

/-!
This module contains what the recipient handler does to the services of a DID document: the
mediator service that a grant installs, and the service that a deny looks for.
-/

namespace Veramo

open HandleM CoordinateMediationRecipientMessageHandler
open CoordinateMediationMediatorMessageHandler (grant granted storedResponse)

/--
`alice`'s answer to the grant that the mediator stored for her: a grant of her own, back to the
mediator, on the stored grant's thread, naming herself as the routing DID.
-/
def aliceForgesGrant : Message :=
  (createMediateGrantMessage "did:ex:mediator" "did:ex:alice" "uuid-0" "grant-1"
    "2024-01-01T00:00:00.000Z").toMessage

theorem step_receive_mediateGrant {chain : List Handler} (hchain : MediationChain chain)
    (hrec : handle ∈ chain) (a : Agent) (g : Message)
    (hg : g.type = CoordinateMediation.mediateGrant.uri) :
    step chain a (.receive g) = (final (handleMediateGrant ⟨a, g⟩)).agent := by
  obtain ⟨rest, h⟩ := runChain_eq_recipient_handle hchain hrec unsupportedMessageType ⟨a, g⟩
    (by rw [hg]; simp) (by rw [hg]; simp)
  simp only [step, h, handle_of_mediateGrant ⟨a, g⟩ rest hg, final_ok]

/--
An agent that grants a request from `x` to `t` takes `x`'s reply to the stored grant, a grant from
`x` to `t` on the stored grant's thread, for a grant of mediation to `t`: `t`'s document gets the
reply's routing DID as its mediator service, whatever services it had.
-/
theorem reply_to_grant_installs_mediator {chain : List Handler} (hchain : MediationChain chain)
    (hmed : CoordinateMediationMediatorMessageHandler.handle ∈ chain) (hrec : handle ∈ chain)
    (a : Agent) (m g : Message) {x t r : String} {services : List Service}
    (hs : m.type = CoordinateMediation.mediateRequest.uri) (hx : truthy m.sender = some x)
    (ht : truthy m.«to» = some t)
    (hp : a.env.fails (.packDIDCommMessage (grant ⟨a, m⟩ x t)) = false)
    (hsv : a.env.fails (.dataStoreSaveMessage (storedResponse (grant ⟨a, m⟩ x t))) = false)
    (hg : g.type = CoordinateMediation.mediateGrant.uri) (hgx : truthy g.sender = some x)
    (hgt : truthy g.«to» = some t) (hth : truthy g.threadId = some (grant ⟨a, m⟩ x t).id)
    (hb : g.data = some { routingDid := some [r] })
    (hget : a.env.fails (.dataStoreGetMessage (grant ⟨a, m⟩ x t).id) = false)
    (hadd : a.env.fails (.didManagerAddService t (mediatorService r)) = false)
    (hid : a.identifiers t = some services) :
    (run chain a [.receive m, .receive g]).identifiers t =
      some (withService services (mediatorService r)) := by
  rw [run_cons, run_cons, run_nil, step_receive_mediateRequest hchain hmed a m hs hx ht hp hsv,
    step_receive_mediateGrant hchain hrec _ g hg,
    handleMediateGrant_adds ⟨(granted ⟨a, m⟩ x t).agent, g⟩ hgx hgt hth hb rfl hget
      (Function.update_same _ _ _) ⟨rfl, rfl⟩ hadd hid]
  exact Function.update_same _ _ _

/--
After granting `alice`'s request, the mediator takes `alice`'s reply to its own grant for a grant
of mediation to itself, and adopts `alice` as its mediator.
-/
theorem forged_grant_installs_alice :
    (run mediationHandlers (Agent.init .reliable ["did:ex:mediator"])
      [.receive aliceRequests, .receive aliceForgesGrant]).identifiers "did:ex:mediator" =
      some [mediatorService "did:ex:alice"] :=
  reply_to_grant_installs_mediator mediationChain_mediationHandlers (by simp [mediationHandlers])
    (by simp [mediationHandlers]) (Agent.init .reliable ["did:ex:mediator"]) aliceRequests
    aliceForgesGrant rfl rfl rfl rfl rfl rfl rfl rfl rfl rfl rfl rfl rfl

/-- `bob`'s request to the mediator. -/
def bobRequests : Message :=
  (createMediateRequestMessage "did:ex:bob" "did:ex:mediator" "request-1"
    "2024-01-01T00:00:00.000Z").toMessage

/-- `bob`'s agent: its DID manager holds `bob`, and its store keeps the request `bob` sent. -/
def bobAgent : Agent :=
  { Agent.init .reliable ["did:ex:bob"] with
    store.messages := fun id => if id = "request-1" then some bobRequests else none }

/-- The mediator's grant of `bob`'s request. -/
def mediatorGrantsBob : Message :=
  (createMediateGrantMessage "did:ex:bob" "did:ex:mediator" "request-1" "grant-1"
    "2024-01-01T00:00:00.000Z").toMessage

/-- The mediator's deny, as the recipient handler receives it. -/
def mediatorDeniesBob : Message :=
  { id := "deny-1", type := CoordinateMediation.mediateDeny.uri, sender := some "did:ex:mediator",
    «to» := some "did:ex:bob", threadId := some "", data := some {} }

theorem step_receive_mediateDeny (a : Agent) (d : Message)
    (hd : d.type = CoordinateMediation.mediateDeny.uri) :
    step mediationHandlers a (.receive d) = (final (handleMediateDeny ⟨a, d⟩)).agent := by
  have hmed : PassesOn CoordinateMediationMediatorMessageHandler.handle d.type :=
    CoordinateMediationMediatorMessageHandler.handle_passesOn (by rw [hd]; simp) (by rw [hd]; simp)
  simp only [step, mediationHandlers, runChain_cons, runChain_nil, hmed _ ⟨a, d⟩ rfl,
    handle_of_mediateDeny ⟨a, d⟩ _ hd, unsupportedMessageType, throw_apply, final_error]

/--
Whatever services `t` had, once a grant has installed `mediatorService r` at `t`, a deny handled
on the state the grant left, from any sender, keeps that service; and where no service `t` had
references a sender, the deny leaves `t`'s services as the grant left them.
-/
theorem deny_after_grant_keeps_service (s : Handling) (deny : Message) {d t th r : String}
    {rs : List String} {body : Body} {p : Message} {services : List Service}
    (hd : truthy s.message.sender = some d) (ht : truthy s.message.«to» = some t)
    (hth : truthy s.message.threadId = some th) (hb : s.message.data = some body)
    (hr : body.routingDid = some (r :: rs))
    (hget : s.agent.env.fails (.dataStoreGetMessage th) = false)
    (hp : s.agent.store.messages th = some p) (hmatch : p.sender = some t ∧ p.«to» = some d)
    (hadd : s.agent.env.fails (.didManagerAddService t (mediatorService r)) = false)
    (hid : s.agent.identifiers t = some services) :
    ∃ services', (final (handleMediateDeny
        ⟨(final (handleMediateGrant s)).agent, deny⟩)).agent.identifiers t = some services' ∧
      mediatorService r ∈ services' ∧
      ((∀ x ∈ services, ∀ sender, referencesSender sender x = false) →
        services' = withService services (mediatorService r)) := by
  rw [handleMediateGrant_adds s hd ht hth hb hr hget hp hmatch hadd hid, final_ok]
  have hgranted : (⟨{ s.agent with
      identifiers := Function.update s.agent.identifiers t
        (some (withService services (mediatorService r))) }, deny⟩ : Handling).agent.identifiers t =
      some (withService services (mediatorService r)) := Function.update_same _ _ _
  obtain ⟨services', h, hmem⟩ := handleMediateDeny_keeps _ hgranted (mem_withService _ _)
    (fun _ hx h => eq_of_mem_withService hx h) (referencesSender_mediatorService · r)
  refine ⟨services', h, hmem, fun hnot => Option.some.inj ?_⟩
  rw [← h, handleMediateDeny_keeps_unreferenced _ hgranted fun x hx sender => ?_]
  rcases List.mem_append.mp hx with hx | hx
  · exact hnot x (List.mem_filter.mp hx).1 sender
  · rw [List.mem_singleton.mp hx, referencesSender_mediatorService]

/-- The mediator service that a grant installs survives the mediator's deny. -/
theorem deny_keeps_granted_service :
    (run mediationHandlers bobAgent [.receive mediatorGrantsBob]).identifiers "did:ex:bob" =
      some [mediatorService "did:ex:mediator"] ∧
    (run mediationHandlers bobAgent
      [.receive mediatorGrantsBob, .receive mediatorDeniesBob]).identifiers "did:ex:bob" =
      some [mediatorService "did:ex:mediator"] := by
  have hgrant := step_receive_mediateGrant mediationChain_mediationHandlers
    (by simp [mediationHandlers]) bobAgent mediatorGrantsBob rfl
  obtain ⟨services', h, -, heq⟩ := deny_after_grant_keeps_service ⟨bobAgent, mediatorGrantsBob⟩
    mediatorDeniesBob rfl rfl rfl rfl rfl rfl rfl ⟨rfl, rfl⟩ rfl rfl
  rw [heq (fun _ hx => absurd hx (List.not_mem_nil _))] at h
  refine ⟨?_, ?_⟩
  · rw [run_cons, run_nil, hgrant, handleMediateGrant_adds ⟨bobAgent, mediatorGrantsBob⟩
      rfl rfl rfl rfl rfl rfl rfl ⟨rfl, rfl⟩ rfl rfl, final_ok]
    rfl
  · rw [run_cons, run_cons, run_nil, hgrant, step_receive_mediateDeny _ _ rfl, h]
    rfl

end Veramo
