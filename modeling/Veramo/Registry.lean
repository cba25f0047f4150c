import Veramo.Run

/-!
This module contains what runs of the agent do to the recipient-did registry. The only handler
code that would touch it is `handleRecipientUpdate`, and that throws on its first line, where it
destructures `message.body`, which a `Message` does not have. So handling a message never writes
the registry and never issues a registry call: a recipient-update goes past every handler of the
chain to its end (`runChain_recipientUpdate`), and every run from a state with no registry call in
flight leaves the registry as it was (`registry_unchanged_by_runs`).
-/

namespace Veramo

open HandleM CoordinateMediationMediatorMessageHandler

theorem keeps_runChain {chain : List Handler} (hchain : MediationChain chain) :
    Within Keeps (runChain unsupportedMessageType chain) :=
  within_runChain hchain (fun s _ => keeps_handleMediateRequest s)
    (fun s _ => CoordinateMediationRecipientMessageHandler.keeps_handleMediateGrant s)
    (fun s _ => CoordinateMediationRecipientMessageHandler.keeps_handleMediateDeny s)
    (within_of_reads (reads_throw _))

theorem step_keeps_registry {chain : List Handler} (hchain : MediationChain chain) (a : Agent)
    (ha : a.pending = []) (act : Action) :
    (step chain a act).store.recipientDids = a.store.recipientDids ∧
      (step chain a act).pending = [] := by
  cases act with
  | receive m =>
    have hk := keeps_runChain hchain ⟨a, m⟩
    exact ⟨hk.recipientDids, hk.pending.trans ha⟩
  | complete op =>
    have hc : step chain a (.complete op) = a := if_neg (by rw [ha]; exact List.not_mem_nil op)
    rw [hc]
    exact ⟨rfl, ha⟩
  | _ => exact ⟨rfl, ha⟩

/--
Over every run of an agent whose chain is made of the two coordinate-mediation handlers, from a
state with no registry call in flight, the registry stays as it was and no call is ever in flight:
no recipient-update, whatever its sender's mediation status, adds or removes an entry.
-/
theorem registry_unchanged_by_runs {chain : List Handler} (hchain : MediationChain chain)
    (a : Agent) (ha : a.pending = []) (acts : List Action) :
    (run chain a acts).store.recipientDids = a.store.recipientDids ∧
      (run chain a acts).pending = [] := by
  induction acts generalizing a with
  | nil => exact ⟨rfl, ha⟩
  | cons act acts ih =>
    obtain ⟨hr, hp⟩ := step_keeps_registry hchain a ha act
    obtain ⟨hr', hp'⟩ := ih (step chain a act) hp
    exact ⟨hr'.trans hr, hp'⟩

/-- A recipient-update from `alice` to the mediator, adding `bob`. -/
def aliceAddsBob : Message :=
  (createRecipientUpdateMessage "did:ex:alice" "did:ex:mediator"
    [⟨"did:ex:bob", "add"⟩] "update-1" "2024-01-01T00:00:00.000Z").toMessage

theorem registry_unchanged_by_runs_aliceAddsBob :
    (Agent.init .reliable ["did:ex:alice"]).pending = [] ∧
    (run mediationHandlers (Agent.init .reliable ["did:ex:alice"])
        [.saveMediation "did:ex:alice" .granted, .receive aliceAddsBob]).store.recipientDids =
      (Agent.init .reliable ["did:ex:alice"]).store.recipientDids ∧
    (run mediationHandlers (Agent.init .reliable ["did:ex:alice"])
        [.saveMediation "did:ex:alice" .granted, .receive aliceAddsBob]).pending = [] :=
  ⟨rfl, registry_unchanged_by_runs mediationChain_mediationHandlers _ rfl _⟩

/-! ### A recipient-update down the chain -/

theorem runChain_recipientUpdate {chain : List Handler} (hchain : MediationChain chain)
    (last : HandleM Unit) (s : Handling)
    (hm : s.message.type = CoordinateMediation.recipientUpdate.uri) :
    runChain last chain s = last s := by
  have hpass : ∀ h ∈ chain, PassesOn h CoordinateMediation.recipientUpdate.uri := fun h hh => by
    rcases hchain h hh with rfl | rfl
    · exact handle_passesOn_recipientUpdate
    · exact CoordinateMediationRecipientMessageHandler.handle_passesOn (by simp) (by simp)
  have h : runChain last (chain ++ []) s = runChain last [] s :=
    runChain_append_of_passesOn hpass [] s hm
  rwa [List.append_nil] at h

theorem step_receive_recipientUpdate {chain : List Handler} (hchain : MediationChain chain)
    (a : Agent) (m : Message) (hm : m.type = CoordinateMediation.recipientUpdate.uri) :
    step chain a (.receive m) = a := by
  simp only [step, runChain_recipientUpdate hchain _ ⟨a, m⟩ hm, unsupportedMessageType,
    throw_apply, final_error]

theorem run_complete_of_pending_nil (chain : List Handler) {a : Agent} (ha : a.pending = [])
    (order : List RecipientDidOp) : run chain a (order.map .complete) = a := by
  induction order with
  | nil => rfl
  | cons op order ih =>
    have hc : step chain a (.complete op) = a := if_neg (by rw [ha]; exact List.not_mem_nil op)
    rw [List.map_cons, run_cons, hc, ih]

/-- Modelled from the spec's words: one step of the left fold; `add` inserts, `remove` deletes. -/
def applyUpdate (d : String) (R : Registry) (u : Update) : Registry :=
  if u.action = "add" then Function.update R (d, u.recipientDid) true
  else if u.action = "remove" then Function.update R (d, u.recipientDid) false
  else R

/-- Modelled from the spec's words: the left fold of `updates` over the registry `R`. -/
def foldUpdates (d : String) (updates : List Update) (R : Registry) : Registry :=
  updates.foldl (applyUpdate d) R

/--
`alice`, whose DID the agent holds and whose mediation is granted, sends a recipient-update that
adds `bob`. In whatever order registry calls then complete, the registry still lacks
`(alice, bob)`, which the left fold of the update's updates adds.
-/
theorem recipientUpdate_from_granted_sender_adds_nothing :
    (run mediationHandlers (Agent.init .reliable ["did:ex:alice"])
      [.saveMediation "did:ex:alice" .granted]).store.mediations "did:ex:alice" = some .granted ∧
    (∀ order : List RecipientDidOp,
      (run mediationHandlers (Agent.init .reliable ["did:ex:alice"])
        (.saveMediation "did:ex:alice" .granted :: .receive aliceAddsBob ::
          order.map .complete)).store.recipientDids ("did:ex:alice", "did:ex:bob") = false) ∧
    foldUpdates "did:ex:alice" [⟨"did:ex:bob", "add"⟩] (fun _ => false)
      ("did:ex:alice", "did:ex:bob") = true := by
  refine ⟨rfl, fun order => ?_, rfl⟩
  rw [run_cons, run_cons, step_receive_recipientUpdate mediationChain_mediationHandlers _ _ rfl,
    run_complete_of_pending_nil _ rfl]
  rfl

end Veramo
