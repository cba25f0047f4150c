import Veramo.Mediator
import Veramo.Recipient

/-!
This module contains the mediator agent as a state machine. An action is an operator's change to
the mediation settings, a message that arrives and goes down the handler chain, or the completion
of a registry call in flight, one that `handleRecipientUpdate` would issue past the line it throws
on. A run is any sequence of actions, so runs cover every interleaving of messages, settings and
completions. A relation that every handler body keeps holds down every chain of the two handlers
(`within_runChain`).

The operator's actions are the methods of `IMediationManager`, whose implementation is outside
src/: they are modelled from the spec's `setPolicy`, `removePolicy` and `setMediationStatus`.
-/

namespace Veramo

/-- What can happen to the agent next. -/
inductive Action where
  | saveMediationPolicy (did : String) (policy : MediationPolicy)
  | removeMediationPolicy (did : String)
  | saveMediation (did : String) (status : MediationStatus)
  | removeMediation (did : String)
  | setMediateDefaultGrantAll (value : Bool)
  | receive (message : Message)
  | complete (op : RecipientDidOp)

/-- A registry call completing in the environment `env`: it applies unless it fails. -/
def RecipientDidOp.settle (env : Env) (R : Registry) (op : RecipientDidOp) : Registry :=
  if env.fails (.recipientDid op) then R else (op.apply R).2

namespace Agent

/--
One of the issued registry calls completes: it leaves the pending calls and settles on the
registry. A call that is not pending completes nothing.
-/
def complete (a : Agent) (op : RecipientDidOp) : Agent :=
  if op ∈ a.pending then
    { a with
      pending := a.pending.erase op
      store.recipientDids := op.settle a.env a.store.recipientDids }
  else a

/-- Modelled from the spec: `setPolicy(did, policy)`, the last write wins. -/
def saveMediationPolicy (a : Agent) (did : String) (policy : MediationPolicy) : Agent :=
  { a with store.mediationPolicies := Function.update a.store.mediationPolicies did policy }

/-- Modelled from the spec: `removePolicy(did)`. -/
def removeMediationPolicy (a : Agent) (did : String) : Agent :=
  { a with store.mediationPolicies := Function.update a.store.mediationPolicies did none }

/-- Modelled from the spec: `setMediationStatus(did, status)`. -/
def saveMediation (a : Agent) (did : String) (status : MediationStatus) : Agent :=
  { a with store.mediations := Function.update a.store.mediations did status }

/-- Modelled from the spec: the removal of a DID's mediation status. -/
def removeMediation (a : Agent) (did : String) : Agent :=
  { a with store.mediations := Function.update a.store.mediations did none }

end Agent

/-- The agent after one action, with the handler chain `chain`. -/
def step (chain : List Handler) (a : Agent) : Action → Agent
  | .saveMediationPolicy did policy => a.saveMediationPolicy did policy
  | .removeMediationPolicy did => a.removeMediationPolicy did
  | .saveMediation did status => a.saveMediation did status
  | .removeMediation did => a.removeMediation did
  | .setMediateDefaultGrantAll value => { a with isMediateDefaultGrantAll := value }
  | .receive message =>
    (HandleM.final (runChain unsupportedMessageType chain ⟨a, message⟩)).agent
  | .complete op => a.complete op

/-- The agent after a run. -/
def run (chain : List Handler) (a : Agent) (actions : List Action) : Agent :=
  actions.foldl (step chain) a

@[simp] theorem run_nil (chain : List Handler) (a : Agent) : run chain a [] = a := rfl

@[simp] theorem run_cons (chain : List Handler) (a : Agent) (act : Action) (acts : List Action) :
    run chain a (act :: acts) = run chain (step chain a act) acts := rfl

theorem run_append (chain : List Handler) (a : Agent) (acts acts' : List Action) :
    run chain a (acts ++ acts') = run chain (run chain a acts) acts' :=
  List.foldl_append _ _ _ _

/-- The message an action delivers, if it delivers one. -/
def Action.message? : Action → Option Message
  | .receive m => some m
  | _ => none

/-- The messages a run delivers, in order. -/
def received (acts : List Action) : List Message := acts.filterMap Action.message?

theorem received_cons (act : Action) (acts : List Action) :
    received (act :: acts) = received [act] ++ received acts := by
  cases act <;> rfl

/-- The chain of the test agent, after the DIDComm handler: mediator first, then recipient. -/
def mediationHandlers : List Handler :=
  [CoordinateMediationMediatorMessageHandler.handle,
    CoordinateMediationRecipientMessageHandler.handle]

/-- A chain of the two coordinate-mediation handlers, each any number of times, in any order. -/
def MediationChain (chain : List Handler) : Prop :=
  ∀ h ∈ chain, h = CoordinateMediationMediatorMessageHandler.handle ∨
    h = CoordinateMediationRecipientMessageHandler.handle

theorem mediationChain_mediationHandlers : MediationChain mediationHandlers := by
  simp [MediationChain, mediationHandlers]

theorem runChain_eq_mediator_handle {chain : List Handler} (hchain : MediationChain chain)
    (hmed : CoordinateMediationMediatorMessageHandler.handle ∈ chain) (last : HandleM Unit)
    (s : Handling) (h1 : s.message.type ≠ CoordinateMediation.mediateGrant.uri)
    (h2 : s.message.type ≠ CoordinateMediation.mediateDeny.uri) :
    ∃ rest, runChain last chain s = CoordinateMediationMediatorMessageHandler.handle rest s := by
  induction chain with
  | nil => cases hmed
  | cons h hs ih =>
    rcases List.mem_cons.mp hmed with heq | hmem
    · exact ⟨_, by rw [runChain_cons, ← heq]⟩
    rcases hchain h (List.mem_cons_self h hs) with rfl | rfl
    · exact ⟨_, rfl⟩
    · rw [runChain_cons, CoordinateMediationRecipientMessageHandler.handle_passesOn h1 h2 _ s rfl]
      exact ih (fun h' hh' => hchain h' (List.mem_cons_of_mem _ hh')) hmem

theorem runChain_eq_recipient_handle {chain : List Handler} (hchain : MediationChain chain)
    (hrec : CoordinateMediationRecipientMessageHandler.handle ∈ chain) (last : HandleM Unit)
    (s : Handling) (h1 : s.message.type ≠ CoordinateMediation.mediateRequest.uri)
    (h2 : s.message.type ≠ CoordinateMediation.recipientUpdate.uri) :
    ∃ rest, runChain last chain s = CoordinateMediationRecipientMessageHandler.handle rest s := by
  induction chain with
  | nil => cases hrec
  | cons h hs ih =>
    rcases List.mem_cons.mp hrec with heq | hmem
    · exact ⟨_, by rw [runChain_cons, ← heq]⟩
    rcases hchain h (List.mem_cons_self h hs) with rfl | rfl
    · rw [runChain_cons, CoordinateMediationMediatorMessageHandler.handle_passesOn h1 h2 _ s rfl]
      exact ih (fun h' hh' => hchain h' (List.mem_cons_of_mem _ hh')) hmem
    · exact ⟨_, rfl⟩

/-! ## Down the chain -/

section Chain

open HandleM

variable {α : Type} {R : Handling → Handling → Prop} [IsTrans Handling R]

/-- Every run of `x` on a message of type `type` ends in a state that `R` relates to its start. -/
def WithinOn (type : String) (R : Handling → Handling → Prop) (x : HandleM α) : Prop :=
  ∀ s, s.message.type = type → R s (final (x s))

theorem within_mediator_handle
    (hreq : WithinOn CoordinateMediation.mediateRequest.uri R
      CoordinateMediationMediatorMessageHandler.handleMediateRequest)
    {next : HandleM Unit} (h : Within R next) :
    Within R (CoordinateMediationMediatorMessageHandler.handle next) := by
  open CoordinateMediationMediatorMessageHandler in
  intro s
  by_cases h₁ : s.message.type = CoordinateMediation.mediateRequest.uri
  · have hr := hreq s h₁
    rw [handle_of_mediateRequest s next h₁]
    cases hx : handleMediateRequest s with
    | ok _ s' => rw [hx] at hr; exact hr
    | error _ s' => rw [hx] at hr; exact IsTrans.trans _ _ _ hr (h s')
  · rw [handle_passesOn_of_ne h₁ next s rfl]
    exact h s

theorem within_recipient_handle
    (hgrant : WithinOn CoordinateMediation.mediateGrant.uri R
      CoordinateMediationRecipientMessageHandler.handleMediateGrant)
    (hdeny : WithinOn CoordinateMediation.mediateDeny.uri R
      CoordinateMediationRecipientMessageHandler.handleMediateDeny)
    {next : HandleM Unit} (h : Within R next) :
    Within R (CoordinateMediationRecipientMessageHandler.handle next) := by
  open CoordinateMediationRecipientMessageHandler in
  intro s
  by_cases h₁ : s.message.type = CoordinateMediation.mediateGrant.uri
  · rw [handle_of_mediateGrant s next h₁]
    exact hgrant s h₁
  by_cases h₂ : s.message.type = CoordinateMediation.mediateDeny.uri
  · rw [handle_of_mediateDeny s next h₂]
    exact IsTrans.trans _ _ _ (hdeny s h₂) (h _)
  · rw [handle_passesOn h₁ h₂ next s rfl]
    exact h s

/-- A relation that each handler body keeps on its own messages holds down any chain of the two. -/
theorem within_runChain {chain : List Handler} (hchain : MediationChain chain)
    (hreq : WithinOn CoordinateMediation.mediateRequest.uri R
      CoordinateMediationMediatorMessageHandler.handleMediateRequest)
    (hgrant : WithinOn CoordinateMediation.mediateGrant.uri R
      CoordinateMediationRecipientMessageHandler.handleMediateGrant)
    (hdeny : WithinOn CoordinateMediation.mediateDeny.uri R
      CoordinateMediationRecipientMessageHandler.handleMediateDeny)
    {last : HandleM Unit} (hlast : Within R last) : Within R (runChain last chain) := by
  induction chain with
  | nil => exact hlast
  | cons h hs ih =>
    have ih := ih fun h' hh' => hchain h' (List.mem_cons_of_mem h hh')
    rcases hchain h (List.mem_cons_self h hs) with rfl | rfl
    · exact within_mediator_handle hreq ih
    · exact within_recipient_handle hgrant hdeny ih

end Chain

end Veramo
