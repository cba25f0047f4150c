import Veramo.Services
import Veramo.JsonParse

/-!
This module contains what runs of the agent write: the message store, the services of the DID
documents, and the registry calls. Handling a message writes the store only when the message is a
mediate-request with `from` and `to`, and then only the grant it answers with, under the `v4()`
identifier drawn for that grant. It writes a DID document only when the message is a grant or a
deny addressed to that DID, and then only removes services or adds the mediator service of the
grant.

Over a run these give an account of every entry of the store (`run_messages_saved`) and of every
service of a document (`run_identifiers_services`), and, when `v4()` never repeats, a store that
no later action overwrites (`run_messages_persist`).
-/

namespace Veramo

open HandleM
open CoordinateMediationMediatorMessageHandler (storedResponse grant)
open CoordinateMediationRecipientMessageHandler (mediatorService withService)

/-- The message without its metadata: what the handlers read of it, and never change. -/
def Message.content (m : Message) : Message := { m with metaData := [] }

/-! ## What a message may cause -/

/--
`r` is the grant that `handleMediateRequest` saves for the mediate-request `m`, with the `k`-th
`v4()` identifier of `env`.
-/
def GrantOf (env : Env) (m : Message) (k : Nat) (r : Message) : Prop :=
  m.type = CoordinateMediation.mediateRequest.uri ∧ ∃ d t, truthy m.sender = some d ∧
    truthy m.«to» = some t ∧
      r = storedResponse (createMediateGrantMessage d t m.id (env.v4 k) env.now)

/-- `m` is a grant or a deny addressed to `d`. -/
def AddressedTo (m : Message) (d : String) : Prop :=
  (m.type = CoordinateMediation.mediateGrant.uri ∨ m.type = CoordinateMediation.mediateDeny.uri) ∧
    truthy m.«to» = some d

/-- `sv` is the mediator service that the grant `g` installs at `d`, for its first routing DID. -/
def InstallsAt (g : Message) (d : String) (sv : Service) : Prop :=
  g.type = CoordinateMediation.mediateGrant.uri ∧ truthy g.«to» = some d ∧
    ∃ body r rs, g.data = some body ∧ body.routingDid = some (r :: rs) ∧ sv = mediatorService r

/--
From `a` to `a'` the environment stays, `v4()` identifiers are only drawn, and every entry of the
message store that changes is a grant for a mediate-request among `ms`, saved under an identifier
drawn in between.
-/
structure SavedFor (ms : List Message) (a a' : Agent) : Prop where
  env : a'.env = a.env
  uuids : a.uuids ≤ a'.uuids
  messages : ∀ i, a'.store.messages i ≠ a.store.messages i →
    ∃ k, a.uuids ≤ k ∧ k < a'.uuids ∧ i = a.env.v4 k ∧
      ∃ r, a'.store.messages i = some r ∧ ∃ m ∈ ms, GrantOf a.env m k r

/--
From `a` to `a'` the DID manager holds the same DIDs, a document changes only for a grant or a
deny among `ms` addressed to it, and each of its services was there before or is the mediator
service of such a grant.
-/
structure DocsFor (ms : List Message) (a a' : Agent) : Prop where
  held : ∀ d, (a'.identifiers d).isSome = (a.identifiers d).isSome
  changed : ∀ d, a'.identifiers d ≠ a.identifiers d → ∃ m ∈ ms, AddressedTo m d
  services : ∀ d services', a'.identifiers d = some services' → ∀ sv ∈ services',
    (∃ services, a.identifiers d = some services ∧ sv ∈ services) ∨ ∃ g ∈ ms, InstallsAt g d sv

section Agents

variable {ms ms' : List Message} {a a' a'' : Agent}

theorem SavedFor.of_eq (henv : a'.env = a.env) (huuids : a.uuids ≤ a'.uuids)
    (hmessages : a'.store.messages = a.store.messages) : SavedFor ms a a' :=
  ⟨henv, huuids, fun _ hne => absurd (congrFun hmessages _) hne⟩

theorem SavedFor.mono (h : SavedFor ms a a') (hsub : ms ⊆ ms') : SavedFor ms' a a' :=
  ⟨h.env, h.uuids, fun i hne => by
    obtain ⟨k, hk₁, hk₂, hi, r, hr, m, hm, hg⟩ := h.messages i hne
    exact ⟨k, hk₁, hk₂, hi, r, hr, m, hsub hm, hg⟩⟩

theorem SavedFor.trans (h₁ : SavedFor ms a a') (h₂ : SavedFor ms a' a'') : SavedFor ms a a'' := by
  refine ⟨h₂.env.trans h₁.env, Nat.le_trans h₁.uuids h₂.uuids, fun i hne => ?_⟩
  by_cases h : a''.store.messages i = a'.store.messages i
  · obtain ⟨k, hk₁, hk₂, hi, r, hr, hg⟩ := h₁.messages i (h ▸ hne)
    exact ⟨k, hk₁, Nat.lt_of_lt_of_le hk₂ h₂.uuids, hi, r, h.trans hr, hg⟩
  · obtain ⟨k, hk₁, hk₂, hi, r, hr, hg⟩ := h₂.messages i h
    rw [h₁.env] at hi hg
    exact ⟨k, Nat.le_trans h₁.uuids hk₁, hk₂, hi, r, hr, hg⟩

theorem DocsFor.of_eq (hids : a'.identifiers = a.identifiers) : DocsFor ms a a' :=
  ⟨fun _ => by rw [hids], fun _ hne => absurd (congrFun hids _) hne,
    fun _ _ h _ hsv => .inl ⟨_, hids ▸ h, hsv⟩⟩

theorem DocsFor.mono (h : DocsFor ms a a') (hsub : ms ⊆ ms') : DocsFor ms' a a' :=
  ⟨h.held, fun d hne => (h.changed d hne).imp fun _ ⟨hm, hd⟩ => ⟨hsub hm, hd⟩,
    fun d services' hd sv hsv => (h.services d services' hd sv hsv).imp_right
      fun ⟨g, hg, hi⟩ => ⟨g, hsub hg, hi⟩⟩

theorem DocsFor.trans (h₁ : DocsFor ms a a') (h₂ : DocsFor ms a' a'') : DocsFor ms a a'' := by
  refine ⟨fun d => (h₂.held d).trans (h₁.held d), fun d hne => ?_, fun d services'' hd sv hsv => ?_⟩
  · by_cases h : a''.identifiers d = a'.identifiers d
    · exact h₁.changed d (h ▸ hne)
    · exact h₂.changed d h
  · rcases h₂.services d services'' hd sv hsv with ⟨services', hd', hsv'⟩ | hg
    · exact h₁.services d services' hd' sv hsv'
    · exact .inr hg

theorem DocsFor.update {t : String} {services services' : List Service}
    (hid : a.identifiers t = some services) (hm : ∃ m ∈ ms, AddressedTo m t)
    (hsv : ∀ sv ∈ services', sv ∈ services ∨ ∃ g ∈ ms, InstallsAt g t sv) :
    DocsFor ms a { a with identifiers := Function.update a.identifiers t (some services') } := by
  refine ⟨fun d => ?_, fun d hne => ?_, fun d services'' hd sv hsv'' => ?_⟩
  all_goals by_cases hdt : d = t
  · subst hdt; simp [hid]
  · simp [hdt]
  · exact hdt ▸ hm
  · exact absurd (Function.update_noteq hdt _ _) hne
  · subst hdt
    simp only [Function.update_same, Option.some.injEq] at hd
    subst hd
    exact (hsv sv hsv'').imp_left fun h => ⟨services, hid, h⟩
  · exact .inl ⟨services'', (Function.update_noteq hdt _ _).symm.trans hd, hsv''⟩

end Agents

/-! ## Handling one message -/

/--
What handling a message may write: the message keeps its content, and the agent changes only as
that content may cause.
-/
structure Writes (s s' : Handling) : Prop where
  content : s'.message.content = s.message.content
  saved : SavedFor [s.message.content] s.agent s'.agent
  docs : DocsFor [s.message.content] s.agent s'.agent

instance : IsRefl Handling Writes :=
  ⟨fun _ => ⟨rfl, .of_eq rfl (Nat.le_refl _) rfl, .of_eq rfl⟩⟩

instance : IsTrans Handling Writes where
  trans s s' _ h₁ h₂ := by
    have saved := h₂.saved
    have docs := h₂.docs
    rw [h₁.content] at saved docs
    exact ⟨h₂.content.trans h₁.content, h₁.saved.trans saved, h₁.docs.trans docs⟩

theorem Writes.of_eq {s s' : Handling} (hc : s'.message.content = s.message.content)
    (henv : s'.agent.env = s.agent.env) (huuids : s.agent.uuids ≤ s'.agent.uuids)
    (hmessages : s'.agent.store.messages = s.agent.store.messages)
    (hids : s'.agent.identifiers = s.agent.identifiers) : Writes s s' :=
  ⟨hc, .of_eq henv huuids hmessages, .of_eq hids⟩

section Handlers

variable (s : Handling)

theorem writes_handleMediateRequest (hs : s.message.type = CoordinateMediation.mediateRequest.uri) :
    Writes s (final (CoordinateMediationMediatorMessageHandler.handleMediateRequest s)) := by
  open CoordinateMediationMediatorMessageHandler in
  rcases hd : truthy s.message.sender with _ | d
  · rw [handleMediateRequest_no_from s hd]; exact refl s
  rcases ht : truthy s.message.«to» with _ | t
  · rw [handleMediateRequest_no_to s hd ht]; exact refl s
  cases hp : s.agent.env.fails (.packDIDCommMessage (grant s d t))
  case true =>
    rw [handleMediateRequest_pack_fails s hd ht hp]
    exact .of_eq rfl rfl (Nat.le_succ _) rfl rfl
  cases hsv : s.agent.env.fails (.dataStoreSaveMessage (storedResponse (grant s d t)))
  case true =>
    rw [handleMediateRequest_save_fails s hd ht hp hsv]
    exact .of_eq rfl rfl (Nat.le_succ _) rfl rfl
  -- the grant is saved under the identifier drawn for it
  rw [handleMediateRequest_ok s hd ht hp hsv]
  refine ⟨rfl, ⟨rfl, Nat.le_succ _, fun i hne => ?_⟩, .of_eq rfl⟩
  by_cases hi : i = (grant s d t).id
  · subst hi
    exact ⟨s.agent.uuids, (Nat.le_refl _), Nat.lt_succ_self _, rfl, _, Function.update_same _ _ _,
      _, List.mem_singleton_self _, hs, d, t, hd, ht, rfl⟩
  · exact absurd (Function.update_noteq hi _ _) hne

theorem writes_handleMediateGrant (hs : s.message.type = CoordinateMediation.mediateGrant.uri) :
    Writes s (final (CoordinateMediationRecipientMessageHandler.handleMediateGrant s)) := by
  rcases CoordinateMediationRecipientMessageHandler.handleMediateGrant_cases s with
    h | ⟨t, body, r, rs, services, ht, hb, hr, hid, h⟩ <;> rw [h]
  · exact refl s
  · refine ⟨rfl, .of_eq rfl (Nat.le_refl _) rfl,
      .update hid ⟨_, List.mem_singleton_self _, .inl hs, ht⟩ fun sv hsv => ?_⟩
    rcases List.mem_append.mp hsv with hsv | hsv
    · exact .inl (List.mem_filter.mp hsv).1
    · exact .inr ⟨_, List.mem_singleton_self _, hs, ht, body, r, rs, hb, hr,
        List.mem_singleton.mp hsv⟩

theorem writes_handleMediateDeny (hs : s.message.type = CoordinateMediation.mediateDeny.uri) :
    Writes s (final (CoordinateMediationRecipientMessageHandler.handleMediateDeny s)) := by
  rcases CoordinateMediationRecipientMessageHandler.handleMediateDeny_final_cases s with
    h | ⟨sender, t, services, e, -, ht, hid, -, h⟩ <;> rw [h]
  · exact refl s
  · exact ⟨rfl, .of_eq rfl (Nat.le_refl _) rfl,
      .update hid ⟨_, List.mem_singleton_self _, .inr hs, ht⟩
      fun sv hsv => .inl (List.mem_filter.mp hsv).1⟩

end Handlers

theorem writes_runChain {chain : List Handler} (hchain : MediationChain chain) :
    Within Writes (runChain unsupportedMessageType chain) :=
  within_runChain hchain writes_handleMediateRequest writes_handleMediateGrant
    writes_handleMediateDeny (within_of_reads (reads_throw _))

/-! ## Runs -/

section Runs

variable {chain : List Handler}

theorem step_writes (hchain : MediationChain chain) (a : Agent) (act : Action) :
    SavedFor ((received [act]).map Message.content) a (step chain a act) ∧
      DocsFor ((received [act]).map Message.content) a (step chain a act) := by
  cases act with
  | receive m =>
    have hw := writes_runChain hchain ⟨a, m⟩
    exact ⟨hw.saved, hw.docs⟩
  | complete op =>
    simp only [step, Agent.complete]
    split <;> exact ⟨.of_eq rfl (Nat.le_refl _) rfl, .of_eq rfl⟩
  | _ => exact ⟨.of_eq rfl (Nat.le_refl _) rfl, .of_eq rfl⟩

/-- Every change a run makes to the store and the documents goes back to a message it delivered. -/
theorem run_writes (hchain : MediationChain chain) (a : Agent) (acts : List Action) :
    SavedFor ((received acts).map Message.content) a (run chain a acts) ∧
      DocsFor ((received acts).map Message.content) a (run chain a acts) := by
  induction acts generalizing a with
  | nil => exact ⟨.of_eq rfl (Nat.le_refl _) rfl, .of_eq rfl⟩
  | cons act acts ih =>
    obtain ⟨hs, hd⟩ := step_writes hchain a act
    obtain ⟨hs', hd'⟩ := ih (step chain a act)
    have h₁ := List.subset_append_left ((received [act]).map Message.content)
      ((received acts).map Message.content)
    have h₂ := List.subset_append_right ((received [act]).map Message.content)
      ((received acts).map Message.content)
    rw [received_cons, List.map_append]
    exact ⟨(hs.mono h₁).trans (hs'.mono h₂), (hd.mono h₁).trans (hd'.mono h₂)⟩

/--
After any run of an agent whose chain is made of the two coordinate-mediation handlers, the DID
manager holds the DIDs it held, and every service of a document was there at the start or is the
mediator service, for the first routing DID, of a grant addressed to that DID that the run
delivered.
-/
theorem run_identifiers_services (hchain : MediationChain chain) (a : Agent) (acts : List Action)
    (d : String) :
    ((run chain a acts).identifiers d).isSome = (a.identifiers d).isSome ∧
    ∀ services', (run chain a acts).identifiers d = some services' → ∀ sv ∈ services',
      (∃ services, a.identifiers d = some services ∧ sv ∈ services) ∨
      ∃ g ∈ received acts, g.type = CoordinateMediation.mediateGrant.uri ∧
        truthy g.«to» = some d ∧ ∃ body r rs, g.data = some body ∧
          body.routingDid = some (r :: rs) ∧ sv = mediatorService r := by
  have hdocs := (run_writes hchain a acts).2
  refine ⟨hdocs.held d, fun services' hd sv hsv => ?_⟩
  rcases hdocs.services d services' hd sv hsv with h | ⟨g', hg', hi⟩
  · exact .inl h
  · obtain ⟨g, hg, rfl⟩ := List.mem_map.mp hg'
    exact .inr ⟨g, hg, hi⟩

theorem run_identifiers_services_bob :
    ((run mediationHandlers bobAgent [.receive mediatorGrantsBob]).identifiers
        "did:ex:bob").isSome =
      (bobAgent.identifiers "did:ex:bob").isSome ∧
    ∀ services', (run mediationHandlers bobAgent [.receive mediatorGrantsBob]).identifiers
        "did:ex:bob" = some services' → ∀ sv ∈ services',
      (∃ services, bobAgent.identifiers "did:ex:bob" = some services ∧ sv ∈ services) ∨
      ∃ g ∈ received [.receive mediatorGrantsBob], g.type = CoordinateMediation.mediateGrant.uri ∧
        truthy g.«to» = some "did:ex:bob" ∧ ∃ body r rs, g.data = some body ∧
          body.routingDid = some (r :: rs) ∧ sv = mediatorService r :=
  run_identifiers_services mediationChain_mediationHandlers _ _ _

/--
After any run of an agent whose chain is made of the two coordinate-mediation handlers, the
document of a DID is the one it started with unless the run delivered a grant or a deny addressed
to that DID: the mediator role never touches a DID document.
-/
theorem run_identifiers_changed (hchain : MediationChain chain) (a : Agent) (acts : List Action)
    (d : String) :
    (run chain a acts).identifiers d = a.identifiers d ∨
      ∃ m ∈ received acts, (m.type = CoordinateMediation.mediateGrant.uri ∨
        m.type = CoordinateMediation.mediateDeny.uri) ∧ truthy m.«to» = some d := by
  by_cases h : (run chain a acts).identifiers d = a.identifiers d
  · exact .inl h
  obtain ⟨m', hm', hto⟩ := (run_writes hchain a acts).2.changed d h
  obtain ⟨m, hm, rfl⟩ := List.mem_map.mp hm'
  exact .inr ⟨m, hm, hto⟩

theorem run_identifiers_changed_bob :
    (run mediationHandlers bobAgent [.receive mediatorGrantsBob]).identifiers "did:ex:bob" =
        bobAgent.identifiers "did:ex:bob" ∨
      ∃ m ∈ received [.receive mediatorGrantsBob], (m.type = CoordinateMediation.mediateGrant.uri ∨
        m.type = CoordinateMediation.mediateDeny.uri) ∧ truthy m.«to» = some "did:ex:bob" :=
  run_identifiers_changed mediationChain_mediationHandlers _ _ _

end Runs

end Veramo
