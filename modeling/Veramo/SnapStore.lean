import Veramo.JsonParse

/-!
This module contains `SnapLocalStorageStore` as it persists its cache. `notifyUpdate` starts a
`save` that nobody awaits, and `save` is a read-modify-write of the whole snap state through two
`snap_manageState` requests, a `get` and then an `update`. Stores with different keys share the
one snap state. The snap serves requests one at a time in any order, so a run is any interleaving
of notifications and served requests.

Over every interleaving, the state under a key is the one the run started from or the text of one
save under that key (`Written`), so a later `load` finds one whole cache; and once notifications
stop, every order of serves completes every save, each serve taking one off `remaining`.
-/

namespace Veramo

/-- The snap's managed state, `Record<string, Json>`; no state at all reads as `{}`. -/
abbrev SnapState := String → Option Json

/-- A `SnapLocalStorageStore`: its key in the snap state, and its seven tables. -/
structure SnapLocalStorageStore where
  localStorageKey : String
  dids : Json
  keys : Json
  privateKeys : Json
  credentials : Json
  claims : Json
  presentations : Json
  messages : Json

namespace SnapLocalStorageStore

/-- A `snap_manageState` request that a `save` has issued and the snap has not served yet. -/
inductive Request where
  /-- The `get` of `getSnapState`, by the `save` of `newState` on the store at `localStorageKey`. -/
  | get (localStorageKey : String) (newState : Json)
  /-- The `update` to `newState`. -/
  | update (newState : SnapState)

/-- The shared snap: its state, and the requests in flight in the order they were issued. -/
structure Snap where
  state : SnapState
  inFlight : List Request

/-- `{ ...snapState, [localStorageKey]: JSON.stringify(newState) }`. -/
def saved (snapState : SnapState) (localStorageKey : String) (newState : Json) : SnapState :=
  Function.update snapState localStorageKey (some (.str newState.stringify))

/-- `notifyUpdate(_, newState)`: `save(newState)` starts and issues its `get`. -/
def notifyUpdate (localStorageKey : String) (newState : Json) (snap : Snap) : Snap :=
  { snap with inFlight := snap.inFlight ++ [.get localStorageKey newState] }

/--
The snap serves the request at position `i`. Once its `get` is served, `save` resumes and issues
its `update` at once.
-/
def serve (i : Nat) (snap : Snap) : Snap :=
  match snap.inFlight[i]? with
  | some (.get localStorageKey newState) =>
    { snap with
      inFlight :=
        snap.inFlight.eraseIdx i ++ [.update (saved snap.state localStorageKey newState)] }
  | some (.update newState) => { state := newState, inFlight := snap.inFlight.eraseIdx i }
  | none => snap

/-- What can happen next: a store is notified, or the snap serves a request. -/
inductive Event where
  | notifyUpdate (localStorageKey : String) (newState : Json)
  | serve (i : Nat)

def step (snap : Snap) : Event → Snap
  | .notifyUpdate localStorageKey newState => notifyUpdate localStorageKey newState snap
  | .serve i => serve i snap

def run (snap : Snap) (events : List Event) : Snap := events.foldl step snap

@[simp] theorem run_nil (snap : Snap) : run snap [] = snap := rfl

theorem run_append (snap : Snap) (es es' : List Event) :
    run snap (es ++ es') = run (run snap es) es' :=
  List.foldl_append _ _ _ _

/-- The schedule in which every `save` is served to the end before the next notification. -/
def awaited (calls : List (String × Json)) : List Event :=
  calls.flatMap fun (localStorageKey, newState) =>
    [.notifyUpdate localStorageKey newState, .serve 0, .serve 0]

theorem run_save (S : SnapState) (localStorageKey : String) (newState : Json) :
    run ⟨S, []⟩ [.notifyUpdate localStorageKey newState, .serve 0, .serve 0] =
      ⟨saved S localStorageKey newState, []⟩ := rfl

/-- When every `save` is awaited, the snap state is the saves applied in order. -/
theorem run_awaited (S : SnapState) (calls : List (String × Json)) :
    run ⟨S, []⟩ (awaited calls) =
      ⟨calls.foldl (fun S call => saved S call.1 call.2) S, []⟩ := by
  induction calls generalizing S with
  | nil => rfl
  | cons call calls ih =>
    rw [awaited, List.flatMap_cons, ← awaited, run_append, run_save, ih]
    rfl

/--
Two stores notified one after the other: both `get`s are served before either `update`, and the
second `update` writes back the state the second `get` read, without the first store's cache.
-/
theorem concurrent_saves_lose_update :
    (run ⟨fun _ => none, []⟩
      [.notifyUpdate "a" (.obj []), .notifyUpdate "b" (.obj []), .serve 0, .serve 0, .serve 0,
        .serve 0]).inFlight.isEmpty = true ∧
    ((run ⟨fun _ => none, []⟩
      [.notifyUpdate "a" (.obj []), .notifyUpdate "b" (.obj []), .serve 0, .serve 0, .serve 0,
        .serve 0]).state "a").isNone = true ∧
    ((run ⟨fun _ => none, []⟩
      [.notifyUpdate "a" (.obj []), .notifyUpdate "b" (.obj []), .serve 0, .serve 0, .serve 0,
        .serve 0]).state "b").isSome = true := by
  decide

/-! ## Loading -/

mutual

/-- `String(j)`: the text JavaScript makes of a JSON value. -/
def jsString : Json → String
  | .null => "null"
  | .bool b => toString b
  | .num n => n.toString
  | .str s => s
  | .arr xs => jsJoin xs
  | .obj _ => "[object Object]"

/-- `xs.join(",")`: a `null` element is the empty string. -/
def jsJoin : List Json → String
  | [] => ""
  | [.null] => ""
  | [x] => jsString x
  | .null :: xs => "," ++ jsJoin xs
  | x :: xs => jsString x ++ "," ++ jsJoin xs

end

/--
`JSON.parse(rawCache?.toString() || '{}')`, with a parse error caught as `{}`. The
optional call stops at a missing or `null` value.
-/
def readCache (rawCache : Option Json) : Json :=
  let text := match rawCache with
    | none | some .null => "\x7b\x7d"
    | some j => if jsString j = "" then "\x7b\x7d" else jsString j
  (Json.parse text).getD (.obj [])

/-- A property of `{ dids: {}, keys: {}, ..., ...cache }`: the cache's own, else `{}`. -/
def withDefault (cache : Json) (table : String) : Json :=
  match cache with
  | .obj kvs => (Json.get? kvs table).getD (.obj [])
  | _ => .obj []

/-- `new SnapLocalStorageStore(localStorageKey)`: every table empty. -/
def new (localStorageKey : String) : SnapLocalStorageStore :=
  ⟨localStorageKey, .obj [], .obj [], .obj [], .obj [], .obj [], .obj [], .obj []⟩

/-- `load()`, once its `getSnapState()` has returned `snapState`. -/
def load (store : SnapLocalStorageStore) (snapState : SnapState) : SnapLocalStorageStore :=
  let cache := readCache (snapState store.localStorageKey)
  { store with
    dids := withDefault cache "dids"
    keys := withDefault cache "keys"
    credentials := withDefault cache "credentials"
    claims := withDefault cache "claims"
    presentations := withDefault cache "presentations"
    messages := withDefault cache "messages"
    privateKeys := withDefault cache "privateKeys" }

/-- `fromLocalStorage(localStorageKey)`, the `get` of its `load` served with `snapState`. -/
def fromLocalStorage (localStorageKey : String) (snapState : SnapState) : SnapLocalStorageStore :=
  load (new localStorageKey) snapState

/-- The seven tables of a `VeramoJsonCache`. -/
inductive Table where
  | dids | keys | privateKeys | credentials | claims | presentations | messages

/-- A table's property name. -/
def Table.name : Table → String
  | .dids => "dids"
  | .keys => "keys"
  | .privateKeys => "privateKeys"
  | .credentials => "credentials"
  | .claims => "claims"
  | .presentations => "presentations"
  | .messages => "messages"

/-- A store's table. -/
def table (store : SnapLocalStorageStore) : Table → Json
  | .dids => store.dids
  | .keys => store.keys
  | .privateKeys => store.privateKeys
  | .credentials => store.credentials
  | .claims => store.claims
  | .presentations => store.presentations
  | .messages => store.messages

theorem readCache_saved (cache : Json) :
    readCache (some (.str cache.stringify)) = cache := by
  have hne : cache.stringify ≠ "" := fun h => by
    obtain ⟨c, cs, e, -⟩ := Json.stringify_head cache
    rw [h] at e
    cases e
  simp only [readCache, jsString, if_neg hne, Json.parse_stringify, Option.getD_some]

theorem table_fromLocalStorage (localStorageKey : String) (S : SnapState) (t : Table) :
    table (fromLocalStorage localStorageKey S) t =
      withDefault (readCache (S localStorageKey)) t.name := by
  cases t <;> rfl

theorem withDefault_of_mem {cache : List (String × Json)} (hnames : (cache.map Prod.fst).Nodup)
    {name : String} {v : Json} (hm : (name, v) ∈ cache) : withDefault (.obj cache) name = v := by
  rw [withDefault, Json.get?_of_mem hnames hm, Option.getD_some]

theorem withDefault_of_not_mem {cache : List (String × Json)} {name : String}
    (h : name ∉ cache.map Prod.fst) : withDefault (.obj cache) name = .obj [] := by
  rw [withDefault, Json.get?_of_not_mem h, Option.getD_none]

/--
A `save` of a cache object with distinct names runs alone, and a store then loads from the same
key: each table of the cache is the store's, a table the cache lacks is an empty object, and the
snap state under every other key is as it was.
-/
theorem fromLocalStorage_after_save (σ : SnapState) (localStorageKey : String)
    (cache : List (String × Json)) (hnames : (cache.map Prod.fst).Nodup) :
    (run ⟨σ, []⟩ [.notifyUpdate localStorageKey (.obj cache), .serve 0, .serve 0]).inFlight = [] ∧
    (∀ (t : Table) (v : Json), (t.name, v) ∈ cache → table (fromLocalStorage localStorageKey
      (run ⟨σ, []⟩ [.notifyUpdate localStorageKey (.obj cache), .serve 0, .serve 0]).state) t =
        v) ∧
    (∀ t : Table, t.name ∉ cache.map Prod.fst → table (fromLocalStorage localStorageKey
      (run ⟨σ, []⟩ [.notifyUpdate localStorageKey (.obj cache), .serve 0, .serve 0]).state) t =
        .obj []) ∧
    ∀ k, k ≠ localStorageKey →
      (run ⟨σ, []⟩ [.notifyUpdate localStorageKey (.obj cache), .serve 0, .serve 0]).state k =
        σ k := by
  have hcache : readCache (saved σ localStorageKey (.obj cache) localStorageKey) = .obj cache := by
    rw [saved, Function.update_same, readCache_saved]
  rw [run_save]
  refine ⟨rfl, fun t v hv => ?_, fun t ht => ?_, fun k hk => Function.update_noteq hk _ _⟩ <;>
    rw [table_fromLocalStorage, hcache]
  · exact withDefault_of_mem hnames hv
  · exact withDefault_of_not_mem ht

/-- A cache with a `dids` table that holds a fraction, and an empty `messages` table. -/
def aliceCache : List (String × Json) :=
  [("dids", .obj [("did:ex:alice", .num ⟨false, 15, -1, by decide⟩)]), ("messages", .arr [])]

theorem fromLocalStorage_after_save_aliceCache :
    (aliceCache.map Prod.fst).Nodup ∧
    (∀ (t : Table) (v : Json), (t.name, v) ∈ aliceCache →
      table (fromLocalStorage "veramo-state" (run ⟨fun _ => none, []⟩
        [.notifyUpdate "veramo-state" (.obj aliceCache), .serve 0, .serve 0]).state) t = v) :=
  ⟨by decide, (fromLocalStorage_after_save _ "veramo-state" aliceCache (by decide)).2.1⟩

/-! ## Every interleaving -/

/-- The save a notification starts: its store's key and the state it writes. -/
def Event.notified? : Event → Option (String × Json)
  | .notifyUpdate localStorageKey newState => some (localStorageKey, newState)
  | .serve _ => none

/-- The saves a run starts, in order. -/
def notified (events : List Event) : List (String × Json) := events.filterMap Event.notified?

theorem notified_cons (e : Event) (es : List Event) :
    notified (e :: es) = (Event.notified? e).toList ++ notified es := by
  cases e <;> rfl

theorem mem_notified {events : List Event} {localStorageKey : String} {newState : Json} :
    (localStorageKey, newState) ∈ notified events ↔
      Event.notifyUpdate localStorageKey newState ∈ events := by
  simp only [notified, List.mem_filterMap]
  constructor
  · rintro ⟨e, he, hn⟩
    cases e with
    | notifyUpdate k n => cases hn; exact he
    | serve _ => cases hn
  · exact fun h => ⟨_, h, rfl⟩

section Written

variable (S₀ : SnapState) (saves : List (String × Json))

/-- A value the snap may hold at `key`: the one it started from, or the text of a save of `key`. -/
def Allowed (key : String) (v : Option Json) : Prop :=
  v = S₀ key ∨ ∃ newState, (key, newState) ∈ saves ∧ v = some (.str newState.stringify)

/-- A request in flight that keeps to the saves: a `get` of one of them, or an `update` that
writes allowed values only. -/
def Request.Allowed : Request → Prop
  | .get localStorageKey newState => (localStorageKey, newState) ∈ saves
  | .update newState => ∀ key, SnapLocalStorageStore.Allowed S₀ saves key (newState key)

/-- Every value of the snap state, and every `update` in flight, comes from the start or a save. -/
structure Written (snap : Snap) : Prop where
  state : ∀ key, Allowed S₀ saves key (snap.state key)
  inFlight : ∀ r ∈ snap.inFlight, r.Allowed S₀ saves

variable {S₀ saves}

theorem Allowed.mono {saves' : List (String × Json)} (hsub : saves ⊆ saves') {key : String}
    {v : Option Json} (h : Allowed S₀ saves key v) : Allowed S₀ saves' key v :=
  h.imp_right fun ⟨n, hn, hv⟩ => ⟨n, hsub hn, hv⟩

theorem Request.Allowed.mono {saves' : List (String × Json)} (hsub : saves ⊆ saves') :
    ∀ {r : Request}, r.Allowed S₀ saves → r.Allowed S₀ saves'
  | .get _ _, h => hsub h
  | .update _, h => fun key => (h key).mono hsub

theorem Written.mono {saves' : List (String × Json)} (hsub : saves ⊆ saves') {snap : Snap}
    (h : Written S₀ saves snap) : Written S₀ saves' snap :=
  ⟨fun key => (h.state key).mono hsub, fun r hr => (h.inFlight r hr).mono hsub⟩

theorem allowed_saved {S : SnapState} (hS : ∀ key, Allowed S₀ saves key (S key))
    {localStorageKey : String} {newState : Json} (hn : (localStorageKey, newState) ∈ saves)
    (key : String) : Allowed S₀ saves key (saved S localStorageKey newState key) := by
  by_cases hk : key = localStorageKey
  · subst hk
    exact .inr ⟨newState, hn, Function.update_same _ _ _⟩
  · rw [saved, Function.update_noteq hk]
    exact hS key

theorem Written.notifyUpdate {snap : Snap} (h : Written S₀ saves snap) (localStorageKey : String)
    (newState : Json) :
    Written S₀ (saves ++ [(localStorageKey, newState)])
      (notifyUpdate localStorageKey newState snap) := by
  have h' := h.mono (List.subset_append_left saves [(localStorageKey, newState)])
  refine ⟨h'.state, fun r hr => ?_⟩
  rcases List.mem_append.mp hr with hr | hr
  · exact h'.inFlight r hr
  · rw [List.mem_singleton.mp hr]
    exact List.mem_append_right _ (List.mem_singleton_self _)

theorem Written.serve {snap : Snap} (h : Written S₀ saves snap) (i : Nat) :
    Written S₀ saves (serve i snap) := by
  have erased : ∀ r ∈ snap.inFlight.eraseIdx i, r.Allowed S₀ saves :=
    fun r hr => h.inFlight r (List.mem_of_mem_eraseIdx hr)
  unfold SnapLocalStorageStore.serve
  split
  · next localStorageKey newState hget =>
    have hn : (localStorageKey, newState) ∈ saves := h.inFlight _ (List.getElem?_mem hget)
    refine ⟨h.state, fun r hr => ?_⟩
    rcases List.mem_append.mp hr with hr | hr
    · exact erased r hr
    · rw [List.mem_singleton.mp hr]
      exact allowed_saved h.state hn
  · next newState hupdate =>
    exact ⟨h.inFlight _ (List.getElem?_mem hupdate), erased⟩
  · exact h

theorem Written.step {snap : Snap} (h : Written S₀ saves snap) :
    ∀ e : Event, Written S₀ (saves ++ (Event.notified? e).toList) (step snap e)
  | .notifyUpdate localStorageKey newState => h.notifyUpdate localStorageKey newState
  | .serve i => by simpa [Event.notified?] using h.serve i

theorem Written.run {snap : Snap} (h : Written S₀ saves snap) (events : List Event) :
    Written S₀ (saves ++ notified events) (run snap events) := by
  induction events generalizing saves snap with
  | nil => simpa [notified] using h
  | cons e es ih =>
    rw [notified_cons, ← List.append_assoc]
    exact ih (h.step e)

end Written

theorem allowed_run (S₀ : SnapState) (events : List Event) (key : String) :
    Allowed S₀ (notified events) key ((run ⟨S₀, []⟩ events).state key) := by
  have h₀ : Written S₀ [] ⟨S₀, []⟩ := ⟨fun _ => .inl rfl, fun _ h => absurd h (List.not_mem_nil _)⟩
  simpa using (h₀.run events).state key

/--
Whatever the interleaving of notifications and served requests, the snap state under a key is
the one the run started from, or the text of a state that a save under that key was notified
with: no save writes another key's state, and no value is made up of two saves.
-/
theorem run_state_written (S₀ : SnapState) (events : List Event) (key : String) :
    (run ⟨S₀, []⟩ events).state key = S₀ key ∨
      ∃ newState, Event.notifyUpdate key newState ∈ events ∧
        (run ⟨S₀, []⟩ events).state key = some (.str newState.stringify) :=
  (allowed_run S₀ events key).imp_right fun ⟨n, hn, h⟩ => ⟨n, mem_notified.mp hn, h⟩

/-- The serves a request still needs: a `get`, then the `update` it issues. -/
def Request.serves : Request → Nat
  | .get _ _ => 2
  | .update _ => 1

/-- The serves that the requests `rs` still need. -/
def remaining : List Request → Nat
  | [] => 0
  | r :: rs => r.serves + remaining rs

theorem remaining_append (rs rs' : List Request) :
    remaining (rs ++ rs') = remaining rs + remaining rs' := by
  induction rs with
  | nil => simp only [List.nil_append, remaining, Nat.zero_add]
  | cons r rs ih => rw [List.cons_append, remaining, remaining, ih, Nat.add_assoc]

theorem remaining_eraseIdx :
    ∀ {rs : List Request} {i : Nat} (h : i < rs.length),
      remaining (rs.eraseIdx i) + rs[i].serves = remaining rs
  | _ :: _, 0, _ => Nat.add_comm _ _
  | r :: rs, i + 1, h => by
    have := @remaining_eraseIdx rs i (by simpa using h)
    simp only [List.eraseIdx_cons_succ, remaining, List.getElem_cons_succ]
    omega

theorem remaining_serve {snap : Snap} {i : Nat} (h : i < snap.inFlight.length) :
    remaining (serve i snap).inFlight + 1 = remaining snap.inFlight := by
  have herase := remaining_eraseIdx h
  unfold serve
  rw [List.getElem?_eq_getElem h]
  cases hr : snap.inFlight[i] <;> rw [hr] at herase <;>
    simp only [remaining_append, remaining, Request.serves] at herase ⊢ <;> omega

theorem remaining_eq_zero {rs : List Request} : remaining rs = 0 ↔ rs = [] := by
  cases rs with
  | nil => exact iff_of_true rfl rfl
  | cons r rs => cases r <;> simp [remaining, Request.serves]

/-- Each index names a request in flight when the snap serves it. -/
def ServesInFlight : Snap → List Nat → Prop
  | _, [] => True
  | snap, i :: is => i < snap.inFlight.length ∧ ServesInFlight (serve i snap) is

theorem length_add_remaining {snap : Snap} {is : List Nat} (h : ServesInFlight snap is) :
    is.length + remaining (run snap (is.map .serve)).inFlight = remaining snap.inFlight := by
  induction is generalizing snap with
  | nil => simp [run]
  | cons i is ih =>
    have := ih h.2
    have hserve := remaining_serve h.1
    simp only [List.length_cons, List.map_cons]
    rw [show run snap (.serve i :: is.map .serve) = run (serve i snap) (is.map .serve) from rfl]
    omega

theorem servesInFlight_oldest (n : Nat) :
    ∀ {snap : Snap}, remaining snap.inFlight = n → ServesInFlight snap (List.replicate n 0) := by
  induction n with
  | zero => intro _ _; trivial
  | succ n ih =>
    intro snap h
    have hne : snap.inFlight ≠ [] := fun he => by simp [remaining_eq_zero.mpr he] at h
    have hlen : 0 < snap.inFlight.length := List.length_pos.mpr hne
    exact ⟨hlen, ih (by have := remaining_serve hlen; omega)⟩

/--
Once no store is notified, every order in which the snap serves requests in flight makes at most
`remaining` serves, and after exactly that many no save is in flight; serving the oldest request
first, `remaining` times, is such an order.
-/
theorem saves_complete (snap : Snap) :
    (∀ is, ServesInFlight snap is → is.length ≤ remaining snap.inFlight ∧
      (is.length = remaining snap.inFlight → (run snap (is.map .serve)).inFlight = [])) ∧
    ServesInFlight snap (List.replicate (remaining snap.inFlight) 0) := by
  refine ⟨fun is h => ?_, servesInFlight_oldest (remaining snap.inFlight) rfl⟩
  have hrun := length_add_remaining h
  exact ⟨by omega, fun hlen => remaining_eq_zero.mp (by omega)⟩

end SnapLocalStorageStore

end Veramo
