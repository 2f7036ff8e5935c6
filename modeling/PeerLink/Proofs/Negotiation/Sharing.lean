import Mathlib.Logic.Function.Basic
import PeerLink.Proofs.Negotiation.Deeds

/-!
# Negotiations that share a registry

The negotiations of a node write the keys of their peers into one registry, and read them back from
it. `Shared` are the runs of any number of them in which each step finds the registry as the step
before has left it, whichever negotiation that was; what comes over the streams is left open. The
log of a run tells the deeds of all negotiations in their order: those of one of them are the deeds
of a side on its own (`Shared.took`), and what the registry holds is what was registered last
(`Shared.registry_eq`, `get?_foldl_change`).
-/

namespace PeerLink.Negotiation

/-- A negotiation that a node is to take part in. -/
inductive Task where
  /-- The node dials. -/
  | dial (party : Party)
  /-- The node listens. -/
  | listen (party : Party)

/-- A side of a negotiation that a node takes part in. -/
inductive Negotiator where
  /-- The node dials. -/
  | dialing (dialer : Dialer)
  /-- The node listens. -/
  | listening (listener : Listener)

/-- The endpoint of the other side. -/
def Task.remote : Task → Endpoint
  | dial party => party.remote
  | listen party => party.remote

/-- The side that has not begun. -/
def Task.start : Task → Negotiator
  | dial party => .dialing (.new party)
  | listen party => .listening (.new party)

/-- A move as one of another kind of sides. -/
def Move.map {σ τ : Type} (f : σ → τ) : Move σ → Move τ
  | next state => .next (f state)
  | wait state => .wait (f state)
  | finished result => .finished result

/-- A side as one of another kind. -/
def Side.map {σ τ : Type} (f : σ → τ) : Side σ → Side τ
  | absent => .absent
  | active state => .active (f state)
  | finished result => .finished result
  | abandoned => .abandoned

/-- The side behind a move of another kind. -/
theorem Move.side_map {σ τ : Type} (f : σ → τ) (move : Move σ) :
    (move.map f).side = move.side.map f := by
  cases move <;> rfl

/-- A side is at work as one of another kind is. -/
theorem Side.map_eq_active {σ τ : Type} {f : σ → τ} {side : Side σ} {state : τ} :
    side.map f = .active state ↔ ∃ state', side = .active state' ∧ f state' = state := by
  cases side <;> simp [map]

/-- A side is over as one of another kind is. -/
theorem Side.map_eq_finished {σ τ : Type} {f : σ → τ} {side : Side σ}
    {result : Except NegotiationError Connection} :
    side.map f = .finished result ↔ side = .finished result := by
  cases side <;> simp [map]

namespace Negotiator

/-- The endpoint of the other side. -/
def remote : Negotiator → Endpoint
  | dialing dialer => dialer.party.remote
  | listening listener => listener.party.remote

/-- A step of a side. -/
def step (suite : Suite) (registry : Registry) (negotiator : Negotiator) (stream : Stream) :
    Move Negotiator × Registry × Stream :=
  match negotiator with
  | dialing dialer =>
    let (move, registry, stream) := dialer.step suite registry stream
    (move.map dialing, registry, stream)
  | listening listener =>
    let (move, registry, stream) := listener.step suite registry stream
    (move.map listening, registry, stream)

/-- What a side does in a step. -/
def deeds (suite : Suite) (registry : Registry) (negotiator : Negotiator) (stream : Stream) :
    List Deed :=
  match negotiator with
  | dialing dialer => dialer.deeds suite registry stream
  | listening listener => listener.deeds suite registry stream

end Negotiator

/-- Runs of negotiations that share a registry: what all of them have done, the registry, and where
each of them is. -/
inductive Shared {ι : Type} [DecidableEq ι] (suite : Suite) (tasks : ι → Task)
    (registry : Registry) : List (ι × Deed) → Registry → (ι → Side Negotiator) → Prop
  /-- No negotiation has begun. -/
  | start : Shared suite tasks registry [] registry fun i => .active (tasks i).start
  /-- A negotiation takes a step. -/
  | step {log : List (ι × Deed)} {registry' : Registry} {sides : ι → Side Negotiator}
      (shared : Shared suite tasks registry log registry' sides) (i : ι) {negotiator : Negotiator}
      (active : sides i = .active negotiator) (stream : Stream) :
      Shared suite tasks registry
        (log ++ (negotiator.deeds suite registry' stream).map (i, ·))
        (negotiator.step suite registry' stream).2.1
        (Function.update sides i (negotiator.step suite registry' stream).1.side)

/-! ## What one step does to the registry -/

/-- The deeds of a step say what becomes of the registry, and what is found in it. -/
structure Tells (endpoint : Endpoint) (registry registry' : Registry) (deeds : List Deed) :
    Prop where
  /-- The registry behind the step. -/
  registry_eq : registry' = deeds.foldl (Deed.change endpoint) registry
  /-- A key is looked for before anything else is done. -/
  found_eq : ∀ before found after, deeds = before ++ .found found :: after →
    before = [] ∧ found = registry.get? endpoint

/-- A step that neither registers a key nor looks for one. -/
theorem Tells.of_messages {endpoint : Endpoint} {registry : Registry} {deeds : List Deed}
    (messages : ∀ deed ∈ deeds, ∃ message, deed = .heard message ∨ deed = .said message) :
    Tells endpoint registry registry deeds where
  registry_eq := by
    induction deeds with
    | nil => rfl
    | cons deed deeds ih =>
      have rest := ih fun deed mem => messages deed (List.mem_cons_of_mem _ mem)
      obtain ⟨message, rfl | rfl⟩ := messages deed (List.mem_cons_self ..) <;> exact rest
  found_eq := by
    rintro before found after rfl
    obtain ⟨message, same | same⟩ := messages (.found found) (by simp) <;> cases same

/-- A step that looks for a key first, and says something then. -/
theorem Tells.of_found {endpoint : Endpoint} {registry : Registry} {key : Option PublicKey}
    {deeds : List Deed} (held : registry.get? endpoint = key)
    (messages : ∀ deed ∈ deeds, ∃ message, deed = .heard message ∨ deed = .said message) :
    Tells endpoint registry registry (.found key :: deeds) where
  registry_eq := (of_messages messages).registry_eq
  found_eq := by
    intro before found after same
    cases before with
    | nil => exact ⟨rfl, (held.trans (Deed.found.inj (List.cons.inj same).1)).symm⟩
    | cons first before =>
      have later := (List.cons.inj same).2
      obtain ⟨message, same | same⟩ := messages (.found found) (by simp [later]) <;> cases same

/-- A step that registers a key. -/
theorem Tells.of_registered {endpoint : Endpoint} {registry : Registry} {key : PublicKey} :
    Tells endpoint registry (registry.insert endpoint key) [.registered key] where
  registry_eq := rfl
  found_eq := by
    intro before found after same
    have mem : Deed.found found ∈ [Deed.registered key] := by simp [same]
    cases List.mem_singleton.mp mem

/-- A dialer changes the registry in one of its phases only. -/
theorem Dialer.registry_step (suite : Suite) (registry : Registry) (dialer : Dialer)
    (stream : Stream) :
    (dialer.step suite registry stream).2.1 =
      match dialer.phase with
      | .registering _ _ _ key => registry.insert dialer.party.remote key
      | _ => registry := by
  obtain ⟨party, wire, phase⟩ := dialer
  unfold step
  cases phase <;> dsimp only
  all_goals repeat' split
  all_goals rfl

/-- A listener changes the registry in one of its phases only. -/
theorem Listener.registry_step (suite : Suite) (registry : Registry) (listener : Listener)
    (stream : Stream) :
    (listener.step suite registry stream).2.1 =
      match listener.phase with
      | .registering _ _ _ key => registry.insert listener.party.remote key
      | _ => registry := by
  obtain ⟨party, wire, phase⟩ := listener
  unfold step
  cases phase <;> dsimp only
  all_goals repeat' split
  all_goals rfl

/-- A step of a dialer. -/
theorem Dialer.tells_step (suite : Suite) (registry : Registry) (dialer : Dialer)
    (stream : Stream) :
    Tells dialer.party.remote registry (dialer.step suite registry stream).2.1
      (dialer.deeds suite registry stream) := by
  rw [registry_step]
  obtain ⟨party, wire, phase⟩ := dialer
  unfold deeds
  cases phase with
  | offering =>
    dsimp only
    split <;> exact .of_messages (by simp)
  | awaitingReply offer frames =>
    dsimp only
    split <;> exact .of_messages (by simp)
  | registering prologue resolution secret key =>
    exact .of_registered
  | lookingUp prologue resolution secret =>
    dsimp only
    cases held : registry.get? party.remote with
    | none => exact .of_found held (by simp)
    | some key =>
      dsimp only
      split <;> exact .of_found held (by simp)
  | awaitingResponse initiator resolution received =>
    dsimp only
    split <;> exact .of_messages (by simp)

/-- A step of a listener. -/
theorem Listener.tells_step (suite : Suite) (registry : Registry) (listener : Listener)
    (stream : Stream) :
    Tells listener.party.remote registry (listener.step suite registry stream).2.1
      (listener.deeds suite registry stream) := by
  rw [registry_step]
  obtain ⟨party, wire, phase⟩ := listener
  unfold deeds
  cases phase with
  | awaitingOffer frames =>
    dsimp only
    repeat' split
    all_goals exact .of_messages (by simp)
  | registering prologue resolution secret key =>
    exact .of_registered
  | awaitingInitiation prologue resolution secret received =>
    dsimp only
    split <;> exact .of_messages (by simp)
  | lookingUp responder resolution =>
    dsimp only
    cases held : registry.get? party.remote with
    | none => exact .of_found held (by simp)
    | some key =>
      dsimp only
      repeat' split
      all_goals exact .of_found held (by simp)

/-! ## What one of the negotiations does -/

section Log

variable {ι : Type} [DecidableEq ι]

/-- What one of the negotiations has done. -/
def deedsOf (i : ι) (log : List (ι × Deed)) : List Deed :=
  log.filterMap fun entry => if entry.1 = i then some entry.2 else none

/-- Logs are read one after the other. -/
theorem deedsOf_append (i : ι) (log log' : List (ι × Deed)) :
    deedsOf i (log ++ log') = deedsOf i log ++ deedsOf i log' :=
  List.filterMap_append

/-- The deeds of one negotiation are those of a step that it takes. -/
theorem deedsOf_map_self (i : ι) (deeds : List Deed) : deedsOf i (deeds.map (i, ·)) = deeds := by
  simp [deedsOf, List.filterMap_map]

/-- A step of another negotiation has none of its deeds. -/
theorem deedsOf_map_of_ne {i j : ι} (other : j ≠ i) (deeds : List Deed) :
    deedsOf i (deeds.map (j, ·)) = [] := by
  simp [deedsOf, other]

/-- Where a deed of one negotiation is in the log. -/
theorem exists_of_deedsOf {i : ι} {log : List (ι × Deed)} {before after : List Deed} {deed : Deed}
    (split : deedsOf i log = before ++ deed :: after) :
    ∃ log' log'', log = log' ++ (i, deed) :: log'' ∧ deedsOf i log' = before ∧
      deedsOf i log'' = after := by
  obtain ⟨first, second, rfl, rfl, second_eq⟩ := List.filterMap_eq_append_iff.1 split
  obtain ⟨others, entry, rest, rfl, none_of, entry_eq, rfl⟩ :=
    List.filterMap_eq_cons_iff.1 second_eq
  obtain ⟨rfl, rfl⟩ : entry.1 = i ∧ entry.2 = deed := by simpa using entry_eq
  refine ⟨first ++ others, rest, by simp, ?_, rfl⟩
  rw [deedsOf_append, show deedsOf entry.1 others = [] from List.filterMap_eq_nil_iff.2 none_of,
    List.append_nil]
  rfl

/-- A deed of one negotiation is in the log. -/
theorem mem_deedsOf {i : ι} {log : List (ι × Deed)} {deed : Deed} :
    deed ∈ deedsOf i log ↔ (i, deed) ∈ log := by
  simp [deedsOf, List.mem_filterMap]

variable {suite : Suite} {tasks : ι → Task} {registry registry' : Registry}
  {log : List (ι × Deed)} {sides : ι → Side Negotiator}

/-- The deeds of one negotiation are those of a side on its own. -/
theorem Shared.took (shared : Shared suite tasks registry log registry' sides) (i : ι) :
    Took (Negotiator.deeds suite) (Negotiator.step suite) (tasks i).start (deedsOf i log)
      (sides i) := by
  induction shared with
  | start => exact .start
  | @step log registry' sides shared j negotiator active stream ih =>
    rw [deedsOf_append]
    by_cases same : j = i
    · subst same
      rw [deedsOf_map_self, Function.update_self]
      exact (active ▸ ih).step registry' stream
    · rw [deedsOf_map_of_ne same, List.append_nil, Function.update_of_ne (Ne.symm same)]
      exact ih

/-- A side that dials is a dialer. -/
theorem Dialer.took_of_dialing {party : Party} {done : List Deed} {side : Side Negotiator}
    (took : Negotiation.Took (Negotiator.deeds suite) (Negotiator.step suite)
      (.dialing (.new party)) done side) :
    ∃ side', side = side'.map .dialing ∧ Took suite party done side' := by
  induction took with
  | start => exact ⟨_, rfl, .start⟩
  | step took registry stream ih =>
    obtain ⟨side, active, took'⟩ := ih
    obtain ⟨dialer, rfl, rfl⟩ := Side.map_eq_active.1 active.symm
    exact ⟨_, Move.side_map _ _, took'.step registry stream⟩

/-- A side that listens is a listener. -/
theorem Listener.took_of_listening {party : Party} {done : List Deed} {side : Side Negotiator}
    (took : Negotiation.Took (Negotiator.deeds suite) (Negotiator.step suite)
      (.listening (.new party)) done side) :
    ∃ side', side = side'.map .listening ∧ Took suite party done side' := by
  induction took with
  | start => exact ⟨_, rfl, .start⟩
  | step took registry stream ih =>
    obtain ⟨side, active, took'⟩ := ih
    obtain ⟨listener, rfl, rfl⟩ := Side.map_eq_active.1 active.symm
    exact ⟨_, Move.side_map _ _, took'.step registry stream⟩

/-- What is known of a dialer among other negotiations. -/
theorem Shared.dialer_knows (shared : Shared suite tasks registry log registry' sides) {i : ι}
    {party : Party} (dials : tasks i = .dial party) :
    ∃ side, sides i = side.map .dialing ∧ Dialer.Knows suite party (deedsOf i log) side := by
  have took := shared.took i
  rw [dials] at took
  obtain ⟨side, same, took⟩ := Dialer.took_of_dialing took
  exact ⟨side, same, took.knows⟩

/-- What is known of a listener among other negotiations. -/
theorem Shared.listener_knows (shared : Shared suite tasks registry log registry' sides) {i : ι}
    {party : Party} (listens : tasks i = .listen party) :
    ∃ side, sides i = side.map .listening ∧
      Listener.Knows suite { party with expected := none } (deedsOf i log) side := by
  have took := shared.took i
  rw [listens] at took
  obtain ⟨side, same, took⟩ := Listener.took_of_listening took
  exact ⟨side, same, took.knows⟩

/-- A dialer keeps what it has brought along. -/
theorem Dialer.Doing.party_eq {party : Party} {done : List Deed} {dialer : Dialer}
    (doing : Doing suite party done dialer) : dialer.party = party := by
  cases doing <;> rfl

/-- A listener keeps what it has brought along. -/
theorem Listener.Doing.party_eq {party : Party} {done : List Deed} {listener : Listener}
    (doing : Doing suite party done listener) : listener.party = party := by
  cases doing <;> rfl

/-- A side keeps the endpoint of its task. -/
theorem Shared.remote_eq (shared : Shared suite tasks registry log registry' sides) {i : ι}
    {negotiator : Negotiator} (active : sides i = .active negotiator) :
    negotiator.remote = (tasks i).remote := by
  cases task : tasks i with
  | dial party =>
    obtain ⟨side, same, knows⟩ := shared.dialer_knows task
    obtain ⟨dialer, rfl, rfl⟩ := Side.map_eq_active.1 (same.symm.trans active)
    exact congrArg Party.remote knows.party_eq
  | listen party =>
    obtain ⟨side, same, knows⟩ := shared.listener_knows task
    obtain ⟨listener, rfl, rfl⟩ := Side.map_eq_active.1 (same.symm.trans active)
    have kept : listener.party = { party with expected := none } := knows.party_eq
    rw [Negotiator.remote, kept, Task.remote]

/-! ## What all of them do to the registry -/

/-- The registry behind what was done. -/
def registryAfter (tasks : ι → Task) (registry : Registry) (log : List (ι × Deed)) : Registry :=
  log.foldl (fun registry entry => entry.2.change (tasks entry.1).remote registry) registry

/-- The keys that were registered for an endpoint, by whichever negotiations. -/
def registeredFor (tasks : ι → Task) (endpoint : Endpoint) (log : List (ι × Deed)) :
    List PublicKey :=
  log.filterMap fun
    | (i, .registered key) => if (tasks i).remote = endpoint then some key else none
    | _ => none

/-- A step of a side tells what becomes of the registry. -/
theorem Negotiator.tells_step (suite : Suite) (registry : Registry) (negotiator : Negotiator)
    (stream : Stream) :
    Tells negotiator.remote registry (negotiator.step suite registry stream).2.1
      (negotiator.deeds suite registry stream) := by
  cases negotiator with
  | dialing dialer => exact dialer.tells_step suite registry stream
  | listening listener => exact listener.tells_step suite registry stream

/-- The registry is the one that the log leads to. -/
theorem Shared.registry_eq (shared : Shared suite tasks registry log registry' sides) :
    registry' = registryAfter tasks registry log := by
  induction shared with
  | start => rfl
  | @step log registry' sides shared i negotiator active stream ih =>
    rw [(negotiator.tells_step suite registry' stream).registry_eq, shared.remote_eq active, ih,
      registryAfter, registryAfter, List.foldl_append, List.foldl_map]

/-- What is found is what the registry holds at that moment. -/
theorem Shared.found_eq (shared : Shared suite tasks registry log registry' sides)
    {before after : List (ι × Deed)} {i : ι} {found : Option PublicKey}
    (split : log = before ++ (i, .found found) :: after) :
    found = (registryAfter tasks registry before).get? (tasks i).remote := by
  induction shared generalizing before after with
  | start => cases before <;> cases split
  | @step log registry' sides shared j negotiator active stream ih =>
    have tells := negotiator.tells_step suite registry' stream
    rw [shared.remote_eq active] at tells
    rcases List.append_eq_append_iff.1 split with ⟨middle, rfl, step⟩ | ⟨middle, rfl, step⟩
    · -- The deed is one of the last step.
      obtain ⟨first, rest, deeds, rfl, later⟩ := List.map_eq_append_iff.1 step
      obtain ⟨deed, last, rfl, same, -⟩ := List.map_eq_cons_iff.1 later
      obtain ⟨rfl, rfl⟩ := Prod.mk.inj same
      obtain ⟨rfl, rfl⟩ := tells.found_eq first found last deeds
      rw [List.map_nil, List.append_nil, ← shared.registry_eq]
    · cases middle with
      | nil =>
        obtain ⟨deed, last, deeds, same, -⟩ := List.map_eq_cons_iff.1 step.symm
        obtain ⟨rfl, rfl⟩ := Prod.mk.inj same
        obtain ⟨-, rfl⟩ := tells.found_eq [] found last deeds
        rw [shared.registry_eq, List.append_nil]
      | cons entry middle =>
        obtain ⟨rfl, -⟩ := List.cons.inj step
        exact ih rfl

end Log

end PeerLink.Negotiation
