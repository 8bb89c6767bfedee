import LensoBun.PluginV1.Lifecycle

set_option autoImplicit false

/-! # Active and retired requests of a V1 plugin

In every state of every run, whatever the messages and the plugin's handlers do: there are at most
`maxConcurrentRequests` handlers running, no active id is retired, and the retired ids are the
`maxRetiredRequestIds` that have completed last. So no handler is started for an id that is running or
among those.
-/

namespace LensoBun.PluginV1.Server

open Std Lib

variable {V : Type}

/-! ## The retired ids -/

/-- The last `n` entries of a list. -/
def mostRecent (n : Nat) (ids : List Nat) : List Nat := ids.drop (ids.length - n)

/-- The ids that have completed, the last one at the end. -/
def completions (events : List Event) : List Nat :=
  events.filterMap fun e => match e with
    | .completed requestId => some requestId
    | _ => none

theorem evictOldest_eq_drop (limit : Nat) (ids : List Nat) :
    evictOldest limit ids = ids.drop (ids.length + 1 - limit) := by
  induction ids with
  | nil => simp [evictOldest]
  | cons oldest rest ih =>
    rw [evictOldest, List.length_cons]
    by_cases h : limit ≤ rest.length + 1
    · have hdrop : rest.length + 1 + 1 - limit = (rest.length + 1 - limit) + 1 := by omega
      rw [if_pos h, ih, hdrop, List.drop_succ_cons]
    · have hdrop : rest.length + 1 + 1 - limit = 0 := by omega
      rw [if_neg h, hdrop, List.drop_zero]

variable {limit id t u : Nat} {c : Config} {s s' : Shared} {pc pc' : Pc V}
  {x : Threads Shared (Pc V)}

theorem evictOldest_mostRecent (hlimit : 0 < limit) (ids : List Nat) (id : Nat) :
    evictOldest limit (mostRecent limit ids) ++ [id] = mostRecent limit (ids ++ [id]) := by
  have hlength : (mostRecent limit ids).length = ids.length - (ids.length - limit) := by
    rw [mostRecent, List.length_drop]
  have hdrop : ids.length - limit + ((mostRecent limit ids).length + 1 - limit) =
      ids.length + 1 - limit := by omega
  have hle : ids.length + 1 - limit ≤ ids.length := by omega
  rw [evictOldest_eq_drop]
  calc (mostRecent limit ids).drop ((mostRecent limit ids).length + 1 - limit) ++ [id]
      = ids.drop (ids.length + 1 - limit) ++ [id] := by
        conv_lhs => rw [mostRecent, List.drop_drop]
        rw [← hdrop]
        rfl
    _ = mostRecent limit (ids ++ [id]) := by
        rw [mostRecent, List.length_append, List.length_singleton,
          List.drop_append_of_le_length hle]

theorem evictOldest_sublist (limit : Nat) (ids : List Nat) :
    (evictOldest limit ids).Sublist ids := by
  induction ids with
  | nil => exact List.Sublist.refl _
  | cons oldest rest ih =>
    rw [evictOldest]
    split
    · exact ih.cons oldest
    · exact List.Sublist.refl _

theorem retire_of_not_mem {retired : List Nat} (h : id ∉ retired) :
    retire limit retired id = evictOldest limit retired ++ [id] := by
  have hkept : id ∉ evictOldest limit retired := fun hmem => h ((evictOldest_sublist _ _).mem hmem)
  simp only [retire, if_neg hkept]

theorem completions_append (events es : List Event) :
    completions (events ++ es) = completions events ++ completions es :=
  List.filterMap_append

/-! ## What a step does to the requests -/

/-- The request whose handler the thread runs. -/
def Pc.running : Pc V → Option Nat
  | .invoking _ request => some request.requestId
  | _ => none

/-- The moves as far as they concern the requests: one becomes active, completes, or does both at
once. -/
inductive Serves (c : Config) (s : Shared) : Pc V → Shared → Pc V → Prop where
  | idle {s' : Shared} {pc pc' : Pc V} (hactive : ∀ id, id ∈ s'.active ↔ id ∈ s.active)
      (hsize : s'.active.size = s.active.size) (hretired : s'.retired = s.retired)
      (hcompletions : completions s'.events = completions s.events)
      (hpc : pc'.running = pc.running) : Serves c s pc s' pc'
  | begins {s' : Shared} {pc pc' : Pc V} {request : WireRequest V} {state : RequestState}
      (hrefusal : refusal c s request = none)
      (hactive : s'.active = s.active.insert request.requestId state)
      (hretired : s'.retired = s.retired)
      (hcompletions : completions s'.events = completions s.events)
      (hpc : pc'.running = some request.requestId) : Serves c s pc s' pc'
  | ends {s' : Shared} {pc pc' : Pc V} {id : Nat} (hactive : s'.active = s.active.erase id)
      (hretired : s'.retired = retire c.maxRetiredRequestIds s.retired id)
      (hcompletions : completions s'.events = completions s.events ++ [id])
      (hpc : pc.running = some id) (hpc' : pc'.running = none) : Serves c s pc s' pc'
  | passes {s' : Shared} {pc pc' : Pc V} {request : WireRequest V}
      (hrefusal : refusal c s request = none) (hactive : s'.active = s.active)
      (hretired : s'.retired = retire c.maxRetiredRequestIds s.retired request.requestId)
      (hcompletions : completions s'.events = completions s.events ++ [request.requestId])
      (hpc' : pc'.running = none) : Serves c s pc s' pc'

/-- A request that is begun has an id that is not in use, and there is room for it. -/
theorem begun_of_refusal {request : WireRequest V} (h : refusal c s request = none) :
    request.requestId ∉ s.active ∧ request.requestId ∉ s.retired ∧
      s.active.size < c.maxConcurrentRequests := by
  rw [refusal] at h
  split at h
  · cases h
  · grind

theorem Serves.of_same {es : List Event} (hactive : s'.active = s.active)
    (hretired : s'.retired = s.retired) (hevents : s'.events = s.events ++ es)
    (hes : completions es = []) (hpc : pc'.running = pc.running) : Serves c s pc s' pc' := by
  refine .idle (fun id => by rw [hactive]) (by rw [hactive]) hretired ?_ hpc
  rw [hevents, completions_append, hes, List.append_nil]

theorem Moves.serves (h : Moves c s t pc s' pc') : Serves c s pc s' pc' := by
  cases h with
  | answered | refused | stopped => exact .of_same rfl rfl (List.append_nil _).symm rfl rfl
  | accepted | passed | created | incomplete | createFailed => exact .of_same rfl rfl rfl rfl rfl
  | cancelled =>
    refine .idle (fun _ => ExtTreeMap.mem_modify) ExtTreeMap.size_modify rfl ?_ rfl
    exact (completions_append _ _).trans (List.append_nil _)
  | createThrew | creating | constructed => exact .of_same rfl rfl (List.append_assoc _ _ _) rfl rfl
  | shutDown =>
    refine .idle (fun _ => ExtTreeMap.mem_map) ExtTreeMap.size_map rfl ?_ rfl
    exact (completions_append _ _).trans (List.append_nil _)
  | stopThrew | stopping =>
    refine .idle (fun _ => ExtTreeMap.mem_map) ExtTreeMap.size_map rfl ?_ rfl
    simp [Shared.close, Shared.honour, Shared.record, completions]
  | ended hx hrefusal | handlerThrew hx hrefusal =>
    refine .passes hrefusal (erase_insert_of_not_mem (begun_of_refusal hrefusal).1) rfl ?_ rfl
    simp [Shared.complete, Shared.activate, Shared.honour, Shared.record, completions]
  | invoking hx hrefusal =>
    refine .begins hrefusal rfl rfl ?_ rfl
    simp [Shared.activate, Shared.honour, Shared.record, completions]
  | completed =>
    refine .ends rfl rfl ?_ rfl rfl
    simp [Shared.complete, completions]
  | expired => exact .idle (fun _ => ExtTreeMap.mem_modify) ExtTreeMap.size_modify rfl rfl rfl
  | closed => exact .idle (fun _ => ExtTreeMap.mem_map) ExtTreeMap.size_map rfl rfl rfl

/-! ## The invariant -/

/-- The retired ids against the active ones and those that have completed. -/
structure Retired (c : Config) (s : Shared) : Prop where
  room : s.active.size ≤ c.maxConcurrentRequests
  disjoint : ∀ id ∈ s.active, id ∉ s.retired
  recent : s.retired = mostRecent c.maxRetiredRequestIds (completions s.events)
  nodup : s.retired.Nodup

/-- A thread that runs a handler has its request active, and no other thread has it. -/
structure Requests (c : Config) (x : Threads Shared (Pc V)) : Prop where
  retired : Retired c x.shared
  active : ∀ (t : Nat) (pc : Pc V) (id : Nat), x.pool[t]? = some pc → pc.running = some id →
    id ∈ x.shared.active
  single : ∀ (t u : Nat) (pc pc' : Pc V) (id : Nat), x.pool[t]? = some pc → x.pool[u]? = some pc' →
    pc.running = some id → pc'.running = some id → t = u

/-- An id that is not retired is retired as the most recent one. -/
theorem Retired.retire (h : Retired c s) (hid : id ∉ s.retired)
    (hretired : s'.retired = retire c.maxRetiredRequestIds s.retired id)
    (hcompletions : completions s'.events = completions s.events ++ [id])
    (hactive : ∀ id' ∈ s'.active, id' ≠ id ∧ id' ∈ s.active)
    (hroom : s'.active.size ≤ c.maxConcurrentRequests) : Retired c s' := by
  have heq : s'.retired = evictOldest c.maxRetiredRequestIds s.retired ++ [id] :=
    hretired.trans (retire_of_not_mem hid)
  have hsub : ∀ id', id' ∈ evictOldest c.maxRetiredRequestIds s.retired → id' ∈ s.retired :=
    fun id' hid' => (evictOldest_sublist _ _).mem hid'
  refine ⟨hroom, fun id' hid' hmem => ?_, ?_, ?_⟩
  · grind [h.disjoint]
  · rw [heq, hcompletions, h.recent]
    exact evictOldest_mostRecent c.retired_pos _ _
  · grind [evictOldest_sublist, nodup]

theorem Retired.move (h : Retired c s) (hpc : ∀ id, pc.running = some id → id ∈ s.active)
    (hmove : Serves c s pc s' pc') : Retired c s' := by
  cases hmove with
  | idle hactive hsize hretired hcompletions =>
    refine ⟨by rw [hsize]; exact h.room, fun id hid => ?_, ?_, by rw [hretired]; exact h.nodup⟩
    · rw [hretired]
      exact h.disjoint id ((hactive id).mp hid)
    · rw [hretired, hcompletions]
      exact h.recent
  | @begins _ _ _ request state hrefusal hactive hretired hcompletions =>
    obtain ⟨hfresh, hnot, hroom⟩ := begun_of_refusal hrefusal
    refine ⟨?_, fun id hid => ?_, ?_, by rw [hretired]; exact h.nodup⟩
    · grind
    · grind [mem_insert_nat, h.disjoint]
    · rw [hretired, hcompletions]
      exact h.recent
  | @ends _ _ _ id hactive hretired hcompletions hrunning =>
    have hid : id ∈ s.active := hpc id hrunning
    refine h.retire (h.disjoint id hid) hretired hcompletions (fun id' hid' => ?_) ?_
    · grind
    · rw [hactive]
      exact ExtTreeMap.size_erase_le.trans h.room
  | passes hrefusal hactive hretired hcompletions =>
    obtain ⟨hfresh, hnot, -⟩ := begun_of_refusal hrefusal
    refine h.retire hnot hretired hcompletions (fun id' hid' => ?_) (by rw [hactive]; exact h.room)
    rw [hactive] at hid'
    exact ⟨fun heq => hfresh (heq ▸ hid'), hid'⟩

theorem requests_init (c : Config) : Requests c (init c : Threads Shared (Pc V)) where
  retired := ⟨Nat.zero_le _, fun id hid => by simp [init, Shared.init] at hid, by
    simp [init, Shared.init, completions, mostRecent], List.nodup_nil⟩
  active t pc id h := by simp [init] at h
  single t u pc pc' id h := by simp [init] at h

theorem running_of_isEntry (h : pc.isEntry = true) : pc.running = none := by
  cases pc with
  | invoking => cases h
  | _ => rfl

/-- Where a request is run after a thread has gone to another place. -/
theorem running_insert {pool : ExtTreeMap Nat (Pc V)} (hu : (pool.insert t pc)[u]? = some pc')
    (hrunning : pc'.running = some id) :
    u = t ∧ pc.running = some id ∨ u ≠ t ∧ pool[u]? = some pc' := by
  rcases new_or_old_of_insert hu with ⟨heq, rfl⟩ | ⟨hne, hu⟩
  · exact .inl ⟨heq.symm, hrunning⟩
  · exact .inr ⟨Ne.symm hne, hu⟩

theorem Requests.start (h : Requests c x) (hpc : pc.running = none) :
    Requests c { x with pool := x.pool.insert t pc } := by
  have hold : ∀ (u : Nat) (pc' : Pc V) (id : Nat), (x.pool.insert t pc)[u]? = some pc' →
      pc'.running = some id → x.pool[u]? = some pc' := by grind
  refine ⟨h.retired, fun u pc' id hu hid => ?_, fun u v pc₁ pc₂ id hu hv h₁ h₂ => ?_⟩
  · exact h.active u pc' id (hold u pc' id hu hid) hid
  · exact h.single u v pc₁ pc₂ id (hold u pc₁ id hu h₁) (hold v pc₂ id hv h₂) h₁ h₂

/-- What a move leaves of the active requests that the other threads run. -/
theorem Requests.kept (h : Requests c x) {pc₁ : Pc V} (hpc : x.pool[t]? = some pc)
    (hmove : Serves c x.shared pc s' pc') (hne : u ≠ t) (hu : x.pool[u]? = some pc₁)
    (hid : pc₁.running = some id) : id ∈ s'.active := by
  have hmem := h.active u pc₁ id hu hid
  cases hmove with
  | idle hactive => exact (hactive id).mpr hmem
  | begins _ hactive => grind
  | ends hactive _ _ hrunning => grind [mem_erase_nat, h.single]
  | passes _ hactive =>
    rw [hactive]
    exact hmem

/-- A request that a thread runs after its move is active then, and no other thread runs it. -/
theorem Requests.own (h : Requests c x) (hpc : x.pool[t]? = some pc)
    (hmove : Serves c x.shared pc s' pc') (hid : pc'.running = some id) :
    id ∈ s'.active ∧
      ∀ (u : Nat) (pc₁ : Pc V), u ≠ t → x.pool[u]? = some pc₁ → pc₁.running ≠ some id := by
  cases hmove with
  | idle hactive _ _ _ hsame => grind [h.active, h.single]
  | begins hrefusal hactive _ _ hrunning =>
    cases hrunning.symm.trans hid
    refine ⟨by rw [hactive]; exact ExtTreeMap.mem_insert_self, fun u pc₁ _ hu hrunning => ?_⟩
    exact (begun_of_refusal hrefusal).1 (h.active u pc₁ _ hu hrunning)
  | ends _ _ _ _ hnone | passes _ _ _ _ hnone => cases hnone.symm.trans hid

theorem Requests.move (h : Requests c x) (hpc : x.pool[t]? = some pc)
    (hmove : Serves c x.shared pc s' pc') : Requests c ⟨s', x.pool.insert t pc'⟩ := by
  refine ⟨h.retired.move (fun id => h.active t pc id hpc) hmove, fun u pc₁ id hu hid => ?_,
    fun u v pc₁ pc₂ id hu hv h₁ h₂ => ?_⟩
  · grind [running_insert, h.own, h.kept]
  · rcases running_insert hu h₁ with ⟨rfl, hown⟩ | ⟨hne, hold⟩
    · rcases running_insert hv h₂ with ⟨rfl, -⟩ | ⟨hne', hold'⟩
      · rfl
      · exact absurd h₂ ((h.own hpc hmove hown).2 v pc₂ hne' hold')
    · rcases running_insert hv h₂ with ⟨rfl, hown⟩ | ⟨-, hold'⟩
      · exact absurd h₁ ((h.own hpc hmove hown).2 u pc₁ hne hold)
      · exact h.single u v pc₁ pc₂ id hold hold' h₁ h₂

theorem Requests.step {x' : Threads Shared (Pc V)} {a : Act (Pc V) (Input V)} (h : Requests c x)
    (hstep : (program c).step x a = some x') : Requests c x' := by
  rcases (program c).step_cases hstep with ⟨t, pc, rfl, hentry, hfresh, rfl⟩ |
    ⟨t, k, child, pc, m, rfl, hpc, hm, hshared, hpool⟩
  · exact h.start (running_of_isEntry hentry)
  · obtain ⟨hmoves, hchild⟩ := program_moves hm
    rcases hpool with ⟨-, hpool⟩ | ⟨pc', hsome, -, -⟩
    · obtain ⟨s', pool'⟩ := x'
      cases hshared
      cases hpool
      exact h.move hpc hmoves.serves
    · rw [hchild] at hsome
      cases hsome

/-! ## Handlers -/

theorem Requests.running_le (h : Requests c x) {ts : List Nat} (hnodup : ts.Nodup)
    (hrunning : ∀ t ∈ ts, ∃ pc id, x.pool[t]? = some pc ∧ pc.running = some id) :
    ts.length ≤ c.maxConcurrentRequests := by
  -- the ids the threads run are as many as the threads, since no two of them run the same
  let idOf := fun t : Nat => ((x.pool[t]?).bind Pc.running).getD 0
  have hidOf : ∀ t ∈ ts, ∃ pc, x.pool[t]? = some pc ∧ pc.running = some (idOf t) := by grind
  have hdistinct : (ts.map idOf).Nodup := by grind [hnodup.map_on, h.single]
  calc ts.length = (ts.map idOf).length := (List.length_map idOf).symm
    _ ≤ x.shared.active.size := by
        refine length_le_size hdistinct fun id hid => ?_
        obtain ⟨t, ht, rfl⟩ := List.mem_map.mp hid
        obtain ⟨pc, hpc, hrun⟩ := hidOf t ht
        exact h.active t pc _ hpc hrun
    _ ≤ c.maxConcurrentRequests := h.retired.room

theorem Moves.handlerStarted (h : Moves c s t pc s' pc')
    (hid : .handlerStarted u id ∈ s'.events.drop s.events.length) :
    id ∉ s.active ∧ id ∉ s.retired := by
  cases h with
  | handlerThrew hx hrefusal =>
    obtain ⟨hfresh, hnot, -⟩ := begun_of_refusal hrefusal
    simp [Shared.complete, Shared.activate, Shared.honour, Shared.record] at hid
    rw [hid.2]
    exact ⟨hfresh, hnot⟩
  | invoking hx hrefusal =>
    obtain ⟨hfresh, hnot, -⟩ := begun_of_refusal hrefusal
    simp [Shared.activate, Shared.honour, Shared.record] at hid
    rw [hid.2]
    exact ⟨hfresh, hnot⟩
  | _ =>
    simp [Shared.complete, Shared.activate, Shared.honour, Shared.record, Shared.close,
      Shared.cancel, Shared.expire, Shared.admitSession] at hid

/-- **At most `maxConcurrentRequests` handlers run, the active and the retired ids are disjoint, the
retired ids are the `maxRetiredRequestIds` most recent completions, and the next step starts no handler
for an id that is running or among them.** -/
theorem handlers_bounded_and_ids_retired (c : Config) (acts : List (Act (Pc V) (Input V)))
    (x : Threads Shared (Pc V)) (hrun : run (program c).step (init c) acts = some x) :
    (∀ ts : List Nat, ts.Nodup →
      (∀ t ∈ ts, ∃ pc id, x.pool[t]? = some pc ∧ pc.running = some id) →
      ts.length ≤ c.maxConcurrentRequests) ∧
    (∀ id ∈ x.shared.active, id ∉ x.shared.retired) ∧
    x.shared.retired = mostRecent c.maxRetiredRequestIds (completions x.shared.events) ∧
    x.shared.retired.Nodup ∧
    ∀ a x', (program c).step x a = some x' → ∀ t id,
      .handlerStarted t id ∈ x'.shared.events.drop x.shared.events.length →
      (∀ (u : Nat) (pc : Pc V), x.pool[u]? = some pc → pc.running ≠ some id) ∧
      id ∉ mostRecent c.maxRetiredRequestIds (completions x.shared.events) := by
  have h : Requests c x := run_invariant (fun _ _ _ hx hstep => hx.step hstep) (requests_init c) hrun
  refine ⟨fun ts hnodup hrunning => h.running_le hnodup hrunning, h.retired.disjoint,
    h.retired.recent, h.retired.nodup, fun a x' hstep t id hid => ?_⟩
  rcases (program c).step_cases hstep with ⟨t, pc, rfl, -, -, rfl⟩ |
    ⟨t, k, child, pc, m, rfl, -, hm, hshared, -⟩
  · simp at hid
  · rw [hshared] at hid
    obtain ⟨hfresh, hnot⟩ := (program_moves hm).1.handlerStarted hid
    exact ⟨fun u pc₁ hu hrunning => hfresh (h.active u pc₁ id hu hrunning), h.retired.recent ▸ hnot⟩

/-! ## A sample run -/

/-- An unmanaged plugin that greets, runs two handlers at a time and remembers two ids. -/
def greetingConfig : Config where
  maxFrameBytes := 100
  maxConcurrentRequests := 2
  maxRetiredRequestIds := 2
  managedLifecycle := false
  hasCreate := false
  hasStop := false
  dependencies := ⟨[], List.nodup_nil⟩
  pluginEndpoints := [⟨"example.greeting@1", "1.0.0", ["greet"], [], []⟩]
  expectedEndpoints := [⟨"example.greeting@1", "1.0.0", ["greet"], [], []⟩]
  retired_pos := Nat.two_pos

def greetingHandshake (peer version : Nat) : Message Nat :=
  ⟨peer, none, .handshake (some ⟨version, "lenso-json-value-v1", 100,
    some [⟨"example.greeting@1", "1.0.0", ["greet"], [], []⟩]⟩)⟩

def greetingRequest (peer requestId : Nat) (session : String) : Message Nat :=
  ⟨peer, none, .request (some ⟨requestId, "example.greeting@1", "greet", none, none, some session,
    [], 5⟩)⟩

/-- Three requests complete out of order, and a fourth runs: the first to complete is forgotten. -/
theorem handlers_bounded_and_ids_retired_sample :
    ∃ x, run (program greetingConfig).step (init greetingConfig)
        (handled 1 (greetingHandshake 1 1) (.uuid "u") ++
          handled 2 (greetingRequest 1 10 "u") .go ++ handled 3 (greetingRequest 1 11 "u") .go ++
          [.move 3 (.invoked (.success 6)) 0] ++ handled 4 (greetingRequest 1 12 "u") (.throws "no") ++
          [.move 2 (.invoked (.success 6)) 0] ++ handled 5 (greetingRequest 1 13 "u") .go) = some x ∧
      x.shared.retired = [12, 10] ∧ ∀ id ∈ x.shared.active, id ∉ x.shared.retired := by
  refine exists_run (by decide +kernel) ⟨by decide +kernel, ?_⟩
  exact (handlers_bounded_and_ids_retired greetingConfig _ _ (run_get _)).2.1

end LensoBun.PluginV1.Server
