import LensoBun.AuthoringV2.OpenAgreement

set_option autoImplicit false

/-! # The sends of a stream session

A `BunStreamSessionV2` of the host and the child that has its stream. A send of the session loads the
host's counter, its request becomes a thread of the child, and when the answer is `accepted` the
counter advances. The child compares the number of a request with a counter of its own, hands the
message over and advances that counter when the stream has accepted.

Both counters are read before an await and advanced after it. Two sends under way at once carry the
same number: the second is handed over as well, or refused, as its request comes before or after the
first has been accepted. `Ordered` is what holds when a send starts only after the one before it has
returned.
-/

namespace LensoBun.AuthoringV2.StreamSends

open Std Lib Child StreamOpen

variable {V : Type}

/-! ## Sends of the host -/

inductive SendState where
  | loaded (sequence : UInt64)
  /-- The request has reached the child as thread `t`. -/
  | requested (t : Nat)
  | returned (t : Option Nat) (result : Except RuntimeFailure Unit)

def SendState.unfinished : SendState → Bool
  | .loaded _ | .requested _ => true
  | .returned _ _ => false

structure Session (V : Type) where
  child : Threads Child.Shared (Pc V)
  /-- `next_send_sequence`. -/
  nextSendSequence : UInt64
  sends : ExtTreeMap Nat SendState

inductive SessionAct (V : Type) where
  /-- Send `n` is called: it loads the counter. -/
  | load (n : Nat)
  | request (n t : Nat)
  | child (act : Act (Pc V) (Input V))
  | answer (n : Nat)
  /-- The RPC thread is not started, or the RPC fails. -/
  | fail (n : Nat) (failure : RpcFailure)

def sendsOn : Pc V → Option Nat
  | .sendStream streamId _ | .sending streamId => some streamId
  | _ => none

/-- The failure of an RPC as the session's methods return it. -/
def rpcFailure : RpcFailure → RuntimeFailure
  | .failed detail => .pluginFailure detail
  | .internal detail => .internal detail
  | .lost => unavailable

/-- What `send` returns for the answer. An answer that is no `StreamActionResult` fails the RPC, as
an error does; the texts come as the client prints them. -/
def sendResult : Ending V → Except RuntimeFailure Unit
  | .answered .accepted => .ok ()
  | .answered (.runtime failure) => .error (fromAuthoringFailure failure)
  | .threw error | .unsettled _ error =>
    .error (.pluginFailure ("Bun Authoring RPC lenso.stream.send failed: " ++ error))
  | .answered _ => .error (.pluginFailure "Bun Authoring RPC lenso.stream.send failed: Parse error")

/-- `fetch_add`, when the answer is `accepted`. -/
def Session.counterAfter (s : Session V) : Ending V → UInt64
  | .answered .accepted => s.nextSendSequence + 1
  | _ => s.nextSendSequence

def Session.receive (s : Session V) (n t : Nat) (ending : Ending V) : Session V :=
  { s with
    nextSendSequence := s.counterAfter ending
    sends := s.sends.insert n (.returned (some t) (sendResult ending)) }

/-- The act starts a send on the session's stream, which only the session does. -/
def startsSend (streamId : Nat) : Act (Pc V) (Input V) → Bool
  | .start _ pc => sendsOn pc = some streamId
  | .move _ _ _ => false

def Session.step (streamId : Nat) (s : Session V) : SessionAct V → Option (Session V)
  | .load n =>
    if n ∈ s.sends then none
    else some { s with sends := s.sends.insert n (.loaded s.nextSendSequence) }
  | .request n t =>
    match s.sends[n]? with
    | some (.loaded sequence) =>
      (program.step s.child (.start t (.sendStream streamId sequence.toNat))).map fun child =>
        { s with child := child, sends := s.sends.insert n (.requested t) }
    | _ => none
  | .child act =>
    if startsSend streamId act then none
    else (program.step s.child act).map fun child => { s with child := child }
  | .answer n =>
    match s.sends[n]? with
    | some (.requested t) =>
      match s.child.pool[t]? with
      | some (.finished .sendStream ending) => some (s.receive n t ending)
      | _ => none
    | _ => none
  | .fail n failure =>
    match s.sends[n]? with
    | some (.loaded _) =>
      some { s with sends := s.sends.insert n (.returned none (.error (rpcFailure failure))) }
    | some (.requested t) =>
      some { s with sends := s.sends.insert n (.returned (some t) (.error (rpcFailure failure))) }
    | _ => none

/-- The session is there, with both counters at zero; its stream is known by its id. -/
def Session.init (limits : Limits) (declared : ExtTreeMap Nat Binding) : Session V :=
  ⟨Child.init limits declared, 0, ∅⟩

/-- The sequence numbers handed to the stream. -/
def handed (streamId : Nat) (s : Child.Shared) : List Nat :=
  s.events.filterMap fun e => match e with
    | .handed _ id sequence => if id = streamId then some sequence else none
    | _ => none

/-- How the child refuses a number that is not the next. -/
def notContiguous : Ending V := .threw "Bun Stream send sequence is not contiguous"

/-! ## Conditions -/

/-- The child's part in a send on the stream: the message is valid, the stream takes it. -/
def takesMessage (streamId : Nat) : Pc V → Input V → Bool
  | .sendStream _ _, .go => true
  | .sendStream id _, _ => id ≠ streamId
  | .sending _, .acted .accepted => true
  | .sending id, _ => id ≠ streamId
  | _, _ => true

/-- The stream accepts every message, and the answer of a request that has reached the child comes
back. -/
def accepting (streamId : Nat) (s : Session V) : SessionAct V → Bool
  | .child (.move t k _) =>
    match s.child.pool[t]? with
    | some pc => takesMessage streamId pc k
    | none => true
  | .fail n _ =>
    match s.sends[n]? with
    | some (.requested _) => false
    | _ => true
  | _ => true

/-- A send starts when all before it have returned, and the host's counter has not come round. -/
def oneByOne (streamId : Nat) (s : Session V) : SessionAct V → Bool
  | .load _ =>
    s.sends.toList.all (fun x => x.2.unfinished = false) &&
      decide (s.child.shared.nextSendSequence streamId < 2 ^ 64)
  | _ => true

/-! ## The child's part -/

/-- The child's counter of the stream is the same, and so are the numbers handed to it. -/
structure SameSends (streamId : Nat) (s s' : Child.Shared) : Prop where
  count : s'.nextSendSequence streamId = s.nextSendSequence streamId
  handed : handed streamId s' = handed streamId s

section Child

variable {s s' : Child.Shared} {t streamId : Nat} {pc pc' : Pc V} {k : Input V}

theorem handed_append (s : Child.Shared) (e : Event) :
    handed streamId { s with events := s.events ++ [e] } =
      handed streamId s ++ (match e with
        | .handed _ id sequence => if id = streamId then [sequence] else []
        | _ => []) := by
  unfold handed
  rw [List.filterMap_append]
  cases e with
  | handed thread id => by_cases hid : id = streamId <;> simp [hid]
  | _ => rfl

theorem handed_of_events (h : s'.events = s.events) : handed streamId s' = handed streamId s := by
  unfold handed
  rw [h]

/-- A thread comes to wait for its stream from its own request. -/
theorem sendsOn_of_next (h : Moves s t pc k s' pc') (hpc' : sendsOn pc' = some streamId) :
    sendsOn pc = some streamId := by
  cases h with
  | quiet k same here next | leave k same here next | enter k requestId same here next
  | stopPartly scopeId k cancelled same next
  | stop scopeId k same next | stopHookThrows scopeId k same next =>
    cases pc' with
    | sendStream | sending => cases next
    | _ => cases hpc'
  | hand id k there next =>
    rcases next with rfl | ⟨error, rfl⟩
    · exact hpc'
    · cases hpc'
  | _ => cases hpc'

theorem sends_same (h : Moves s t pc k s' pc') (hpc : sendsOn pc ≠ some streamId) :
    SameSends streamId s s' := by
  cases h with
  | quiet k same | leave k same | enter k requestId same | stopPartly scopeId k cancelled same
  | stop scopeId k same | stopHook scopeId k same | stopHookThrows scopeId k same =>
    exact ⟨congrFun same.nextSendSequence streamId, handed_of_events same.events⟩
  | handlerThrows | handlerStarts | settle | answer =>
    exact ⟨rfl, (handed_append _ _).trans (List.append_nil _)⟩
  | hand id =>
    refine ⟨rfl, (handed_append _ _).trans ?_⟩
    have hid : id ≠ streamId := fun heq => hpc (congrArg some heq)
    simp only [if_neg hid, List.append_nil]
  | accept id =>
    have hid : streamId ≠ id := fun heq => hpc (congrArg some heq.symm)
    exact ⟨Function.update_of_ne hid _ _, rfl⟩
  | _ => exact ⟨rfl, rfl⟩

end Child

/-! ## Counters and numbers -/

/-- The counters agree, and what has been handed over is what they count. -/
structure Even (streamId : Nat) (s : Session V) : Prop where
  counter : s.nextSendSequence.toNat = s.child.shared.nextSendSequence streamId % 2 ^ 64
  handed : handed streamId s.child.shared =
    List.range (s.child.shared.nextSendSequence streamId)

/-- Where the child stands with the request under way. -/
def Serving (streamId : Nat) (s : Session V) : Pc V → Prop
  | .sendStream id sequence =>
    id = streamId ∧ sequence = s.child.shared.nextSendSequence streamId ∧ Even streamId s
  | .sending id =>
    id = streamId ∧
    s.nextSendSequence.toNat = s.child.shared.nextSendSequence streamId % 2 ^ 64 ∧
    handed streamId s.child.shared =
      List.range (s.child.shared.nextSendSequence streamId + 1)
  | .finished .sendStream ending =>
    ending ≠ notContiguous ∧
      Even streamId { s with nextSendSequence := s.counterAfter ending }
  | _ => False

def Phase (streamId : Nat) (s : Session V) : SendState → Prop
  | .loaded sequence =>
    sequence.toNat = s.child.shared.nextSendSequence streamId ∧ Even streamId s
  | .requested t => ∃ pc, s.child.pool[t]? = some pc ∧ Serving streamId s pc
  | .returned (some t) _ => ∃ ending, s.child.pool[t]? = some (.finished .sendStream ending) ∧
      ending ≠ notContiguous
  | .returned none _ => True

/-- One send at most is under way, and between two sends the counters agree. -/
structure Ordered (streamId : Nat) (s : Session V) : Prop where
  known : ∀ (t : Nat) pc, s.child.pool[t]? = some pc → sendsOn pc = some streamId →
    ∃ n : Nat, s.sends[n]? = some (.requested t)
  single : ∀ (n n' : Nat) state state', s.sends[n]? = some state → s.sends[n']? = some state' →
    state.unfinished = true → state'.unfinished = true → n = n'
  idle : (∀ (n : Nat) state, s.sends[n]? = some state → state.unfinished = false) → Even streamId s
  phase : ∀ (n : Nat) state, s.sends[n]? = some state → Phase streamId s state

section Steps

variable {s s' : Session V} {streamId : Nat} {child : Threads Child.Shared (Pc V)}

theorem Ordered.init (limits : Limits) (declared : ExtTreeMap Nat Binding) :
    Ordered streamId (Session.init (V := V) limits declared) where
  known t pc h := by cases h
  single n n' state state' h := by cases h
  idle _ := ⟨rfl, rfl⟩
  phase n state h := by cases h

theorem Even.congr (h : Even streamId s)
    (hsame : SameSends streamId s.child.shared child.shared) :
    Even streamId { s with child := child } := by
  refine ⟨?_, ?_⟩
  · rw [hsame.count]
    exact h.counter
  · rw [hsame.handed, hsame.count]
    exact h.handed

variable {pc : Pc V} {n u : Nat} {k : Input V} {m : Moved Child.Shared (Pc V)}

theorem Serving.congr (h : Serving streamId s pc)
    (hsame : SameSends streamId s.child.shared child.shared) :
    Serving streamId { s with child := child } pc := by
  cases pc with
  | sendStream =>
    obtain ⟨hid, hsequence, heven⟩ := h
    exact ⟨hid, hsequence.trans hsame.count.symm, heven.congr hsame⟩
  | sending =>
    obtain ⟨hid, hcounter, hold⟩ := h
    refine ⟨hid, ?_, ?_⟩
    · rw [hsame.count]
      exact hcounter
    · rw [hsame.handed, hsame.count]
      exact hold
  | finished method =>
    cases method with
    | sendStream =>
      obtain ⟨hending, heven⟩ := h
      exact ⟨hending, heven.congr hsame⟩
    | _ => cases h
  | _ => cases h

/-- The threads that count for the session are those that send on its stream and those that have
answered. -/
theorem Serving.place (h : Serving streamId s pc) :
    sendsOn pc = some streamId ∨ ∃ ending, pc = .finished .sendStream ending := by
  cases pc with
  | sendStream | sending => exact .inl (congrArg some h.1)
  | finished method ending =>
    cases method with
    | sendStream => exact .inr ⟨ending, rfl⟩
    | _ => cases h
  | _ => cases h

theorem Ordered.child_quiet (hs : Ordered streamId s)
    (hsame : SameSends streamId s.child.shared child.shared)
    (hkept : ∀ (t : Nat) pc, s.child.pool[t]? = some pc →
      sendsOn pc = some streamId ∨ (∃ ending, pc = .finished .sendStream ending) →
      child.pool[t]? = some pc)
    (hnew : ∀ (t : Nat) pc, child.pool[t]? = some pc → sendsOn pc = some streamId →
      s.child.pool[t]? = some pc) :
    Ordered streamId { s with child := child } := by
  refine ⟨fun t pc hpc hsends => hs.known t pc (hnew t pc hpc hsends) hsends, hs.single,
    fun hidle => (hs.idle hidle).congr hsame, fun n state hstate => ?_⟩
  have hphase := hs.phase n state hstate
  cases state with
  | loaded =>
    exact ⟨hphase.1.trans hsame.count.symm, hphase.2.congr hsame⟩
  | requested t =>
    obtain ⟨pc, hpc, hserving⟩ := hphase
    exact ⟨pc, hkept t pc hpc hserving.place, hserving.congr hsame⟩
  | returned t =>
    cases t with
    | none => trivial
    | some t =>
      obtain ⟨ending, hpc, hending⟩ := hphase
      exact ⟨ending, hkept t _ hpc (.inr ⟨ending, rfl⟩), hending⟩

theorem Ordered.load (hs : Ordered streamId s)
    (hidle : ∀ (n : Nat) state, s.sends[n]? = some state → state.unfinished = false)
    (hcount : s.child.shared.nextSendSequence streamId < 2 ^ 64) :
    Ordered streamId { s with sends := s.sends.insert n (.loaded s.nextSendSequence) } := by
  have heven := hs.idle hidle
  have hother : ∀ {m : Nat} {state}, (s.sends.insert n (.loaded s.nextSendSequence))[m]? =
      some state → state.unfinished = true → m = n := by grind
  refine ⟨fun t pc hpc hsends => ?_, ?_, fun hall => ?_, fun m state hm => ?_⟩
  · obtain ⟨m, hm⟩ := hs.known t pc hpc hsends
    cases hidle m _ hm
  · grind
  · have hn := hall n (.loaded s.nextSendSequence) (by simp only [getElem?_insert_nat, if_true])
    cases hn
  · rcases new_or_old_of_insert hm with ⟨-, rfl⟩ | ⟨-, hm⟩
    · exact ⟨heven.counter.trans (Nat.mod_eq_of_lt hcount), heven.counter, heven.handed⟩
    · have hphase := hs.phase m state hm
      cases state with
      | loaded | requested => cases hidle m _ hm
      | returned t => cases t <;> exact hphase

theorem Ordered.finish (hs : Ordered streamId s) {state : SendState} (hn : s.sends[n]? = some state)
    (hunfinished : state.unfinished = true)
    (hdone : ∀ t pc, state = .requested t → s.child.pool[t]? = some pc → sendsOn pc ≠ some streamId)
    {counter : UInt64} (heven : Even streamId { s with nextSendSequence := counter })
    {t : Option Nat} {result : Except RuntimeFailure Unit}
    (hphase : Phase streamId s (.returned t result)) :
    Ordered streamId
      { s with nextSendSequence := counter, sends := s.sends.insert n (.returned t result) } := by
  have hother : ∀ {m : Nat} {state'}, (s.sends.insert n (.returned t result))[m]? = some state' →
      state'.unfinished = false := by
    intro m state' hm
    rcases new_or_old_of_insert hm with ⟨-, rfl⟩ | ⟨hne, hm⟩
    · rfl
    · by_contra hu
      exact hne (hs.single n m state state' hn hm hunfinished (Bool.eq_true_of_not_eq_false hu))
  refine ⟨fun u pc hpc hsends => ?_, ?_, fun _ => ⟨heven.counter, heven.handed⟩, fun m state' hm => ?_⟩
  · obtain ⟨m, hm⟩ := hs.known u pc hpc hsends
    refine ⟨m, ?_⟩
    simp only [getElem?_insert_nat]
    split
    · grind
    · exact hm
  · grind
  · have hreturned := hother hm
    rcases new_or_old_of_insert hm with ⟨-, rfl⟩ | ⟨-, hm⟩
    · cases t <;> exact hphase
    · have hold := hs.phase m state' hm
      cases state' with
      | loaded | requested => cases hreturned
      | returned t' => cases t' <;> exact hold

theorem Ordered.request (hs : Ordered streamId s) {t : Nat} {sequence : UInt64}
    (hn : s.sends[n]? = some (.loaded sequence))
    (h : program.step s.child (.start t (.sendStream streamId sequence.toNat)) = some child) :
    Ordered streamId { s with child := child, sends := s.sends.insert n (.requested t) } := by
  rcases Program.step_cases h with ⟨t', pc', hact, -, hfresh, rfl⟩ | ⟨_, _, _, _, _, hact, _⟩
  case inr => cases hact
  cases hact
  obtain ⟨hsequence, heven⟩ := hs.phase n _ hn
  have hkept : ∀ {u : Nat} {pc : Pc V}, s.child.pool[u]? = some pc →
      (s.child.pool.insert t (.sendStream streamId sequence.toNat))[u]? = some pc := by grind
  refine ⟨fun u pc hpc hsends => ?_, ?_, fun hall => ?_, fun m state hm => ?_⟩
  · grind [new_or_old_of_insert, getElem?_insert_nat, hs.known]
  · have hwas : ∀ {m : Nat} {state}, (s.sends.insert n (.requested t))[m]? = some state →
        state.unfinished = true → m = n := by
      intro m state hm hu
      rw [getElem?_insert_nat] at hm
      split at hm
      · next heq => exact heq.symm
      · exact hs.single m n state _ hm hn hu rfl
    intro m m' state state' hm hm' hu hu'
    exact (hwas hm hu).trans (hwas hm' hu').symm
  · have hn' := hall n (.requested t) (by simp only [getElem?_insert_nat, if_true])
    cases hn'
  · rcases new_or_old_of_insert hm with ⟨-, rfl⟩ | ⟨hne, hm⟩
    · refine ⟨.sendStream streamId sequence.toNat, ?_, rfl, hsequence, heven.counter, heven.handed⟩
      simp only [getElem?_insert_nat, if_true]
    · have hold := hs.phase m state hm
      cases state with
      | loaded | requested => exact absurd (hs.single n m _ _ hn hm rfl rfl) hne
      | returned t' =>
        cases t' with
        | none => trivial
        | some =>
          obtain ⟨ending, hpc, hending⟩ := hold
          exact ⟨ending, hkept hpc, hending⟩

theorem Serving.move {pc' : Pc V} {shared : Child.Shared}
    (h : pcMove s.child.shared u pc k = some (shared, pc'))
    (htakes : takesMessage streamId pc k = true) (hsends : sendsOn pc = some streamId)
    (hserving : Serving streamId s pc) (pool : ExtTreeMap Nat (Pc V)) :
    Serving streamId { s with child := ⟨shared, pool⟩ } pc' := by
  cases pc with
  | sendStream =>
    obtain ⟨rfl, rfl, heven⟩ := hserving
    -- the message is valid and the provider takes it
    cases k with
    | go =>
      simp only [pcMove, sendStream] at h
      split at h
      · cases h
        exact ⟨by rintro ⟨⟩, heven.counter, heven.handed⟩
      · rw [if_neg (fun hne => hne rfl)] at h
        cases h
        refine ⟨rfl, heven.counter, ?_⟩
        refine (handed_append _ _).trans ?_
        simp only [if_true]
        rw [heven.handed, List.range_succ]
        rfl
    | _ => simp [takesMessage] at htakes
  | sending id =>
    obtain ⟨rfl, hcounter, hold⟩ := hserving
    cases k with
    | acted outcome =>
      cases outcome with
      | accepted =>
        cases h
        have hcount : (s.child.shared.sendAccepted id).nextSendSequence id =
            s.child.shared.nextSendSequence id + 1 := Function.update_self _ _ _
        refine ⟨by rintro ⟨⟩, ?_, ?_⟩
        · show (s.nextSendSequence + 1).toNat = _ % 2 ^ 64
          rw [hcount, UInt64.toNat_add, hcounter]
          simp
        · show handed id s.child.shared = _
          rw [hcount]
          exact hold
      | runtime => simp [takesMessage] at htakes
    | _ => simp [takesMessage] at htakes
  | _ => cases hsends

/-- A thread of the child that does not send on the stream makes a step. -/
theorem Ordered.move_other (hs : Ordered streamId s) (hpc : s.child.pool[u]? = some pc)
    (hm : program.move s.child.shared u pc k = some m) (hsends : sendsOn pc ≠ some streamId) :
    Ordered streamId { s with child := ⟨m.shared, s.child.pool.insert u m.next⟩ } := by
  have hmoves := move_moves hm
  refine hs.child_quiet (sends_same hmoves hsends) (fun t pcT hpcT hplace => ?_)
    (fun t pcT hpcT hsendsT => ?_)
  · have hne : u ≠ t := by
      rintro rfl
      rw [hpc] at hpcT
      cases hpcT
      rcases hplace with hplace | ⟨ending, rfl⟩
      · exact hsends hplace
      · cases hm
    simp only [getElem?_insert_nat, if_neg hne]
    exact hpcT
  · grind [new_or_old_of_insert, sendsOn_of_next]

theorem Ordered.move_serving (hs : Ordered streamId s) (hpc : s.child.pool[u]? = some pc)
    (hm : program.move s.child.shared u pc k = some m) (hsends : sendsOn pc = some streamId)
    (htakes : takesMessage streamId pc k = true) :
    Ordered streamId { s with child := ⟨m.shared, s.child.pool.insert u m.next⟩ } := by
  obtain ⟨n, hn⟩ := hs.known u pc hpc hsends
  obtain ⟨pc₀, hpc₀, hserving⟩ := hs.phase n _ hn
  rw [hpc] at hpc₀
  cases hpc₀
  refine ⟨fun t pcT hpcT hsendsT => ?_, hs.single, fun hall => ?_, fun n' state hn' => ?_⟩
  · grind [new_or_old_of_insert, hs.known]
  · cases hall n _ hn
  · by_cases hnn : n = n'
    · subst hnn
      rw [hn] at hn'
      cases hn'
      refine ⟨m.next, ?_, hserving.move (moved_of_map hm).1 htakes hsends _⟩
      simp only [getElem?_insert_nat, if_true]
    · have hold := hs.phase n' state hn'
      cases state with
      | loaded | requested => exact absurd (hs.single n n' _ _ hn hn' rfl rfl) hnn
      | returned t =>
        cases t with
        | none => trivial
        | some t =>
          obtain ⟨ending, hpcT, hending⟩ := hold
          refine ⟨ending, ?_, hending⟩
          have hne : u ≠ t := by
            rintro rfl
            rw [hpc] at hpcT
            cases hpcT
            cases hsends
          simp only [getElem?_insert_nat, if_neg hne]
          exact hpcT

theorem Ordered.child_step (hs : Ordered streamId s) {a : Act (Pc V) (Input V)}
    (hstarts : startsSend streamId a = false) (haccepting : accepting streamId s (.child a) = true)
    (h : program.step s.child a = some child) : Ordered streamId { s with child := child } := by
  rcases Program.step_cases h with
    ⟨u, pc, rfl, -, hfresh, rfl⟩ | ⟨u, k, number, pc, m, rfl, hpc, hm, hsh, hpool⟩
  · have hsends : sendsOn pc ≠ some streamId := by simpa [startsSend] using hstarts
    refine hs.child_quiet ⟨rfl, rfl⟩ (fun t pcT hpcT _ => ?_) (fun t pcT hpcT hsendsT => ?_)
    · have hne : u ≠ t := by grind
      simp only [getElem?_insert_nat, if_neg hne]
      exact hpcT
    · grind
  · have hchild : child = ⟨m.shared, s.child.pool.insert u m.next⟩ := by
      rcases hpool with ⟨-, hpool⟩ | ⟨pc', hpc', -⟩
      · cases child
        cases hsh
        cases hpool
        rfl
      · rw [(moved_of_map hm).2] at hpc'
        cases hpc'
    rw [hchild]
    by_cases hsends : sendsOn pc = some streamId
    · grind [accepting, Ordered.move_serving]
    · exact hs.move_other hpc hm hsends

theorem Ordered.step (hs : Ordered streamId s) {a : SessionAct V}
    (haccepting : accepting streamId s a = true) (hone : oneByOne streamId s a = true)
    (h : s.step streamId a = some s') : Ordered streamId s' := by
  cases a with
  | load =>
    simp only [Session.step] at h
    split at h
    · cases h
    · cases h
      obtain ⟨hidle, hcount⟩ := Bool.and_eq_true_iff.mp hone
      refine hs.load (fun m state hm => ?_) (of_decide_eq_true hcount)
      have hall := List.all_eq_true.mp hidle (m, state)
        (ExtTreeMap.mem_toList_iff_getElem?_eq_some.mpr hm)
      exact of_decide_eq_true hall
  | request =>
    simp only [Session.step] at h
    split at h
    · next sequence hn =>
        obtain ⟨child, hstep, rfl⟩ := Option.map_eq_some_iff.mp h
        exact hs.request hn hstep
    · cases h
  | child =>
    simp only [Session.step] at h
    split at h
    · cases h
    · next hstarts =>
        obtain ⟨child, hstep, rfl⟩ := Option.map_eq_some_iff.mp h
        exact hs.child_step (Bool.eq_false_of_not_eq_true hstarts) haccepting hstep
  | answer n =>
    simp only [Session.step] at h
    split at h
    · next t hn =>
        split at h
        · next ending hpc =>
            cases h
            obtain ⟨pc, hpc', hserving⟩ := hs.phase n _ hn
            rw [hpc] at hpc'
            cases hpc'
            refine hs.finish hn rfl (fun t' pc ht hpcT => ?_) hserving.2 ⟨ending, hpc, hserving.1⟩
            cases ht
            rw [hpc] at hpcT
            cases hpcT
            nofun
        · cases h
    · cases h
  | fail n =>
    simp only [Session.step] at h
    split at h
    · next sequence hn =>
        cases h
        exact hs.finish hn rfl nofun (hs.phase n _ hn).2 trivial
    · next t hn => simp [accepting, hn] at haccepting
    · cases h

/-- What has been handed over are the first numbers, whatever is under way. -/
theorem Ordered.numbers (hs : Ordered streamId s) :
    ∃ count, handed streamId s.child.shared = List.range count := by
  by_cases hidle : ∀ (n : Nat) state, s.sends[n]? = some state → state.unfinished = false
  · exact ⟨_, (hs.idle hidle).handed⟩
  · obtain ⟨n, hn⟩ := not_forall.mp hidle
    obtain ⟨state, hstate⟩ := not_forall.mp hn
    obtain ⟨hn, hunfinished⟩ := Classical.not_imp.mp hstate
    have hphase := hs.phase n state hn
    cases state with
    | loaded => exact ⟨_, hphase.2.handed⟩
    | requested =>
      obtain ⟨pc, -, hserving⟩ := hphase
      cases pc with
      | sendStream => exact ⟨_, hserving.2.2.handed⟩
      | sending => exact ⟨_, hserving.2.2⟩
      | finished method =>
        cases method with
        | sendStream => exact ⟨_, hserving.2.handed⟩
        | _ => cases hserving
      | _ => cases hserving
    | returned => exact absurd rfl hunfinished

end Steps

/-! ## Runs -/

/-- The stream accepts every message, and the sends come one by one. -/
def InOrder (streamId : Nat) (s : Session V) (a : SessionAct V) : Prop :=
  accepting streamId s a = true ∧ oneByOne streamId s a = true

instance (streamId : Nat) (s : Session V) (a : SessionAct V) : Decidable (InOrder streamId s a) :=
  inferInstanceAs (Decidable (_ ∧ _))

/-- **Sends one by one carry the numbers 0, 1, 2, ... each once.** In every run of a session in which
the stream accepts every message and a send starts after those before it have returned: no send is
refused for its number, and the numbers handed to the stream are the first ones, in order. -/
theorem sends_in_order (streamId : Nat) (limits : Limits) (declared : ExtTreeMap Nat Binding)
    {acts : List (SessionAct V)} {s : Session V}
    (hmeets : Meets (Session.step streamId) (InOrder streamId) (Session.init limits declared) acts)
    (hrun : run (Session.step streamId) (Session.init limits declared) acts = some s) :
    (∀ (n t : Nat), (s.sends[n]? = some (.requested t) ∨
        ∃ result, s.sends[n]? = some (.returned (some t) result)) →
      s.child.pool[t]? ≠ some (.finished .sendStream notContiguous)) ∧
    ∃ count, handed streamId s.child.shared = List.range count := by
  have hs : Ordered streamId s :=
    run_invariant_of_meets (fun _ _ _ hs hcond hstep => hs.step hcond.1 hcond.2 hstep)
      (Ordered.init limits declared) hmeets hrun
  refine ⟨fun n t hsend hrefused => ?_, ?_⟩
  · rcases hsend with hn | ⟨result, hn⟩
    · obtain ⟨pc, hpc, hserving⟩ := hs.phase n _ hn
      rw [hrefused] at hpc
      cases hpc
      exact hserving.1 rfl
    · obtain ⟨ending, hpc, hending⟩ := hs.phase n _ hn
      rw [hrefused] at hpc
      cases hpc
      exact hending rfl
  · exact hs.numbers

/-- A message whose request has come through and whose answer is back. -/
def sendsThrough (n t : Nat) : List (SessionAct Nat) :=
  [.load n, .request n t, .child (.move t .go 0), .child (.move t (.acted .accepted) 0), .answer n]

def opensStream : List (SessionAct Nat) :=
  (constructs ++ worksThrough 2 .openStream (sampleParams 7) (.opened .opened)).map .child

theorem sends_in_order_sample :
    ∃ s, run (Session.step 1) (Session.init sampleLimits sampleProviders)
        (opensStream ++ sendsThrough 0 10 ++ sendsThrough 1 11 ++ sendsThrough 2 12) = some s ∧
      (∃ count, handed 1 s.child.shared = List.range count) ∧
      handed 1 s.child.shared = [0, 1, 2] ∧
      s.child.pool[12]? ≠ some (.finished .sendStream notContiguous) := by
  have hmeets : Meets (Session.step 1) (InOrder 1) (Session.init sampleLimits sampleProviders)
      (opensStream ++ sendsThrough 0 10 ++ sendsThrough 1 11 ++ sendsThrough 2 12) := by
    decide +kernel
  have hs : ∃ s, run (Session.step 1) (Session.init sampleLimits sampleProviders)
      (opensStream ++ sendsThrough 0 10 ++ sendsThrough 1 11 ++ sendsThrough 2 12) = some s ∧
      handed 1 s.child.shared = [0, 1, 2] ∧
      s.sends[2]? = some (.returned (some 12) (.ok ())) := ⟨_, rfl, rfl, rfl⟩
  obtain ⟨s, hrun, hhanded, hreturned⟩ := hs
  obtain ⟨hrefused, hcount⟩ := sends_in_order 1 sampleLimits sampleProviders hmeets hrun
  exact ⟨s, hrun, hcount, hhanded, hrefused 2 12 (.inr ⟨_, hreturned⟩)⟩

/-- Two sends at once, of which the stream accepts every message: both numbers are 0. When the second
request comes before the first has been accepted, the stream gets 0 twice; when it comes after, it is
refused. -/
theorem overlapping_sends_collide :
    (∃ s, run (Session.step 1) (Session.init sampleLimits sampleProviders)
        (opensStream ++
          [.load 0, .load 1, .request 0 10, .request 1 11, .child (.move 10 .go 0),
            .child (.move 11 .go 0), .child (.move 10 (.acted .accepted) 0),
            .child (.move 11 (.acted .accepted) 0), .answer 0, .answer 1]) = some s ∧
      handed 1 s.child.shared = [0, 0]) ∧
    ∃ s, run (Session.step 1) (Session.init sampleLimits sampleProviders)
        (opensStream ++
          [.load 0, .load 1, .request 0 10, .child (.move 10 .go 0),
            .child (.move 10 (.acted .accepted) 0), .answer 0, .request 1 11,
            .child (.move 11 .go 0)]) = some s ∧
      s.child.pool[11]? = some (.finished .sendStream notContiguous) :=
  ⟨⟨_, rfl, rfl⟩, ⟨_, rfl, rfl⟩⟩

end LensoBun.AuthoringV2.StreamSends
