import LensoBun.Provider.Sessions

set_option autoImplicit false

/-! # A stream cancel against the opens of its stream

`handle_stream_open` looks at the tables, calls the provider and stores the stream afterwards;
`handle_stream_cancel` acknowledges a cancel that finds no stream. A cancel that is acknowledged
while an open of the same id is under way has therefore cancelled nothing, and the stream is
stored after it (`cancelled_stream_opens`). When no such open can still store a stream, the id
stays out of the table and no admission permit is held for it (`cancelled_stream_stays_closed`).

Each handler has one stream id, `ids t` for the thread `t`.
-/

namespace LensoBun.Provider.Server

open Std Lib

variable {V : Type}

/-! ## Opens and cancels of one stream id -/

def Kind.opens (streamId : Nat) : Kind → Bool
  | .stream id _ _ => id == streamId
  | _ => false

def Message.concerns (streamId : Nat) : Message V → Bool
  | .work kind _ _ _ => kind.opens streamId
  | .streamCancel id _ => id == streamId
  | _ => false

/-- A stream open or a stream cancel with the given id. -/
def Pc.concerns (streamId : Nat) : Pc V → Bool
  | .receive message => message.concerns streamId
  | .acquire kind _ | .checkRetired kind _ | .register kind _ | .running kind _ _
  | .removeEntry kind _ _ | .retire kind _ _ => kind.opens streamId
  | .openRetired _ id _ _ | .openActive _ id _ _ _ | .insertStream id _ _ | .cancelRemove id
  | .cancelStore id _ | .cancelProvider id _ | .cancelRemember id _ => id == streamId
  | .cancelRelease _ | .refused _ | .done => true
  | _ => false

/-- A stream open that has been received and has not finished. -/
def Pc.isOpen : Pc V → Bool
  | .receive (.work kind _ _ _) => kind.isStream
  | .acquire kind _ | .checkRetired kind _ | .register kind _ | .running kind _ _
  | .removeEntry kind _ _ | .retire kind _ _ => kind.isStream
  | .openRetired _ _ _ _ | .openActive _ _ _ _ _ | .insertStream _ _ _ => true
  | _ => false

/-- An open whose message has not failed its checks, and for which the provider has not failed to
return a stream. -/
def Pc.unrefused : Pc V → Bool
  | .receive (.work _ _ _ valid) => valid
  | .openActive _ _ _ _ retired => !retired
  | .removeEntry _ _ opened | .retire _ _ opened => opened
  | _ => true

def Pc.mayStore (pc : Pc V) : Bool := pc.isOpen && pc.unrefused

def Pc.stores : Pc V → Bool
  | .insertStream _ _ _ => true
  | _ => false

/-- A stream cancel that has taken an entry out of the table. -/
def Pc.removed : Pc V → Bool
  | .cancelStore _ _ | .cancelProvider _ _ | .cancelRemember _ _ | .cancelRelease _ => true
  | _ => false

/-- The last step of a stream cancel: there is no entry, or the permit is released. -/
def Pc.acknowledges (s : Shared) : Pc V → Bool
  | .cancelRemove id => s.streams[id]?.isNone
  | .cancelRelease _ => true
  | _ => false

def Shared.permitAt (s : Shared) (ref : Nat) : Bool :=
  s.entries[ref]?.any ProviderStreamEntry.permit

/-- The handler has an admission permit: an open from its acquisition to the insert, a cancel as
long as it has the entry that it took out of the table, if the permit is there. -/
def Pc.holdsPermit (s : Shared) : Pc V → Bool
  | .checkRetired kind _ | .register kind _ | .running kind _ _ | .removeEntry kind _ _
  | .retire kind _ _ => kind.isStream
  | .insertStream _ _ _ => true
  | .cancelStore _ ref | .cancelProvider _ ref | .cancelRemember _ ref | .cancelRelease ref =>
    s.permitAt ref
  | _ => false

/-- An admission permit is held for the stream id: by its entry in the table, or by a handler. -/
def PermitHeld (ids : Nat → Nat) (c : Threads Shared (Pc V)) (streamId : Nat) : Prop :=
  (∃ ref, c.shared.streams[streamId]? = some ref ∧ c.shared.permitAt ref = true) ∨
    ∃ t pc, c.pool[t]? = some pc ∧ ids t = streamId ∧ pc.holdsPermit c.shared = true

theorem concerns_afterSession {streamId : Nat} {message : Message V}
    (h : message.concerns streamId = true) : (afterSession message).concerns streamId = true := by
  cases message with
  | work kind =>
    rw [afterSession]
    split
    · cases kind with
      | stream => exact h
      | _ => cases h
    · rfl
  | streamCancel => exact h
  | _ => cases h

section

variable {s s' : Shared} {t streamId : Nat} {pc next : Pc V} {k : Input V}

theorem concerns_moves (hpc : pc.concerns streamId = true) (h : Moves s t pc k s' next) :
    next.concerns streamId = true := by
  cases h with
  | receive => exact concerns_afterSession hpc
  | retire kind requestId opened =>
    cases kind <;> cases opened <;> first | rfl | exact hpc
  | _ => first | exact hpc | rfl | cases hpc

/-- An open or cancel of one id leaves the others in the table alone. -/
theorem streams_frame (hpc : pc.concerns streamId = true) {other : Nat} (hne : streamId ≠ other)
    (h : Moves s t pc k s' next) : s'.streams[other]? = s.streams[other]? := by
  cases h with
  | insertStream id =>
    have hid : id = streamId := eq_of_beq hpc
    rw [getElem?_insert_nat, if_neg (by rwa [hid])]
  | cancelRemove id =>
    have hid : id = streamId := eq_of_beq hpc
    rw [getElem?_erase_nat, if_neg (by rwa [hid])]
  | _ => first | rfl | cases hpc

/-- What is not in the table stays out of it, unless a stream is stored. -/
theorem streams_none (hpc : pc.concerns streamId = true) (hstores : pc.stores = false)
    {other : Nat} (hnone : s.streams[other]? = none) (h : Moves s t pc k s' next) :
    s'.streams[other]? = none := by
  cases h with
  | insertStream => cases hstores
  | cancelRemove => grind
  | _ => first | exact hnone | cases hpc

theorem mayStore_moves (hpc : pc.mayStore = false) (h : Moves s t pc k s' next) :
    next.mayStore = false := by
  cases h with
  | receive message =>
    cases message with
    | work kind requestId session valid =>
      cases valid with
      | false => rfl
      | true => cases kind <;> first | rfl | cases hpc
    | _ => rfl
  | takeStreams => cases s.streams.toList <;> rfl
  | rememberEntry id taken => cases taken <;> rfl
  | returned kind => grind [Pc.mayStore, Pc.isOpen, Pc.unrefused]
  | retire kind requestId opened => cases kind <;> cases opened <;> first | rfl | cases hpc
  | _ => first | rfl | exact hpc | cases hpc

/-- A cancel takes an entry out of the table, or had taken it before. -/
theorem removed_moves (hpc : pc.concerns streamId = true) (hnext : next.removed = true)
    (h : Moves s t pc k s' next) :
    pc.removed = true ∨ (∃ ref, s.streams[streamId]? = some ref) ∧ s'.streams[streamId]? = none := by
  cases h with
  | receive message =>
    cases message with
    | work kind =>
      rw [afterSession] at hnext
      split at hnext
      · cases kind <;> cases hnext
      · cases hnext
    | _ => cases hnext
  | retire kind requestId opened => cases kind <;> cases opened <;> cases hnext
  | cancelRemove id ref _ hfound =>
    have hid : id = streamId := eq_of_beq hpc
    rw [← hid]
    exact Or.inr ⟨⟨ref, hfound⟩, by rw [getElem?_erase_nat, if_pos rfl]⟩
  | takeStreams => cases hpc
  | rememberEntry => cases hpc
  | _ => first | exact Or.inl rfl | cases hnext

theorem done_of_acknowledges (hack : pc.acknowledges s = true) (h : Moves s t pc k s' next) :
    next = .done := by
  cases h with
  | cancelMissing => rfl
  | cancelRelease => rfl
  | cancelRemove id ref _ hfound =>
    rw [Pc.acknowledges, hfound] at hack
    cases hack
  | refuse _ _ _ hrefuse =>
    cases pc <;> first | (cases hack; done) | cases hrefuse
  | _ => cases hack

end

/-! ## The condition and the invariant -/

/-- Every handler is an open or a cancel with its id. A cancel is acknowledged when no other
handler of its id may still store a stream or has an entry of it; and no open stores a stream
while a cancel of its id that has found an entry is under way. -/
def cancelsApart (ids : Nat → Nat) : Guard Shared (Pc V) (Input V) where
  self _ _ _ _ := True
  other s t pc _ u pc' := ids t = ids u →
    (pc.acknowledges s = true → pc'.mayStore = false ∧ pc'.removed = false) ∧
      (pc.stores = true → pc'.removed = false)
  start _ t pc := pc.concerns (ids t) = true

instance (ids : Nat → Nat) (c : Threads Shared (Pc V)) (a : Act (Pc V) (Input V)) :
    Decidable ((cancelsApart ids).Allows c a) := Guard.decidable c a

/-- While a cancel has the entry of its stream, the id is not in the table; so no two have one. -/
def cancelling (ids : Nat → Nat) : Outline Shared (Pc V) where
  Shared _ := True
  At s t pc := pc.concerns (ids t) = true ∧
    (pc.removed = true → s.streams[ids t]? = none)
  Pair _ _ _ _ := True

theorem not_removed_of_starts {pc : Pc V} (h : Pc.starts pc = true) :
    pc.removed = false := by
  cases pc <;> first | rfl | cases h

theorem cancelling_valid (ids : Nat → Nat) :
    (cancelling ids).Valid (program (V := V)) (cancelsApart ids) where
  start s t pc _ hpc hg := by
    refine ⟨hg, fun hremoved => ?_⟩
    rw [not_removed_of_starts hpc] at hremoved
    cases hremoved
  start_pair _ _ _ _ _ _ _ _ _ _ := ⟨trivial, trivial⟩
  move s t pc k m _ hpc _ hm := by
    have hmoves := (move_moves hm).1
    refine ⟨trivial, concerns_moves hpc.1 hmoves, fun hremoved => ?_⟩
    rcases removed_moves hpc.1 hremoved hmoves with hbefore | ⟨-, hnone⟩
    · refine streams_none hpc.1 ?_ (hpc.2 hbefore) hmoves
      cases pc <;> first | rfl | cases hbefore
    · exact hnone
  child s t pc k m u pc' _ _ _ hm hchild := by
    rw [(move_moves hm).2] at hchild
    cases hchild
  other s t pc k m u pc' _ hpc hpc' _ _ _ _ hg hm := by
    have hmoves := (move_moves hm).1
    refine ⟨⟨hpc'.1, fun hremoved => ?_⟩, trivial, trivial⟩
    by_cases hid : ids t = ids u
    · -- the mover does not store a stream now
      have hstores : pc.stores = false := by
        by_contra hstores
        rw [Bool.not_eq_false] at hstores
        have hnot := (hg hid).2 hstores
        rw [hremoved] at hnot
        cases hnot
      exact streams_none hpc.1 hstores (hpc'.2 hremoved) hmoves
    · rw [streams_frame hpc.1 hid hmoves]
      exact hpc'.2 hremoved
  child_pair s t pc k m v pc'' u pc' _ _ _ _ _ _ _ _ _ hm hchild := by
    rw [(move_moves hm).2] at hchild
    cases hchild

/-! ## After the acknowledgement -/

/-- The stream id is not in the table, and no handler of it can put it there or has an entry. -/
structure Closed (ids : Nat → Nat) (streamId : Nat) (c : Threads Shared (Pc V)) : Prop where
  outline : (cancelling ids).Holds c
  streams : c.shared.streams[streamId]? = none
  handlers : ∀ (u : Nat) (pc : Pc V), c.pool[u]? = some pc → ids u = streamId →
    pc.mayStore = false ∧ pc.removed = false

section

variable {ids : Nat → Nat} {streamId t child : Nat} {k : Input V} {pc : Pc V}
  {c c' : Threads Shared (Pc V)}

theorem closed_of_acknowledged (hc : (cancelling ids).Holds c) (hpc : c.pool[t]? = some pc)
    (hack : pc.acknowledges c.shared = true)
    (hg : (cancelsApart ids).Allows c (.move t k child))
    (h : program.step c (.move t k child) = some c') : Closed ids (ids t) c' := by
  obtain ⟨pc₀, m, hpc₀, hm, hsh, hpool⟩ := step_move_cases h
  rw [hpc] at hpc₀
  cases hpc₀
  obtain ⟨hconcerns, hremoved⟩ := hc.at_ t pc hpc
  have hmoves := (move_moves hm).1
  have hnone : c.shared.streams[ids t]? = none := by
    cases pc with
    | cancelRemove id =>
      have hid : id = ids t := eq_of_beq hconcerns
      rw [← hid]
      exact Option.isNone_iff_eq_none.mp hack
    | cancelRelease => exact hremoved rfl
    | _ => cases hack
  have hnext : m.next = .done := done_of_acknowledges hack hmoves
  refine ⟨hc.step (cancelling_valid ids) hg h, ?_, ?_⟩
  · rw [hsh]
    refine streams_none hconcerns ?_ hnone hmoves
    cases pc <;> first | rfl | cases hack
  · intro u pc' hu hid
    rw [hpool] at hu
    split at hu
    · cases hu
      rw [hnext]
      exact ⟨rfl, rfl⟩
    · next hne => exact ((hg pc hpc).2 u pc' (Ne.symm hne) hu hid.symm).1 hack

theorem Closed.step (hc : Closed ids streamId c) {a : Act (Pc V) (Input V)}
    (hg : (cancelsApart ids).Allows c a)
    (hnew : ∀ u pc', a = .start u pc' → ids u = streamId → pc'.isOpen = false)
    (h : program.step c a = some c') : Closed ids streamId c' := by
  refine ⟨hc.outline.step (cancelling_valid ids) hg h, ?_, ?_⟩
  · cases a with
    | start =>
      rw [(step_start_cases h).1]
      exact hc.streams
    | move u =>
      obtain ⟨pc', m, hpc', hm, hsh, -⟩ := step_move_cases h
      have hconcerns := (hc.outline.at_ u pc' hpc').1
      rw [hsh]
      by_cases hid : ids u = streamId
      · have hstores : pc'.stores = false := by
          have hmay := (hc.handlers u pc' hpc' hid).1
          cases pc' <;> first | rfl | cases hmay
        exact streams_none hconcerns hstores hc.streams (move_moves hm).1
      · rw [streams_frame hconcerns hid (move_moves hm).1]
        exact hc.streams
  · intro v pc'' hv hid
    cases a with
    | start u =>
      rw [(step_start_cases h).2] at hv
      split at hv
      · next huv =>
          cases hv
          have hopen := hnew u pc'' rfl (by rw [huv]; exact hid)
          have hstarts : Pc.starts pc'' = true := by
            rcases Program.step_cases h with ⟨_, _, hact, hentry, -⟩ | ⟨_, _, _, _, _, hact, _⟩
            · cases hact
              exact hentry
            · cases hact
          exact ⟨by rw [Pc.mayStore, hopen, Bool.false_and],
            not_removed_of_starts hstarts⟩
      · exact hc.handlers v pc'' hv hid
    | move u =>
      obtain ⟨pc', m, hpc', hm, hsh, hpool⟩ := step_move_cases h
      rw [hpool] at hv
      split at hv
      · next huv =>
          cases hv
          have hhandler := hc.handlers u pc' hpc' (by rw [huv]; exact hid)
          have hconcerns := (hc.outline.at_ u pc' hpc').1
          refine ⟨mayStore_moves hhandler.1 (move_moves hm).1, ?_⟩
          by_contra hremoved
          rw [Bool.not_eq_false] at hremoved
          rcases removed_moves hconcerns hremoved (move_moves hm).1 with hbefore | ⟨⟨ref, hfound⟩, -⟩
          · grind
          · -- there is no entry to take out
            rw [huv, hid, hc.streams] at hfound
            cases hfound
      · exact hc.handlers v pc'' hv hid

/-- Then no permit is held, once the opens of the id have finished. -/
theorem Closed.not_permitHeld (hc : Closed ids streamId c)
    (hfinished : ∀ (u : Nat) (pc' : Pc V), c.pool[u]? = some pc' → ids u = streamId →
      pc'.isOpen = false) : ¬ PermitHeld ids c streamId := by
  rintro (⟨ref, hfound, -⟩ | ⟨u, pc', hu, hid, hpermit⟩)
  · rw [hc.streams] at hfound
    cases hfound
  · have hopen := hfinished u pc' hu hid
    have hremoved := (hc.handlers u pc' hu hid).2
    cases pc' with
    | checkRetired | register | running | removeEntry | retire =>
      exact absurd (hpermit.symm.trans hopen) Bool.noConfusion
    | insertStream => cases hopen
    | _ => first | cases hpermit | cases hremoved

end

/-- **A stream whose cancel has been acknowledged is not live, and no admission permit is held for
it**, once the opens received before have finished, in every run in which no open that may still
store the stream is under way at the acknowledgement. -/
theorem cancelled_stream_stays_closed (ids : Nat → Nat) (s : Shared)
    {acts₁ acts₂ : List (Act (Pc V) (Input V))} {t child : Nat} {k : Input V} {pc : Pc V}
    {c c' : Threads Shared (Pc V)}
    (hg : Meets program.step (cancelsApart ids).Allows ⟨s, ∅⟩ (acts₁ ++ .move t k child :: acts₂))
    (hbefore : run program.step ⟨s, ∅⟩ acts₁ = some c) (hpc : c.pool[t]? = some pc)
    (hack : pc.acknowledges c.shared = true)
    (hafter : run program.step c (.move t k child :: acts₂) = some c')
    (hreceived : ∀ a ∈ acts₂, ∀ u pc', a = .start u pc' → ids u = ids t → pc'.isOpen = false)
    (hfinished : ∀ (u : Nat) (pc' : Pc V), c'.pool[u]? = some pc' → ids u = ids t →
      pc'.isOpen = false) :
    c'.shared.streams[ids t]? = none ∧ ¬ PermitHeld ids c' (ids t) := by
  have hstart : (cancelling (V := V) ids).Holds ⟨s, ∅⟩ := by
    refine ⟨trivial, ?_, ?_⟩
    · intro u pc' hu
      cases hu
    · intro u v pc₁ pc₂ _ hu
      cases hu
  have hc := Outline.run (cancelling_valid ids) hstart hg.append_left hbefore
  have hgc := hg.append_right hbefore
  obtain ⟨c₁, hstep, hrest⟩ := run_cons_eq_some.mp hafter
  have hclosed : Closed ids (ids t) c₁ := closed_of_acknowledged hc hpc hack hgc.head hstep
  have hfinal : Closed ids (ids t) c' :=
    run_invariant_of_meets (fun _ _ _ hc hg hs => hc.step hg.1 hg.2 hs) hclosed
      ((hgc.tail hstep).and_mem hreceived) hrest
  exact ⟨hfinal.streams, hfinal.not_permitHeld hfinished⟩

/-! ## Sample runs -/

/-- A server in session 1, with nothing in its tables. -/
def inSession : Shared := { (init (V := Nat) "store").shared with session := some (sessionName 1) }

/-- A stream open up to the provider's callback. -/
def openingActs (t requestId streamId : Nat) : List (Act (Pc Nat) (Input Nat)) :=
  (openActs t requestId streamId 1).take 7

/-- The rest of it, with the stream that the callback has returned. -/
def openedActs (t : Nat) : List (Act (Pc Nat) (Input Nat)) :=
  [.move t (.opened true) 0, .move t .go 0, .move t .go 0, .move t .go 0]

/-- A stream cancel up to its look at the table. -/
def streamCancelActs (t streamId : Nat) : List (Act (Pc Nat) (Input Nat)) :=
  [.start t (.receive (.streamCancel streamId (sessionName 1))), .move t .go 0]

/-- Stream 4 is opened and cancelled while the open of stream 5 is under way. -/
theorem cancelled_stream_stays_closed_sample :
    ∃ c c', run program.step ⟨inSession, ∅⟩ (openingActs 1 6 4 ++ openingActs 3 7 5 ++
        openedActs 1 ++ streamCancelActs 2 4 ++ List.replicate 4 (.move 2 .go 0)) = some c ∧
      run program.step c (.move 2 .go 0 :: openedActs 3) = some c' ∧
      c'.shared.streams[5]? = some 3 ∧ c'.shared.streams[4]? = none ∧
      ¬ PermitHeld (fun t => if t = 3 then 5 else 4) c' 4 := by
  let ids : Nat → Nat := fun t => if t = 3 then 5 else 4
  have hmoves : ∀ a ∈ openedActs 3, ∀ u pc', a = .start u pc' → ids u = ids 2 →
      pc'.isOpen = false := by grind [openedActs]
  refine ⟨_, _, run_get (by decide +kernel), run_get (by decide +kernel), by decide +kernel, ?_⟩
  exact cancelled_stream_stays_closed ids inSession (by decide +kernel) (run_get _)
    (Option.some_get (by decide +kernel)).symm (by decide +kernel) (run_get _) hmoves
    (by decide +kernel)

/-- The cancel of stream 4 comes while the provider's callback is running: it finds nothing and is
acknowledged, and the open that finishes after it leaves the stream live, with its permit. -/
theorem cancelled_stream_opens :
    ∃ c c' pc, run program.step ⟨inSession, ∅⟩ (openingActs 1 6 4 ++ streamCancelActs 2 4) =
        some c ∧
      c.pool[2]? = some pc ∧ pc.acknowledges c.shared = true ∧
      run program.step c (.move 2 .go 0 :: openedActs 1) = some c' ∧
      (∀ (u : Nat) (pc' : Pc Nat), c'.pool[u]? = some pc' → pc'.isOpen = false) ∧
      c'.shared.streams[4]? = some 1 ∧ PermitHeld (fun _ => 4) c' 4 := by
  refine ⟨_, _, _, run_get (by decide +kernel), (Option.some_get (by decide +kernel)).symm,
    by decide +kernel, run_get (by decide +kernel), by decide +kernel, by decide +kernel,
    Or.inl ⟨1, by decide +kernel, by decide +kernel⟩⟩

end LensoBun.Provider.Server
