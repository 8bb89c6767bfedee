import LensoBun.AuthoringV2.ChildSettlements
import LensoBun.Lib.Census

set_option autoImplicit false

/-! # The limits of the child

Five limits come with the session. The outbound calls and the event publications in progress are
counted by the child: the counter is tested and raised in one segment, so these two limits are kept
in every run. The inbound streams, the outbound streams and the retired ids are tested when a call is
admitted and grow when it ends, an await later; calls that have been admitted in between find the
same room. With room kept for the calls on their way (`Reserves`) all five limits are kept.

`Tallies` is what a step does to the flags, the two counters and the sizes of the three tables, with
the places it leads between; the other modules on the child's life use it as well.
-/

namespace LensoBun.AuthoringV2.Child

open Std Lib

variable {V : Type}

/-! ## Places -/

/-- The places that the limits and the stop hook are about. -/
inductive Place where
  | idle
  /-- The provider's handler for an invoke or a stream open is running. -/
  | running (work : Work)
  | publishing
  /-- An outbound interaction, or an action on an outbound stream, waits for the host. -/
  | waiting (kind : Interaction)
  | acting
  /-- The stop hook has been called: it runs, or it has run. -/
  | hooked
  deriving DecidableEq, Repr

def Pc.place : Pc V → Place
  | .running work _ => .running work
  | .publishing _ => .publishing
  | .outboundWaiting kind => .waiting kind
  | .outboundActing _ => .acting
  | .stopping => .hooked
  | .finished .stop (.answered (.stopped hook)) => if hook = "not_declared" then .idle else .hooked
  | _ => .idle

def Pc.runs (pc : Pc V) : Bool :=
  match pc.place with
  | .running _ => true
  | _ => false

def Pc.opens (pc : Pc V) : Bool := pc.place = .running .openStream

def Pc.publishes (pc : Pc V) : Bool := pc.place = .publishing

def Pc.calls (pc : Pc V) : Bool :=
  match pc.place with
  | .waiting _ | .acting => true
  | _ => false

def Pc.opensOutbound (pc : Pc V) : Bool := pc.place = .waiting .stream

/-! ## What a step does to the tallies -/

structure Tally where
  limits : Limits
  constructed : Bool
  constructionAttempted : Bool
  stopAttempted : Bool
  calls : Nat
  publications : Nat
  deriving DecidableEq, Repr

def Shared.tally (s : Shared) : Tally :=
  ⟨s.limits, s.constructed, s.constructionAttempted, s.stopAttempted, s.activeOutboundCalls,
    s.activeEventPublications⟩

/-- The tables have grown by no more than this. -/
structure Grown (s s' : Shared) (streams outbound retired : Nat) : Prop where
  ofStreams : s'.streams.size ≤ s.streams.size + streams
  ofOutbound : s'.outboundStreams.size ≤ s.outboundStreams.size + outbound
  ofRetired : s'.retired.size ≤ s.retired.size + retired

inductive Tallies (s : Shared) (t : Nat) : Pc V → Input V → Shared → Pc V → Prop
  | rest {pc pc' : Pc V} {s' : Shared} (k : Input V) (same : s'.tally = s.tally)
      (sizes : Grown s s' 0 0 0) (here : pc.place = .idle) (next : pc'.place = .idle) :
      Tallies s t pc k s' pc'
  -- construct
  | attempt (scopeId : Nat) {pc' : Pc V} {s' : Shared} (k : Input V)
      (first : s.constructionAttempted = false)
      (same : s'.tally = { s.tally with constructionAttempted := true }) (sizes : Grown s s' 0 0 0)
      (next : pc'.place = .idle) (ended : pc' = .creating ∨ ∃ error, k = .throws error ∧
        pc' = .finished .construct (.answered (.failed error))) :
      Tallies s t (.construct scopeId) k s' pc'
  | constructNow (scopeId : Nat) {s' : Shared} (k : Input V)
      (first : s.constructionAttempted = false)
      (same : s'.tally = { s.tally with constructionAttempted := true, constructed := true })
      (sizes : Grown s s' 0 0 0) :
      Tallies s t (.construct scopeId) k s' (.finished .construct (.answered .constructed))
  | createFails {s' : Shared} (k : Input V) (error : String) (same : s'.tally = s.tally)
      (sizes : Grown s s' 0 0 0) :
      Tallies s t .creating k s' (.finished .construct (.answered (.failed error)))
  | create {s' : Shared} (k : Input V) (same : s'.tally = { s.tally with constructed := true })
      (sizes : Grown s s' 0 0 0) :
      Tallies s t .creating k s' (.finished .construct (.answered .constructed))
  -- invoke and stream open
  | unstarted (work : Work) (p : Params) {pc' : Pc V} {s' : Shared} (k : Input V)
      (admission : s.admission p work = .admitted) (same : s'.tally = s.tally)
      (sizes : Grown s s' 0 0 1) (next : pc'.place = .idle) : Tallies s t (.begin work p) k s' pc'
  | handlerStarts (work : Work) (p : Params) {s' : Shared} (k : Input V)
      (admission : s.admission p work = .admitted) (same : s'.tally = s.tally)
      (sizes : Grown s s' 0 0 0) : Tallies s t (.begin work p) k s' (.running work p)
  | handlerEnds (work : Work) (p : Params) {pc' : Pc V} {s' : Shared} (k : Input V)
      (same : s'.tally = s.tally) (sizes : Grown s s' (if work = .openStream then 1 else 0) 0 1)
      (next : pc'.place = .idle) : Tallies s t (.running work p) k s' pc'
  -- event publish
  | publishStarts (p : Params) {s' : Shared} (k : Input V)
      (refusal : (s.publishRefusal p : Option (Ending V)) = none)
      (same : s'.tally = { s.tally with publications := s.activeEventPublications + 1 })
      (sizes : Grown s s' 0 0 0) : Tallies s t (.publishEvent p) k s' (.publishing p)
  | publishEnds (p : Params) {pc' : Pc V} {s' : Shared} (k : Input V)
      (same : s'.tally = { s.tally with publications := s.activeEventPublications - 1 })
      (sizes : Grown s s' 0 0 0) (next : pc'.place = .idle) : Tallies s t (.publishing p) k s' pc'
  -- stop
  | stopFails (scopeId : Nat) {pc' : Pc V} {s' : Shared} (k : Input V)
      (first : s.stopAttempted = false) (same : s'.tally = { s.tally with stopAttempted := true })
      (sizes : Grown s s' 0 0 0) (next : pc'.place = .idle) : Tallies s t (.stop scopeId) k s' pc'
  | stopHook (scopeId : Nat) {pc' : Pc V} {s' : Shared} (k : Input V)
      (first : s.stopAttempted = false) (constructed : s.constructed = true)
      (settled : s.active.size = 0) (same : s'.tally = { s.tally with stopAttempted := true })
      (sizes : Grown s s' 0 0 0) (next : pc'.place = .hooked) :
      Tallies s t (.stop scopeId) k s' pc'
  | stopEnds {pc' : Pc V} {s' : Shared} (k : Input V) (same : s'.tally = s.tally)
      (sizes : Grown s s' 0 0 0) (next : pc'.place = .hooked) (ended : pc' ≠ .stopping) :
      Tallies s t .stopping k s' pc'
  -- outbound interactions
  | callStarts (o : Outbound) {s' : Shared} (k : Input V) (room : s.outboundFull o.kind = false)
      (same : s'.tally = { s.tally with calls := s.activeOutboundCalls + 1 })
      (sizes : Grown s s' 0 0 0) : Tallies s t (.outbound o) k s' (.outboundWaiting o.kind)
  | callEnds (kind : Interaction) {pc' : Pc V} {s' : Shared} (k : Input V)
      (same : s'.tally = { s.tally with calls := s.activeOutboundCalls - 1 })
      (sizes : Grown s s' 0 (if kind = .stream then 1 else 0) 0) (next : pc'.place = .idle) :
      Tallies s t (.outboundWaiting kind) k s' pc'
  | actionStarts (streamId : Nat) (capabilityId : String) {s' : Shared} (k : Input V)
      (room : s.activeOutboundCalls < s.limits.maxActiveOutboundCalls)
      (same : s'.tally = { s.tally with calls := s.activeOutboundCalls + 1 })
      (sizes : Grown s s' 0 0 0) :
      Tallies s t (.outboundAction streamId capabilityId) k s' (.outboundActing streamId)
  | actionEnds (streamId : Nat) {pc' : Pc V} {s' : Shared} (k : Input V)
      (same : s'.tally = { s.tally with calls := s.activeOutboundCalls - 1 })
      (sizes : Grown s s' 0 0 0) (next : pc'.place = .idle) :
      Tallies s t (.outboundActing streamId) k s' pc'

section

variable {s s' : Shared} {t : Nat} {pc pc' : Pc V} {k : Input V}

theorem Grown.refl (s : Shared) : Grown s s 0 0 0 := ⟨le_rfl, le_rfl, le_rfl⟩

theorem Grown.same (hstreams : s'.streams = s.streams)
    (houtbound : s'.outboundStreams = s.outboundStreams) (hretired : s'.retired = s.retired) :
    Grown s s' 0 0 0 :=
  ⟨Nat.le_of_eq (congrArg _ hstreams), Nat.le_of_eq (congrArg _ houtbound), Nat.le_of_eq (congrArg _ hretired)⟩

theorem Grown.retire (id : Nat) (hstreams : s'.streams = s.streams)
    (houtbound : s'.outboundStreams = s.outboundStreams)
    (hretired : s'.retired = s.retired.insert id ()) : Grown s s' 0 0 1 :=
  ⟨Nat.le_of_eq (congrArg _ hstreams), Nat.le_of_eq (congrArg _ houtbound),
    (Nat.le_of_eq (congrArg _ hretired)).trans ExtTreeMap.size_insert_le⟩

theorem Grown.drop (hstreams : s'.streams.size ≤ s.streams.size)
    (houtbound : s'.outboundStreams.size ≤ s.outboundStreams.size)
    (hretired : s'.retired = s.retired) : Grown s s' 0 0 0 :=
  ⟨hstreams, houtbound, Nat.le_of_eq (congrArg _ hretired)⟩

theorem Tallies.same (k : Input V) (here : pc.place = .idle) (next : pc'.place = .idle) :
    Tallies s t pc k s pc' := .rest k rfl (.refl s) here next

variable {scopeId streamId : Nat} {p : Params}

theorem construct_tallies (h : construct s t scopeId k = some (s', pc')) :
    Tallies s t (.construct scopeId) k s' pc' := by
  cases k with
  | invalid =>
    cases h
    exact .same _ rfl rfl
  | _ =>
    simp only [construct] at h
    split at h
    · cases h
      exact .same _ rfl rfl
    · next hfirst =>
        have hfirst := Bool.not_eq_true _ ▸ hfirst
        first
          | (cases h; done)
          | (cases h
             exact .constructNow scopeId _ hfirst rfl (.same rfl rfl rfl))
          | (cases h
             exact .attempt scopeId _ hfirst rfl (.same rfl rfl rfl) rfl (.inl rfl))
          | (cases h
             exact .attempt scopeId _ hfirst rfl (.same rfl rfl rfl) rfl (.inr ⟨_, rfl, rfl⟩))

theorem creating_tallies (h : creating s t k = some (s', pc')) : Tallies s t .creating k s' pc' := by
  cases k <;> cases h
  · exact .createFails _ _ rfl (.same rfl rfl rfl)
  · exact .create _ rfl (.same rfl rfl rfl)

theorem startHandler_tallies {work : Work} (hadmitted : s.admission p work = .admitted)
    (h : startHandler s t work p k = some (s', pc')) : Tallies s t (.begin work p) k s' pc' := by
  unfold startHandler at h
  split at h
  · cases h
    exact .unstarted work p _ hadmitted rfl (.retire p.correlationId rfl rfl rfl) rfl
  · cases h
    exact .unstarted work p _ hadmitted rfl (.retire p.correlationId rfl rfl rfl) rfl
  · cases h
    exact .handlerStarts work p _ hadmitted rfl (.same rfl rfl rfl)
  · cases h

theorem begin_tallies {work : Work} (h : begin s t work p k = some (s', pc')) :
    Tallies s t (.begin work p) k s' pc' := by
  cases k with
  | invalid =>
    cases h
    exact .same _ rfl rfl
  | _ =>
    simp only [begin, admitWork] at h
    split at h
    · cases h
      exact .same _ rfl rfl
    · cases h
      exact .same _ rfl rfl
    · next hadmitted => exact startHandler_tallies hadmitted h

theorem runInvocation_tallies (h : runInvocation s t p k = some (s', pc')) :
    Tallies s t (.running .invoke p) k s' pc' := by
  cases k <;> cases h <;>
    exact .handlerEnds .invoke p _ rfl (.retire p.correlationId rfl rfl rfl) rfl

theorem Grown.openEnds (s : Shared) (t : Nat) (p : Params) :
    Grown s (s.handlerEnds t .openStream p) 1 0 1 :=
  ⟨Nat.le_succ _, le_rfl, ExtTreeMap.size_insert_le⟩

theorem runOpenStream_tallies (h : runOpenStream s t p k = some (s', pc')) :
    Tallies s t (.running .openStream p) k s' pc' := by
  cases k with
  | opened outcome =>
    cases outcome with
    | opened =>
      simp only [runOpenStream] at h
      split at h
      · cases h
        exact .handlerEnds .openStream p _ rfl (.openEnds s t p) rfl
      · cases h
        exact .handlerEnds .openStream p _ rfl
          ⟨ExtTreeMap.size_insert_le, le_rfl, ExtTreeMap.size_insert_le⟩ rfl
    | domain | runtime =>
      cases h
      exact .handlerEnds .openStream p _ rfl (.openEnds s t p) rfl
  | throws =>
    cases h
    exact .handlerEnds .openStream p _ rfl (.openEnds s t p) rfl
  | _ => cases h

theorem room_of_publishRefusal (h : (s.publishRefusal p : Option (Ending V)) = none) :
    s.activeEventPublications < s.limits.maxQueuedCalls := by
  unfold Shared.publishRefusal at h
  split at h
  · cases h
  · grind

theorem publishEvent_tallies (h : publishEvent s t p k = some (s', pc')) :
    Tallies s t (.publishEvent p) k s' pc' := by
  cases k with
  | invalid =>
    cases h
    exact .same _ rfl rfl
  | _ =>
    simp only [publishEvent] at h
    split at h
    · cases h
      exact .same _ rfl rfl
    · cases hrefusal : (s.publishRefusal p : Option (Ending V)) with
      | some =>
        rw [hrefusal] at h
        cases h
        exact .rest _ rfl (.same rfl rfl rfl) rfl rfl
      | none =>
        rw [hrefusal] at h
        first
          | (cases h; done)
          | (cases h
             exact .rest _ rfl (.same rfl rfl rfl) rfl rfl)
          | (cases h
             exact .publishStarts p _ hrefusal rfl (.same rfl rfl rfl))

theorem publishing_tallies (h : publishing s t p k = some (s', pc')) :
    Tallies s t (.publishing p) k s' pc' := by
  cases k <;> cases h <;> exact .publishEnds p _ rfl (.same rfl rfl rfl) rfl

theorem sendStream_tallies {sequence : Nat}
    (h : sendStream s t streamId sequence k = some (s', pc')) :
    Tallies s t (.sendStream streamId sequence) k s' pc' := by
  unfold sendStream at h
  repeat' split at h
  all_goals cases h
  all_goals first
    | exact .same _ rfl rfl
    | exact .rest _ rfl (.same rfl rfl rfl) rfl rfl

theorem sending_tallies (h : sending s streamId k = some (s', pc')) :
    Tallies s t (.sending streamId) k s' pc' := by
  cases k with
  | acted outcome =>
    cases outcome <;> cases h <;> exact .rest _ rfl (.same rfl rfl rfl) rfl rfl
  | throws =>
    cases h
    exact .same _ rfl rfl
  | _ => cases h

theorem receiveStream_tallies (h : receiveStream s streamId k = some (s', pc')) :
    Tallies s t (.receiveStream streamId) k s' pc' := by
  unfold receiveStream at h
  repeat' split at h
  all_goals cases h
  all_goals exact .same _ rfl rfl

theorem Grown.deleteStream (s : Shared) (streamId context : Nat) :
    Grown s (s.deleteStream streamId context) 0 0 0 :=
  .drop ExtTreeMap.size_erase_le le_rfl rfl

theorem receiving_tallies {context : Nat} (h : receiving s streamId context k = some (s', pc')) :
    Tallies s t (.receiving streamId context) k s' pc' := by
  cases k with
  | received item =>
    cases item with
    | message | peerHalfClosed | runtime =>
      cases h
      exact .rest _ rfl (.same rfl rfl rfl) rfl rfl
    | terminalSuccess | terminalDomain =>
      cases h
      exact .rest _ rfl (.deleteStream s streamId context) rfl rfl
  | throws =>
    cases h
    exact .same _ rfl rfl
  | _ => cases h

theorem closeStreamSend_tallies (h : closeStreamSend s streamId k = some (s', pc')) :
    Tallies s t (.closeStreamSend streamId) k s' pc' := by
  unfold closeStreamSend at h
  repeat' split at h
  all_goals cases h
  all_goals exact .same _ rfl rfl

theorem closing_tallies (h : closing s k = some (s', pc')) : Tallies s t .closing k s' pc' := by
  cases k <;> cases h <;> exact .same _ rfl rfl

theorem cancelStream_tallies (h : cancelStream s streamId k = some (s', pc')) :
    Tallies s t (.cancelStream streamId) k s' pc' := by
  cases k with
  | invalid =>
    cases h
    exact .same _ rfl rfl
  | _ =>
    simp only [cancelStream] at h
    split at h <;> cases h <;>
      first
        | exact .same _ rfl rfl
        | exact .rest _ rfl (.deleteStream s streamId _) rfl rfl

theorem cancel_tallies {correlationId : Nat} (h : cancel s correlationId scopeId k = some (s', pc'))
    : Tallies s t (.cancel correlationId scopeId) k s' pc' := by
  unfold cancel at h
  repeat' split at h
  all_goals cases h
  all_goals first
    | exact .same _ rfl rfl
    | exact .rest _ rfl (.same rfl rfl rfl) rfl rfl

theorem stopIdle_tallies (hfirst : s.stopAttempted = false) (hsettled : s.active.size = 0)
    (h : stopIdle { s with stopAttempted := true } t scopeId k = some (s', pc')) :
    Tallies s t (.stop scopeId) k s' pc' := by
  cases k with
  | cancelThrows =>
    cases h
    exact .stopFails scopeId _ hfirst rfl (.drop le_rfl (Nat.zero_le _) rfl) rfl
  | _ =>
    simp only [stopIdle] at h
    split at h
    · cases h
      exact .stopFails scopeId _ hfirst rfl (.drop (Nat.zero_le _) (Nat.zero_le _) rfl) rfl
    · next hconstructed =>
        have hconstructed := Bool.of_not_eq_false hconstructed
        first
          | (cases h; done)
          | (cases h
             exact .stopFails scopeId _ hfirst rfl (.drop (Nat.zero_le _) (Nat.zero_le _) rfl) rfl)
          | (cases h
             exact .stopHook scopeId _ hfirst hconstructed hsettled rfl
               (.drop (Nat.zero_le _) (Nat.zero_le _) rfl) rfl)

theorem stop_tallies (h : stop s t scopeId k = some (s', pc')) :
    Tallies s t (.stop scopeId) k s' pc' := by
  cases k with
  | invalid =>
    cases h
    exact .same _ rfl rfl
  | _ =>
    simp only [stop] at h
    split at h
    · cases h
      exact .same _ rfl rfl
    · next hfirst =>
        have hfirst := Bool.not_eq_true _ ▸ hfirst
        split at h
        · cases h
          exact .stopFails scopeId _ hfirst rfl (.same rfl rfl rfl) rfl
        · next hidle => exact stopIdle_tallies hfirst (by omega) h

theorem stopping_tallies (h : stopping s t k = some (s', pc')) : Tallies s t .stopping k s' pc' := by
  cases k <;> cases h <;>
    exact .stopEnds _ rfl (.same rfl rfl rfl) rfl (by intro heq; cases heq)

theorem outbound_tallies {o : Outbound} (h : outbound s o = (s', pc')) :
    Tallies s t (.outbound o) k s' pc' := by
  unfold outbound at h
  repeat' split at h
  all_goals cases h
  all_goals first
    | exact .same _ rfl rfl
    | exact .callStarts _ _ (Bool.not_eq_true _ ▸ (by simp_all)) rfl (.same rfl rfl rfl)

theorem outboundWaiting_tallies {kind : Interaction}
    (h : outboundWaiting s kind k = some (s', pc')) :
    Tallies s t (.outboundWaiting kind) k s' pc' := by
  cases k with
  | outbound ending opened =>
    cases h
    refine .callEnds kind _ rfl ⟨le_rfl, ?_, le_rfl⟩ rfl
    cases kind <;> cases opened <;>
      first
        | exact le_rfl
        | exact Nat.le_succ _
        | exact ExtTreeMap.size_insert_le
  | _ => cases h

theorem outboundAction_tallies {capabilityId : String}
    (h : outboundAction s streamId capabilityId = (s', pc')) :
    Tallies s t (.outboundAction streamId capabilityId) k s' pc' := by
  unfold outboundAction at h
  split at h
  · cases h
    exact .same _ rfl rfl
  · split at h <;> cases h
    · exact .same _ rfl rfl
    · next hroom =>
        exact .actionStarts streamId capabilityId _ (Nat.lt_of_not_le hroom) rfl (.same rfl rfl rfl)

theorem outboundActing_tallies (h : outboundActing s streamId k = some (s', pc')) :
    Tallies s t (.outboundActing streamId) k s' pc' := by
  cases k with
  | outbound ending finished =>
    cases h
    refine .actionEnds streamId _ rfl (.drop le_rfl ?_ rfl) rfl
    cases finished with
    | none => exact le_rfl
    | some => exact ExtTreeMap.size_erase_le
  | _ => cases h

theorem pcMove_tallies (h : pcMove s t pc k = some (s', pc')) : Tallies s t pc k s' pc' := by
  cases pc with
  | construct => exact construct_tallies h
  | creating => exact creating_tallies h
  | begin => exact begin_tallies h
  | running work =>
    cases work with
    | invoke => exact runInvocation_tallies h
    | openStream => exact runOpenStream_tallies h
  | proving =>
    cases h
    exact .rest _ rfl (.same rfl rfl rfl) rfl rfl
  | settling =>
    cases k with
    | callback =>
      cases h
      exact .rest _ rfl (.same rfl rfl rfl) rfl rfl
    | _ => cases h
  | publishEvent => exact publishEvent_tallies h
  | publishing => exact publishing_tallies h
  | sendStream => exact sendStream_tallies h
  | sending => exact sending_tallies h
  | receiveStream => exact receiveStream_tallies h
  | receiving => exact receiving_tallies h
  | closeStreamSend => exact closeStreamSend_tallies h
  | closing => exact closing_tallies h
  | cancelStream => exact cancelStream_tallies h
  | cancel => exact cancel_tallies h
  | stop => exact stop_tallies h
  | stopping => exact stopping_tallies h
  | outbound => exact outbound_tallies (Option.some.inj h)
  | outboundWaiting => exact outboundWaiting_tallies h
  | outboundAction => exact outboundAction_tallies (Option.some.inj h)
  | outboundActing => exact outboundActing_tallies h
  | outboundCancel =>
    cases h
    exact .rest _ rfl (.drop le_rfl ExtTreeMap.size_erase_le rfl) rfl rfl
  | finished => cases h

theorem move_tallies {m : Moved Shared (Pc V)} (h : program.move s t pc k = some m) :
    Tallies s t pc k m.shared m.next :=
  pcMove_tallies (moved_of_map h).1

end

/-! ## The two counters -/

section

variable {s s' : Shared} {t : Nat} {pc pc' : Pc V} {k : Input V}

theorem Tallies.publications (h : Tallies s t pc k s' pc')
    (hpos : pc.publishes = true → 0 < s.activeEventPublications) :
    s'.activeEventPublications + pc.publishes.toNat =
      s.activeEventPublications + pc'.publishes.toNat := by
  cases h with
  | publishStarts p k refusal same => exact congrArg Tally.publications same
  | publishEnds p k same sizes next =>
    have hcount : s'.activeEventPublications = s.activeEventPublications - 1 :=
      congrArg Tally.publications same
    have hpublishing : 0 < s.activeEventPublications := hpos rfl
    have hnext : pc'.publishes = false := by simp [Pc.publishes, next]
    have hhere : (Pc.publishing p : Pc V).publishes = true := rfl
    rw [hcount, hnext, hhere, Bool.toNat_true, Bool.toNat_false]
    omega
  | _ =>
    have hsame := ‹s'.tally = _›
    have hcount : s'.activeEventPublications = s.activeEventPublications :=
      congrArg Tally.publications hsame
    rw [hcount]
    simp only [Pc.publishes, *] <;> rfl

theorem Tallies.calls (h : Tallies s t pc k s' pc')
    (hpos : pc.calls = true → 0 < s.activeOutboundCalls) :
    s'.activeOutboundCalls + pc.calls.toNat = s.activeOutboundCalls + pc'.calls.toNat := by
  cases h with
  | callStarts o k room same | actionStarts streamId capabilityId k room same =>
    exact congrArg Tally.calls same
  | callEnds kind k same sizes next =>
    have hcount : s'.activeOutboundCalls = s.activeOutboundCalls - 1 := congrArg Tally.calls same
    have hcalling : 0 < s.activeOutboundCalls := hpos rfl
    have hnext : pc'.calls = false := by simp [Pc.calls, next]
    have hhere : (Pc.outboundWaiting kind : Pc V).calls = true := rfl
    rw [hcount, hnext, hhere, Bool.toNat_true, Bool.toNat_false]
    omega
  | actionEnds streamId k same sizes next =>
    have hcount : s'.activeOutboundCalls = s.activeOutboundCalls - 1 := congrArg Tally.calls same
    have hcalling : 0 < s.activeOutboundCalls := hpos rfl
    have hnext : pc'.calls = false := by simp [Pc.calls, next]
    have hhere : (Pc.outboundActing streamId : Pc V).calls = true := rfl
    rw [hcount, hnext, hhere, Bool.toNat_true, Bool.toNat_false]
    omega
  | _ =>
    have hsame := ‹s'.tally = _›
    have hcount : s'.activeOutboundCalls = s.activeOutboundCalls := congrArg Tally.calls hsame
    rw [hcount]
    simp only [Pc.calls, *] <;> rfl

end

theorem child_none (s : Shared) (t : Nat) (pc : Pc V) (k : Input V) (m : Moved Shared (Pc V))
    (h : program.move s t pc k = some m) : m.child = none := (moved_of_map h).2

theorem place_of_entry {pc : Pc V} (h : program.entry pc = true) : pc.place = .idle := by
  cases pc <;> first | rfl | cases h

theorem publications_counted :
    Counted (program (V := V)) (fun s => s.activeEventPublications) Pc.publishes where
  child := child_none
  entry pc h := by simp [Pc.publishes, place_of_entry h]
  move _ _ _ _ _ hpos hm := (move_tallies hm).publications hpos

theorem calls_counted :
    Counted (program (V := V)) (fun s => s.activeOutboundCalls) Pc.calls where
  child := child_none
  entry pc h := by simp [Pc.calls, place_of_entry h]
  move _ _ _ _ _ hpos hm := (move_tallies hm).calls hpos

/-! ## The limits -/

section

variable {s s' : Shared} {t n limit : Nat} {pc pc' : Pc V} {k : Input V}

theorem Tallies.limits (h : Tallies s t pc k s' pc') : s'.limits = s.limits := by
  cases h <;> exact congrArg Tally.limits ‹_›

theorem room_of_not_outboundFull {kind : Interaction} (h : s.outboundFull kind = false) :
    s.activeOutboundCalls < s.limits.maxActiveOutboundCalls := by
  unfold Shared.outboundFull at h
  rw [Bool.or_eq_false_iff] at h
  exact Nat.lt_of_not_le (of_decide_eq_false h.1)

theorem Tallies.calls_le (h : Tallies s t pc k s' pc')
    (hle : s.activeOutboundCalls ≤ s.limits.maxActiveOutboundCalls) :
    s'.activeOutboundCalls ≤ s.limits.maxActiveOutboundCalls := by
  cases h with
  | callStarts o k room same =>
    have hcount : s'.activeOutboundCalls = s.activeOutboundCalls + 1 := congrArg Tally.calls same
    have hroom := room_of_not_outboundFull room
    omega
  | actionStarts streamId capabilityId k room same =>
    have hcount : s'.activeOutboundCalls = s.activeOutboundCalls + 1 := congrArg Tally.calls same
    omega
  | callEnds kind k same | actionEnds streamId k same =>
    have hcount : s'.activeOutboundCalls = s.activeOutboundCalls - 1 := congrArg Tally.calls same
    omega
  | _ =>
    have hsame := ‹s'.tally = _›
    have hcount : s'.activeOutboundCalls = s.activeOutboundCalls := congrArg Tally.calls hsame
    omega

theorem Tallies.publications_le (h : Tallies s t pc k s' pc')
    (hle : s.activeEventPublications ≤ s.limits.maxQueuedCalls) :
    s'.activeEventPublications ≤ s.limits.maxQueuedCalls := by
  cases h with
  | publishStarts p k refusal same =>
    have hcount : s'.activeEventPublications = s.activeEventPublications + 1 :=
      congrArg Tally.publications same
    have hroom := room_of_publishRefusal refusal
    omega
  | publishEnds p k same =>
    have hcount : s'.activeEventPublications = s.activeEventPublications - 1 :=
      congrArg Tally.publications same
    omega
  | _ =>
    have hsame := ‹s'.tally = _›
    have hcount : s'.activeEventPublications = s.activeEventPublications :=
      congrArg Tally.publications hsame
    omega

/-- A stream that opens takes the place that its open has held; `n` is the number of opens. -/
theorem Tallies.streams_le (h : Tallies s t pc k s' pc')
    (hroom : ∀ p, pc = .begin .openStream p → s.admission p .openStream = .admitted →
      s.streams.size + n < limit)
    (hle : s.streams.size + n ≤ limit) :
    s'.streams.size + n + pc'.opens.toNat ≤ limit + pc.opens.toNat := by
  cases h with
  | handlerStarts work p k admission same sizes =>
    have hsize := sizes.ofStreams
    cases work with
    | invoke =>
      show s'.streams.size + n + 0 ≤ limit + 0
      omega
    | openStream =>
      have hfree := hroom p rfl admission
      show s'.streams.size + n + 1 ≤ limit + 0
      omega
  | handlerEnds work p k same sizes next =>
    have hsize := sizes.ofStreams
    have hnext : pc'.opens = false := by simp only [Pc.opens, next]; rfl
    rw [hnext]
    cases work with
    | invoke => grind
    | openStream =>
      rw [if_pos rfl] at hsize
      show s'.streams.size + n + 0 ≤ limit + 1
      omega
  | _ =>
    have hsize : s'.streams.size ≤ s.streams.size := Grown.ofStreams ‹_›
    refine (Nat.add_le_add_right (show _ ≤ limit by omega) _).trans ?_
    simp only [Pc.opens, *]
    exact le_rfl

/-- An id that is retired takes the place that its handler has held. -/
theorem Tallies.retired_le (h : Tallies s t pc k s' pc')
    (hroom : ∀ work p, pc = .begin work p → s.admission p work = .admitted →
      s.retired.size + n < limit)
    (hle : s.retired.size + n ≤ limit) :
    s'.retired.size + n + pc'.runs.toNat ≤ limit + pc.runs.toNat := by
  cases h with
  | unstarted work p k admission same sizes next =>
    have hsize := sizes.ofRetired
    have hfree := hroom work p rfl admission
    have hnext : pc'.runs = false := by simp only [Pc.runs, next]
    rw [hnext]
    show s'.retired.size + n + 0 ≤ limit + 0
    omega
  | handlerStarts work p k admission same sizes =>
    have hsize := sizes.ofRetired
    have hfree := hroom work p rfl admission
    show s'.retired.size + n + 1 ≤ limit + 0
    omega
  | handlerEnds work p k same sizes next =>
    have hsize := sizes.ofRetired
    have hnext : pc'.runs = false := by simp only [Pc.runs, next]
    rw [hnext]
    show s'.retired.size + n + 0 ≤ limit + 1
    omega
  | _ =>
    have hsize : s'.retired.size ≤ s.retired.size := Grown.ofRetired ‹_›
    refine (Nat.add_le_add_right (show _ ≤ limit by omega) _).trans ?_
    simp only [Pc.runs, *]
    exact le_rfl

theorem Tallies.outbound_le (h : Tallies s t pc k s' pc')
    (hroom : ∀ o, pc = .outbound o → o.kind = .stream → s.outboundFull .stream = false →
      s.outboundStreams.size + n < limit)
    (hle : s.outboundStreams.size + n ≤ limit) :
    s'.outboundStreams.size + n + pc'.opensOutbound.toNat ≤ limit + pc.opensOutbound.toNat := by
  cases h with
  | callStarts o k room same sizes =>
    have hsize := sizes.ofOutbound
    by_cases hkind : o.kind = .stream
    · have hfree := hroom o rfl hkind (hkind ▸ room)
      rw [hkind]
      show s'.outboundStreams.size + n + 1 ≤ limit + 0
      omega
    · have hnext : (Pc.outboundWaiting o.kind : Pc V).opensOutbound = false :=
        decide_eq_false fun heq => hkind (Place.waiting.inj heq)
      rw [hnext]
      show s'.outboundStreams.size + n + 0 ≤ limit + 0
      omega
  | callEnds kind k same sizes next =>
    have hsize := sizes.ofOutbound
    have hnext : pc'.opensOutbound = false := by simp only [Pc.opensOutbound, next]; rfl
    rw [hnext]
    cases kind with
    | stream =>
      rw [if_pos rfl] at hsize
      show s'.outboundStreams.size + n + 0 ≤ limit + 1
      omega
    | call | event => grind
  | _ =>
    have hsize : s'.outboundStreams.size ≤ s.outboundStreams.size := Grown.ofOutbound ‹_›
    refine (Nat.add_le_add_right (show _ ≤ limit by omega) _).trans ?_
    simp only [Pc.opensOutbound, *]
    exact le_rfl

end

/-- Room is kept for the calls on their way when another one is admitted: for the ids that will be
retired, for the streams that will be open, and for the outbound ones. -/
def reserves (c : Threads Shared (Pc V)) : Pc V → Bool
  | .begin work p => decide (c.shared.admission p work = .admitted →
      c.shared.retired.size + census Pc.runs c.pool < c.shared.limits.maxRetiredIds ∧
      (work = .openStream → c.shared.streams.size + census Pc.opens c.pool <
        c.shared.limits.maxUnfinishedExecutions))
  | .outbound o => decide (o.kind = .stream → c.shared.outboundFull .stream = false →
      c.shared.outboundStreams.size + census Pc.opensOutbound c.pool <
        c.shared.limits.maxUnfinishedExecutions)
  | _ => true

def Reserves (c : Threads Shared (Pc V)) : Act (Pc V) (Input V) → Prop
  | .start _ _ => True
  | .move t _ _ => (c.pool[t]?).all (reserves c) = true

instance (c : Threads Shared (Pc V)) : ∀ a : Act (Pc V) (Input V), Decidable (Reserves c a)
  | .start _ _ => isTrue trivial
  | .move t _ _ => inferInstanceAs (Decidable ((c.pool[t]?).all (reserves c) = true))

/-- The limits are kept, with the calls on their way counted in. -/
structure Within (limits : Limits) (c : Threads Shared (Pc V)) : Prop where
  same : c.shared.limits = limits
  calls : c.shared.activeOutboundCalls ≤ limits.maxActiveOutboundCalls
  publications : c.shared.activeEventPublications ≤ limits.maxQueuedCalls
  streams : c.shared.streams.size + census Pc.opens c.pool ≤ limits.maxUnfinishedExecutions
  outbound : c.shared.outboundStreams.size + census Pc.opensOutbound c.pool ≤
    limits.maxUnfinishedExecutions
  retired : c.shared.retired.size + census Pc.runs c.pool ≤ limits.maxRetiredIds

section

variable {limits : Limits} {c c' : Threads Shared (Pc V)} {a : Act (Pc V) (Input V)}

theorem Within.start (hc : Within limits c) {t : Nat} {pc : Pc V} (hpc : pc.place = .idle)
    (hfresh : c.pool[t]? = none) : Within limits { c with pool := c.pool.insert t pc } := by
  have hcensus : ∀ p : Pc V → Bool, p pc = false →
      census p (c.pool.insert t pc) = census p c.pool := by
    intro p hp
    rw [census_insert_new hfresh, hp]
    rfl
  have hopens := hcensus Pc.opens (by simp only [Pc.opens, hpc]; rfl)
  have houtbound := hcensus Pc.opensOutbound (by simp only [Pc.opensOutbound, hpc]; rfl)
  have hruns := hcensus Pc.runs (by simp only [Pc.runs, hpc])
  exact ⟨hc.same, hc.calls, hc.publications, hopens ▸ hc.streams, houtbound ▸ hc.outbound,
    hruns ▸ hc.retired⟩

theorem Within.move (hc : Within limits c) {t : Nat} {pc : Pc V} {k : Input V}
    {m : Moved Shared (Pc V)} (hpc : c.pool[t]? = some pc) (hreserves : reserves c pc = true)
    (hm : program.move c.shared t pc k = some m) :
    Within limits ⟨m.shared, c.pool.insert t m.next⟩ := by
  have htallies := move_tallies hm
  have hopens : census Pc.opens (c.pool.insert t m.next) + _ = _ := census_insert_old hpc
  have hruns : census Pc.runs (c.pool.insert t m.next) + _ = _ := census_insert_old hpc
  have houtbound : census Pc.opensOutbound (c.pool.insert t m.next) + _ = _ := census_insert_old hpc
  obtain ⟨rfl⟩ := hc.same
  have hstreamsLe := htallies.streams_le (n := census Pc.opens c.pool) (by
    rintro p rfl hadmitted
    exact (of_decide_eq_true hreserves hadmitted).2 rfl) hc.streams
  have hretiredLe := htallies.retired_le (n := census Pc.runs c.pool) (by
    rintro work p rfl hadmitted
    exact (of_decide_eq_true hreserves hadmitted).1) hc.retired
  have houtboundLe := htallies.outbound_le (n := census Pc.opensOutbound c.pool) (by
    rintro o rfl hkind hroom
    exact of_decide_eq_true hreserves hkind hroom) hc.outbound
  refine ⟨htallies.limits, htallies.calls_le hc.calls, htallies.publications_le hc.publications,
    ?_, ?_, ?_⟩
  · grind
  · grind
  · grind

theorem Within.step (hc : Within limits c) (hreserves : Reserves c a)
    (h : program.step c a = some c') : Within limits c' := by
  rcases program.step_cases h with ⟨t, pc, -, hpc, hfresh, rfl⟩ |
    ⟨t, k, child, pc, m, rfl, hpc, hm, hshared, ⟨-, hpool⟩ | ⟨pc', hchild, -⟩⟩
  · exact hc.start (place_of_entry hpc) (ExtTreeMap.getElem?_eq_none hfresh)
  · have hmoved := hc.move hpc ((Option.all_eq_true _ _).mp hreserves pc hpc) hm
    cases c'
    cases hshared
    cases hpool
    exact hmoved
  · rw [child_none _ _ _ _ _ hm] at hchild
    cases hchild

theorem Within.init (limits : Limits) (declared : ExtTreeMap Nat Binding) :
    Within (V := V) limits (init limits declared) where
  same := rfl
  calls := Nat.zero_le _
  publications := Nat.zero_le _
  streams := by
    show 0 + census Pc.opens ∅ ≤ _
    rw [census_empty]
    exact Nat.zero_le _
  outbound := by
    show 0 + census Pc.opensOutbound ∅ ≤ _
    rw [census_empty]
    exact Nat.zero_le _
  retired := by
    show 0 + census Pc.runs ∅ ≤ _
    rw [census_empty]
    exact Nat.zero_le _

end

/-- **With room kept for the calls on their way the child keeps its limits.** The number of outbound
calls and of event publications in progress is that of the threads that wait for them. -/
theorem limits_kept (limits : Limits) (declared : ExtTreeMap Nat Binding)
    {acts : List (Act (Pc V) (Input V))} {c : Threads Shared (Pc V)}
    (hreserves : Meets program.step Reserves (init limits declared) acts)
    (h : run program.step (init limits declared) acts = some c) :
    c.shared.streams.size ≤ limits.maxUnfinishedExecutions ∧
    c.shared.outboundStreams.size ≤ limits.maxUnfinishedExecutions ∧
    census Pc.calls c.pool ≤ limits.maxActiveOutboundCalls ∧
    census Pc.publishes c.pool ≤ limits.maxQueuedCalls ∧
    c.shared.retired.size ≤ limits.maxRetiredIds := by
  have hwithin : Within limits c :=
    run_invariant_of_meets (fun _ _ _ hc hr hs => hc.step hr hs) (Within.init limits declared)
      hreserves h
  have hcalls : c.shared.activeOutboundCalls = census Pc.calls c.pool :=
    calls_counted.run (census_empty _).symm h
  have hpublications : c.shared.activeEventPublications = census Pc.publishes c.pool :=
    publications_counted.run (census_empty _).symm h
  have hstreams := hwithin.streams
  have houtbound := hwithin.outbound
  have hretired := hwithin.retired
  exact ⟨by omega, by omega, hcalls ▸ hwithin.calls, hpublications ▸ hwithin.publications, by omega⟩

/-- An outbound stream that thread `t` opens with the context of thread `context`. -/
def opensOut (t context streamId : Nat) : List (Act (Pc Nat) (Input Nat)) :=
  [.start t (.outbound ⟨.stream, context, "example.store@1", "watch"⟩), .move t .go 0,
    .move t (.outbound (.answered .accepted) (some streamId)) 0]

/-- A stream is opened, the plugin opens one at the host, and an event is being published. -/
def usesLimits : List (Act (Pc Nat) (Input Nat)) :=
  constructs ++ worksThrough 2 .openStream (sampleParams 7) (.opened .opened) ++ opensOut 3 2 21 ++
    [.start 4 (.publishEvent (sampleParams 8)), .move 4 .go 0]

theorem limits_kept_sample :
    let c := (run program.step (init sampleLimits sampleProviders) usesLimits).get
      (by decide +kernel)
    (c.shared.streams.size = 1 ∧ c.shared.outboundStreams.size = 1 ∧
      census Pc.publishes c.pool = 1 ∧ c.shared.retired.size = 1) ∧
    c.shared.streams.size ≤ sampleLimits.maxUnfinishedExecutions ∧
    c.shared.outboundStreams.size ≤ sampleLimits.maxUnfinishedExecutions ∧
    census Pc.calls c.pool ≤ sampleLimits.maxActiveOutboundCalls ∧
    census Pc.publishes c.pool ≤ sampleLimits.maxQueuedCalls ∧
    c.shared.retired.size ≤ sampleLimits.maxRetiredIds := by
  intro c
  exact ⟨by decide +kernel,
    limits_kept sampleLimits sampleProviders (by decide +kernel) (run_get _)⟩

/-- Two calls at a time, and one of everything else that is left open. -/
def tightLimits : Limits := ⟨2, 1, 1, 1, 2⟩

/-- Two opens are admitted before either has ended, and so are two of the plugin's own. -/
def opensTwice : List (Act (Pc Nat) (Input Nat)) :=
  constructs ++
    [.start 2 (.begin .openStream (sampleParams 7)), .start 3 (.begin .openStream (sampleParams 8)),
      .move 2 .go 0, .move 3 .go 0, .move 2 (.opened .opened) 0, .move 3 (.opened .opened) 0,
      .start 4 (.outbound ⟨.stream, 2, "example.store@1", "watch"⟩),
      .start 5 (.outbound ⟨.stream, 3, "example.store@1", "watch"⟩), .move 4 .go 0, .move 5 .go 0,
      .move 4 (.outbound (.answered .accepted) (some 21)) 0,
      .move 5 (.outbound (.answered .accepted) (some 22)) 0]

/-- **Three of the limits are exceeded**: two streams, two outbound streams and two retired ids where
one is the limit. -/
theorem opens_exceed_limits :
    ∃ c, run program.step (init tightLimits sampleProviders) opensTwice = some c ∧
      tightLimits.maxUnfinishedExecutions < c.shared.streams.size ∧
      tightLimits.maxUnfinishedExecutions < c.shared.outboundStreams.size ∧
      tightLimits.maxRetiredIds < c.shared.retired.size := by
  exact exists_run (by decide +kernel) (by decide +kernel)

end LensoBun.AuthoringV2.Child
