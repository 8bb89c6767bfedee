import LensoBun.Provider.Permits

set_option autoImplicit false

/-! # The credit of a stream is conserved

A Send takes a credit of its stream before it calls the provider and gives it back when the provider
has taken the payload or had no room for it. A Send that fails in another way keeps its credit, and
retires the stream. So as long as the stream is not retired, its credit and the Sends that have one of
it are what the open has granted, and an answer never reports more than that.

With the account of the permits, this is what holds in every run of the server in which no Send is
unwound by a panic of its provider (`admission_and_credit_conserved`).
-/

namespace LensoBun.Provider.Admission

open Std Lib

variable {V : Type}

/-! ## The law -/

/-- A Send that has taken a credit of the stream and not given it back. -/
def hasCredit (ref : Nat) : Pc V → Bool
  | .handler (.call _ owner _) _ credit => credit && owner == ref
  | _ => false

theorem eq_call_of_hasCredit {ref : Nat} {pc : Pc V} (h : hasCredit ref pc = true) :
    ∃ streamId call permit, pc = .handler (.call streamId ref call) permit true := by
  rw [hasCredit.eq_def] at h
  split at h
  · next streamId owner call permit credit =>
      rw [Bool.and_eq_true, beq_iff_eq] at h
      obtain ⟨rfl, rfl⟩ := h
      exact ⟨streamId, call, permit, rfl⟩
  · cases h

theorem hasCredit_of_ne {streamId owner ref : Nat} (hne : owner ≠ ref) (call : CallPc V)
    (permit credit : Bool) :
    hasCredit ref (.handler (.call streamId owner call) permit credit) = false := by
  rw [hasCredit, beq_false_of_ne hne, Bool.and_false]

/-- What is known of a call on the stream `ref`. -/
structure CallAt (s : Shared) (ref : Nat) (pc : CallPc V) (credit : Bool) : Prop where
  held : ∀ b, expectedCredit pc = some b → credit = b
  known : credit = true → ref ∈ s.server.entries
  carried : ∀ o, carries pc = some o → isAccepted o = false
  retired : hasRetired pc = true → cancelledAt s.server ref = true
  spent : ∀ o, pc = .done o → credit = true → cancelledAt s.server ref = true
  answered : ∀ n, pc = .done (some (.accepted n)) → ∃ g, s.granted[ref]? = some g ∧ n ≤ g

def CreditAt (s : Shared) : Pc V → Prop
  | .handler (.call _ ref pc) _ credit => CallAt s ref pc credit
  | .handler _ _ credit => credit = false
  | _ => True

/-- What is not taken back: an entry, the flag of a retired stream, what an open has granted. -/
structure Grows (s s' : Shared) : Prop where
  entries : ∀ ref ∈ s.server.entries, ref ∈ s'.server.entries
  cancelled : ∀ ref, cancelledAt s.server ref = true → cancelledAt s'.server ref = true
  granted : ∀ (ref g : Nat), s.granted[ref]? = some g → s'.granted[ref]? = some g

structure Funded (s : Shared) (pool : ExtTreeMap Nat (Pc V)) : Prop where
  placed : ∀ (t : Nat) (pc : Pc V), pool[t]? = some pc → CreditAt s pc
  count : ∀ (ref : Nat) (entry : ProviderStreamEntry), s.server.entries[ref]? = some entry →
    s.granted[ref]? = some (entry.inboundCredit + census (hasCredit ref) pool)
  keys : ∀ (ref g : Nat), s.granted[ref]? = some g → ref ∈ s.server.entries

section

variable {s s' : Shared} {pool : ExtTreeMap Nat (Pc V)} {t : Nat} {pc pc' : Pc V}

theorem CallAt.mono {ref : Nat} {pc : CallPc V} {credit : Bool} (h : CallAt s ref pc credit)
    (hgrows : Grows s s') : CallAt s' ref pc credit where
  held := h.held
  known hcredit := hgrows.entries ref (h.known hcredit)
  carried := h.carried
  retired hretired := hgrows.cancelled ref (h.retired hretired)
  spent o ho hcredit := hgrows.cancelled ref (h.spent o ho hcredit)
  answered n hn := by
    obtain ⟨g, hg, hle⟩ := h.answered n hn
    exact ⟨g, hgrows.granted ref g hg, hle⟩

theorem CreditAt.mono (h : CreditAt s pc) (hgrows : Grows s s') : CreditAt s' pc := by
  cases pc with
  | handler pc =>
    cases pc with
    | call => exact CallAt.mono h hgrows
    | _ => exact h
  | _ => trivial

/-- What a step has to keep for the law to hold: what a Send takes is missing from its stream. -/
theorem Funded.moves (hlaw : Funded s pool) (hpc : pool[t]? = some pc) (hgrows : Grows s s')
    (hplaced : CreditAt s' pc') (hgranted : s'.granted = s.granted)
    (hcount : ∀ (ref : Nat) (entry' : ProviderStreamEntry), s'.server.entries[ref]? = some entry' →
      ∃ entry, s.server.entries[ref]? = some entry ∧
        entry'.inboundCredit + (hasCredit ref pc').toNat =
          entry.inboundCredit + (hasCredit ref pc).toNat) : Funded s' (pool.insert t pc') where
  placed u other hother := by
    rcases new_or_old_of_insert hother with ⟨-, rfl⟩ | ⟨-, hother⟩
    · exact hplaced
    · exact (hlaw.placed u other hother).mono hgrows
  count ref entry' hentry' := by
    obtain ⟨entry, hentry, hsum⟩ := hcount ref entry' hentry'
    have hcensus : census (hasCredit ref) (pool.insert t pc') + (hasCredit ref pc).toNat =
        census (hasCredit ref) pool + (hasCredit ref pc').toNat := census_insert_old hpc
    rw [hgranted, hlaw.count ref entry hentry, Option.some_inj]
    omega
  keys ref g hg := by
    rw [hgranted] at hg
    exact hgrows.entries ref (hlaw.keys ref g hg)

theorem Funded.keeps (hlaw : Funded s pool) (hpc : pool[t]? = some pc)
    (hentries : ∀ ref : Nat, s'.server.entries[ref]?.map ProviderStreamEntry.inboundCredit =
      s.server.entries[ref]?.map ProviderStreamEntry.inboundCredit)
    (hcancelled : ∀ ref, cancelledAt s.server ref = true → cancelledAt s'.server ref = true)
    (hgranted : s'.granted = s.granted) (hcredit : ∀ ref, hasCredit ref pc' = hasCredit ref pc)
    (hplaced : CreditAt s' pc') : Funded s' (pool.insert t pc') := by
  refine hlaw.moves hpc ⟨fun ref href => ?_, hcancelled, fun ref g hg => ?_⟩ hplaced hgranted ?_
  · have hisSome := congrArg Option.isSome (hentries ref)
    rw [Option.isSome_map, Option.isSome_map] at hisSome
    rw [ExtTreeMap.mem_iff_isSome_getElem?, hisSome, ← ExtTreeMap.mem_iff_isSome_getElem?]
    exact href
  · rw [hgranted]
    exact hg
  · grind

/-- A call writes its entry: what it takes from the credit it has. -/
theorem Funded.onEntry (hlaw : Funded s pool) {streamId ref : Nat} {call call' : CallPc V}
    {permit credit permit' credit' : Bool}
    (hpc : pool[t]? = some (.handler (.call streamId ref call) permit credit))
    {entry entry' : ProviderStreamEntry} (hentry : s.server.entries[ref]? = some entry)
    (hentries : s'.server.entries = s.server.entries.insert ref entry')
    (hcancelled : entry.cancelled = true → entry'.cancelled = true)
    (hgranted : s'.granted = s.granted)
    (hsum : entry'.inboundCredit + credit'.toNat = entry.inboundCredit + credit.toNat)
    (hplaced : Grows s s' → CallAt s' ref call' credit') :
    Funded s' (pool.insert t (.handler (.call streamId ref call') permit' credit')) := by
  have hgrows : Grows s s' := by
    refine ⟨fun r hr => ?_, fun r hr => ?_, fun r g hg => ?_⟩
    · rw [hentries, mem_insert_nat]
      exact .inr hr
    · grind [cancelledAt, getElem?_insert_nat]
    · rw [hgranted]
      exact hg
  refine hlaw.moves hpc hgrows (hplaced hgrows) hgranted fun r e' he' => ?_
  rw [hentries, getElem?_insert_nat] at he'
  split at he'
  · grind [hasCredit]
  · grind [hasCredit_of_ne]

theorem Funded.unknown (hlaw : Funded s pool) {ref : Nat} (hfresh : ref ∉ s.server.entries) :
    census (hasCredit ref) pool = 0 := by
  refine Nat.eq_zero_of_not_pos fun hpos => ?_
  obtain ⟨u, other, hother, hcredit⟩ := exists_of_census_pos hpos
  obtain ⟨streamId, call, permit, rfl⟩ := eq_call_of_hasCredit hcredit
  exact hfresh (CallAt.known (hlaw.placed u _ hother) rfl)

theorem Funded.stores (hlaw : Funded s pool) (hpc : pool[t]? = some pc)
    (hfresh : t ∉ s.server.entries) {entry : ProviderStreamEntry}
    (hentries : s'.server.entries = s.server.entries.insert t entry)
    (hgranted : s'.granted = s.granted.insert t entry.inboundCredit)
    (hcredit : ∀ ref, hasCredit ref pc = false) (hcredit' : ∀ ref, hasCredit ref pc' = false)
    (hplaced : CreditAt s' pc') : Funded s' (pool.insert t pc') := by
  have hgrows : Grows s s' := by
    refine ⟨fun r hr => ?_, fun r hr => ?_, fun r g hg => ?_⟩
    · rw [hentries, mem_insert_nat]
      exact .inr hr
    · grind [cancelledAt, getElem?_insert_nat]
    · grind [getElem?_insert_nat, hlaw.keys]
  have hcensus : ∀ ref, census (hasCredit ref) (pool.insert t pc') = census (hasCredit ref) pool := by
    grind [census_insert_old]
  refine ⟨fun u other hother => ?_, fun r e he => ?_, fun r g hg => ?_⟩
  · rcases new_or_old_of_insert hother with ⟨-, rfl⟩ | ⟨-, hother⟩
    · exact hplaced
    · exact (hlaw.placed u other hother).mono hgrows
  · grind [getElem?_insert_nat, Funded.unknown, hlaw.count]
  · grind [mem_insert_nat, getElem?_insert_nat, hlaw.keys]

end

/-! ## The steps of a call -/

section

variable {s s' : Shared} {pool : ExtTreeMap Nat (Pc V)} {t : Nat} {streamId ref : Nat}
  {call call' : CallPc V} {permit permit' credit : Bool} {entry entry' : ProviderStreamEntry}
  {k : Choice V}

/-- A call that has returned: it has no credit or its stream is retired, and its answer is covered. -/
theorem CallAt.returned {o : Option (WireStreamOutcome V)}
    (hspent : credit = true → ref ∈ s.server.entries ∧ cancelledAt s.server ref = true)
    (hanswered : ∀ n, o = some (.accepted n) → ∃ g, s.granted[ref]? = some g ∧ n ≤ g) :
    CallAt s ref (.done o) credit where
  held b hb := by cases hb
  known hcredit := (hspent hcredit).1
  carried o ho := by cases ho
  retired h := by cases h
  spent _ _ hcredit := (hspent hcredit).2
  answered n hn := by
    cases hn
    exact hanswered n rfl

theorem CallAt.underway (hheld : ∀ b, expectedCredit call = some b → credit = b)
    (hknown : credit = true → ref ∈ s.server.entries)
    (hcarried : ∀ o, carries call = some o → isAccepted o = false)
    (hretired : hasRetired call = true → cancelledAt s.server ref = true)
    (hdone : ∀ o, call ≠ .done o) : CallAt s ref call credit where
  held := hheld
  known := hknown
  carried := hcarried
  retired := hretired
  spent o ho := absurd ho (hdone o)
  answered _ hn := absurd hn (hdone _)

/-- The credit of a stream is never above what was granted, and below it while a Send has one. -/
theorem Funded.granted_of_entry (hlaw : Funded s pool)
    (hpc : pool[t]? = some (.handler (.call streamId ref call) permit credit))
    (hentry : s.server.entries[ref]? = some entry) :
    ∃ g, s.granted[ref]? = some g ∧ entry.inboundCredit + credit.toNat ≤ g := by
  refine ⟨_, hlaw.count ref entry hentry, ?_⟩
  cases credit with
  | false => exact Nat.le_add_right _ _
  | true => grind [hasCredit, census_pos]

theorem creditAfter_call {pc pc' : CallPc V} (haccepted : pc ≠ .sendAccepted)
    (hrejected : ∀ error, pc ≠ .sendRejected error)
    (htakes : ∀ sequence payload, pc' ≠ .sendProvider sequence payload) (credit : Bool) :
    creditAfter credit (.call streamId ref pc) (.call streamId ref pc') = credit := by
  rw [creditAfter.eq_def]
  split
  · next heq => cases heq; exact absurd rfl (htakes _ _)
  · next heq => cases heq; exact absurd rfl haccepted
  · next heq => cases heq; exact absurd rfl (hrejected _)
  · rfl

theorem funded_spends (hlaw : Funded s pool)
    (hpc : pool[t]? = some (.handler (.call streamId ref call) permit credit))
    (hentry : s.server.entries[ref]? = some entry) (hspends : Spends entry call k entry' call')
    (hentries : s'.server.entries = s.server.entries.insert ref entry')
    (hgranted : s'.granted = s.granted)
    (hreturns : ∀ sequence payload, call = .sendProvider sequence payload → k ≠ .action none) :
    Funded s' (pool.insert t (.handler (.call streamId ref call') permit'
      (creditAfter credit (.call streamId ref call) (.call streamId ref call')))) := by
  have hcall : CallAt s ref call credit := hlaw.placed t _ hpc
  obtain ⟨g, hg, hle⟩ := hlaw.granted_of_entry hpc hentry
  have hmem : ref ∈ s'.server.entries := by grind
  have hg' : s'.granted[ref]? = some g := by rw [hgranted, hg]
  cases hspends with
  | takes sequence payload _ hcredit =>
    have hnone := hcall.held false rfl
    subst hnone
    refine hlaw.onEntry hpc hentry hentries (fun h => h) hgranted (Nat.sub_add_cancel ?_) fun _ => ?_
    · exact Nat.pos_of_ne_zero hcredit
    · refine .underway (fun b hb => ?_) (fun _ => hmem) nofun nofun nofun
      cases hb
      rfl
  | accepts =>
    have hheld := hcall.held true rfl
    subst hheld
    refine hlaw.onEntry hpc hentry hentries (fun h => h) hgranted rfl fun _ => ?_
    refine .returned nofun fun n hn => ⟨g, hg', ?_⟩
    cases hn
    exact (Nat.min_le_left _ _).trans hle
  | rejects =>
    have hheld := hcall.held true rfl
    subst hheld
    exact hlaw.onEntry hpc hentry hentries (fun h => h) hgranted rfl fun _ => .returned nofun nofun
  | panics sequence payload => exact absurd rfl (hreturns sequence payload rfl)
  | closes =>
    have hnone := hcall.held false rfl
    subst hnone
    refine hlaw.onEntry hpc hentry hentries (fun h => h) hgranted rfl fun _ => ?_
    refine .returned nofun fun n hn => ⟨g, hg', ?_⟩
    cases hn
    exact (Nat.min_le_left _ _).trans hle
  | retires =>
    refine hlaw.onEntry hpc hentry hentries (fun _ => rfl) hgranted rfl fun hgrows => ?_
    refine .underway nofun (fun h => hgrows.entries ref (hcall.known h)) hcall.carried (fun _ => ?_) nofun
    rw [cancelledAt, hentries, getElem?_insert_nat, if_pos rfl]
    rfl
  | releases =>
    refine hlaw.onEntry hpc hentry hentries (fun h => h) hgranted rfl fun hgrows => ?_
    refine .returned (fun _ => ⟨hmem, hgrows.cancelled ref (hcall.retired rfl)⟩) fun n hn => ?_
    cases hn
    cases hcall.carried _ rfl
  | other hcredit hpermit hcancelled hexpected hcarries hretired hdone hplain =>
    obtain ⟨haccepted, hrejected, -, htakes⟩ := hplain
    rw [creditAfter_call haccepted hrejected htakes]
    refine hlaw.onEntry hpc hentry hentries (fun h => hcancelled.trans h) hgranted
      (by rw [hcredit]) fun hgrows => ?_
    refine
      { held := fun b hb => hcall.held b (hexpected b hb)
        known := fun h => hgrows.entries ref (hcall.known h)
        carried := fun o ho => (hcarries o ho).elim (hcall.carried o) id
        retired := fun h => ?_
        spent := fun o ho h => ?_
        answered := fun n hn => ?_ }
    · rw [hretired.2] at h
      cases h
    · rw [hcall.held false (hdone o ho).1] at h
      cases h
    · cases hcall.carried _ ((hdone _ hn).2 n rfl)

theorem expectedCredit_of_hasRetired (h : hasRetired call = true) : expectedCredit call = none := by
  cases call <;> first | rfl | cases h

/-- The steps of a call that has retired its stream, off the entry. -/
theorem funded_ends (hlaw : Funded s pool)
    (hpc : pool[t]? = some (.handler (.call streamId ref call) permit credit))
    (hentries : s'.server.entries = s.server.entries) (hgranted : s'.granted = s.granted)
    (hcarries : carries call' = carries call) (hretired : hasRetired call = true ∧ hasRetired call' = true) :
    Funded s' (pool.insert t (.handler (.call streamId ref call') permit'
      (creditAfter credit (.call streamId ref call) (.call streamId ref call')))) := by
  have hcall : CallAt s ref call credit := hlaw.placed t _ hpc
  have hafter : creditAfter credit (.call streamId ref call) (.call streamId ref call') = credit := by
    refine creditAfter_call ?_ ?_ ?_ credit
    · rintro rfl
      cases hretired.1
    · rintro error rfl
      cases hretired.1
    · rintro sequence payload rfl
      cases hretired.2
  have hcancelled : ∀ r, cancelledAt s.server r = true → cancelledAt s'.server r = true := by
    intro r hr
    rwa [cancelledAt, hentries]
  rw [hafter]
  refine hlaw.keeps hpc (fun r => by rw [hentries]) hcancelled hgranted (fun _ => rfl) ?_
  refine CallAt.underway (fun b hb => ?_) (fun h => ?_) (fun o ho => ?_) (fun _ => ?_) fun o ho => ?_
  · rw [expectedCredit_of_hasRetired hretired.2] at hb
    cases hb
  · rw [hentries]
    exact hcall.known h
  · exact hcall.carried o (hcarries.symm.trans ho)
  · exact hcancelled ref (hcall.retired hretired.1)
  · rw [ho] at hretired
    cases hretired.2

end

/-! ## Every step -/

section

variable {a : Limit} {s : Shared} {s' : Server.Shared} {pool : ExtTreeMap Nat (Pc V)} {t : Nat}
  {pc pc' : Server.Pc V} {k : Server.Input V} {permit credit : Bool}

theorem creditAfter_aside (h : aside pc = true) : creditAfter credit pc pc' = credit := by
  cases pc <;> first | rfl | cases h

theorem credit_aside {permit : Bool} (hpc : aside pc = true)
    (h : CreditAt s (.handler pc permit credit)) : credit = false := by
  cases pc <;> first | exact h | cases hpc

/-- The Send is unwound by a panic of `provider.send`. -/
def unwinds : Pc V → Input V → Bool
  | .handler (.call _ _ (.sendProvider _ _)) _ _, .handler (.call (.action none)) => true
  | _, _ => false

theorem hasCredit_false (ref : Nat) (pc : Server.Pc V) (permit : Bool) :
    hasCredit ref (.handler pc permit false) = false := by
  cases pc <;> rfl

/-- A handler that does no call on an entry, or that comes to its first step, has no credit. -/
theorem creditAt_false {s : Shared} {permit : Bool}
    (h : ∀ streamId ref next, pc = .call streamId ref next → ∃ c, next = .cancelled c) :
    CreditAt s (.handler pc permit false) := by
  cases pc with
  | call streamId ref next =>
    obtain ⟨c, rfl⟩ := h streamId ref next rfl
    exact CallAt.underway (fun b hb => by cases hb; rfl) nofun nofun nofun nofun
  | _ => rfl

/-- Taking the permit of an entry leaves its credit and its flag alone. -/
theorem credit_of_permit_modify {before after : Server.Shared} {ref : Nat}
    (h : after.entries = before.entries.modify ref fun entry => { entry with permit := false }) :
    (∀ r : Nat, after.entries[r]?.map ProviderStreamEntry.inboundCredit =
      before.entries[r]?.map ProviderStreamEntry.inboundCredit) ∧
    ∀ r, cancelledAt after r = cancelledAt before r := by
  refine ⟨fun r => ?_, fun r => ?_⟩
  · grind
  · grind [cancelledAt, getElem?_modify_nat]

/-- **A step of a handler keeps the law**, when no Send is unwound. -/
theorem funded_served (haccounted : Accounted a s pool) (hlaw : Funded s pool)
    (hpc : pool[t]? = some (.handler pc permit credit)) (h : Serves s.server t pc k s' pc')
    (hreturns : unwinds (.handler pc permit credit) (.handler k) = false) (permit' : Bool) (released : List Nat) :
    Funded { s with server := s', granted := grantedAfter s.granted t pc, released := released }
      (pool.insert t (.handler pc' permit' (creditAfter credit pc pc'))) := by
  have hplaced := hlaw.placed t _ hpc
  cases h with
  | other hentries hcancelled hexpected haside hdone hpc' =>
    have hnone := credit_aside haside hplaced
    subst hnone
    rw [creditAfter_aside haside]
    refine hlaw.keeps hpc (fun ref => ?_) hcancelled ?_ (fun ref => ?_) (creditAt_false hpc')
    · have href := congrArg (Option.map Prod.fst) (hentries ref)
      rwa [Option.map_map, Option.map_map] at href
    · cases pc <;> first | rfl | cases haside
    · rw [hasCredit_false, hasCredit_false]
  | stores streamId requested operation _ hentries =>
    have hnone : credit = false := hplaced
    subst hnone
    exact hlaw.stores hpc (haccounted.fresh hpc rfl) hentries rfl (fun _ => rfl) (fun _ => rfl) rfl
  | spends streamId ref hentry hspends hentries =>
    refine funded_spends hlaw hpc hentry hspends hentries rfl ?_
    rintro sequence payload rfl rfl
    cases hreturns
  | ends streamId ref hentries hcarries hretired =>
    exact funded_ends hlaw hpc hentries rfl hcarries hretired
  | cancels ref _ hentries =>
    have hnone : credit = false := hplaced
    subst hnone
    obtain ⟨hcredits, hcancelled⟩ := credit_of_permit_modify hentries
    exact hlaw.keeps hpc hcredits (fun r hr => (hcancelled r).trans hr) rfl (fun _ => rfl) rfl

/-- **A step of a thread keeps the law**, when no Send is unwound. -/
theorem Funded.steps {s' : Shared} {pc pc' : Pc V} {k : Input V} (hlaw : Funded s pool)
    (haccounted : Accounted a s pool) (hpc : pool[t]? = some pc) (h : Steps a s t pc k s' pc')
    (hreturns : unwinds pc k = false) : Funded s' (pool.insert t pc') := by
  have hplaced := hlaw.placed t pc hpc
  cases h with
  | load | retry =>
    exact hlaw.keeps hpc (fun _ => rfl) (fun _ h => h) rfl (fun _ => rfl) trivial
  | full | acquired => exact hlaw.keeps hpc (fun _ => rfl) (fun _ h => h) rfl (fun _ => rfl) rfl
  | dropped hfinished credit =>
    refine hlaw.keeps hpc (fun _ => rfl) (fun _ h => h) rfl (fun ref => ?_) ?_
    · cases ‹Server.Pc V› <;> rfl
    · have hkept : CreditAt { s with active := fetchSub s.active } (.handler ‹_› true credit) :=
        hplaced.mono ⟨fun _ h => h, fun _ h => h, fun _ _ h => h⟩
      cases ‹Server.Pc V› <;> exact hkept
  | served permit credit hmoves hnot =>
    exact funded_served haccounted hlaw hpc (serves_of_moves hmoves hnot) hreturns _ _
  | entryDropped ref =>
    have hentries : (s.server.updateEntry ref fun entry => { entry with permit := false }).entries =
        s.server.entries.modify ref fun entry => { entry with permit := false } := rfl
    obtain ⟨hcredits, hcancelled⟩ := credit_of_permit_modify hentries
    exact hlaw.keeps hpc hcredits (fun r hr => (hcancelled r).trans hr) rfl (fun _ => rfl) rfl

end

/-! ## Every run -/

/-- Every `provider.send` returns normally. -/
def sendsReturn (x : Threads Shared (Pc V)) : Act (Pc V) (Input V) → Bool
  | .start _ _ => true
  | .move t k _ => !x.pool[t]?.any (unwinds · k)

theorem Funded.starts {s : Shared} {pool : ExtTreeMap Nat (Pc V)} {t : Nat} {pc : Pc V}
    (hlaw : Funded s pool) (hentry : pc.isEntry = true) (hfresh : t ∉ pool) :
    Funded s (pool.insert t pc) := by
  have hnone : (∀ ref, hasCredit ref pc = false) ∧ CreditAt s pc := by
    cases pc with
    | handler pc permit =>
      rw [Pc.isEntry, Bool.and_eq_true, Bool.and_eq_true, Bool.not_eq_true', Bool.not_eq_true'] at hentry
      obtain ⟨⟨hstarts, -⟩, rfl⟩ := hentry
      refine ⟨fun ref => hasCredit_false ref pc permit, creditAt_false ?_⟩
      rintro streamId ref next rfl
      cases hstarts
    | exchange => cases hentry
    | dropEntry => exact ⟨fun _ => rfl, trivial⟩
  refine ⟨fun u other hother => ?_, fun ref entry href => ?_, hlaw.keys⟩
  · grind [new_or_old_of_insert, hlaw.placed]
  · have hcensus : census (hasCredit ref) (pool.insert t pc) =
        census (hasCredit ref) pool + (hasCredit ref pc).toNat :=
      census_insert_new (ExtTreeMap.getElem?_eq_none hfresh)
    rw [hnone.1 ref, Bool.toNat_false, Nat.add_zero] at hcensus
    rw [hcensus]
    exact hlaw.count ref entry href

theorem funded_init (capability : String) :
    Funded (V := V) (init (V := V) capability).shared ∅ where
  placed t pc hpc := by
    rw [ExtTreeMap.getElem?_empty] at hpc
    cases hpc
  count ref entry hentry := by
    have hnone : (∅ : ExtTreeMap Nat ProviderStreamEntry)[ref]? = some entry := hentry
    rw [ExtTreeMap.getElem?_empty] at hnone
    cases hnone
  keys ref g hg := by
    have hnone : (∅ : ExtTreeMap Nat Nat)[ref]? = some g := hg
    rw [ExtTreeMap.getElem?_empty] at hnone
    cases hnone

theorem funded_step {a : Limit} {x x' : Threads Shared (Pc V)} {act : Act (Pc V) (Input V)}
    (haccounted : Accounted a x.shared x.pool) (hlaw : Funded x.shared x.pool)
    (hreturns : sendsReturn x act = true) (h : (program a).step x act = some x') :
    Funded x'.shared x'.pool := by
  rcases step_steps h with ⟨t, pc, hentry, hfresh, rfl⟩ |
    ⟨t, pc, k, pc', child, rfl, hpc, hsteps, hpool⟩
  · exact hlaw.starts hentry hfresh
  · grind [sendsReturn, hlaw.steps]

def Conserved (a : Limit) (x : Threads Shared (Pc V)) : Prop :=
  Accounted a x.shared x.pool ∧ Funded x.shared x.pool

theorem conserved_run {a : Limit} {capability : String} {acts : List (Act (Pc V) (Input V))}
    {x : Threads Shared (Pc V)}
    (hreturns : Meets (program a).step (fun x act => sendsReturn x act = true) (init capability) acts)
    (h : run (program a).step (init capability) acts = some x) : Conserved a x := by
  have hinit : Conserved a (init (V := V) capability) :=
    ⟨accounted_init a capability, funded_init capability⟩
  refine run_invariant_of_meets (fun y act y' hy hret hstep => ?_) hinit hreturns h
  exact ⟨accounted_step hy.1 hstep, funded_step hy.1 hy.2 hret hstep⟩

/-- **Permits and credits are conserved.** In every run in which `provider.send` returns normally: the
counter is the number of permits there are and keeps its limit, and is not zero where a permit is left
to drop; no stream has its permit released twice; the credit of a stream that is not retired and the
Sends in progress that have one of it are together what the open has granted; and no call on a stream
answers that it has accepted with more credit than that. -/
theorem admission_and_credit_conserved (a : Limit) (capability : String)
    {acts : List (Act (Pc V) (Input V))} {x : Threads Shared (Pc V)}
    (hreturns : Meets (program a).step (fun x act => sendsReturn x act = true) (init capability) acts)
    (h : run (program a).step (init capability) acts = some x) :
    x.shared.active = permits x ∧ x.shared.active ≤ a.limit ∧
    (∀ (t : Nat) (pc : Pc V), x.pool[t]? = some pc → inHand pc = true → 0 < x.shared.active) ∧
    x.shared.released.Nodup ∧
    (∀ (ref : Nat) (entry : ProviderStreamEntry), x.shared.server.entries[ref]? = some entry →
      entry.cancelled = false →
      x.shared.granted[ref]? = some (entry.inboundCredit + census (hasCredit ref) x.pool) ∧
      ∀ (t streamId : Nat) (call : CallPc V) (permit : Bool),
        x.pool[t]? = some (.handler (.call streamId ref call) permit true) →
        ∀ outcome, call ≠ .done outcome) ∧
    ∀ (t streamId ref credit : Nat) (permit keeps : Bool),
      x.pool[t]? =
        some (.handler (.call streamId ref (.done (some (.accepted credit)))) permit keeps) →
      ∃ granted, x.shared.granted[ref]? = some granted ∧ credit ≤ granted := by
  obtain ⟨haccounted, hfunded⟩ := conserved_run hreturns h
  refine ⟨haccounted.count, haccounted.bound, fun t pc hpc hhand => ?_, haccounted.nodup,
    fun ref entry hentry hlive => ⟨hfunded.count ref entry hentry, ?_⟩, ?_⟩
  · have hpos : 0 < census inHand x.pool := census_pos hpc hhand
    have hcount := haccounted.count
    omega
  · rintro t streamId _ permit hpc outcome rfl
    have hcall : CallAt x.shared ref (.done outcome) true := hfunded.placed t _ hpc
    have hcancelled := hcall.spent outcome rfl rfl
    rw [cancelledAt, hentry, Option.any_some, hlive] at hcancelled
    cases hcancelled
  · intro t streamId ref credit permit keeps hpc
    have hcall : CallAt x.shared ref (.done (some (.accepted credit))) keeps := hfunded.placed t _ hpc
    exact hcall.answered credit rfl

/-- One stream of credit 2: a Send has been accepted and another one is with the provider. -/
theorem admission_and_credit_conserved_sample :
    ∃ x : Threads Shared (Pc Nat), x.shared.active = 1 ∧ permits x = 1 ∧
      x.shared.granted[1]? = some 2 ∧
      (x.shared.server.entries[1]?.map ProviderStreamEntry.inboundCredit) = some 1 ∧
      census (hasCredit 1) x.pool = 1 := by
  let a : Limit := ⟨2, by decide, by decide⟩
  let go : Input Nat := .handler .go
  let callGo : Input Nat := .handler (.call .go)
  let acts : List (Act (Pc Nat) (Input Nat)) :=
    .start 0 (.handler (.handshake true) false false) :: List.replicate 6 (.move 0 go 0) ++
    .start 1 (.handler (.receive (.work (.stream 4 2 "op") 6 (some (Server.sessionName 1)) true))
      false false) :: List.replicate 4 (.move 1 go 0) ++
    [.move 1 (.exchange true) 0, .move 1 (.exchange false) 0, .move 1 go 0, .move 1 go 0,
      .move 1 (.handler (.opened true)) 0, .move 1 go 0, .move 1 go 0, .move 1 go 0] ++
    .start 2 (.handler (.receive (.call (.send 7 4 (Server.sessionName 1) 0 5))) false false) ::
      List.replicate 2 (.move 2 go 0) ++ List.replicate 7 (.move 2 callGo 0) ++
    .move 2 (.handler (.call (.action (some .accepted)))) 0 :: List.replicate 3 (.move 2 callGo 0) ++
    .start 3 (.handler (.receive (.call (.send 8 4 (Server.sessionName 1) 1 5))) false false) ::
      List.replicate 2 (.move 3 go 0) ++ List.replicate 7 (.move 3 callGo 0)
  let x := (run (program a).step (init "store") acts).get (by decide +kernel)
  obtain ⟨hactive, -, -, -, hcredit, -⟩ :=
    admission_and_credit_conserved (x := x) a "store" (by decide +kernel) (run_get _)
  have hone : x.shared.active = 1 := by decide +kernel
  have hgranted : x.shared.granted[1]? = some 2 := by decide +kernel
  have hleft : (x.shared.server.entries[1]?.map ProviderStreamEntry.inboundCredit) = some 1 := by
    decide +kernel
  have hlive : (x.shared.server.entries[1]?.map ProviderStreamEntry.cancelled) = some false := by
    decide +kernel
  obtain ⟨entry, hentry, hinbound⟩ := Option.map_eq_some_iff.mp hleft
  rw [hentry, Option.map_some, Option.some_inj] at hlive
  have hsum := (hcredit 1 entry hentry hlive).1
  rw [hgranted, hinbound, Option.some_inj] at hsum
  exact ⟨x, hone, hactive.symm.trans hone, hgranted, hleft, by omega⟩

end LensoBun.Provider.Admission
