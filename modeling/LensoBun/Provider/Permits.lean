import LensoBun.Provider.Admission

set_option autoImplicit false

/-! # The permits of the provider server are conserved

`active` is the number of permits in hand and in entries (`Accounted.count`). It goes up in the
compare-exchange that makes a permit and down in the drop of one, and an open, a retirement, a cancel
and the end of an entry only hand one on. So the counter keeps its limit, no drop finds it at zero,
and no entry gives its permit away twice.
-/

namespace LensoBun.Provider.Admission

open Std Lib
open Server (Kind)

variable {V : Type}

/-! ## The account -/

def inHand : Pc V → Bool
  | .handler _ permit _ => permit
  | _ => false

def isDone : Pc V → Bool
  | .handler .done _ _ => true
  | _ => false

/-- The permits there are: in hand, and in the entries. -/
def permits (x : Threads Shared (Pc V)) : Nat :=
  census inHand x.pool + census ProviderStreamEntry.permit x.shared.server.entries

/-- The permit in hand is the one that the place calls for. -/
def Placed : Pc V → Prop
  | .handler pc permit _ => ∀ b, expectedPermit pc = some b → permit = b
  | _ => True

/-- The account of the permits. An entry is known by the thread that stored it, which has finished. -/
structure Accounted (a : Limit) (s : Shared) (pool : ExtTreeMap Nat (Pc V)) : Prop where
  opener : ∀ ref ∈ s.server.entries, ∃ pc, pool[ref]? = some pc ∧ isDone pc = true
  placed : ∀ (t : Nat) (pc : Pc V), pool[t]? = some pc → Placed pc
  count : s.active = census inHand pool + census ProviderStreamEntry.permit s.server.entries
  bound : s.active ≤ a.limit
  nodup : s.released.Nodup
  spent : ∀ ref ∈ s.released, ref ∈ s.server.entries ∧ s.server.permitAt ref = false

theorem fetchSub_eq {active : Nat} (hpos : 0 < active) (hfits : active < 2 ^ 64) :
    fetchSub active + 1 = active := by
  unfold fetchSub
  omega

section

variable {a : Limit} {s s' : Shared} {pool : ExtTreeMap Nat (Pc V)} {t : Nat} {pc pc' : Pc V}

theorem Accounted.moves (hlaw : Accounted a s pool) (hpc : pool[t]? = some pc)
    (hentries : ∀ ref ∈ s'.server.entries, ref ∈ s.server.entries ∨ (ref = t ∧ isDone pc' = true))
    (hdone : isDone pc = true → isDone pc' = true) (hplaced : Placed pc')
    (hcount : s'.active + (inHand pc).toNat + census ProviderStreamEntry.permit s.server.entries =
      s.active + (inHand pc').toNat + census ProviderStreamEntry.permit s'.server.entries)
    (hbound : s'.active ≤ a.limit) (hnodup : s'.released.Nodup)
    (hspent : ∀ ref ∈ s'.released, ref ∈ s'.server.entries ∧ s'.server.permitAt ref = false) :
    Accounted a s' (pool.insert t pc') where
  opener ref href := by
    rw [getElem?_insert_nat]
    rcases hentries ref href with hold | ⟨rfl, hnew⟩
    · grind [hlaw.opener]
    · rw [if_pos rfl]
      exact ⟨pc', rfl, hnew⟩
  placed u other hother := by
    rcases new_or_old_of_insert hother with ⟨-, rfl⟩ | ⟨-, hother⟩
    · exact hplaced
    · exact hlaw.placed u other hother
  count := by
    have hcensus : census inHand (pool.insert t pc') + (inHand pc).toNat =
        census inHand pool + (inHand pc').toNat := census_insert_old hpc
    have hold := hlaw.count
    omega
  bound := hbound
  nodup := hnodup
  spent := hspent

theorem Accounted.keeps (hlaw : Accounted a s pool) (hpc : pool[t]? = some pc)
    (hentries : ∀ ref : Nat, s'.server.entries[ref]?.map ProviderStreamEntry.permit =
      s.server.entries[ref]?.map ProviderStreamEntry.permit)
    (hactive : s'.active = s.active) (hreleased : s'.released = s.released)
    (hhand : inHand pc' = inHand pc) (hdone : isDone pc = true → isDone pc' = true)
    (hplaced : Placed pc') : Accounted a s' (pool.insert t pc') := by
  have hpermit : ∀ ref : Nat, s'.server.entries[ref]?.any ProviderStreamEntry.permit =
      s.server.entries[ref]?.any ProviderStreamEntry.permit := by
    intro ref
    have href := congrArg (Option.any id) (hentries ref)
    rwa [Option.any_map, Option.any_map] at href
  have hmem : ∀ ref, ref ∈ s'.server.entries ↔ ref ∈ s.server.entries := by
    intro ref
    have hisSome := congrArg Option.isSome (hentries ref)
    rw [Option.isSome_map, Option.isSome_map] at hisSome
    rw [ExtTreeMap.mem_iff_isSome_getElem?, ExtTreeMap.mem_iff_isSome_getElem?, hisSome]
  refine hlaw.moves hpc (fun ref href => .inl ((hmem ref).mp href)) hdone hplaced ?_ ?_ ?_ ?_
  · rw [hactive, hhand, census_congr hpermit]
  · rw [hactive]
    exact hlaw.bound
  · rw [hreleased]
    exact hlaw.nodup
  · intro ref href
    rw [hreleased] at href
    obtain ⟨hin, hfalse⟩ := hlaw.spent ref href
    exact ⟨(hmem ref).mpr hin, (hpermit ref).trans hfalse⟩

variable {after before : Server.Shared} {ref : Nat}

theorem permitAt_modify
    (h : after.entries = before.entries.modify ref fun entry => { entry with permit := false })
    (r : Nat) : after.permitAt r = if ref = r then false else before.permitAt r := by
  rw [Server.Shared.permitAt, h, getElem?_modify_nat]
  split
  · cases before.entries[ref]? <;> rfl
  · rfl

theorem census_permit_modify
    (h : after.entries = before.entries.modify ref fun entry => { entry with permit := false }) :
    census ProviderStreamEntry.permit after.entries + (before.permitAt ref).toNat =
      census ProviderStreamEntry.permit before.entries := by
  have hnone : before.entries[ref]?.any (ProviderStreamEntry.permit ∘
      fun entry => { entry with permit := false }) = false := by
    cases before.entries[ref]? <;> rfl
  rw [h]
  calc _ = census ProviderStreamEntry.permit before.entries + _ := census_modify _
    _ = census ProviderStreamEntry.permit before.entries := by
      rw [hnone]
      rfl

/-- The permit of an entry is taken into the hand of a thread, which has no other. -/
theorem Accounted.takes (hlaw : Accounted a s pool) (hpc : pool[t]? = some pc)
    (hhand : inHand pc = false)
    (hentries : s'.server.entries = s.server.entries.modify ref fun entry => { entry with permit := false })
    (hactive : s'.active = s.active)
    (hreleased : s'.released = s.released ++ taken s.server (some ref))
    (hhand' : inHand pc' = s.server.permitAt ref) (hdone : isDone pc = true → isDone pc' = true)
    (hplaced : Placed pc') : Accounted a s' (pool.insert t pc') := by
  have hpermit := permitAt_modify hentries
  have hmem : ∀ r, r ∈ s'.server.entries ↔ r ∈ s.server.entries := by grind
  -- what is taken was there, so it has not been taken before
  have htaken : ∀ r ∈ taken s.server (some ref), r = ref ∧ s.server.permitAt r = true := by
    grind [taken]
  refine hlaw.moves hpc (fun r hr => .inl ((hmem r).mp hr)) hdone hplaced ?_ ?_ ?_ ?_
  · grind [census_permit_modify]
  · rw [hactive]
    exact hlaw.bound
  · rw [hreleased]
    refine List.nodup_append.mpr ⟨hlaw.nodup, ?_, ?_⟩
    · grind [taken]
    · rintro r hr _ hr' rfl
      have hfalse := (hlaw.spent r hr).2
      rw [(htaken r hr').2] at hfalse
      cases hfalse
  · intro r hr
    rw [hreleased, List.mem_append] at hr
    rw [hmem, hpermit]
    rcases hr with hr | hr
    · grind [hlaw.spent]
    · obtain ⟨rfl, hat⟩ := htaken r hr
      rw [if_pos rfl]
      refine ⟨?_, rfl⟩
      rw [ExtTreeMap.mem_iff_isSome_getElem?]
      exact Option.isSome_of_any hat

theorem Accounted.fresh (hlaw : Accounted a s pool) (hpc : pool[t]? = some pc)
    (hnot : isDone pc = false) : t ∉ s.server.entries := by
  intro hmem
  obtain ⟨old, hold, hisDone⟩ := hlaw.opener t hmem
  cases hpc.symm.trans hold
  rw [hnot] at hisDone
  cases hisDone

theorem Accounted.stores (hlaw : Accounted a s pool) (hpc : pool[t]? = some pc)
    (hhand : inHand pc = true) (hnot : isDone pc = false) {entry : ProviderStreamEntry}
    (hpermit : entry.permit = true) (hentries : s'.server.entries = s.server.entries.insert t entry)
    (hactive : s'.active = s.active) (hreleased : s'.released = s.released)
    (hhand' : inHand pc' = false) (hdone : isDone pc' = true) (hplaced : Placed pc') :
    Accounted a s' (pool.insert t pc') := by
  have hfresh := hlaw.fresh hpc hnot
  refine hlaw.moves hpc (fun ref href => ?_) (fun _ => hdone) hplaced ?_ ?_ ?_ ?_
  · grind
  · have hcensus : census ProviderStreamEntry.permit (s.server.entries.insert t entry) =
        census ProviderStreamEntry.permit s.server.entries + entry.permit.toNat :=
      census_insert_new (ExtTreeMap.getElem?_eq_none hfresh)
    rw [hpermit, Bool.toNat_true] at hcensus
    rw [hactive, hhand, hhand', hentries, Bool.toNat_true, Bool.toNat_false]
    omega
  · rw [hactive]
    exact hlaw.bound
  · rw [hreleased]
    exact hlaw.nodup
  · grind [Server.Shared.permitAt, getElem?_insert_nat, mem_insert_nat, hlaw.spent]

end

/-! ### The steps of the handlers -/

section

variable {pc pc' : Server.Pc V}

theorem takesFrom_aside (h : aside pc = true) : takesFrom pc = none := by
  cases pc <;> first | rfl | cases h

theorem permitAfter_aside (h : aside pc = true) (s : Server.Shared) (permit : Bool) :
    permitAfter s permit pc = permit := by
  cases pc <;> first | rfl | cases h

theorem expectedPermit_of_finished (h : pc.finished = true) : expectedPermit pc = none := by
  cases pc with
  | call streamId ref place => cases place <;> first | rfl | cases h
  | _ => first | rfl | cases h

/-- A call on its entry releases the permit, or leaves it alone. -/
theorem Spends.permit {entry entry' : ProviderStreamEntry} {pc pc' : CallPc V} {k : Choice V}
    (h : Spends entry pc k entry' pc') :
    (∃ outcome, pc = .release outcome ∧ pc' = .done (some outcome) ∧
      entry' = { entry with permit := false }) ∨
    (entry'.permit = entry.permit ∧ (∀ outcome, pc ≠ .release outcome) ∧ ∀ o, pc ≠ .done o) := by
  cases h with
  | releases outcome => exact .inl ⟨outcome, rfl, rfl, rfl⟩
  | other hcredit hpermit hcancelled hexpected hcarries hretired hdone hplain =>
    refine .inr ⟨hpermit, ?_, hplain.2.2.1⟩
    rintro outcome rfl
    cases hretired.1
  | _ => exact .inr ⟨rfl, nofun, nofun⟩

variable {ref streamId : Nat}

theorem expectedPermit_call {pc : CallPc V} (h : ∀ o, pc ≠ .done o) :
    expectedPermit (.call streamId ref pc) = some false := by
  cases pc <;> first | rfl | exact absurd rfl (h _)

theorem eq_false_of_expectedPermit_call {pc : CallPc V} {b : Bool}
    (h : expectedPermit (.call streamId ref pc) = some b) : b = false := by
  cases pc <;> cases h <;> rfl

variable {a : Limit} {s : Shared} {s' : Server.Shared} {pool : ExtTreeMap Nat (Pc V)} {t : Nat}
  {k : Server.Input V} {permit credit : Bool}

/-- A call that goes on without releasing the permit: it has none in hand and takes none. -/
theorem accounted_call (hlaw : Accounted a s pool) {pc pc' : CallPc V}
    (hpc : pool[t]? = some (.handler (.call streamId ref pc) permit credit))
    (hrelease : ∀ outcome, pc ≠ .release outcome) (hdone : ∀ o, pc ≠ .done o)
    (hentries : ∀ r : Nat, s'.entries[r]?.map ProviderStreamEntry.permit = s.server.entries[r]?.map ProviderStreamEntry.permit)
    (credit' : Bool) :
    Accounted a
      { s with
        server := s'
        granted := grantedAfter s.granted t (.call streamId ref pc)
        released := s.released ++ taken s.server (takesFrom (.call streamId ref pc)) }
      (pool.insert t (.handler (.call streamId ref pc')
        (permitAfter s.server permit (.call streamId ref pc)) credit')) := by
  have htakes : takesFrom (.call streamId ref pc) = none := by
    cases pc <;> first | rfl | exact absurd rfl (hrelease _)
  have hafter : permitAfter s.server permit (.call streamId ref pc) = permit := by
    cases pc <;> first | rfl | exact absurd rfl (hrelease _)
  have hfalse : permit = false := hlaw.placed t _ hpc false (expectedPermit_call hdone)
  rw [htakes, hafter]
  refine hlaw.keeps hpc hentries rfl (List.append_nil _) rfl nofun fun b hb => ?_
  rw [hfalse, eq_false_of_expectedPermit_call hb]

/-- **A step of a handler keeps the account right.** -/
theorem accounted_served (hlaw : Accounted a s pool)
    (hpc : pool[t]? = some (.handler pc permit credit)) (h : Serves s.server t pc k s' pc') :
    Accounted a
      { s with
        server := s'
        granted := grantedAfter s.granted t pc
        released := s.released ++ taken s.server (takesFrom pc) }
      (pool.insert t (.handler pc' (permitAfter s.server permit pc) (creditAfter credit pc pc'))) := by
  have hplaced := hlaw.placed t _ hpc
  cases h with
  | other hentries hcancelled hexpected haside hdone =>
    rw [takesFrom_aside haside, permitAfter_aside haside]
    refine hlaw.keeps hpc (fun ref => ?_) rfl (List.append_nil _) rfl (fun hd => ?_) ?_
    · have href := congrArg (Option.map Prod.snd) (hentries ref)
      rwa [Option.map_map, Option.map_map] at href
    · cases pc <;> first | exact absurd rfl hdone | cases hd
    · exact fun b hb => hplaced b (hexpected b hb)
  | stores streamId requested operation _ hentries =>
    exact hlaw.stores hpc (hplaced true rfl) rfl rfl hentries rfl (List.append_nil _) rfl rfl nofun
  | spends streamId ref hentry hspends hentries =>
    rcases hspends.permit with ⟨outcome, rfl, rfl, rfl⟩ | ⟨hpermit, hrelease, hdone⟩
    · rw [← modify_of_some hentry fun entry => { entry with permit := false }] at hentries
      exact hlaw.takes hpc (hplaced false rfl) hentries rfl rfl rfl nofun nofun
    · grind [accounted_call, getElem?_insert_nat]
  | ends streamId ref hentries hcarries hretired hrelease =>
    refine accounted_call hlaw hpc hrelease ?_ (fun r => by rw [hentries]) _
    rintro o rfl
    cases hretired.1
  | cancels ref _ hentries =>
    exact hlaw.takes hpc (hplaced false rfl) hentries rfl rfl rfl nofun nofun

/-- **A step of a thread keeps the account right.** -/
theorem Accounted.steps {s' : Shared} {pc pc' : Pc V} {k : Input V} (hlaw : Accounted a s pool)
    (hpc : pool[t]? = some pc) (h : Steps a s t pc k s' pc') : Accounted a s' (pool.insert t pc') := by
  cases h with
  | load kind requestId permit =>
    have hfalse : permit = false := hlaw.placed t _ hpc false rfl
    subst hfalse
    exact hlaw.keeps hpc (fun _ => rfl) rfl rfl rfl nofun trivial
  | full => exact hlaw.keeps hpc (fun _ => rfl) rfl rfl rfl nofun nofun
  | retry => exact hlaw.keeps hpc (fun _ => rfl) rfl rfl rfl nofun trivial
  | acquired kind requestId seen _ hroom =>
    refine hlaw.moves hpc (fun ref href => .inl href) nofun ?_ ?_ hroom hlaw.nodup hlaw.spent
    · intro b hb
      cases kind <;> cases hb <;> rfl
    · rfl
  | dropped hfinished =>
    -- the permit in hand is counted, so the counter is not zero
    have hpos : 0 < census inHand pool := census_pos hpc rfl
    have hcount := hlaw.count
    have hbound := hlaw.bound
    have hsub : fetchSub s.active + 1 = s.active :=
      fetchSub_eq (by omega) (Nat.lt_of_le_of_lt hbound a.fits)
    refine hlaw.moves hpc (fun ref href => .inl href) (fun hd => ?_) ?_ ?_ ?_ hlaw.nodup hlaw.spent
    · cases ‹Server.Pc V› <;> exact hd
    · intro b hb
      rw [expectedPermit_of_finished hfinished] at hb
      cases hb
    · exact congrArg (· + census ProviderStreamEntry.permit s.server.entries) hsub
    · grind
  | served permit credit hmoves hnot => exact accounted_served hlaw hpc (serves_of_moves hmoves hnot)
  | entryDropped => exact hlaw.takes hpc rfl rfl rfl rfl rfl nofun nofun

end

/-! ## Every run -/

theorem accounted_init (a : Limit) (capability : String) :
    Accounted (V := V) a (init (V := V) capability).shared ∅ where
  opener ref href := absurd href ExtTreeMap.not_mem_empty
  placed t pc hpc := by
    rw [ExtTreeMap.getElem?_empty] at hpc
    cases hpc
  count := by
    have hentries : census ProviderStreamEntry.permit
        (init (V := V) capability).shared.server.entries = 0 := census_empty _
    rw [census_empty, hentries]
    rfl
  bound := Nat.zero_le _
  nodup := List.nodup_nil
  spent ref href := absurd href List.not_mem_nil

theorem entry_holds_nothing {pc : Pc V} (h : pc.isEntry = true) :
    inHand pc = false ∧ Placed pc := by
  cases pc with
  | handler pc =>
    rw [Pc.isEntry, Bool.and_eq_true, Bool.and_eq_true, Bool.not_eq_true'] at h
    obtain ⟨⟨hstarts, rfl⟩, -⟩ := h
    refine ⟨rfl, fun b hb => ?_⟩
    cases pc <;> cases hstarts <;> cases hb <;> rfl
  | exchange => cases h
  | dropEntry => exact ⟨rfl, trivial⟩

theorem Accounted.starts {a : Limit} {s : Shared} {pool : ExtTreeMap Nat (Pc V)} {t : Nat} {pc : Pc V}
    (hlaw : Accounted a s pool) (hentry : pc.isEntry = true) (hfresh : t ∉ pool) :
    Accounted a s (pool.insert t pc) where
  opener ref href := by
    obtain ⟨old, hold, hisDone⟩ := hlaw.opener ref href
    have hne : t ≠ ref := by grind
    rw [getElem?_insert_nat, if_neg hne]
    exact ⟨old, hold, hisDone⟩
  placed u other hother := by
    rcases new_or_old_of_insert hother with ⟨-, rfl⟩ | ⟨-, hother⟩
    · exact (entry_holds_nothing hentry).2
    · exact hlaw.placed u other hother
  count := by
    have hcensus : census inHand (pool.insert t pc) = census inHand pool + (inHand pc).toNat :=
      census_insert_new (ExtTreeMap.getElem?_eq_none hfresh)
    rw [hcensus, (entry_holds_nothing hentry).1]
    exact hlaw.count
  bound := hlaw.bound
  nodup := hlaw.nodup
  spent := hlaw.spent

theorem accounted_step {a : Limit} {x x' : Threads Shared (Pc V)} {act : Act (Pc V) (Input V)}
    (hlaw : Accounted a x.shared x.pool) (h : (program a).step x act = some x') :
    Accounted a x'.shared x'.pool := by
  rcases step_steps h with ⟨t, pc, hentry, hfresh, rfl⟩ |
    ⟨t, pc, k, pc', child, -, hpc, hsteps, hpool⟩
  · exact hlaw.starts hentry hfresh
  · rw [hpool]
    exact hlaw.steps hpc hsteps

end LensoBun.Provider.Admission
