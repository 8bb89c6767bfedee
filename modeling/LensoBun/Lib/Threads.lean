import LensoBun.Lib.NatMap
import LensoBun.Lib.Run

set_option autoImplicit false

/-! # Threads over a shared state

A `Program` says how one thread moves: from the shared state, its own number, its program
counter and a choice (whatever the code does not decide itself), one atomic step gives the next
shared state, the next program counter and possibly a new thread. `Program.step` interleaves any
number of threads: an action starts a thread or lets one thread make one step, so runs of
`Program.step` are all schedules.

`Outline` is a proof outline in the manner of Owicki and Gries: a property of the shared state,
an assertion for each thread at its program counter, and a relation between any two threads.
`Outline.run` is the rule: if each move establishes its own assertion and does not disturb those
of the others, the outline holds in every state of every run.
-/

namespace Lib

open Std

variable {σ π κ : Type*}

/-! ## Programs and their steps -/

/-- The result of one atomic step of a thread. -/
structure Moved (σ π : Type*) where
  shared : σ
  next : π
  child : Option π

structure Program (σ π κ : Type*) where
  entry : π → Bool
  move : σ → Nat → π → κ → Option (Moved σ π)

/-- A shared state and the threads started so far, each with its program counter. -/
structure Threads (σ π : Type*) where
  shared : σ
  pool : ExtTreeMap Nat π

inductive Act (π κ : Type*) where
  | start (t : Nat) (pc : π)
  /-- Thread `t` makes a step; a thread that the step starts gets the number `child`. -/
  | move (t : Nat) (choice : κ) (child : Nat)

def Program.step (P : Program σ π κ) (c : Threads σ π) : Act π κ → Option (Threads σ π)
  | .start t pc =>
    if P.entry pc ∧ t ∉ c.pool then some { c with pool := c.pool.insert t pc } else none
  | .move t choice child =>
    match c.pool[t]? with
    | none => none
    | some pc =>
      match P.move c.shared t pc choice with
      | none => none
      | some m =>
        match m.child with
        | none => some ⟨m.shared, c.pool.insert t m.next⟩
        | some pc' =>
          if child ∈ c.pool then none
          else some ⟨m.shared, (c.pool.insert t m.next).insert child pc'⟩

/-- What is said of every thread there is can be checked on a given pool. -/
instance decidablePool (pool : ExtTreeMap Nat π) (p : Nat → π → Prop)
    [∀ t pc, Decidable (p t pc)] : Decidable (∀ t pc, pool[t]? = some pc → p t pc) :=
  decidable_of_iff (∀ q ∈ pool.toList, p q.1 q.2)
    ⟨fun h t pc hpc => h (t, pc) (ExtTreeMap.mem_toList_iff_getElem?_eq_some.mpr hpc),
      fun h q hq => h q.1 q.2 (ExtTreeMap.mem_toList_iff_getElem?_eq_some.mp hq)⟩

variable {P : Program σ π κ}

/-- The moves of a program whose threads start no others. -/
theorem moved_of_map {x : Option (σ × π)} {m : Moved σ π}
    (h : (x.map fun p => ⟨p.1, p.2, none⟩) = some m) :
    x = some (m.shared, m.next) ∧ m.child = none := by
  obtain ⟨p, hp, rfl⟩ := Option.map_eq_some_iff.mp h
  exact ⟨hp, rfl⟩

theorem Program.step_cases {c c' : Threads σ π} {a : Act π κ} (h : P.step c a = some c') :
    (∃ t pc, a = .start t pc ∧ P.entry pc = true ∧ t ∉ c.pool ∧
      c' = { c with pool := c.pool.insert t pc }) ∨
    (∃ t choice child pc m, a = .move t choice child ∧ c.pool[t]? = some pc ∧
      P.move c.shared t pc choice = some m ∧ c'.shared = m.shared ∧
      ((m.child = none ∧ c'.pool = c.pool.insert t m.next) ∨
        ∃ pc', m.child = some pc' ∧ child ∉ c.pool ∧
          c'.pool = (c.pool.insert t m.next).insert child pc')) := by
  cases a with
  | start t pc => grind [Program.step]
  | move t choice child => grind [Program.step]

theorem Program.step_start {c : Threads σ π} {t : Nat} {pc : π} (hpc : P.entry pc = true)
    (ht : t ∉ c.pool) :
    P.step c (.start t pc) = some { c with pool := c.pool.insert t pc } :=
  if_pos ⟨hpc, ht⟩

theorem Program.step_move {c : Threads σ π} {t child : Nat} {pc : π} {k : κ} {m : Moved σ π}
    (hpc : c.pool[t]? = some pc) (hm : P.move c.shared t pc k = some m) (hc : m.child = none) :
    P.step c (.move t k child) = some ⟨m.shared, c.pool.insert t m.next⟩ := by
  simp only [Program.step, hpc, hm, hc]

/-- The threads after a move: the mover at its next place, the others where they were, the
child where it starts. -/
theorem Program.move_pool {c c' : Threads σ π} {t child : Nat} {k : κ}
    (h : P.step c (.move t k child) = some c') :
    ∃ pc m, c.pool[t]? = some pc ∧ P.move c.shared t pc k = some m ∧ c'.shared = m.shared ∧
      c'.pool[t]? = some m.next ∧
      (∀ (u : Nat) pc', u ≠ t → c.pool[u]? = some pc' → c'.pool[u]? = some pc') ∧
      ∀ pc', m.child = some pc' → c'.pool[child]? = some pc' := by
  rcases P.step_cases h with ⟨_, _, hact, _⟩ | ⟨t', k', child', pc, m, hact, hpc, hm, hsh, hpool⟩
  · cases hact
  · grind

theorem Program.thread_of_step {c c' : Threads σ π} {a : Act π κ} (h : P.step c a = some c')
    {t : Nat} {pc : π} (hpc : c.pool[t]? = some pc) :
    c'.pool[t]? = some pc ∨ ∃ k child m, a = .move t k child ∧ P.move c.shared t pc k = some m ∧
      c'.shared = m.shared ∧ c'.pool[t]? = some m.next := by
  cases a with
  | start u => grind [getElem?_insert_nat, Program.step_cases]
  | move u k child =>
    obtain ⟨pcU, m, hpcU, hm, hsh, hnext, hothers, -⟩ := P.move_pool h
    by_cases hut : u = t
    · grind
    · exact .inl (hothers t pc (Ne.symm hut) hpc)

theorem Program.thread_before_step {c c' : Threads σ π} {a : Act π κ} (h : P.step c a = some c')
    {u : Nat} {pc' : π} (hu : c'.pool[u]? = some pc') :
    c.pool[u]? = some pc' ∨ (a = .start u pc' ∧ P.entry pc' = true) ∨
      ∃ t k child pc m, a = .move t k child ∧ c.pool[t]? = some pc ∧
        P.move c.shared t pc k = some m ∧ ((u = t ∧ pc' = m.next) ∨ m.child = some pc') := by
  rcases P.step_cases h with ⟨t, pc, rfl, hpc, -, rfl⟩ |
    ⟨t, k, child, pc, m, rfl, hpc, hm, -, ⟨-, hpool⟩ | ⟨pc₁, hchild, -, hpool⟩⟩
  · grind
  · grind
  · grind

/-! ## Proof outlines -/

/-- A proof outline: what the shared state keeps, what a thread may assume at its program
counter, and what holds between two different threads. -/
structure Outline (σ π : Type*) where
  Shared : σ → Prop
  At : σ → Nat → π → Prop
  Pair : Nat → π → Nat → π → Prop

structure Outline.Holds (O : Outline σ π) (c : Threads σ π) : Prop where
  shared : O.Shared c.shared
  at_ : ∀ t pc, c.pool[t]? = some pc → O.At c.shared t pc
  pair : ∀ t u pc pc', t ≠ u → c.pool[t]? = some pc → c.pool[u]? = some pc' →
    O.Pair t pc u pc'

/-- A condition on the steps of a run: `self` on the moving thread, `other` on the moving thread
and each other thread there is, `start` on a thread that starts. -/
structure Guard (σ π κ : Type*) where
  self : σ → Nat → π → κ → Prop
  other : σ → Nat → π → κ → Nat → π → Prop := fun _ _ _ _ _ _ => True
  start : σ → Nat → π → Prop := fun _ _ _ => True

def Guard.any : Guard σ π κ where
  self _ _ _ _ := True

/-- The guard as a condition on the steps of a run. -/
def Guard.Allows (G : Guard σ π κ) (c : Threads σ π) : Act π κ → Prop
  | .start t pc => G.start c.shared t pc
  | .move t choice _ => ∀ pc, c.pool[t]? = some pc → G.self c.shared t pc choice ∧
      ∀ u pc', u ≠ t → c.pool[u]? = some pc' → G.other c.shared t pc choice u pc'

instance Guard.decidableAllows (G : Guard σ π κ) [∀ s t pc k, Decidable (G.self s t pc k)]
    [∀ s t pc k u pc', Decidable (G.other s t pc k u pc')]
    [∀ s t pc, Decidable (G.start s t pc)] (c : Threads σ π) :
    ∀ a, Decidable (G.Allows c a)
  | .start t pc => inferInstanceAs (Decidable (G.start c.shared t pc))
  | .move t k _ =>
    match h : c.pool[t]? with
    | none => isTrue (fun pc hpc => by rw [h] at hpc; cases hpc)
    | some pc =>
      decidable_of_iff (G.self c.shared t pc k ∧
          ∀ p ∈ c.pool.toList, p.1 ≠ t → G.other c.shared t pc k p.1 p.2)
        (by
          constructor
          · rintro ⟨hs, ho⟩ pc' hpc'
            rw [h] at hpc'
            cases hpc'
            refine ⟨hs, fun u pc'' hut hu => ho (u, pc'') ?_ hut⟩
            exact ExtTreeMap.mem_toList_iff_getElem?_eq_some.mpr hu
          · intro ha
            refine ⟨(ha pc h).1, fun p hp hpt => (ha pc h).2 p.1 p.2 hpt ?_⟩
            exact ExtTreeMap.mem_toList_iff_getElem?_eq_some.mp hp)

/-- A guard made of conditions that can be checked can be checked. -/
def Guard.decidable {self : σ → Nat → π → κ → Prop} {other : σ → Nat → π → κ → Nat → π → Prop}
    {start : σ → Nat → π → Prop} [∀ s t pc k, Decidable (self s t pc k)]
    [∀ s t pc k u pc', Decidable (other s t pc k u pc')] [∀ s t pc, Decidable (start s t pc)]
    (c : Threads σ π) (a : Act π κ) : Decidable ((Guard.mk self other start).Allows c a) :=
  Guard.decidableAllows _ c a

/-- The obligations of an outline: starting threads, the moving thread and its child, and
freedom from interference with every other thread. -/
structure Outline.Valid (P : Program σ π κ) (G : Guard σ π κ) (O : Outline σ π) : Prop where
  start : ∀ s t pc, O.Shared s → P.entry pc = true → G.start s t pc → O.At s t pc
  start_pair : ∀ s t pc u pc', O.Shared s → P.entry pc = true → G.start s t pc → O.At s u pc' →
    t ≠ u → O.Pair t pc u pc' ∧ O.Pair u pc' t pc
  move : ∀ s t pc k m, O.Shared s → O.At s t pc → G.self s t pc k →
    P.move s t pc k = some m → O.Shared m.shared ∧ O.At m.shared t m.next
  child : ∀ s t pc k m u pc', O.Shared s → O.At s t pc → G.self s t pc k →
    P.move s t pc k = some m → m.child = some pc' → t ≠ u →
    O.At m.shared u pc' ∧ O.Pair t m.next u pc' ∧ O.Pair u pc' t m.next
  other : ∀ s t pc k m u pc', O.Shared s → O.At s t pc → O.At s u pc' → t ≠ u →
    O.Pair t pc u pc' → O.Pair u pc' t pc → G.self s t pc k → G.other s t pc k u pc' →
    P.move s t pc k = some m →
    O.At m.shared u pc' ∧ O.Pair t m.next u pc' ∧ O.Pair u pc' t m.next
  child_pair : ∀ s t pc k m v pc'' u pc', O.Shared s → O.At s t pc → O.At s u pc' → t ≠ u →
    v ≠ u → O.Pair t pc u pc' → O.Pair u pc' t pc → G.self s t pc k → G.other s t pc k u pc' →
    P.move s t pc k = some m → m.child = some pc'' →
    O.Pair v pc'' u pc' ∧ O.Pair u pc' v pc''

section

variable {G : Guard σ π κ} {O : Outline σ π} {c c' : Threads σ π}

theorem Outline.Holds.start (hO : O.Valid P G) (hc : O.Holds c) {t : Nat} {pc : π}
    (hpc : P.entry pc = true) (hg : G.start c.shared t pc) :
    O.Holds { c with pool := c.pool.insert t pc } := by
  refine ⟨hc.shared, fun u pc' hu => ?_, pairs_insert hc.pair fun u pc' htu hu => ?_⟩
  · grind [new_or_old_of_insert, hO.start, hc.shared, hc.at_]
  · exact hO.start_pair _ t _ u pc' hc.shared hpc hg (hc.at_ u pc' hu) htu

theorem Outline.Holds.move (hO : O.Valid P G) (hc : O.Holds c) {t : Nat} {pc : π} {k : κ}
    {m : Moved σ π} (hpc : c.pool[t]? = some pc) (hself : G.self c.shared t pc k)
    (hother : ∀ u pc', u ≠ t → c.pool[u]? = some pc' → G.other c.shared t pc k u pc')
    (hm : P.move c.shared t pc k = some m) :
    O.Holds ⟨m.shared, c.pool.insert t m.next⟩ := by
  have hAt := hc.at_ t pc hpc
  have hmove := hO.move _ _ _ _ _ hc.shared hAt hself hm
  have hoth : ∀ u pc', t ≠ u → c.pool[u]? = some pc' →
      O.At m.shared u pc' ∧ O.Pair t m.next u pc' ∧ O.Pair u pc' t m.next := by
    grind [hO.other, hc.shared, hc.at_, hc.pair]
  refine ⟨hmove.1, fun u pc' hu => ?_, pairs_insert hc.pair fun u pc' htu hu => (hoth u pc' htu hu).2⟩
  rcases new_or_old_of_insert hu with ⟨rfl, rfl⟩ | ⟨htu, hu⟩
  · exact hmove.2
  · exact (hoth u pc' htu hu).1

theorem Outline.Holds.move_child (hO : O.Valid P G) (hc : O.Holds c) {t child : Nat} {pc pc' : π}
    {k : κ} {m : Moved σ π} (hpc : c.pool[t]? = some pc) (hself : G.self c.shared t pc k)
    (hother : ∀ u pc', u ≠ t → c.pool[u]? = some pc' → G.other c.shared t pc k u pc')
    (hm : P.move c.shared t pc k = some m) (hch : m.child = some pc') (hfresh : child ∉ c.pool) :
    O.Holds ⟨m.shared, (c.pool.insert t m.next).insert child pc'⟩ := by
  have hAt := hc.at_ t pc hpc
  have hne : t ≠ child := by grind
  have hmoved := hc.move hO hpc hself hother hm
  have hchild := hO.child _ _ _ _ _ child pc' hc.shared hAt hself hm hch hne
  have hpair : ∀ u pc₁, child ≠ u → (c.pool.insert t m.next)[u]? = some pc₁ →
      O.Pair child pc' u pc₁ ∧ O.Pair u pc₁ child pc' := by
    grind [new_or_old_of_insert, hO.child_pair, hc.shared, hc.at_, hc.pair]
  refine ⟨hmoved.shared, fun u pc₁ hu => ?_, pairs_insert hmoved.pair hpair⟩
  rcases new_or_old_of_insert hu with ⟨rfl, rfl⟩ | ⟨-, hu⟩
  · exact hchild.1
  · exact hmoved.at_ u pc₁ hu

theorem Outline.Holds.step (hO : O.Valid P G) (hc : O.Holds c) {a : Act π κ}
    (hg : G.Allows c a) (h : P.step c a = some c') : O.Holds c' := by
  rcases P.step_cases h with ⟨t, pc, rfl, hpc, -, rfl⟩ |
    ⟨t, k, child, pc, m, rfl, hpc, hm, hsh, hpool⟩
  · exact hc.start hO hpc hg
  · obtain ⟨hself, hother⟩ := hg pc hpc
    rcases hpool with ⟨-, hp⟩ | ⟨pc', hch, hfresh, hp⟩
    · have hres := hc.move hO hpc hself hother hm
      cases c'
      cases hsh
      cases hp
      exact hres
    · have hres := hc.move_child hO hpc hself hother hm hch hfresh
      cases c'
      cases hsh
      cases hp
      exact hres

/-- **A valid outline holds along every run whose moves the guard allows.** -/
theorem Outline.run (hO : O.Valid P G) {acts : List (Act π κ)} (hc : O.Holds c)
    (hg : Meets P.step G.Allows c acts) (h : Lib.run P.step c acts = some c') : O.Holds c' :=
  run_invariant_of_meets (fun _ _ _ hc hg hs => hc.step hO hg hs) hc hg h

theorem Outline.run_last_move (hO : O.Valid P G) {acts : List (Act π κ)} {t n : Nat} {k : κ}
    (hc : O.Holds c) (hg : Meets P.step G.Allows c (acts ++ [.move t k n]))
    (h : Lib.run P.step c (acts ++ [.move t k n]) = some c') :
    ∃ c₀ pc m, O.Holds c₀ ∧ c₀.pool[t]? = some pc ∧ G.self c₀.shared t pc k ∧
      P.move c₀.shared t pc k = some m ∧ c'.shared = m.shared ∧ c'.pool[t]? = some m.next := by
  rw [run_append] at h
  obtain ⟨c₀, hrun, hlast⟩ := Option.bind_eq_some_iff.mp h
  obtain ⟨c₁, hstep, hc₁⟩ := run_cons_eq_some.mp hlast
  cases hc₁
  obtain ⟨pc, m, hpc, hm, hsh, hnext, -, -⟩ := P.move_pool hstep
  have hallows := (hg.append_right hrun).head
  exact ⟨c₀, pc, m, Outline.run hO hc hg.append_left hrun, hpc, (hallows pc hpc).1, hm, hsh, hnext⟩

theorem Guard.any_allows (c : Threads σ π) (a : Act π κ) : Guard.any.Allows c a := by
  cases a with
  | start => trivial
  | move => exact fun _ _ => ⟨trivial, fun _ _ _ _ => trivial⟩

theorem Guard.any_meets (step : Threads σ π → Act π κ → Option (Threads σ π))
    (acts : List (Act π κ)) : Meets step (Guard.any (κ := κ)).Allows c acts := by
  induction acts generalizing c with
  | nil => trivial
  | cons a acts ih => exact ⟨Guard.any_allows c a, fun c' _ => ih⟩

def Outline.trivial : Outline σ π where
  Shared _ := True
  At _ _ _ := True
  Pair _ _ _ _ := True

theorem Outline.trivial_holds (c : Threads σ π) : Outline.trivial.Holds c :=
  ⟨True.intro, fun _ _ _ => True.intro, fun _ _ _ _ _ _ _ => True.intro⟩

theorem Outline.trivial_valid : Outline.trivial.Valid P G where
  start _ _ _ _ _ _ := True.intro
  start_pair _ _ _ _ _ _ _ _ _ _ := ⟨True.intro, True.intro⟩
  move _ _ _ _ _ _ _ _ _ := ⟨True.intro, True.intro⟩
  child _ _ _ _ _ _ _ _ _ _ _ _ _ := ⟨True.intro, True.intro, True.intro⟩
  other _ _ _ _ _ _ _ _ _ _ _ _ _ _ _ _ := ⟨True.intro, True.intro, True.intro⟩
  child_pair _ _ _ _ _ _ _ _ _ _ _ _ _ _ _ _ _ _ _ _ := ⟨True.intro, True.intro⟩

end

/-! ## Outlines thread by thread -/

/-- An outline that says nothing about two threads together. -/
def Outline.plain (Shared : σ → Prop) (At : σ → Nat → π → Prop) : Outline σ π where
  Shared := Shared
  At := At
  Pair _ _ _ _ := True

/-- The obligations of such an outline for a program whose moves start no threads. -/
theorem Outline.plain_valid {G : Guard σ π κ} {Shared : σ → Prop} {At : σ → Nat → π → Prop}
    (hchild : ∀ s t pc k m, P.move s t pc k = some m → m.child = none)
    (hstart : ∀ s t pc, Shared s → P.entry pc = true → G.start s t pc → At s t pc)
    (hmove : ∀ s t pc k m, Shared s → At s t pc → G.self s t pc k → P.move s t pc k = some m →
      Shared m.shared ∧ At m.shared t m.next)
    (hother : ∀ s t pc k m u pc', Shared s → At s t pc → At s u pc' → t ≠ u → G.self s t pc k →
      G.other s t pc k u pc' → P.move s t pc k = some m → At m.shared u pc') :
    (Outline.plain Shared At).Valid P G where
  start := hstart
  start_pair _ _ _ _ _ _ _ _ _ _ := ⟨True.intro, True.intro⟩
  move := hmove
  child := by
    intro s t pc k m u pc' _ _ _ hm hc _
    rw [hchild s t pc k m hm] at hc
    cases hc
  other := by
    intro s t pc k m u pc' hs hpc hpc' htu _ _ hg hg' hm
    exact ⟨hother s t pc k m u pc' hs hpc hpc' htu hg hg' hm, True.intro, True.intro⟩
  child_pair := by
    intro s t pc k m v pc'' u pc' _ _ _ _ _ _ _ _ _ hm hc
    rw [hchild s t pc k m hm] at hc
    cases hc

theorem Outline.plain_holds {Shared : σ → Prop} {At : σ → Nat → π → Prop} {c : Threads σ π}
    (hs : Shared c.shared) (hat : ∀ t pc, c.pool[t]? = some pc → At c.shared t pc) :
    (Outline.plain Shared At).Holds c :=
  ⟨hs, hat, fun _ _ _ _ _ _ _ => True.intro⟩

/-! ## Things that belong to threads -/

/-- Things in the shared state (`items`), each with a thread that owns it and is at a place that
fits it: a move takes nothing of another thread's away from its owner and gives it nothing new,
and what the mover owns then fits where it goes. -/
structure Backs (P : Program σ π κ) {ι : Type*} (items : σ → ι → Prop) (owner : ι → Nat)
    (fits : π → ι → Prop) : Prop where
  move : ∀ s t pc k m, P.move s t pc k = some m →
    (∀ x, items s x → owner x = t → fits pc x) →
    ∀ x, items m.shared x → (owner x ≠ t ∧ ∃ y, items s y ∧ owner y = owner x ∧
      ∀ pc', fits pc' y → fits pc' x) ∨ (owner x = t ∧ fits m.next x)

def Backed {ι : Type*} (items : σ → ι → Prop) (owner : ι → Nat) (fits : π → ι → Prop)
    (c : Threads σ π) : Prop :=
  ∀ x, items c.shared x → ∃ pc, c.pool[owner x]? = some pc ∧ fits pc x

section

variable {ι : Type*} {items : σ → ι → Prop} {owner : ι → Nat} {fits : π → ι → Prop}
  {G : Guard σ π κ} {c c' : Threads σ π}

/-- What the thread at `pc` owns fits `pc`. -/
theorem Backed.own (hc : Backed items owner fits c) {t : Nat} {pc : π}
    (hpc : c.pool[t]? = some pc) {x : ι} (hx : items c.shared x) (ht : owner x = t) :
    fits pc x := by
  obtain ⟨pc', hpc', hfits⟩ := hc x hx
  rw [ht, hpc] at hpc'
  cases hpc'
  exact hfits

/-- What a move has to do with the things for them to stay owned. -/
def Moved.Backs (items : σ → ι → Prop) (owner : ι → Nat) (fits : π → ι → Prop) (s : σ) (t : Nat)
    (m : Moved σ π) : Prop :=
  ∀ x, items m.shared x → (owner x ≠ t ∧ ∃ y, items s y ∧ owner y = owner x ∧
    ∀ pc', fits pc' y → fits pc' x) ∨ (owner x = t ∧ fits m.next x)

theorem Backed.step_of (hc : Backed items owner fits c) {a : Act π κ} (h : P.step c a = some c')
    (hmove : ∀ t k child pc m, a = .move t k child → c.pool[t]? = some pc →
      P.move c.shared t pc k = some m → m.Backs items owner fits c.shared t) :
    Backed items owner fits c' := by
  rcases P.step_cases h with ⟨t, pc, rfl, -, ht, rfl⟩ | ⟨t, k, child, pc, m, rfl, hpc, hm, hsh, -⟩
  · intro x hx
    obtain ⟨pc', hpc', hfits⟩ := hc x hx
    refine ⟨pc', ?_, hfits⟩
    -- the owner was there already
    have hne : t ≠ owner x := by grind
    simp only [getElem?_insert_nat, if_neg hne]
    exact hpc'
  · obtain ⟨pc₀, m₀, hpc₀, hm₀, -, hnext, hothers, -⟩ := P.move_pool h
    rw [hpc] at hpc₀
    cases hpc₀
    rw [hm] at hm₀
    cases hm₀
    intro x hx
    rw [hsh] at hx
    rcases hmove t k child pc m rfl hpc hm x hx with ⟨hne, y, hy, hown, himp⟩ | ⟨rfl, hfits⟩
    · obtain ⟨pc', hpc', hfits⟩ := hc y hy
      rw [hown] at hpc'
      exact ⟨pc', hothers _ pc' hne hpc', himp pc' hfits⟩
    · exact ⟨m.next, hnext, hfits⟩

theorem Backed.step (hP : Backs P items owner fits) (hc : Backed items owner fits c)
    {a : Act π κ} (h : P.step c a = some c') : Backed items owner fits c' :=
  hc.step_of h fun t k _ pc m _ hpc hm => hP.move _ t pc k m hm fun _ hx ht => hc.own hpc hx ht

/-- Things stay owned along a run when the moves see to it under a valid outline. -/
theorem Backed.run_outline {O : Outline σ π} (hO : O.Valid P G)
    (hmove : ∀ s t pc k m, O.Shared s → O.At s t pc → G.self s t pc k →
      P.move s t pc k = some m → (∀ x, items s x → owner x = t → fits pc x) →
      m.Backs items owner fits s t)
    {acts : List (Act π κ)} (hc : Backed items owner fits c) (hcO : O.Holds c)
    (hg : Meets P.step G.Allows c acts) (h : Lib.run P.step c acts = some c') :
    O.Holds c' ∧ Backed items owner fits c' := by
  have hstep : ∀ c a c', O.Holds c ∧ Backed items owner fits c → G.Allows c a →
      P.step c a = some c' → O.Holds c' ∧ Backed items owner fits c' := by
    rintro c a c' ⟨hcO, hc⟩ hg h
    refine ⟨hcO.step hO hg h, hc.step_of h ?_⟩
    rintro t k child pc m rfl hpc hm
    exact hmove _ t pc k m hcO.shared (hcO.at_ t pc hpc) (hg pc hpc).1 hm
      fun x hx ht => hc.own hpc hx ht
  exact run_invariant_of_meets hstep ⟨hcO, hc⟩ hg h

/-- **A property of the shared state that every move keeps under a valid outline, given that what
the mover owns fits its place**, holds along every run whose moves the guard allows. -/
theorem Backs.run_under (hP : Backs P items owner fits) {O : Outline σ π} (hO : O.Valid P G)
    {J : σ → Prop}
    (hJ : ∀ s t pc k m, O.Shared s → O.At s t pc → (∀ x, items s x → owner x = t → fits pc x) →
      J s → G.self s t pc k → P.move s t pc k = some m → J m.shared)
    {acts : List (Act π κ)} (hc : Backed items owner fits c) (hcO : O.Holds c) (hs : J c.shared)
    (hg : Meets P.step G.Allows c acts) (h : Lib.run P.step c acts = some c') :
    Backed items owner fits c' ∧ J c'.shared := by
  have hstep : ∀ c a c', O.Holds c ∧ Backed items owner fits c ∧ J c.shared → G.Allows c a →
      P.step c a = some c' → O.Holds c' ∧ Backed items owner fits c' ∧ J c'.shared := by
    rintro c a c' ⟨hcO, hc, hs⟩ hg h
    refine ⟨hcO.step hO hg h, hc.step hP h, ?_⟩
    rcases P.step_cases h with ⟨t, pc, rfl, -, -, rfl⟩ | ⟨t, k, child, pc, m, rfl, hpc, hm, hsh, -⟩
    · exact hs
    · rw [hsh]
      exact hJ _ t pc k m hcO.shared (hcO.at_ t pc hpc) (fun x hx ht => hc.own hpc hx ht) hs
        (hg pc hpc).1 hm
  exact (run_invariant_of_meets hstep ⟨hcO, hc, hs⟩ hg h).2

theorem Backs.run (hP : Backs P items owner fits) {J : σ → Prop}
    (hJ : ∀ s t pc k m, (∀ x, items s x → owner x = t → fits pc x) → J s → G.self s t pc k →
      P.move s t pc k = some m → J m.shared)
    {acts : List (Act π κ)} (hc : Backed items owner fits c) (hs : J c.shared)
    (hg : Meets P.step G.Allows c acts) (h : Lib.run P.step c acts = some c') :
    Backed items owner fits c' ∧ J c'.shared :=
  hP.run_under Outline.trivial_valid (fun s t pc k m _ _ => hJ s t pc k m) hc
    (Outline.trivial_holds c) hs hg h

end

end Lib
