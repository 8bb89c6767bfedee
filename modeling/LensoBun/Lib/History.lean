import LensoBun.Lib.Threads

set_option autoImplicit false

/-! # Programs with a record of what has happened

`P.logged sees` is the program `P` with a history variable: a log to which each move appends what
`sees` reports of it. The log is never read, so the logged program has the runs of `P`
(`run_logged`); what it lets one state are properties of the order of events along a run.
-/

namespace Lib

open Std

variable {σ π κ ω : Type*}

structure Logged (σ ω : Type*) where
  state : σ
  log : List ω

/-- `P`, writing down what `sees` reports of each move. -/
def Program.logged (P : Program σ π κ) (sees : σ → Nat → π → κ → Moved σ π → List ω) :
    Program (Logged σ ω) π κ where
  entry := P.entry
  move s t pc k := (P.move s.state t pc k).map fun m =>
    ⟨⟨m.shared, s.log ++ sees s.state t pc k m⟩, m.next, m.child⟩

def Threads.logged (c : Threads σ π) : Threads (Logged σ ω) π := ⟨⟨c.shared, []⟩, c.pool⟩

def Threads.forget (c : Threads (Logged σ ω) π) : Threads σ π := ⟨c.shared.state, c.pool⟩

section

variable {P : Program σ π κ} {sees : σ → Nat → π → κ → Moved σ π → List ω}

theorem logged_move {s : Logged σ ω} {t : Nat} {pc : π} {k : κ} {m' : Moved (Logged σ ω) π}
    (h : (P.logged sees).move s t pc k = some m') :
    ∃ m, P.move s.state t pc k = some m ∧
      m' = ⟨⟨m.shared, s.log ++ sees s.state t pc k m⟩, m.next, m.child⟩ := by
  obtain ⟨m, hm, hm'⟩ := Option.map_eq_some_iff.mp h
  exact ⟨m, hm, hm'.symm⟩

theorem step_logged (c : Threads (Logged σ ω) π) (a : Act π κ) :
    ((P.logged sees).step c a).map Threads.forget = P.step c.forget a := by
  cases a with
  | start t pc =>
    by_cases h : P.entry pc = true ∧ t ∉ c.pool
    · exact (congrArg (Option.map Threads.forget) (if_pos h)).trans (if_pos h).symm
    · exact (congrArg (Option.map Threads.forget) (if_neg h)).trans (if_neg h).symm
  | move t k child =>
    simp only [Program.step, Program.logged, Threads.forget]
    cases hpc : c.pool[t]? with
    | none => rfl
    | some pc =>
      simp only
      cases hm : P.move c.shared.state t pc k with
      | none => rfl
      | some m =>
        simp only [Option.map_some]
        cases hchild : m.child with
        | none => rfl
        | some =>
          simp only
          rw [apply_ite (Option.map Threads.forget)]
          rfl

/-- **The logged program has the same runs.** -/
theorem run_logged (c : Threads (Logged σ ω) π) (acts : List (Act π κ)) :
    (run (P.logged sees).step c acts).map Threads.forget = run P.step c.forget acts := by
  induction acts generalizing c with
  | nil => rfl
  | cons a acts ih =>
    have hstep : ((P.logged sees).step c a).map Threads.forget = P.step c.forget a :=
      step_logged c a
    rw [run_cons, run_cons, ← hstep]
    cases (P.logged sees).step c a with
    | none => rfl
    | some c' => exact ih c'

end

/-! ## Ownership in the logged program -/

variable {ι : Type*} {items : σ → ι → Prop} {owner : ι → Nat} {fits : π → ι → Prop}

theorem Backed.logged {c : Threads σ π} (h : Backed items owner fits c) :
    Backed (fun s : Logged σ ω => items s.state) owner fits c.logged := h

theorem Backs.logged {P : Program σ π κ} (hP : Backs P items owner fits)
    (sees : σ → Nat → π → κ → Moved σ π → List ω) :
    Backs (P.logged sees) (fun s => items s.state) owner fits where
  move s t pc k m' hm' hfits := by
    obtain ⟨m, hm, rfl⟩ := logged_move hm'
    exact hP.move s.state t pc k m hm hfits

/-! ## Order in a log -/

section

variable {log pre post : List ω} {a e : ω}

/-- An entry of a log with one more at its end is the last one or was there before. -/
theorem split_append (h : log ++ [e] = pre ++ a :: post) :
    (e = a ∧ log = pre ∧ post = []) ∨
      ∃ post', post = post' ++ [e] ∧ log = pre ++ a :: post' := by
  rcases List.eq_nil_or_concat post with rfl | ⟨post', last, rfl⟩
  · obtain ⟨hlog, hlast⟩ := List.append_inj' h rfl
    cases hlast
    exact .inl ⟨rfl, hlog, rfl⟩
  · have hassoc : log ++ [e] = (pre ++ a :: post') ++ [last] := by simpa using h
    obtain ⟨hlog, hlast⟩ := List.append_inj' hassoc rfl
    cases hlast
    exact .inr ⟨post', by simp, hlog⟩

theorem mem_of_split (h : log = pre ++ a :: post) : a ∈ log := by
  rw [h]
  simp

/-- Every entry with `p` comes after one with `q`. -/
def Preceded (p q : ω → Bool) (log : List ω) : Prop :=
  ∀ pre a post, log = pre ++ a :: post → p a = true → pre.any q = true

theorem Preceded.nil (p q : ω → Bool) : Preceded p q [] := by
  intro pre a post h
  simp at h

theorem Preceded.append {p q : ω → Bool} (h : Preceded p q log)
    (he : p e = true → log.any q = true) : Preceded p q (log ++ [e]) := by
  intro pre a post hsplit ha
  rcases split_append hsplit with ⟨rfl, rfl, -⟩ | ⟨post', -, hold⟩
  · exact he ha
  · exact h pre a post' hold ha

end

end Lib
