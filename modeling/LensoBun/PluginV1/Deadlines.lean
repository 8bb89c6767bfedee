import LensoBun.PluginV1.Dependencies

set_option autoImplicit false

/-! # Deadlines of nested calls

A V1 child passes the deadline of a request on to the imports that the plugin makes with the
request's context (`invocationContext` and `createDependencyClients` of `index.ts`), and the host
gives the nested call that long (`dispatch_import`). A `Hop` is one such import, with the times at
which the child received the request, the plugin issued the import and the host dispatched it. A
provider reached by a hop may be another child, which is then given what is left of the nested call:
`Hop.Leads`.

The child passes on the number it has been given and not what is left of it, so every hop moves the
deadline by the time it has taken (`Hop.nestedDeadline_eq`).
-/

namespace LensoBun.PluginV1

open HostImports

variable {V N : Type}

/-! ## The context of a request -/

/-- `extensionRecord` finds no empty and no repeated key, with the keys it has come past. -/
def extensionRecord : List String → List BunInvocationExtension → Bool
  | _, [] => true
  | record, e :: rest =>
    if e.key = "" ∨ e.key ∈ record then false else extensionRecord (e.key :: record) rest

/-- `invocationContext`, as far as a client reads it. -/
def invocationContext (request : WireRequest V) : Except String PluginContext :=
  if extensionRecord [] request.extensions then
    .ok ⟨request.deadlineNanos, request.callerInstance, some request.extensions⟩
  else
    .error "Invocation Context contains an invalid extension key"

theorem invocationContext_deadline {request : WireRequest V} {context : PluginContext}
    (h : invocationContext request = .ok context) :
    context.deadlineNanos = request.deadlineNanos := by
  rw [invocationContext] at h
  split at h
  · cases h
    rfl
  · cases h

/-! ## Hops -/

/-- An import made with the context of a request, and its dispatch. -/
structure Hop (V N : Type) where
  kernel : Kernel
  bindings : String → Option (ImportBinding V N)
  request : WireRequest V
  /-- The request's `deadline_nanos`. -/
  budget : Nat
  given : request.deadlineNanos = some budget
  context : PluginContext
  made : invocationContext request = .ok context
  descriptor : ImportDescriptor
  operation : String
  payload : V
  nested : ImportRequest V
  called : clientRequest descriptor operation context payload = .ok nested
  invocation : Invocation V N
  prepared : prepareImport kernel bindings nested = .ok invocation
  received : Nat
  issued : Nat
  dispatched : Nat
  received_le : received ≤ issued
  issued_le : issued ≤ dispatched
  within : issued ≤ received + budget

/-- The time that has passed when the import is issued. -/
def Hop.elapsed (h : Hop V N) : Nat := h.issued - h.received

/-- The time at which the host ends the nested call. -/
def Hop.nestedDeadline (h : Hop V N) : Option Nat :=
  h.invocation.context.remainingBudget.map (h.dispatched + ·)

/-- The child of the second hop serves the nested call of the first. -/
def Hop.Leads (h h' : Hop V N) : Prop :=
  ∃ deadline, h.nestedDeadline = some deadline ∧ h.dispatched ≤ h'.received ∧
    h'.received + h'.budget ≤ deadline

/-- By how much a hop is late: from the child's receiving the request to the dispatch. -/
def Hop.late (h : Hop V N) : Nat := h.dispatched - h.received

/-- **The deadline of a nested call is the request's own, later by the time the hop has taken.** -/
theorem Hop.nestedDeadline_eq (h : Hop V N) :
    h.nestedDeadline = some (h.received + h.budget + h.late) := by
  have hbudget : h.invocation.context.remainingBudget = some h.budget := by
    rw [(prepareImport_ok h.prepared).budget, (clientRequest_ok h.called).2.2,
      invocationContext_deadline h.made, h.given]
  have htimes := h.received_le.trans h.issued_le
  rw [Hop.nestedDeadline, hbudget, Option.map_some, Hop.late]
  congr 1
  omega

/-- So it is within what is left of the request exactly if the hop has taken no time. -/
theorem Hop.within_iff_late_eq_zero (h : Hop V N) :
    (∀ deadline, h.nestedDeadline = some deadline → deadline ≤ h.issued + (h.budget - h.elapsed)) ↔
      h.late = 0 := by
  have hreceived := h.received_le
  have hwithin := h.within
  have hleft : h.issued + (h.budget - h.elapsed) = h.received + h.budget := by
    rw [Hop.elapsed]
    omega
  rw [h.nestedDeadline_eq, hleft]
  constructor
  · intro hall
    have hle := hall _ rfl
    omega
  · rintro hzero deadline ⟨⟩
    omega

/-! ## Chains -/

def overrun (hops : List (Hop V N)) : Nat := (hops.map Hop.late).sum

theorem nestedDeadline_le_overrun {first : Hop V N} {hops : List (Hop V N)}
    (hchain : List.IsChain Hop.Leads (first :: hops)) :
    ∀ h ∈ first :: hops, ∀ deadline, h.nestedDeadline = some deadline →
      deadline ≤ first.received + first.budget + overrun (first :: hops) := by
  induction hops generalizing first with
  | nil =>
    intro h hmem deadline hdeadline
    cases List.mem_singleton.mp hmem
    cases hdeadline.symm.trans first.nestedDeadline_eq
    simp [overrun]
  | cons second rest ih =>
    obtain ⟨⟨d, hd, -, hleft⟩, hrest⟩ := List.isChain_cons_cons.mp hchain
    cases hd.symm.trans first.nestedDeadline_eq
    have hsum : overrun (first :: second :: rest) = first.late + overrun (second :: rest) := by
      simp [overrun]
    intro h hmem deadline hdeadline
    rcases List.mem_cons.mp hmem with rfl | hmem
    · cases hdeadline.symm.trans h.nestedDeadline_eq
      omega
    · calc deadline
          ≤ second.received + second.budget + overrun (second :: rest) :=
            ih hrest h hmem deadline hdeadline
        _ ≤ first.received + first.budget + first.late + overrun (second :: rest) := by omega
        _ = first.received + first.budget + overrun (first :: second :: rest) := by omega

def sampleCall (budget : Nat) : WireRequest Nat :=
  ⟨7, "example.greeting@1", "greet", some budget, none, some "session", [], 5⟩

/-- The plugin calls the store at `issued`, on a request it has had since time 0. -/
def sampleHop (budget issued : Nat) (hwithin : issued ≤ budget) : Hop Nat Nat where
  kernel := sampleKernel
  bindings := sampleBindings
  request := sampleCall budget
  budget := budget
  given := rfl
  context := ⟨some budget, none, some []⟩
  made := rfl
  descriptor := ⟨"store", "example.store@1", "1.0.0", ["read"], [], []⟩
  operation := "read"
  payload := 5
  nested := ⟨"store", "example.store@1", "read", some budget, [], 5⟩
  called := rfl
  invocation := ⟨sampleBinding, "read", 5, sampleContext (some budget)⟩
  prepared := rfl
  received := 0
  issued := issued
  dispatched := issued
  received_le := Nat.zero_le _
  issued_le := le_rfl
  within := hwithin.trans (Nat.le_add_left _ _)

end LensoBun.PluginV1
