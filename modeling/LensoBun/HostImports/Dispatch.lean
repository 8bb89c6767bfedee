import LensoBun.Wire.Extensions

set_option autoImplicit false

/-! # Host imports

What the host does for the dependencies of a V1 child (`host_imports.rs`): `start_host_imports`
builds the table of bindings and the descriptors that the child is given, `dispatch_import` serves
one import request of the child.

The table is keyed by requirement id. Of a handle it matters which provider it leads to; of a codec,
its capability and its three conversions. The Kernel makes the contexts; what is assumed of them are
the fields of `Kernel`. The HTTP server and the queue in between are not modelled: every request that
a child can send is a request here.
-/

namespace LensoBun.HostImports

variable {V N : Type}

/-! ## The table of bindings -/

/-- `BunCapabilityCodec`, as far as imports use it: `V` are JSON values, `N` native ones. -/
structure Codec (V N : Type) where
  capabilityId : String
  decodeRequest : String → V → Except RuntimeFailure N
  encodeResponse : String → N → Except RuntimeFailure V
  encodeDomainError : String → N → Except RuntimeFailure V

/-- The codecs of an adapter: `with_codec` registers each under its own capability. -/
structure Codecs (V N : Type) where
  get : String → Option (Codec V N)
  keyed : ∀ capabilityId codec, get capabilityId = some codec → codec.capabilityId = capabilityId

/-- `PluginDependencyHandle`. -/
structure Handle where
  provider : Nat
  descriptorVersion : String
  operations : List String
  deriving DecidableEq, Repr

/-- A binding of the dependencies of the plugin instance. -/
structure Dependency where
  requirementId : String
  capabilityId : String
  handle : Option Handle
  deriving DecidableEq, Repr

structure ImportDescriptor where
  requirementId : String
  capabilityId : String
  descriptorVersion : String
  operations : List String
  streamOperations : List String
  eventOperations : List String
  deriving DecidableEq, Repr

structure ImportBinding (V N : Type) where
  handle : Handle
  codec : Codec V N

/-- What `start_host_imports` has built so far. -/
structure Imports (V N : Type) where
  seen : List String
  bindings : String → Option (ImportBinding V N)
  descriptors : List ImportDescriptor

def Imports.empty : Imports V N := ⟨[], fun _ => none, []⟩

def importDescriptor (d : Dependency) (handle : Handle) : ImportDescriptor :=
  ⟨d.requirementId, d.capabilityId, handle.descriptorVersion, handle.operations, [], []⟩

def Imports.add (i : Imports V N) (d : Dependency) (handle : Handle) (codec : Codec V N) :
    Imports V N where
  seen := d.requirementId :: i.seen
  bindings := Function.update i.bindings d.requirementId (some ⟨handle, codec⟩)
  descriptors := i.descriptors ++ [importDescriptor d handle]

/-- One turn of the loop of `start_host_imports`. -/
def Imports.admitOne (codecs : Codecs V N) (i : Imports V N) (d : Dependency) :
    Except RuntimeFailure (Imports V N) :=
  if d.requirementId ∈ i.seen then
    .error (.invalidResolvedPlan ("Bun requirement `" ++ d.requirementId ++
      "` has multiple providers; many imports are not supported by this runtime profile"))
  else
    match codecs.get d.capabilityId with
    | none => .error (.invalidResolvedPlan
        ("Bun Adapter has no generated codec for dependency `" ++ d.capabilityId ++ "`"))
    | some codec =>
      match d.handle with
      | none => .error (.unavailable codec.capabilityId)
      | some handle => .ok (i.add d handle codec)

def importAll (codecs : Codecs V N) : Imports V N → List Dependency →
    Except RuntimeFailure (Imports V N)
  | i, [] => .ok i
  | i, d :: rest =>
    match i.admitOne codecs d with
    | .error failure => .error failure
    | .ok i' => importAll codecs i' rest

/-- `start_host_imports`. -/
def startHostImports (codecs : Codecs V N) (dependencies : List Dependency) :
    Except RuntimeFailure (Imports V N) :=
  importAll codecs .empty dependencies

/-- The table that has been built for the dependencies `plan`. -/
structure Imports.Built (i : Imports V N) (plan : List Dependency) : Prop where
  seen : ∀ id, id ∈ i.seen ↔ id ∈ plan.map (·.requirementId)
  distinct : (plan.map (·.requirementId)).Nodup
  described : i.descriptors.map (·.requirementId) = plan.map (·.requirementId)
  bound : ∀ id binding, i.bindings id = some binding → ∃ d ∈ plan, d.requirementId = id ∧
    d.handle = some binding.handle ∧ binding.codec.capabilityId = d.capabilityId

theorem Imports.built_empty : (Imports.empty : Imports V N).Built [] :=
  ⟨by simp [Imports.empty], List.nodup_nil, rfl, fun _ _ h => by cases h⟩

theorem Imports.Built.admitOne {codecs : Codecs V N} {i i' : Imports V N} {plan : List Dependency}
    {d : Dependency} (hi : i.Built plan) (h : i.admitOne codecs d = .ok i') :
    i'.Built (plan ++ [d]) := by
  rw [Imports.admitOne] at h
  split at h
  · cases h
  · next hnew =>
      split at h
      · cases h
      · next codec hcodec =>
          split at h
          · cases h
          · next handle hhandle =>
              cases h
              rw [hi.seen] at hnew
              refine ⟨fun id => ?_, ?_, ?_, fun id binding hbound => ?_⟩
              · grind [Imports.add, hi.seen]
              · grind [hi.distinct]
              · simp only [Imports.add, List.map_append, hi.described]
                rfl
              · simp only [Imports.add, Function.update_apply] at hbound
                split at hbound
                · next hid =>
                    cases hbound
                    exact ⟨d, by simp, hid.symm, hhandle, codecs.keyed _ _ hcodec⟩
                · obtain ⟨d', hd', hrest⟩ := hi.bound id binding hbound
                  exact ⟨d', List.mem_append_left _ hd', hrest⟩

theorem importAll_built {codecs : Codecs V N} {i i' : Imports V N} {plan rest : List Dependency}
    (hi : i.Built plan) (h : importAll codecs i rest = .ok i') : i'.Built (plan ++ rest) := by
  induction rest generalizing i plan with
  | nil =>
    cases h
    rw [List.append_nil]
    exact hi
  | cons d rest ih =>
    rw [importAll] at h
    split at h
    · cases h
    · next i₁ hone =>
        have hbuilt := ih (hi.admitOne hone) h
        rwa [List.append_assoc, List.singleton_append] at hbuilt

/-- **`start_host_imports` binds each requirement once, to its own provider and capability.** -/
theorem startHostImports_built {codecs : Codecs V N} {plan : List Dependency} {i : Imports V N}
    (h : startHostImports codecs plan = .ok i) : i.Built plan :=
  importAll_built Imports.built_empty h

/-! ## Requests -/

/-- An import request; the host does not read its `request_id`. -/
structure ImportRequest (V : Type) where
  requirementId : String
  capabilityId : String
  operation : String
  deadlineNanos : Option Nat
  extensions : List BunInvocationExtension
  payload : V
  deriving DecidableEq, Repr

/-- What is assumed of the Kernel: `invocation_context_after` and `invocation_context(None)` give a
context without extensions, whose budget is the duration asked for; a refused key has a text. -/
structure Kernel where
  invocationContext : Option Nat → Except RuntimeFailure InvocationContext
  bare : ∀ deadline c, invocationContext deadline = .ok c →
    c.extensions = [] ∧ c.sealedExtensions = []
  budget : ∀ deadline c, invocationContext deadline = .ok c → c.remainingBudget = deadline
  refusal : String → String

def plainExtension (e : BunInvocationExtension) : InvocationExtension := ⟨e.key, e.value⟩

/-- `SealedInvocationExtension::signed` of the fields of the request, absent texts being empty. -/
def signedExtension (e : BunInvocationExtension) : SealedInvocationExtension :=
  ⟨e.key, e.issuer.getD "", e.audience, e.value, e.proof.getD ""⟩

/-- `attach_extension`. -/
def attachExtension (kernel : Kernel) (c : InvocationContext) (e : BunInvocationExtension) :
    Except RuntimeFailure InvocationContext :=
  let result :=
    if e.isSealed then c.withSealedExtension kernel.refusal (signedExtension e)
    else c.withExtension kernel.refusal (plainExtension e)
  result.mapError fun error =>
    .internal ("invalid Bun Host import Invocation Context: " ++ error)

/-- The loop over the extensions; after a refusal the rest is passed over. -/
def attachAll (kernel : Kernel) (context : Except RuntimeFailure InvocationContext)
    (extensions : List BunInvocationExtension) : Except RuntimeFailure InvocationContext :=
  extensions.foldl (fun context e => context.bind fun c => attachExtension kernel c e) context

/-- A call of a provider: `invoke_erased` of the binding's handle, with its arguments. -/
structure Invocation (V N : Type) where
  binding : ImportBinding V N
  operation : String
  request : N
  context : InvocationContext

/-- `dispatch_import` up to the call of the provider, or the failure it answers with. -/
def prepareImport (kernel : Kernel) (bindings : String → Option (ImportBinding V N))
    (request : ImportRequest V) : Except RuntimeFailure (Invocation V N) :=
  match bindings request.requirementId with
  | none => .error (.unavailable "lenso.bun-host-imports@1")
  | some binding =>
    if binding.codec.capabilityId ≠ request.capabilityId then
      .error (.protocolViolation "lenso.bun-host-imports@1")
    else
      match attachAll kernel (kernel.invocationContext request.deadlineNanos)
          request.extensions with
      | .error failure => .error failure
      | .ok context =>
        match binding.codec.decodeRequest request.operation request.payload with
        | .error failure => .error failure
        | .ok native => .ok ⟨binding, request.operation, native, context⟩

inductive WireOutcome (V : Type) where
  | success (value : V)
  | domain (value : V)
  | runtime (failure : WireFailure)
  deriving DecidableEq, Repr

/-- What a provider answers: a response or a domain error, or it fails. -/
abbrev Answer (N : Type) := Except RuntimeFailure (Except N N)

/-- The outcome `dispatch_import` makes of the answer. -/
def importOutcome (codec : Codec V N) (operation : String) : Answer N → WireOutcome V
  | .ok (.ok value) =>
    match codec.encodeResponse operation value with
    | .ok value => .success value
    | .error failure => .runtime (toWireFailure failure)
  | .ok (.error value) =>
    match codec.encodeDomainError operation value with
    | .ok value => .domain value
    | .error failure => .runtime (toWireFailure failure)
  | .error failure => .runtime (toWireFailure failure)

/-- `dispatch_import`, with what the providers answer. -/
def dispatchImport (kernel : Kernel) (bindings : String → Option (ImportBinding V N))
    (answers : Invocation V N → Answer N) (request : ImportRequest V) : WireOutcome V :=
  match prepareImport kernel bindings request with
  | .error failure => .runtime (toWireFailure failure)
  | .ok invocation => importOutcome invocation.binding.codec request.operation (answers invocation)

/-! ## What reaches a provider -/

theorem withExtension_ok {refusal : String → String} {c c' : InvocationContext}
    {e : InvocationExtension} (h : c.withExtension refusal e = .ok c') :
    (e.key ≠ "" ∧ e.key ∉ c.keys) ∧ c'.extensions = c.extensions ++ [e] ∧
      c'.sealedExtensions = c.sealedExtensions ∧ c'.remainingBudget = c.remainingBudget := by
  rw [InvocationContext.withExtension] at h
  split at h
  · next hkey =>
      cases h
      exact ⟨hkey, rfl, rfl, rfl⟩
  · cases h

theorem withSealedExtension_ok {refusal : String → String} {c c' : InvocationContext}
    {e : SealedInvocationExtension} (h : c.withSealedExtension refusal e = .ok c') :
    (e.key ≠ "" ∧ e.key ∉ c.keys) ∧ c'.extensions = c.extensions ∧
      c'.sealedExtensions = c.sealedExtensions ++ [e] ∧
      c'.remainingBudget = c.remainingBudget := by
  rw [InvocationContext.withSealedExtension] at h
  split at h
  · next hkey =>
      cases h
      exact ⟨hkey, rfl, rfl, rfl⟩
  · cases h

/-- The context has been extended by the plain and the sealed extensions of the list. -/
structure Extended (c c' : InvocationContext) (extensions : List BunInvocationExtension) : Prop where
  plain : c'.extensions = c.extensions ++ (extensions.filter (!·.isSealed)).map plainExtension
  signed : c'.sealedExtensions =
    c.sealedExtensions ++ (extensions.filter (·.isSealed)).map signedExtension
  budget : c'.remainingBudget = c.remainingBudget

theorem mapError_eq_ok {ε ε' α : Type} {x : Except ε α} {f : ε → ε'} {a : α}
    (h : x.mapError f = .ok a) : x = .ok a := by
  cases x with
  | error => cases h
  | ok =>
    cases h
    rfl

theorem attachExtension_ok {kernel : Kernel} {c c' : InvocationContext} {e : BunInvocationExtension}
    (h : attachExtension kernel c e = .ok c') :
    (e.key ≠ "" ∧ e.key ∉ c.keys) ∧ Extended c c' [e] := by
  have hresult := mapError_eq_ok h
  split at hresult
  · next hsealed =>
      obtain ⟨hkey, hplain, hsigned, hbudget⟩ := withSealedExtension_ok hresult
      refine ⟨hkey, ⟨?_, ?_, hbudget⟩⟩
      · simp [hplain, hsealed]
      · simp [hsigned, hsealed]
  · next hsealed =>
      obtain ⟨hkey, hplain, hsigned, hbudget⟩ := withExtension_ok hresult
      refine ⟨hkey, ⟨?_, ?_, hbudget⟩⟩
      · simp [hplain, hsealed]
      · simp [hsigned, hsealed]

theorem Extended.cons {c c₁ c' : InvocationContext} {e : BunInvocationExtension}
    {rest : List BunInvocationExtension} (h : Extended c c₁ [e]) (h' : Extended c₁ c' rest) :
    Extended c c' (e :: rest) := by
  have hsplit : e :: rest = [e] ++ rest := rfl
  refine ⟨?_, ?_, h'.budget.trans h.budget⟩
  · rw [h'.plain, h.plain, hsplit, List.filter_append, List.map_append, List.append_assoc]
  · rw [h'.signed, h.signed, hsplit, List.filter_append, List.map_append, List.append_assoc]

theorem Extended.mem_keys {c c' : InvocationContext} {e : BunInvocationExtension}
    (h : Extended c c' [e]) (key : String) : key ∈ c'.keys ↔ key = e.key ∨ key ∈ c.keys := by
  simp only [InvocationContext.keys, attachedKeys, h.plain, h.signed, List.map_append,
    List.mem_append]
  cases hsealed : e.isSealed with
  | true =>
    simp [hsealed, signedExtension]
    exact or_rotate.symm
  | false => grind [plainExtension]

theorem attachAll_error (kernel : Kernel) (failure : RuntimeFailure)
    (extensions : List BunInvocationExtension) :
    attachAll kernel (.error failure) extensions = .error failure := by
  induction extensions with
  | nil => rfl
  | cons e rest ih => exact ih

/-- What is known when every extension of a list has been attached. -/
theorem attachAll_ok {kernel : Kernel} {c c' : InvocationContext}
    {extensions : List BunInvocationExtension} (h : attachAll kernel (.ok c) extensions = .ok c') :
    (extensions.map (·.key)).Nodup ∧ (∀ e ∈ extensions, e.key ≠ "" ∧ e.key ∉ c.keys) ∧
      Extended c c' extensions := by
  induction extensions generalizing c with
  | nil =>
    cases h
    exact ⟨List.nodup_nil, by simp, ⟨by simp, by simp, rfl⟩⟩
  | cons e rest ih =>
    have hhead : attachAll kernel (.ok c) (e :: rest) =
        attachAll kernel (attachExtension kernel c e) rest := rfl
    rw [hhead] at h
    cases hone : attachExtension kernel c e with
    | error =>
      rw [hone, attachAll_error] at h
      cases h
    | ok =>
      rw [hone] at h
      obtain ⟨hkey, hext⟩ := attachExtension_ok hone
      obtain ⟨hnodup, hfresh, hrest⟩ := ih h
      have hnew : ∀ x ∈ rest, x.key ≠ e.key ∧ x.key ∉ c.keys := by grind [Extended.mem_keys]
      refine ⟨?_, ?_, hext.cons hrest⟩
      · grind
      · grind

/-- What has been checked, and what the context is, when a request reaches a provider. -/
structure Prepared (kernel : Kernel) (bindings : String → Option (ImportBinding V N))
    (request : ImportRequest V) (i : Invocation V N) : Prop where
  bound : bindings request.requirementId = some i.binding
  capability : i.binding.codec.capabilityId = request.capabilityId
  operation : i.operation = request.operation
  distinct : (request.extensions.map (·.key)).Nodup
  named : ∀ e ∈ request.extensions, e.key ≠ ""
  plain : i.context.extensions = (request.extensions.filter (!·.isSealed)).map plainExtension
  signed : i.context.sealedExtensions =
    (request.extensions.filter (·.isSealed)).map signedExtension
  budget : i.context.remainingBudget = request.deadlineNanos

theorem prepareImport_ok {kernel : Kernel} {bindings : String → Option (ImportBinding V N)}
    {request : ImportRequest V} {i : Invocation V N}
    (h : prepareImport kernel bindings request = .ok i) : Prepared kernel bindings request i := by
  rw [prepareImport] at h
  split at h
  · cases h
  · next binding hbinding =>
      split at h
      · cases h
      · next hcapability =>
          split at h
          · cases h
          · next context hcontext =>
              split at h
              · cases h
              · cases h
                cases hbase : kernel.invocationContext request.deadlineNanos with
                | error => grind [attachAll_error]
                | ok =>
                  rw [hbase] at hcontext
                  obtain ⟨hdistinct, hfresh, hextended⟩ := attachAll_ok hcontext
                  obtain ⟨hplain, hsealed⟩ := kernel.bare _ _ hbase
                  refine ⟨hbinding, not_not.mp hcapability, rfl, hdistinct,
                    fun e he => (hfresh e he).1, ?_, ?_, ?_⟩
                  · rw [hextended.plain, hplain, List.nil_append]
                  · rw [hextended.signed, hsealed, List.nil_append]
                  · rw [hextended.budget, kernel.budget _ _ hbase]

/-! ## Extensions -/

theorem encode_plainExtension {audience : String} {e : BunInvocationExtension}
    (hsealed : e.isSealed = false) (h : e.wellFormed audience = true) :
    (plainExtension e).encode = e := by
  obtain ⟨key, value, issuer, aud, proof, isSealed⟩ := e
  cases hsealed
  simp [BunInvocationExtension.wellFormed] at h
  simp [plainExtension, InvocationExtension.encode, h]

theorem encode_signedExtension {audience : String} {e : BunInvocationExtension}
    (hsealed : e.isSealed = true) (h : e.wellFormed audience = true) :
    (signedExtension e).encode = e := by
  obtain ⟨key, value, issuer, aud, proof, isSealed⟩ := e
  cases hsealed
  cases issuer with
  | none => simp [BunInvocationExtension.wellFormed] at h
  | some =>
    cases proof with
    | none => simp [BunInvocationExtension.wellFormed] at h
    | some => rfl

def sampleContext (deadline : Option Nat) : InvocationContext :=
  ⟨1, none, deadline, none, [], [], List.nodup_nil, List.not_mem_nil⟩

def sampleKernel : Kernel where
  invocationContext deadline := .ok (sampleContext deadline)
  bare := by
    rintro deadline c ⟨⟩
    exact ⟨rfl, rfl⟩
  budget := by
    rintro deadline c ⟨⟩
    rfl
  refusal key := "duplicate extension key " ++ key

def sampleBinding : ImportBinding Nat Nat :=
  ⟨⟨3, "1.0.0", ["read"]⟩, ⟨"example.store@1", fun _ v => .ok v, fun _ v => .ok v, fun _ v => .ok v⟩⟩

def sampleBindings (requirementId : String) : Option (ImportBinding Nat Nat) :=
  if requirementId = "store" then some sampleBinding else none

def sampleRequest (extensions : List BunInvocationExtension) : ImportRequest Nat :=
  ⟨"store", "example.store@1", "read", none, extensions, 5⟩

def goodExtensions : List BunInvocationExtension :=
  [⟨"trace", [1], none, [], none, false⟩,
    ⟨"identity", [2], some "issuer", ["example.store@1:read"], some "proof", true⟩]

/-- A plain extension with an issuer, and sealed ones without issuer and for another operation. -/
def badExtensions : List BunInvocationExtension :=
  [⟨"trace", [1], some "issuer", [], none, false⟩,
    ⟨"identity", [2], none, ["example.vault@1:open"], some "proof", true⟩]

end LensoBun.HostImports
